import TorusAutomaton.Log
import TorusAutomaton.CommandLine
import TorusAutomaton.Settings
import TorusAutomaton.Text

/-! One complete run: the settings are checked, two grids are allocated and receive the same seed,
and the automaton evolves them. The state of the run is the log written so far. -/
namespace TorusAutomaton.Simulation

open Log (Event)

abbrev Journal := Array Event

def step {α : Type} (log : Journal) (r : Except Failure α) : Attempt Journal α := ⟨log, r⟩

def observe (log : Journal) (o : Observation) : Journal :=
  log.push (.generation o.generation o.grid.aliveCount)

def evolve (s : Settings) (t : Torus) (p : TwinGrid) (log : Journal) : Attempt Journal Report :=
  match p.evolve ⟨t, s.rule.rule⟩ s.generations observe log with
  | ⟨_, .ok (report, log)⟩ => .done (log.push (.completed report)) report
  | ⟨_, .error e⟩ => .failed log e

def run (s : Settings) (storage : Slot → Storage := fun _ => .usual) : Attempt Journal Report :=
  (step #[] s.prepare).andThen fun log (t, seed) =>
  (step (log.push (.started s)) (Grid.allocate t (storage .first))).andThen fun log a =>
  (step (log.push (.allocated t.toExtent)) (Grid.allocate t (storage .second))).andThen fun log b =>
  (step (log.push (.allocated t.toExtent)) (TwinGrid.pair a b)).andThen fun log p =>
  (step log (p.sow .first (.given seed)).toExcept).andThen fun log (p, _) =>
  (step log (p.sow .second (.given seed)).toExcept).andThen fun log (p, _) =>
  evolve s t p log

end TorusAutomaton.Simulation

/-! The command as a whole: from arguments, environment and files to the lines that it prints and
its exit code. -/
namespace TorusAutomaton

open CommandLine (Stop Arguments)

structure Surroundings where
  configPath : Option String
  logFilter : Option String
  read : String → Except ReadFailure ByteArray

structure Transcript where
  exit : Nat
  stdout : List String
  stderr : List String
  deriving DecidableEq, Repr

namespace Session

def base (w : Surroundings) (a : Arguments) : Except Failure Settings :=
  match a.config with
  | none => .ok default
  | some path => Settings.ofBytes (w.read path)

inductive Refusal where
  | stopped (stop : Stop)
  | unloadable (path : String) (failure : Failure)
  deriving DecidableEq, Repr

/-- The settings and whether more is to be logged. They are not checked here. -/
def configure (w : Surroundings) (args : List String) : Except Refusal (Settings × Bool) :=
  match CommandLine.parse args w.configPath with
  | .error stop => .error (.stopped stop)
  | .ok a =>
    match base w a with
    | .error e => .error (.unloadable (a.config.getD "") e)
    | .ok s => .ok (a.override s, a.verbose)

/-- A filter in the environment wins over the switch, if it can be read. -/
def logFilter (w : Surroundings) (verbose : Bool) : Log.Filter :=
  (w.logFilter.bind Log.Filter.ofText?).getD (.upTo (some (if verbose then .debug else .info)))

def versionLine : String := "stencil-run 0.1.0"

def bold (text : String) : String := "\x1b[1m" ++ text ++ "\x1b[0m"

def explanationColumn : Nat := 35

def optionHelp (short : Option String) (long value explanation : String) : List String :=
  let names := "  " ++ (short.elim "    " fun s => bold ("-" ++ s) ++ ", ") ++
    bold ("--" ++ long) ++ value
  let width := 8 + long.length + value.length
  let indent (n : Nat) := String.ofList (List.replicate n ' ')
  match Text.split '\n' explanation with
  | [] => []
  | line :: more =>
    (names ++ indent (explanationColumn - width) ++ line) ::
      more.map (indent explanationColumn ++ ·)

def optionsHelp (path : String) : List (List String) := [
  optionHelp "c" "config" " <CONFIG>"
    ("TOML config file; flags below override its values [env: STENCIL_CONFIG=" ++ path ++ "]"),
  optionHelp none "rows" " <ROWS>" "",
  optionHelp none "cols" " <COLS>" "",
  optionHelp "g" "generations" " <GENERATIONS>" "",
  optionHelp "p" "pattern" " <PATTERN>" "Seed pattern name (tee, tee-capped, blinker, glider)",
  optionHelp "r" "rule" " <RULE>" "Transition rule (always-dead, exactly-one, majority)",
  optionHelp "v" "verbose" "" "Per-generation debug logging",
  optionHelp "h" "help" "" "Print help",
  optionHelp "V" "version" "" "Print version"]

/-- The help as plain text: its styles are left out, and what the path may hold of their kind. -/
def helpLines (path : String) : List String :=
  Text.split '\n' (Text.plain ("\n".intercalate ([
    "Evolve a boolean cellular automaton on a fixed toroidal grid",
    "",
    "Usage: stencil-run [OPTIONS]",
    "",
    "Options:"] ++ (optionsHelp path).flatten)))

def mistake : Stop → String
  | .help | .version => ""
  | .unknownArgument => "error: unexpected argument found"
  | .valueRefused => "error: invalid value for an option"
  | .valueMissing => "error: a value is required but none was supplied"
  | .givenTwice => "error: an option cannot be used multiple times"
  | .valueUnwanted => "error: unexpected value for a flag"

def stopped (w : Surroundings) : Stop → Transcript
  | .help => ⟨0, helpLines (w.configPath.getD ""), []⟩
  | .version => ⟨0, [versionLine], []⟩
  | stop => ⟨2, [], [mistake stop]⟩

def loading (path : String) : String := "loading config from " ++ path

def failed (context : String) : String := "Error: " ++ context

def failureLines (context : String) (cause : Failure) : List String :=
  Text.split '\n' (failed context) ++
    match cause.message? with
    | none => []
    | some text => ["", "Caused by:"] ++ (Text.split '\n' text).map ("    " ++ ·)

def summary (s : Settings) (r : Report) : String :=
  toString r.generations ++ " generations on " ++ s.extent.text ++ ": " ++ toString r.alive ++
    " of " ++ toString r.cellsPerSweep ++ " cells alive"

def perform (s : Settings) (f : Log.Filter) (storage : Slot → Storage := fun _ => .usual) :
    Transcript :=
  let a := Simulation.run s storage
  let logged := Log.lines f a.state.toList
  match a.outcome with
  | .ok r => ⟨0, logged ++ [summary s r], []⟩
  | .error e => ⟨1, logged, failureLines "stencil run failed" e⟩

def run (w : Surroundings) (args : List String) (storage : Slot → Storage := fun _ => .usual) :
    Transcript :=
  match configure w args with
  | .error (.stopped stop) => stopped w stop
  | .error (.unloadable path e) => ⟨1, [], failureLines (loading path) e⟩
  | .ok (s, verbose) => perform s (logFilter w verbose) storage

end Session

end TorusAutomaton
