import TorusAutomaton.Settings
import TorusAutomaton.Text

/-! The arguments of the command. They are read from left to right, and the first problem decides;
but the value of a parameter that stands apart from its name is looked at only when the next known
name, or the end, is reached. -/
namespace TorusAutomaton.CommandLine

inductive Parameter where
  | config
  | rows
  | cols
  | generations
  | pattern
  | rule
  deriving DecidableEq, Repr

inductive Switch where
  | verbose
  | help
  | version
  deriving DecidableEq, Repr

inductive Name where
  | parameter (p : Parameter)
  | switch (s : Switch)
  deriving DecidableEq, Repr

def Name.ofLong? (name : String) : Option Name :=
  match name with
  | "config" => some (.parameter .config)
  | "rows" => some (.parameter .rows)
  | "cols" => some (.parameter .cols)
  | "generations" => some (.parameter .generations)
  | "pattern" => some (.parameter .pattern)
  | "rule" => some (.parameter .rule)
  | "verbose" => some (.switch .verbose)
  | "help" => some (.switch .help)
  | "version" => some (.switch .version)
  | _ => none

def Name.ofShort? (c : Char) : Option Name :=
  match c with
  | 'c' => some (.parameter .config)
  | 'g' => some (.parameter .generations)
  | 'p' => some (.parameter .pattern)
  | 'r' => some (.parameter .rule)
  | 'v' => some (.switch .verbose)
  | 'h' => some (.switch .help)
  | 'V' => some (.switch .version)
  | _ => none

inductive Stop where
  | help
  | version
  | unknownArgument
  | valueRefused
  | valueMissing
  | givenTwice
  | valueUnwanted
  deriving DecidableEq, Repr

structure Arguments where
  config : Option String := none
  rows : Option Nat := none
  cols : Option Nat := none
  generations : Option Nat := none
  pattern : Option String := none
  rule : Option NamedRule := none
  verbose : Bool := false
  deriving DecidableEq, Repr

namespace Arguments

def has (a : Arguments) : Parameter → Bool
  | .config => a.config.isSome
  | .rows => a.rows.isSome
  | .cols => a.cols.isSome
  | .generations => a.generations.isSome
  | .pattern => a.pattern.isSome
  | .rule => a.rule.isSome

def readSize? (value : String) : Option Nat :=
  (Text.natural? value.toList).filter (· < 0x10000000000000000)

/-- A count may have a minus sign, with which only zero is in its range. -/
def readCount? (value : String) : Option Nat :=
  match value.toList with
  | '-' :: '+' :: _ => none
  | '-' :: r => (Text.natural? r).filter (· = 0)
  | cs => (Text.natural? cs).filter (· < 0x100000000)

def orRefuse {α : Type} : Option α → Except Stop α
  | some a => .ok a
  | none => .error .valueRefused

/-- Takes the value of a parameter. The path of a file may not be empty, a pattern may. -/
def give (a : Arguments) (p : Parameter) (value : String) : Except Stop Arguments :=
  if a.has p then .error .givenTwice
  else
    match p with
    | .config =>
      if value.isEmpty then .error .valueMissing else .ok { a with config := some value }
    | .rows => do return { a with rows := some (← orRefuse (readSize? value)) }
    | .cols => do return { a with cols := some (← orRefuse (readSize? value)) }
    | .generations => do return { a with generations := some (← orRefuse (readCount? value)) }
    | .pattern => .ok { a with pattern := some value }
    | .rule => do return { a with rule := some (← orRefuse (NamedRule.ofName? value)) }

def turnOn (a : Arguments) : Switch → Except Stop Arguments
  | .verbose => if a.verbose then .error .givenTwice else .ok { a with verbose := true }
  | .help => .error .help
  | .version => .error .version

def override (a : Arguments) (s : Settings) : Settings where
  rows := a.rows.getD s.rows
  cols := a.cols.getD s.cols
  generations := a.generations.getD s.generations
  seedName := a.pattern.getD s.seedName
  rule := a.rule.getD s.rule

end Arguments

/-- A parameter whose value stands apart from its name, and the value once it has come. -/
structure Pending where
  parameter : Parameter
  value : Option String

structure Reading where
  given : Arguments
  pending : Option Pending

namespace Reading

def settle (r : Reading) : Except Stop Arguments :=
  match r.pending with
  | none => .ok r.given
  | some ⟨_, none⟩ => .error .valueMissing
  | some ⟨p, some value⟩ => r.given.give p value

def await (r : Reading) (p : Parameter) : Except Stop Reading := do
  return ⟨← r.settle, some ⟨p, none⟩⟩

def give (r : Reading) (p : Parameter) (value : String) : Except Stop Reading := do
  return ⟨← (← r.settle).give p value, none⟩

def turnOn (r : Reading) (s : Switch) : Except Stop Reading := do
  return ⟨← (← r.settle).turnOn s, none⟩

def plain (r : Reading) (value : String) : Except Stop Reading :=
  match r.pending with
  | some ⟨p, none⟩ => .ok ⟨r.given, some ⟨p, some value⟩⟩
  | _ => .error .unknownArgument

def long (r : Reading) (cs : List Char) : Except Stop Reading :=
  let name := String.ofList (cs.takeWhile (· != '='))
  let value? := match cs.dropWhile (· != '=') with
    | _ :: value => some (String.ofList value)
    | [] => none
  match Name.ofLong? name, value? with
  | none, _ => .error .unknownArgument
  | some (.switch s), none => r.turnOn s
  | some (.switch _), some _ => .error .valueUnwanted
  | some (.parameter p), none => r.await p
  | some (.parameter p), some value => r.give p value

def attached : List Char → String
  | '=' :: r => String.ofList r
  | r => String.ofList r

/-- Short names in one argument. What follows a parameter is its value. -/
def cluster : List Char → Reading → Except Stop Reading
  | [], r => .ok r
  | c :: cs, r =>
    match Name.ofShort? c with
    | none => .error .unknownArgument
    | some (.switch s) => do cluster cs (← r.turnOn s)
    | some (.parameter p) => if cs.isEmpty then r.await p else r.give p (attached cs)

def argument (r : Reading) (arg : String) : Except Stop Reading :=
  match arg.toList with
  | '-' :: '-' :: cs => r.long cs
  | '-' :: c :: cs => cluster (c :: cs) r
  | _ => r.plain arg

/-- After two hyphens nothing is a name, and no argument is wanted there. -/
def arguments : Reading → List String → Except Stop Reading
  | r, [] => .ok r
  | r, arg :: args =>
    if arg = "--" then
      if args.isEmpty then .ok r else .error .unknownArgument
    else do arguments (← r.argument arg) args

end Reading

/-- Reads the arguments. The path from the environment stands in for one that was not given. -/
def parse (args : List String) (configPath : Option String) : Except Stop Arguments := do
  let r ← Reading.arguments ⟨{}, none⟩ args
  let a ← r.settle
  match a.config, configPath with
  | none, some path => a.give .config path
  | _, _ => return a

end TorusAutomaton.CommandLine
