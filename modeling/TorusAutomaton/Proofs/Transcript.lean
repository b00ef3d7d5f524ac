import TorusAutomaton.Proofs.Run
import TorusAutomaton.Session

/-! What the command prints about a run: those of the run's events that the log setting lets
through, in their order, and one line with the result if there is one. -/
namespace TorusAutomaton

namespace Simulation

open Log (Event)

def generationEvents (s : Settings) (t : Torus) (seed : Seed) : List Event :=
  (List.range s.generations).map fun k =>
    .generation (k + 1) ((seed.planted t).after s.rule.rule (k + 1)).aliveCells.card

/-- The events of a run. When a grid finds no storage, the log ends before the event that would have
told of that grid. -/
inductive Logged (s : Settings) (storage : Slot → Storage) : List Event → Prop where
  | refused (e : Failure) : s.Refused e → Logged s storage []
  | firstUnstored (seed : Seed) : s.Ready seed → storage .first (s.rows * s.cols) = false →
      Logged s storage [.started s]
  | secondUnstored (seed : Seed) : s.Ready seed → storage .first (s.rows * s.cols) = true →
      storage .second (s.rows * s.cols) = false →
      Logged s storage [.started s, .allocated ⟨s.rows, s.cols⟩]
  | finished (seed : Seed) (t : Torus) : s.Ready seed → t.toExtent = ⟨s.rows, s.cols⟩ →
      (∀ slot, storage slot (s.rows * s.cols) = true) →
      Logged s storage
        ([.started s, .allocated ⟨s.rows, s.cols⟩, .allocated ⟨s.rows, s.cols⟩] ++
          generationEvents s t seed ++ [.completed (expected s t seed)])

theorem toList_foldl_observe (log : Journal) (os : List Observation) :
    (os.foldl observe log).toList =
      log.toList ++ os.map fun o => .generation o.generation o.grid.aliveCount := by
  induction os generalizing log with
  | nil => simp
  | cons o os ih => simp [ih, observe]

theorem toList_complete {s : Settings} {t : Torus} {seed : Seed}
    (ht : t.toExtent = ⟨s.rows, s.cols⟩) :
    (complete s t seed).state.toList =
      [.started s, .allocated ⟨s.rows, s.cols⟩, .allocated ⟨s.rows, s.cols⟩] ++
        generationEvents s t seed ++ [.completed (expected s t seed)] := by
  have hreport : (TwinGrid.seeded t seed).reportAfter s.rule.rule s.generations =
      expected s t seed := Except.ok.inj (outcome_complete ht)
  have hgenerations : ((TwinGrid.seeded t seed).generations s.rule.rule 1 s.generations).map
      (fun o => Event.generation o.generation o.grid.aliveCount) = generationEvents s t seed := by
    simp only [TwinGrid.generations, generationEvents, List.map_map, Nat.add_comm 1,
      Grid.card_aliveCells]
    rfl
  rw [← hreport, ← hgenerations, ← ht]
  simp only [complete, Attempt.done, Array.toList_push, toList_foldl_observe]

theorem logged_run (s : Settings) (storage : Slot → Storage) :
    Logged s storage (run s storage).state.toList := by
  cases h : s.prepare with
  | error e =>
    rw [run_of_refused h]
    exact .refused e (Settings.prepare_eq_error_iff.1 h)
  | ok r =>
    obtain ⟨t, seed⟩ := r
    obtain ⟨ht, hr⟩ := Settings.prepare_eq_ok_iff.1 h
    have harea : t.area = s.rows * s.cols := Settings.area_eq ht
    cases ha : storage .first t.area with
    | false =>
      rw [run_of_first_unstored h ha]
      exact .firstUnstored seed hr (harea ▸ ha)
    | true =>
      cases hb : storage .second t.area with
      | false =>
        rw [run_of_second_unstored h ha hb, ht]
        exact .secondUnstored seed hr (harea ▸ ha) (harea ▸ hb)
      | true =>
        have hs : ∀ slot, storage slot t.area = true := by
          intro slot
          cases slot with
          | first => exact ha
          | second => exact hb
        rw [run_of_stored h hs, toList_complete ht]
        exact .finished seed t hr ht (harea ▸ hs)

theorem Logged.toList_eq {s : Settings} {storage : Slot → Storage} {events : List Event}
    (h : Logged s storage events) : (run s storage).state.toList = events := by
  cases h with
  | refused e he => rw [run_of_refused (Settings.prepare_eq_error_iff.2 he)]; rfl
  | firstUnstored seed hr ha =>
    obtain ⟨t, ht⟩ := Settings.sized_iff.1 hr.sized
    rw [← Settings.area_eq ht] at ha
    rw [run_of_first_unstored (Settings.prepare_eq_ok_iff.2 ⟨ht, hr⟩) ha]
    rfl
  | secondUnstored seed hr ha hb =>
    obtain ⟨t, ht⟩ := Settings.sized_iff.1 hr.sized
    rw [← Settings.area_eq ht] at ha hb
    rw [run_of_second_unstored (Settings.prepare_eq_ok_iff.2 ⟨ht, hr⟩) ha hb, ht]
    rfl
  | finished seed t hr ht hs =>
    rw [← Settings.area_eq ht] at hs
    rw [run_of_stored (Settings.prepare_eq_ok_iff.2 ⟨ht, hr⟩) hs, toList_complete ht]

theorem logged_iff {s : Settings} {storage : Slot → Storage} {events : List Event} :
    Logged s storage events ↔ events = (run s storage).state.toList := by
  constructor
  · intro h
    exact h.toList_eq.symm
  · rintro rfl
    exact logged_run s storage

theorem Logged.ready {s s' : Settings} {storage : Slot → Storage} {events : List Event}
    (h : Logged s storage events) (hmem : .started s' ∈ events) : ∃ seed, s'.Ready seed := by
  cases h with
  | refused => cases hmem
  | firstUnstored seed hr =>
    obtain rfl : s' = s := by simpa using hmem
    exact ⟨seed, hr⟩
  | secondUnstored seed hr =>
    obtain rfl : s' = s := by simpa using hmem
    exact ⟨seed, hr⟩
  | finished seed t hr =>
    obtain rfl : s' = s := by simpa [generationEvents] using hmem
    exact ⟨seed, hr⟩

end Simulation

namespace Log

/-- The log settings that let an event through, among `off`, `error`, `warn`, `info`, `debug` and
`trace`. The first three let nothing through. -/
def Event.shownAt : Event → List String
  | .started _ | .completed _ => ["info", "debug", "trace"]
  | .generation _ _ => ["debug", "trace"]
  | .allocated _ => ["trace"]

def ruleText : NamedRule → String
  | .alwaysDead => "always-dead"
  | .exactlyOne => "exactly-one"
  | .majority => "majority"

def slotText : Slot → String
  | .first => "First"
  | .second => "Second"

/-- How an event reads. No character of a catalogued name needs an escape between the quotes. -/
def Event.text : Event → String
  | .started s =>
      " INFO stencil: starting stencil run rows=" ++ toString s.rows ++ " cols=" ++
        toString s.cols ++ " generations=" ++ toString s.generations ++ " pattern=\"" ++
        s.seedName ++ "\"" ++ " rule=" ++ ruleText s.rule
  | .allocated e =>
      "TRACE stencil::grid: allocated grid buffer rows=" ++ toString e.rows ++ " cols=" ++
        toString e.cols
  | .generation k alive =>
      "DEBUG stencil::evolve: generation complete generation=" ++ toString k ++ " alive=" ++
        toString alive
  | .completed r =>
      " INFO stencil: stencil run complete generations=" ++ toString r.generations ++ " alive=" ++
        toString r.alive ++ " output=" ++ slotText r.output

theorem quoted_of_mem_catalogue {seed : Seed} (h : seed ∈ Seed.catalogue) :
    Text.quoted seed.name = "\"" ++ seed.name ++ "\"" := by
  have hall : ∀ s ∈ Seed.catalogue, Text.quoted s.name = "\"" ++ s.name ++ "\"" := by
    decide +kernel
  exact hall seed h

theorem name_eq_ruleText (r : NamedRule) : r.name = ruleText r := by
  cases r <;> rfl

theorem name_eq_slotText (s : Slot) : s.name = slotText s := by
  cases s <;> rfl

theorem line_eq_text {e : Event} (h : ∀ s, e = .started s → ∃ seed, s.Ready seed) :
    e.line = e.text := by
  unfold Event.line Event.text
  cases e with
  | started s =>
    obtain ⟨seed, hr⟩ := h s rfl
    have hquoted : Text.quoted s.seedName = "\"" ++ s.seedName ++ "\"" :=
      hr.name_eq ▸ quoted_of_mem_catalogue hr.listed
    dsimp only [Event.level, Level.label, Event.origin, Event.message, Event.fields, List.map]
    simp only [hquoted, name_eq_ruleText, String.join_cons, String.join_nil, String.append_empty,
      ← String.append_assoc, String.reduceAppend]
  | allocated | generation | completed =>
    dsimp only [Event.level, Level.label, Event.origin, Event.message, Event.fields, List.map]
    simp only [name_eq_slotText, String.join_cons, String.join_nil, String.append_empty,
      ← String.append_assoc, String.reduceAppend]

def levels : List String := ["off", "error", "warn", "info", "debug", "trace"]

/-- The level in force: the one that the setting names, or that of the switch if there is no setting
or none that can be read. -/
inductive Chosen : Option String → Bool → String → Prop where
  | named (level : String) (verbose : Bool) : level ∈ levels → Chosen (some level) verbose level
  | verbose (setting : Option String) : setting.bind Filter.ofText? = none →
      Chosen setting true "debug"
  | usual (setting : Option String) : setting.bind Filter.ofText? = none →
      Chosen setting false "info"

theorem Chosen.mem_levels {setting : Option String} {verbose : Bool} {level : String}
    (h : Chosen setting verbose level) : level ∈ levels := by
  cases h with
  | named _ _ hlevel => exact hlevel
  | verbose => decide
  | usual => decide

theorem rank_le_iff {limit : Threshold} {level : String}
    (hinfo : Level.info.rank ≤ limit.rank ↔ level ∈ ["info", "debug", "trace"])
    (hdebug : Level.debug.rank ≤ limit.rank ↔ level ∈ ["debug", "trace"])
    (htrace : Level.trace.rank ≤ limit.rank ↔ level ∈ ["trace"]) (e : Event) :
    e.level.rank ≤ limit.rank ↔ level ∈ e.shownAt := by
  cases e with
  | started | completed => exact hinfo
  | generation => exact hdebug
  | allocated => exact htrace

theorem exists_limit {level : String} (h : level ∈ levels) :
    ∃ limit, Filter.ofText? level = some (.upTo limit) ∧
      ∀ e : Event, e.level.rank ≤ limit.rank ↔ level ∈ e.shownAt := by
  simp only [levels, List.mem_cons, List.not_mem_nil, or_false] at h
  rcases h with rfl | rfl | rfl | rfl | rfl | rfl
  · exact ⟨none, by decide, rank_le_iff (by decide) (by decide) (by decide)⟩
  · exact ⟨some .error, by decide, rank_le_iff (by decide) (by decide) (by decide)⟩
  · exact ⟨some .warn, by decide, rank_le_iff (by decide) (by decide) (by decide)⟩
  · exact ⟨some .info, by decide, rank_le_iff (by decide) (by decide) (by decide)⟩
  · exact ⟨some .debug, by decide, rank_le_iff (by decide) (by decide) (by decide)⟩
  · exact ⟨some .trace, by decide, rank_le_iff (by decide) (by decide) (by decide)⟩

theorem lines_eq_map_text {events : List Event} (htext : ∀ e ∈ events, e.line = e.text)
    (f : Filter) : lines f events = (events.filter (·.passes f)).map Event.text :=
  List.map_congr_left fun e he => htext e (List.mem_of_mem_filter he)

theorem filter_passes {level : String} {f : Filter} (hlevel : level ∈ levels)
    (hf : Filter.ofText? level = some f) (events : List Event) :
    events.filter (·.passes f) = events.filter fun e => level ∈ e.shownAt := by
  obtain ⟨limit, hlimit, hshown⟩ := exists_limit hlevel
  obtain rfl := Option.some.inj (hf.symm.trans hlimit)
  apply List.filter_congr
  intro e _
  exact decide_eq_decide.2 (hshown e)

end Log

namespace Text

theorem splitAt_eq_splitOn (sep : Char) (cs : List Char) : splitAt sep cs = cs.splitOn sep := by
  induction cs with
  | nil => rfl
  | cons c cs ih =>
    rw [splitAt, ih, List.splitOn_cons_eq_if_modifyHead]
    by_cases h : c = sep
    · simp [h]
    · cases hs : cs.splitOn sep with
      | nil => exact absurd hs (List.splitOn_ne_nil sep cs)
      | cons part parts => simp [h]

end Text

inductive Failure.Worded : Failure → String → Prop where
  | invalidExtent (rows cols : Nat) : Worded (.invalidExtent ⟨rows, cols⟩)
      ("invalid grid dimensions " ++ toString rows ++ "x" ++ toString cols ++
        ": both must be non-zero and the cell count must fit in isize")
  | unknownSeed (name : String) : Worded (.unknownSeed name) ("unknown seed pattern: " ++ name)
  | seedOutOfBounds (name : String) (row col rows cols : Nat) :
      Worded (.seedOutOfBounds name ⟨row, col⟩ ⟨rows, cols⟩)
        ("seed cell (" ++ toString row ++ ", " ++ toString col ++ ")" ++ " of pattern '" ++ name ++
          "' lies outside a " ++ toString rows ++ "x" ++ toString cols ++ " grid")
  | allocation (cells : Nat) : Worded (.allocation cells)
      ("failed to allocate grid buffer of " ++ toString cells ++ " cells")

theorem Failure.Worded.message?_eq {e : Failure} {reason : String} (h : e.Worded reason) :
    e.message? = some reason := by
  cases h with
  | invalidExtent | unknownSeed | allocation => rfl
  | seedOutOfBounds =>
    simp only [message?, Cell.text, Extent.text, ← String.append_assoc, String.reduceAppend]

theorem Simulation.Answer.worded {s : Settings} {storage : Slot → Storage} {e : Failure}
    (h : Answer s storage (.error e)) : ∃ reason, e.Worded reason := by
  cases h with
  | refused _ he =>
    cases he with
    | extent => exact ⟨_, .invalidExtent ..⟩
    | name => exact ⟨_, .unknownSeed ..⟩
    | cell => exact ⟨_, .seedOutOfBounds ..⟩
  | unstored => exact ⟨_, .allocation ..⟩

namespace Session

open Log (Event)

theorem logFilter_of_chosen {w : Surroundings} {verbose : Bool} {level : String}
    (h : Log.Chosen w.logFilter verbose level) :
    Log.Filter.ofText? level = some (logFilter w verbose) := by
  obtain ⟨configPath, setting, read⟩ := w
  unfold logFilter
  cases h with
  | named _ _ hlevel =>
    obtain ⟨limit, hlimit, -⟩ := Log.exists_limit hlevel
    dsimp only [Option.bind]
    rw [hlimit]
    rfl
  | verbose _ hunread =>
    dsimp only
    rw [hunread]
    decide
  | usual _ hunread =>
    dsimp only
    rw [hunread]
    decide

def conclusion (s : Settings) : Except Failure Report → List String
  | .ok r => [toString r.generations ++ " generations on " ++ toString s.rows ++ "x" ++
      toString s.cols ++ ": " ++ toString r.alive ++ " of " ++ toString r.cellsPerSweep ++
      " cells alive"]
  | .error _ => []

theorem conclusion_ok (s : Settings) (r : Report) : conclusion s (.ok r) = [summary s r] := by
  simp only [conclusion, summary, Extent.text, Settings.extent, String.append_assoc]

theorem failureLines_eq {e : Failure} {reason : String} (h : e.Worded reason) :
    failureLines "stencil run failed" e = ["Error: stencil run failed", "", "Caused by:"] ++
      (reason.toList.splitOn '\n').map fun line => "    " ++ String.ofList line := by
  have hcontext :
      Text.split '\n' (failed "stencil run failed") = ["Error: stencil run failed"] := by
    decide +kernel
  unfold failureLines
  rw [hcontext, h.message?_eq]
  dsimp only [Text.split]
  rw [Text.splitAt_eq_splitOn, List.map_map]
  rfl

theorem run_of_configure {w : Surroundings} {args : List String} {s : Settings} {verbose : Bool}
    (h : configure w args = .ok (s, verbose)) (storage : Slot → Storage) :
    run w args storage = perform s (logFilter w verbose) storage := by
  unfold run
  rw [h]

theorem line_eq_text_of_logged {s : Settings} {storage : Slot → Storage} {e : Event}
    (he : e ∈ (Simulation.run s storage).state.toList) : e.line = e.text := by
  apply Log.line_eq_text
  rintro s' rfl
  exact (Simulation.logged_run s storage).ready he

theorem stdout_perform (s : Settings) (f : Log.Filter) (storage : Slot → Storage) :
    (perform s f storage).stdout =
      ((Simulation.run s storage).state.toList.filter (·.passes f)).map Event.text ++
        conclusion s (Simulation.run s storage).outcome := by
  rw [← Log.lines_eq_map_text fun _ he => line_eq_text_of_logged he, perform]
  cases (Simulation.run s storage).outcome with
  | ok r => rw [conclusion_ok]
  | error e => exact (List.append_nil _).symm

/-- Of the events of a run those are printed that the level in force lets through, in their order,
and the result after them. Whatever the log setting, it decides about events and nothing else. The
reason of a failure is set in, line by line. -/
theorem run_prints_log {w : Surroundings} {args : List String} {s : Settings} {verbose : Bool}
    (h : configure w args = .ok (s, verbose)) (storage : Slot → Storage) :
    let printed := run w args storage
    ∃ events outcome, (∀ es, Simulation.Logged s storage es ↔ es = events) ∧
      (∀ o, Simulation.Answer s storage o ↔ o = outcome) ∧
      (∀ level, Log.Chosen w.logFilter verbose level →
        printed.stdout =
          (events.filter fun e => level ∈ e.shownAt).map Event.text ++ conclusion s outcome) ∧
      (∃ shown : List Event, shown.Sublist events ∧
        printed.stdout = shown.map Event.text ++ conclusion s outcome) ∧
      match outcome with
      | .ok _ => printed.exit = 0 ∧ printed.stderr = []
      | .error e => printed.exit = 1 ∧ ∃ reason, e.Worded reason ∧
          printed.stderr = ["Error: stencil run failed", "", "Caused by:"] ++
            (reason.toList.splitOn '\n').map fun line => "    " ++ String.ofList line := by
  intro printed
  have hanswer (o : Except Failure Report) :
      Simulation.Answer s storage o ↔ o = (Simulation.run s storage).outcome := by
    rw [← Simulation.outcome_run_iff]
    exact eq_comm
  have hprinted : printed = perform s (logFilter w verbose) storage := run_of_configure h storage
  have hstdout := stdout_perform s (logFilter w verbose) storage
  rw [← hprinted] at hstdout
  refine ⟨_, _, fun _ => Simulation.logged_iff, hanswer, ?_, ?_, ?_⟩
  · intro level hlevel
    rw [hstdout, Log.filter_passes hlevel.mem_levels (logFilter_of_chosen hlevel)]
  · exact ⟨_, List.filter_sublist, hstdout⟩
  · rw [hprinted, perform]
    cases houtcome : (Simulation.run s storage).outcome with
    | ok r => exact ⟨rfl, rfl⟩
    | error e =>
      obtain ⟨reason, hreason⟩ := ((hanswer _).2 houtcome.symm).worded
      exact ⟨rfl, reason, hreason, failureLines_eq hreason⟩

/-- Thirty rows of which not even the first grid can be stored: one line is logged, none follows. -/
theorem run_prints_log_without_storage :
    let w : Surroundings := ⟨none, some "trace", fun _ => .error .notFound⟩
    let args := ["--rows", "30", "-vg3"]
    let s : Settings := { rows := 30, generations := 3 }
    configure w args = .ok (s, true) ∧
      (run w args fun _ _ => false).exit = 1 ∧
      (run w args fun _ _ => false).stdout =
        [" INFO stencil: starting stencil run rows=30 cols=20 generations=3 " ++
          "pattern=\"tee\" rule=always-dead"] ∧
      (run w args fun _ _ => false).stderr = ["Error: stencil run failed", "", "Caused by:",
        "    failed to allocate grid buffer of 600 cells"] := by
  intro w args s
  have h : configure w args = .ok (s, true) := by decide
  have hlevel : Log.Chosen w.logFilter true "trace" := .named "trace" true (by decide)
  obtain ⟨seed, hready⟩ : ∃ seed, s.Ready seed := Settings.validate_eq_ok_iff.1 (by decide)
  obtain ⟨events, outcome, hlogged, hanswer, hstdout, -, hexit⟩ :=
    run_prints_log h fun _ _ => false
  have hevents : [.started s] = events := (hlogged _).1 (.firstUnstored seed hready rfl)
  have houtcome : .error (.allocation 600) = outcome :=
    (hanswer _).1 (.unstored seed .first hready rfl)
  subst hevents houtcome
  obtain ⟨hexit, reason, hreason, hstderr⟩ := hexit
  cases hreason
  refine ⟨h, hexit, ?_, ?_⟩
  · rw [hstdout _ hlevel]
    decide +kernel
  · rw [hstderr]
    decide +kernel

end Session

end TorusAutomaton
