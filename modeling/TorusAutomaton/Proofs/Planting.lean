import TorusAutomaton.Proofs.Cells
import TorusAutomaton.Grid
import TorusAutomaton.Grid.Call

/-! Planting a seed. A seed that does not fit is refused for its first cell outside the torus,
before anything is written; one that fits leaves its own cells alive and no others. -/
namespace TorusAutomaton

namespace Seed

/-- The grid that is alive exactly on the seed's cells. -/
def planted (s : Seed) (t : Torus) : Grid := .tabulate t fun c => decide (c ∈ s.cells)

@[simp] theorem torus_planted (s : Seed) (t : Torus) : (s.planted t).torus = t := rfl

theorem aliveAt_planted (s : Seed) {t : Torus} {c : Cell} (h : t.Contains c) :
    (s.planted t).aliveAt c = decide (c ∈ s.cells) := Grid.aliveAt_tabulate _ h

theorem checkFits_eq_error_iff {s : Seed} {t : Torus} {e : Failure} :
    s.checkFits t = .error e ↔ ∃ before c after, s.cells = before ++ c :: after ∧
      (∀ b ∈ before, t.Contains b) ∧ ¬ t.Contains c ∧
      e = .seedOutOfBounds s.name c t.toExtent := by
  unfold checkFits
  split
  · next c h =>
    obtain ⟨hc, before, after, hcells, hbefore⟩ := List.find?_eq_some_iff_append.1 h
    simp only [decide_eq_true_eq] at hc
    constructor
    · intro he
      refine ⟨before, c, after, hcells, ?_, hc, (Except.error.inj he).symm⟩
      intro b hb
      simpa using hbefore b hb
    · rintro ⟨before', c', after', hcells', hbefore', hc', rfl⟩
      have h' : s.cells.find? (fun c => ¬ t.Contains c) = some c' :=
        List.find?_eq_some_iff_append.2
          ⟨by simpa using hc', before', after', hcells', fun b hb => by simpa using hbefore' b hb⟩
      rw [Option.some.inj (h.symm.trans h')]
  · next h =>
    simp only [reduceCtorEq, false_iff]
    rintro ⟨before, c, after, hcells, -, hc, -⟩
    refine List.find?_eq_none.1 h c ?_ (by simpa using hc)
    rw [hcells]
    simp

end Seed

namespace Grid

theorem enliven_of_contains (cells : List Cell) (g : Grid)
    (h : ∀ c ∈ cells, g.torus.Contains c) :
    ∃ result : Grid, enliven cells g = .done result () ∧ result.torus = g.torus ∧
      ∀ d, g.torus.Contains d → result.aliveAt d = (decide (d ∈ cells) || g.aliveAt d) := by
  induction cells generalizing g with
  | nil => exact ⟨g, rfl, rfl, fun d _ => by simp⟩
  | cons c cells ih =>
    obtain ⟨g', hset, ht, ha⟩ := setAt_of_contains (h c (by simp)) true
    obtain ⟨result, hr, htr, har⟩ := ih g' (fun d hd => by rw [ht]; exact h d (by simp [hd]))
    refine ⟨result, ?_, htr.trans ht, ?_⟩
    · rw [enliven, hset, Attempt.andThen_done, hr]
    · intro d hd
      rw [har d (by rwa [ht]), ha d hd]
      by_cases hcd : c = d
      · simp [hcd]
      · simp [hcd, Ne.symm hcd]

theorem sow_of_contains {g : Grid} {s : Seed} (h : ∀ c ∈ s.cells, g.torus.Contains c) :
    g.sow s = .done (s.planted g.torus) () := by
  obtain ⟨result, hr, ht, ha⟩ := enliven_of_contains s.cells g.clear h
  rw [torus_clear] at ht
  have he : result = s.planted g.torus := by
    apply ext_aliveAt (by rw [ht, Seed.torus_planted])
    intro c hc
    rw [ht] at hc
    rw [ha c hc, aliveAt_clear, Bool.or_false, s.aliveAt_planted hc]
  unfold sow
  rw [Seed.checkFits_eq_ok_iff.2 h]
  exact he ▸ hr

theorem sow_of_not_contains {g : Grid} {s : Seed} (h : ∃ c ∈ s.cells, ¬ g.torus.Contains c) :
    ∃ e, g.sow s = .failed g e := by
  obtain ⟨c, hm, hc⟩ := h
  cases hf : s.checkFits g.torus with
  | error e => exact ⟨e, by simp only [sow, hf]⟩
  | ok u => exact absurd (Seed.checkFits_eq_ok_iff.1 hf c hm) hc

end Grid

/-! A seed is sown whole or not at all. On a torus that has all of its cells
the grid is alive exactly there, whatever it held before; on any other nothing
is wiped, and the first cell outside is reported. -/

theorem Seed.mem_aliveCells_planted {s : Seed} {t : Torus} {c : Cell} :
    c ∈ (s.planted t).aliveCells ↔ t.Contains c ∧ c ∈ s.cells := by
  rw [Grid.mem_aliveCells, torus_planted]
  refine and_congr_right fun hc => ?_
  rw [s.aliveAt_planted hc, decide_eq_true_iff]

theorem Seed.aliveCells_planted {s : Seed} {t : Torus} (h : ∀ c ∈ s.cells, t.Contains c) :
    (s.planted t).aliveCells = s.cells.toFinset := by
  ext c
  rw [mem_aliveCells_planted, List.mem_toFinset]
  exact and_iff_right_of_imp (h c)

namespace Grid

theorem sow_cases (g : Grid) (s : Seed) :
    ((∀ c ∈ s.cells, g.torus.Contains c) ∧ g.sow s = .done (s.planted g.torus) ()) ∨
      ∃ before c after, s.cells = before ++ c :: after ∧ (∀ b ∈ before, g.torus.Contains b) ∧
        ¬ g.torus.Contains c ∧
        g.sow s = .failed g (.seedOutOfBounds s.name c g.torus.toExtent) := by
  cases hfit : s.checkFits g.torus with
  | ok u =>
    have hcells := Seed.checkFits_eq_ok_iff.1 hfit
    exact .inl ⟨hcells, sow_of_contains hcells⟩
  | error e =>
    obtain ⟨before, c, after, hcells, hbefore, hc, rfl⟩ := Seed.checkFits_eq_error_iff.1 hfit
    exact .inr ⟨before, c, after, hcells, hbefore, hc, by simp only [sow, hfit]⟩

theorem sow_outcome_eq_ok_iff {g : Grid} {s : Seed} :
    (g.sow s).outcome = .ok () ↔ ∀ c ∈ s.cells, g.torus.Contains c := by
  rcases sow_cases g s with ⟨hcells, hsow⟩ | ⟨before, c, after, hcells, -, hc, hsow⟩
  · rw [hsow]
    exact iff_of_true rfl hcells
  · rw [hsow]
    refine iff_of_false (by simp [Attempt.failed]) fun hall => hc (hall c ?_)
    rw [hcells]
    exact List.mem_append_right _ List.mem_cons_self

theorem sow_sow (g : Grid) (s : Seed) : (g.sow s).state.sow s = g.sow s := by
  rcases sow_cases g s with ⟨hcells, hsow⟩ | ⟨before, c, after, -, -, -, hsow⟩
  · rw [hsow]
    exact sow_of_contains hcells
  · rw [hsow]
    exact hsow

/-- Sowing succeeds exactly if the torus has every cell of the seed. Then the seed's cells are alive
and no others, each counted once, all their numbers are within the grid and far within a word, and
sowing again changes nothing. Otherwise the grid is as it was, and the failure names the first cell
that is missing. -/
theorem sow_whole_or_not_at_all (g : Grid) (s : Seed) :
    ((g.sow s).outcome = .ok () ↔
      ∀ c ∈ s.cells, c.row < g.torus.rows ∧ c.col < g.torus.cols) ∧
    ((g.sow s).outcome = .ok () → ∃ sown, g.sow s = .done sown () ∧
      sown.torus = g.torus ∧
      (∀ c, g.torus.Contains c → (sown.aliveAt c = true ↔ c ∈ s.cells)) ∧
      sown.aliveCount = s.cells.toFinset.card ∧
      sown.sow s = .done sown () ∧
      ∀ c ∈ s.cells, c.row * g.torus.cols + c.col < g.size ∧ g.size < 0x8000000000000000) ∧
    ∀ e, (g.sow s).outcome = .error e → g.sow s = .failed g e ∧
      ∃ before c after, s.cells = before ++ c :: after ∧
        (∀ b ∈ before, g.torus.Contains b) ∧ ¬ g.torus.Contains c ∧
        e = .seedOutOfBounds s.name c g.torus.toExtent := by
  refine ⟨sow_outcome_eq_ok_iff, ?_, ?_⟩
  · intro hok
    have hcells := sow_outcome_eq_ok_iff.1 hok
    have hsow := sow_of_contains hcells
    refine ⟨s.planted g.torus, hsow, rfl, ?_, ?_, ?_, ?_⟩
    · intro c hc
      rw [s.aliveAt_planted hc, decide_eq_true_iff]
    · rw [← card_aliveCells, Seed.aliveCells_planted hcells]
    · have hagain := sow_sow g s
      rwa [hsow] at hagain
    · intro c hm
      rw [size_eq_area]
      exact ⟨Torus.rowMajor_lt (hcells c hm), g.torus.area_lt⟩
  · intro e he
    rcases sow_cases g s with ⟨-, hsow⟩ | ⟨before, c, after, hcells, hbefore, hc, hsow⟩
    · rw [hsow] at he
      cases he
    · rw [hsow] at he ⊢
      cases he
      exact ⟨rfl, before, c, after, hcells, hbefore, hc, rfl⟩

end Grid

end TorusAutomaton

/-! Grids under any sequence of calls. A grid is a map from the cells of its torus to states:
whichever way a cell is addressed, it holds what was last written there by a call that did not fail.
Reads, counts and the list of alive cells are views of this one map. -/
namespace TorusAutomaton.Grid

/-- The failure of a call on grids of a torus. The torus decides it, not what the cells hold. -/
def Call.failure? (t : Torus) : Call → Option Failure
  | .get i | .set i _ => if i < t.area then none else some (.fault (.index t.area i))
  | .getAt c | .setAt c _ => if t.Contains c then none else some (.fault (.cell c t.toExtent))
  | .sow choice =>
    match choice.resolve with
    | .ok seed => (seed.cells.find? fun c => ¬ t.Contains c).map fun c =>
        .seedOutOfBounds seed.name c t.toExtent
    | .error e => some e
  | .clear | .size | .isEmpty | .aliveCount | .aliveIndices => none

/-- What a call writes to a cell. One that fails writes nothing, also where it could have. -/
def Call.written? (t : Torus) (c : Cell) (call : Call) : Option Bool :=
  match call.failure? t, call with
  | none, .set i b => if t.cellOf i = c then some b else none
  | none, .setAt d b => if d = c then some b else none
  | none, .clear => some false
  | none, .sow choice => choice.resolve.toOption.map fun seed => decide (c ∈ seed.cells)
  | _, _ => none

/-- What the last of the calls that write to a cell leaves there. -/
def lastWritten? (t : Torus) (c : Cell) (calls : List Call) : Option Bool :=
  calls.reverse.findSome? (Call.written? t c)

theorem lastWritten?_cons (t : Torus) (c : Cell) (call : Call) (calls : List Call) :
    lastWritten? t c (call :: calls) = (lastWritten? t c calls).or (call.written? t c) := by
  rw [lastWritten?, List.reverse_cons, List.findSome?_append, List.findSome?_singleton,
    lastWritten?]

section

variable {g : Grid} {c : Cell}

theorem getAt_of_contains (h : g.torus.Contains c) : g.getAt c = .ok (g.aliveAt c) := by
  simp only [getAt, Torus.index, if_pos h, bind, Except.bind]
  apply get_of_lt
  rw [size_eq_area]
  exact Torus.rowMajor_lt h

theorem getAt_of_not_contains (h : ¬ g.torus.Contains c) :
    g.getAt c = .error (.fault (.cell c g.torus.toExtent)) := by
  simp only [getAt, Torus.index, if_neg h, bind, Except.bind]

theorem setAt_of_not_contains (h : ¬ g.torus.Contains c) (b : Bool) :
    g.setAt c b = .failed g (.fault (.cell c g.torus.toExtent)) := by
  simp only [setAt, Torus.index, if_neg h]

end

section

variable {g : Grid} {e : Failure}

theorem size_le_of_failure {i : Nat}
    (h : (if i < g.torus.area then none
      else some (Failure.fault (.index g.torus.area i))) = some e) :
    g.size ≤ i ∧ e = .fault (.index g.size i) := by
  rw [Option.ite_none_left_eq_some, ← size_eq_area] at h
  exact ⟨Nat.not_lt.1 h.1, (Option.some.inj h.2).symm⟩

theorem not_contains_of_failure {c : Cell}
    (h : (if g.torus.Contains c then none
      else some (Failure.fault (.cell c g.torus.toExtent))) = some e) :
    ¬ g.torus.Contains c ∧ e = .fault (.cell c g.torus.toExtent) := by
  rw [Option.ite_none_left_eq_some] at h
  exact ⟨h.1, (Option.some.inj h.2).symm⟩

theorem apply_of_failure {call : Call} (h : call.failure? g.torus = some e) :
    apply call g = .failed g e := by
  cases call with
  | get i =>
    obtain ⟨hi, rfl⟩ := size_le_of_failure h
    rw [apply, get_of_le hi]
    rfl
  | set i b =>
    obtain ⟨hi, rfl⟩ := size_le_of_failure h
    rw [apply, set_of_le hi]
    rfl
  | getAt c =>
    obtain ⟨hc, rfl⟩ := not_contains_of_failure h
    rw [apply, getAt_of_not_contains hc]
    rfl
  | setAt c b =>
    obtain ⟨hc, rfl⟩ := not_contains_of_failure h
    rw [apply, setAt_of_not_contains hc]
    rfl
  | sow choice =>
    cases hr : choice.resolve with
    | error e' =>
      simp only [Call.failure?, hr, Option.some.injEq] at h
      have hsow : g.sowChoice choice = .failed g e := by simp only [sowChoice, hr, h]
      rw [apply, hsow]
      rfl
    | ok seed =>
      simp only [Call.failure?, hr, Option.map_eq_some_iff] at h
      obtain ⟨c, hc, rfl⟩ := h
      have hsow : g.sowChoice choice =
          .failed g (.seedOutOfBounds seed.name c g.torus.toExtent) := by
        simp only [sowChoice, hr, sow, Seed.checkFits, hc]
      rw [apply, hsow]
      rfl
  | clear | size | isEmpty | aliveCount | aliveIndices => cases h

theorem apply_of_no_failure {call : Call} (h : call.failure? g.torus = none) :
    ∃ g' r, apply call g = .done g' r ∧ ∀ c, g.torus.Contains c →
      g'.aliveAt c = (call.written? g.torus c).getD (g.aliveAt c) := by
  cases call with
  | get i =>
    have hi : i < g.size := by
      simpa [Call.failure?, size_eq_area] using h
    exact ⟨g, _, by rw [apply, get_of_lt hi]; rfl, fun c _ => by simp only [Call.written?, h]; rfl⟩
  | getAt c =>
    have hc : g.torus.Contains c := by
      simpa [Call.failure?] using h
    exact ⟨g, _, by rw [apply, getAt_of_contains hc]; rfl,
      fun c _ => by simp only [Call.written?, h]; rfl⟩
  | size | isEmpty | aliveCount | aliveIndices => exact ⟨g, _, rfl, fun c _ => rfl⟩
  | clear => exact ⟨g.clear, _, rfl, fun c _ => aliveAt_clear g c⟩
  | set i b =>
    have hi : i < g.size := by
      simpa [Call.failure?, size_eq_area] using h
    refine ⟨g.write i b hi, _, by rw [apply, set_of_lt hi]; rfl, fun c hc => ?_⟩
    rw [aliveAt_write b hi hc]
    simp only [Call.written?, h]
    split <;> rfl
  | setAt c b =>
    have hc : g.torus.Contains c := by
      simpa [Call.failure?] using h
    obtain ⟨g', hset, -, halive⟩ := setAt_of_contains hc b
    refine ⟨g', _, by rw [apply, hset]; rfl, fun d hd => ?_⟩
    rw [halive d hd]
    simp only [Call.written?, h]
    split <;> rfl
  | sow choice =>
    cases hr : choice.resolve with
    | error e => simp [Call.failure?, hr] at h
    | ok seed =>
      have hcells : ∀ c ∈ seed.cells, g.torus.Contains c := by
        simpa [Call.failure?, hr] using h
      have hsow : g.sowChoice choice = .done (seed.planted g.torus) () := by
        simp only [sowChoice, hr, sow_of_contains hcells]
      refine ⟨seed.planted g.torus, _, by rw [apply, hsow]; rfl, fun c hc => ?_⟩
      rw [seed.aliveAt_planted hc]
      simp only [Call.written?, h, hr]
      rfl

end

theorem outcome_apply_eq_error_iff {call : Call} {g : Grid} {e : Failure} :
    (apply call g).outcome = .error e ↔ call.failure? g.torus = some e := by
  constructor
  · intro he
    cases h : call.failure? g.torus with
    | some e' =>
      rw [apply_of_failure h] at he
      cases he
      rfl
    | none =>
      obtain ⟨g', r, hg, -⟩ := apply_of_no_failure h
      rw [hg] at he
      cases he
  · intro h
    rw [apply_of_failure h]
    rfl

theorem aliveAt_apply (call : Call) {g : Grid} {c : Cell} (hc : g.torus.Contains c) :
    (apply call g).state.aliveAt c = (call.written? g.torus c).getD (g.aliveAt c) := by
  cases h : call.failure? g.torus with
  | some e =>
    rw [apply_of_failure h]
    simp only [Call.written?, h]
    rfl
  | none =>
    obtain ⟨g', r, hg, halive⟩ := apply_of_no_failure h
    rw [hg]
    exact halive c hc

theorem torus_final (calls : List Call) (g : Grid) :
    (Attempt.final apply calls g).torus = g.torus :=
  Attempt.final_state (P := fun h : Grid => h.torus = g.torus)
    (fun call h hh => (torus_apply call h).trans hh) calls g rfl

theorem aliveAt_final (calls : List Call) {g : Grid} {c : Cell} (hc : g.torus.Contains c) :
    (Attempt.final apply calls g).aliveAt c =
      (lastWritten? g.torus c calls).getD (g.aliveAt c) := by
  induction calls generalizing g with
  | nil => rfl
  | cons call calls ih =>
    have ht := torus_apply call g
    change (Attempt.final apply calls (apply call g).state).aliveAt c = _
    rw [ih (by rwa [ht]), ht, aliveAt_apply call hc, lastWritten?_cons]
    cases lastWritten? g.torus c calls <;> rfl

/-- Whether all views of a grid show one map from the cells of a torus to states. -/
structure Shows (g : Grid) (t : Torus) (x : Cell → Bool) : Prop where
  torus_eq : g.torus = t
  size_eq : g.size = t.rows * t.cols
  get_eq : ∀ i < t.rows * t.cols, g.get i = .ok (x (t.cellOf i))
  getAt_eq : ∀ i < t.rows * t.cols, g.getAt ⟨i / t.cols, i % t.cols⟩ = .ok (x (t.cellOf i))
  ascending : g.aliveIndices.Pairwise (· < ·)
  mem_aliveIndices : ∀ i, i ∈ g.aliveIndices ↔ i < t.rows * t.cols ∧ x (t.cellOf i) = true
  aliveCount_eq : g.aliveCount = g.aliveIndices.length

theorem shows_of_aliveAt {g : Grid} {x : Cell → Bool}
    (h : ∀ c, g.torus.Contains c → g.aliveAt c = x c) : g.Shows g.torus x where
  torus_eq := rfl
  size_eq := g.size_eq_area
  get_eq i hi := by
    rw [get_of_lt (by rwa [size_eq_area]), alive_eq_aliveAt, h _ (Torus.contains_cellOf hi)]
  getAt_eq i hi := by
    have hc := Torus.contains_cellOf hi
    rw [← h _ hc]
    exact getAt_of_contains hc
  ascending := List.pairwise_lt_range.filter _
  mem_aliveIndices i := by
    rw [aliveIndices, List.mem_filter, List.mem_range, size_eq_area]
    refine and_congr_right fun hi => ?_
    rw [alive_eq_aliveAt, h _ (Torus.contains_cellOf hi)]
  aliveCount_eq := g.aliveCount_eq_length

theorem aliveCount_set {g : Grid} {i : Nat} (hi : i < g.size) (b : Bool) :
    ∃ g', g.set i b = .done g' () ∧
      g'.aliveCount + (g.alive i).toNat = g.aliveCount + b.toNat := by
  have hi' : i < g.states.size := hi
  have halive : g.alive i = g.states[i] := by simp [alive, hi']
  have hpos : g.states[i] = true → 0 < g.aliveCount := fun h =>
    Array.count_pos_iff.2 (h ▸ Array.getElem_mem hi')
  have hcount : (g.write i b hi).aliveCount =
      g.aliveCount - (if g.states[i] == true then 1 else 0) + if b == true then 1 else 0 :=
    Array.count_set hi'
  refine ⟨g.write i b hi, set_of_lt hi b, ?_⟩
  rw [hcount, halive]
  cases hold : g.states[i] with
  | false => cases b <;> rfl
  | true =>
    have := hpos hold
    cases b <;> simp <;> omega

/-- After any calls on a fresh grid, failed ones included, all its views show
what was last written to each cell, and dead cells where nothing was. A further
call fails exactly where its own numbers or cells are out of range, or its seed
does not exist or does not fit, and a call that fails changes nothing. -/
theorem calls_show_last_written {t : Torus} {storage : Storage} {fresh : Grid}
    (h : allocate t storage = .ok fresh) (calls : List Call) :
    let g := Attempt.final apply calls fresh
    g.Shows t (fun c => (lastWritten? t c calls).getD false) ∧
      (∀ call e, (apply call g).outcome = .error e ↔ call.failure? t = some e) ∧
      (∀ call e, call.failure? t = some e → apply call g = .failed g e) ∧
      ∀ i < t.rows * t.cols, ∀ b, ∃ g', g.set i b = .done g' () ∧
        g'.aliveCount + (g.alive i).toNat = g.aliveCount + b.toNat := by
  obtain rfl : dead t = fresh := by
    unfold allocate at h
    split at h
    · exact Except.ok.inj h
    · cases h
  intro g
  have ht : g.torus = t := torus_final calls (dead t)
  refine ⟨?_, ?_, ?_, ?_⟩
  · have hshows := shows_of_aliveAt (g := g) (x := fun c => (lastWritten? t c calls).getD false)
    rw [ht] at hshows
    refine hshows fun c hc => ?_
    have halive := aliveAt_final calls (g := dead t) hc
    rwa [aliveAt_dead] at halive
  · intro call e
    rw [← ht]
    exact outcome_apply_eq_error_iff
  · intro call e he
    rw [← ht] at he
    exact apply_of_failure he
  · intro i hi b
    apply aliveCount_set
    rwa [size_eq_area, ht]

/-- Writes by number and by cell. Two fail, of which one names a cell past the end of its row,
although its number would be that of a cell in the next row. -/
theorem calls_show_last_written_of_six_cells :
    let t : Torus := ⟨⟨2, 3⟩, by decide, by decide⟩
    let calls : List Call := [.set 4 true, .setAt ⟨0, 2⟩ true, .setAt ⟨0, 5⟩ true,
      .sow (.given ⟨"", [⟨1, 0⟩, ⟨1, 2⟩, ⟨1, 0⟩]⟩), .setAt ⟨1, 1⟩ true, .set 6 true, .set 3 false]
    allocate t = .ok (dead t) ∧
      (Attempt.final apply calls (dead t)).get 4 = .ok true ∧
      (Attempt.final apply calls (dead t)).getAt ⟨1, 0⟩ = .ok false ∧
      4 ∈ (Attempt.final apply calls (dead t)).aliveIndices := by
  intro t calls
  have h : allocate t = .ok (dead t) := rfl
  have hfour : lastWritten? t (t.cellOf 4) calls = some true := by decide
  have hthree : lastWritten? t (t.cellOf 3) calls = some false := by decide
  have hcell : (⟨3 / t.cols, 3 % t.cols⟩ : Cell) = ⟨1, 0⟩ := by decide
  obtain ⟨hshows, -⟩ := calls_show_last_written h calls
  have hget := hshows.get_eq 4 (by decide)
  have hgetAt := hshows.getAt_eq 3 (by decide)
  have hmem := hshows.mem_aliveIndices 4
  rw [hcell] at hgetAt
  simp only [hfour, hthree] at hget hgetAt hmem
  exact ⟨h, hget, hgetAt, hmem.2 ⟨by decide, rfl⟩⟩

end TorusAutomaton.Grid
