import TorusAutomaton.Proofs.Planting
import TorusAutomaton.Settings
import TorusAutomaton.Proofs.Evolution
import TorusAutomaton.Proofs.Cells
import TorusAutomaton.Session

/-! When settings can be run with. Validation refuses them for the first of three reasons that
applies: the extent is that of no torus, the seed is unknown, or one of its cells lies outside. -/
namespace TorusAutomaton

section

variable {α β : Type} {x : Except Failure α} {f : α → Except Failure β}

theorem bind_eq_ok_iff {b : β} : x >>= f = .ok b ↔ ∃ a, x = .ok a ∧ f a = .ok b := by
  cases x <;> simp [bind, Except.bind]

theorem bind_eq_error_iff {e : Failure} :
    x >>= f = .error e ↔ x = .error e ∨ ∃ a, x = .ok a ∧ f a = .error e := by
  cases x <;> simp [bind, Except.bind]

end

namespace Seed

theorem named_eq_ok_iff {name : String} {s : Seed} :
    named name = .ok s ↔ s ∈ catalogue ∧ s.name = name := by
  constructor
  · intro h
    unfold named at h
    split at h
    · next s' hs =>
      cases h
      exact ⟨List.mem_of_find?_eq_some hs, by simpa using List.find?_some hs⟩
    · cases h
  · rintro ⟨hs, rfl⟩
    simp only [catalogue, List.mem_cons, List.not_mem_nil, or_false] at hs
    rcases hs with rfl | rfl | rfl | rfl <;> rfl

theorem named_eq_error_iff {name : String} {e : Failure} :
    named name = .error e ↔ (∀ s ∈ catalogue, s.name ≠ name) ∧ e = .unknownSeed name := by
  unfold named
  split
  · next s h =>
    simp only [reduceCtorEq, false_iff]
    rintro ⟨hn, -⟩
    exact hn s (List.mem_of_find?_eq_some h) (by simpa using List.find?_some h)
  · next h =>
    constructor
    · intro he
      cases he
      exact ⟨fun s hs => by simpa using List.find?_eq_none.1 h s hs, rfl⟩
    · rintro ⟨-, rfl⟩
      rfl

end Seed

namespace Settings

def Sized (s : Settings) : Prop := 0 < s.rows * s.cols ∧ s.rows * s.cols < 0x8000000000000000

def Holds (s : Settings) (c : Cell) : Prop := c.row < s.rows ∧ c.col < s.cols

/-- The reasons to refuse settings, each given only when those before it do not apply. -/
inductive Refused (s : Settings) : Failure → Prop where
  | extent : s.rows * s.cols = 0 ∨ 0x8000000000000000 ≤ s.rows * s.cols →
      Refused s (.invalidExtent ⟨s.rows, s.cols⟩)
  | name : s.Sized → (∀ seed ∈ Seed.catalogue, seed.name ≠ s.seedName) →
      Refused s (.unknownSeed s.seedName)
  | cell (seed : Seed) (before after : List Cell) (c : Cell) : s.Sized →
      seed ∈ Seed.catalogue → seed.name = s.seedName → seed.cells = before ++ c :: after →
      (∀ b ∈ before, s.Holds b) → ¬ s.Holds c →
      Refused s (.seedOutOfBounds s.seedName c ⟨s.rows, s.cols⟩)

/-- Settings to run with, and the seed that they name. -/
structure Ready (s : Settings) (seed : Seed) : Prop where
  sized : s.Sized
  listed : seed ∈ Seed.catalogue
  name_eq : seed.name = s.seedName
  fits : ∀ c ∈ seed.cells, s.Holds c

theorem sized_iff {s : Settings} : s.Sized ↔ ∃ t : Torus, t.toExtent = s.extent := by
  constructor
  · rintro ⟨hp, hl⟩
    exact ⟨⟨s.extent, hp, hl⟩, rfl⟩
  · rintro ⟨t, ht⟩
    have hp := t.area_pos
    have hl := t.area_lt
    rw [ht] at hp hl
    exact ⟨hp, hl⟩

theorem area_eq {s : Settings} {t : Torus} (ht : t.toExtent = s.extent) :
    t.area = s.rows * s.cols := congrArg Extent.area ht

theorem holds_iff {s : Settings} {t : Torus} (ht : t.toExtent = s.extent) (c : Cell) :
    t.Contains c ↔ s.Holds c := by
  unfold Torus.Contains Holds
  rw [ht]
  rfl

theorem prepare_eq_ok_iff {s : Settings} {t : Torus} {seed : Seed} :
    s.prepare = .ok (t, seed) ↔ t.toExtent = s.extent ∧ s.Ready seed := by
  simp only [prepare, bind_eq_ok_iff, torus, Settings.seed, Torus.ofExtent_eq_ok_iff,
    Seed.named_eq_ok_iff, pure, Except.pure, Except.ok.injEq, Prod.mk.injEq]
  constructor
  · rintro ⟨t, ht, seed, ⟨hm, hn⟩, ⟨⟩, hfits, rfl, rfl⟩
    have hc := Seed.checkFits_eq_ok_iff.1 hfits
    exact ⟨ht, sized_iff.2 ⟨t, ht⟩, hm, hn, fun c hm => (holds_iff ht c).1 (hc c hm)⟩
  · rintro ⟨ht, -, hm, hn, hfits⟩
    have hc : seed.checkFits t = .ok () :=
      Seed.checkFits_eq_ok_iff.2 fun c hm => (holds_iff ht c).2 (hfits c hm)
    exact ⟨t, ht, seed, ⟨hm, hn⟩, (), hc, rfl, rfl⟩

theorem prepare_eq_error_iff {s : Settings} {e : Failure} :
    s.prepare = .error e ↔ s.Refused e := by
  simp only [prepare, bind_eq_error_iff, torus, Settings.seed, Torus.ofExtent_eq_ok_iff,
    Torus.ofExtent_eq_error_iff, Seed.named_eq_ok_iff, Seed.named_eq_error_iff,
    Seed.checkFits_eq_error_iff, pure, Except.pure, reduceCtorEq, and_false, exists_false, or_false]
  constructor
  · rintro (⟨h, rfl⟩ | ⟨t, ht, ⟨h, rfl⟩ | ⟨seed, ⟨hm, hn⟩, before, c, after, hc, hb, ho, rfl⟩⟩)
    · exact .extent h
    · exact .name (sized_iff.2 ⟨t, ht⟩) h
    · rw [hn, ht]
      exact .cell seed before after c (sized_iff.2 ⟨t, ht⟩) hm hn hc
        (fun b hb' => (holds_iff ht b).1 (hb b hb')) (fun h => ho ((holds_iff ht c).2 h))
  · intro h
    cases h with
    | extent h => exact .inl ⟨h, rfl⟩
    | name hs h =>
      obtain ⟨t, ht⟩ := sized_iff.1 hs
      exact .inr ⟨t, ht, .inl ⟨h, rfl⟩⟩
    | cell seed before after c hs hm hn hc hb ho =>
      obtain ⟨t, ht⟩ := sized_iff.1 hs
      refine .inr ⟨t, ht, .inr ⟨seed, ⟨hm, hn⟩, before, c, after, hc, ?_, ?_, ?_⟩⟩
      · exact fun b hb' => (holds_iff ht b).2 (hb b hb')
      · exact fun h => ho ((holds_iff ht c).1 h)
      · rw [hn, ht]
        rfl

theorem validate_eq_ok_iff {s : Settings} : s.validate = .ok () ↔ ∃ seed, s.Ready seed := by
  unfold validate
  constructor
  · intro h
    cases hp : s.prepare with
    | error e => rw [hp] at h; cases h
    | ok r => exact ⟨r.2, (prepare_eq_ok_iff.1 hp).2⟩
  · rintro ⟨seed, hr⟩
    obtain ⟨t, ht⟩ := sized_iff.1 hr.sized
    rw [prepare_eq_ok_iff.2 ⟨ht, hr⟩]
    rfl

theorem validate_eq_error_iff {s : Settings} {e : Failure} :
    s.validate = .error e ↔ s.Refused e := by
  rw [← prepare_eq_error_iff, validate]
  cases s.prepare <;> simp [Except.map]

end Settings

/-! What comes of a run. Settings that are ready fail only for want of storage; with storage for
both grids the report counts the cells alive when the seed has gone through all generations. -/

namespace Grid

theorem allocate_of_true {t : Torus} {storage : Storage} (h : storage t.area = true) :
    allocate t storage = .ok (dead t) := if_pos h

theorem allocate_of_false {t : Torus} {storage : Storage} (h : storage t.area = false) :
    allocate t storage = .error (.allocation t.area) := if_neg (by simp [h])

end Grid

def TwinGrid.seeded (t : Torus) (seed : Seed) : TwinGrid :=
  ⟨seed.planted t, seed.planted t, .first, rfl⟩

namespace Simulation

open Log (Event)

variable {s : Settings} {storage : Slot → Storage} {t : Torus} {seed : Seed}

def complete (s : Settings) (t : Torus) (seed : Seed) : Attempt Journal Report :=
  let p := TwinGrid.seeded t seed
  let report := p.reportAfter s.rule.rule s.generations
  let log := #[Event.started s, .allocated t.toExtent, .allocated t.toExtent]
  .done (((p.generations s.rule.rule 1 s.generations).foldl observe log).push (.completed report))
    report

section

variable {α β : Type} (log : Journal) (next : Journal → α → Attempt Journal β)

theorem step_ok (a : α) : (step log (.ok a)).andThen next = next log a := rfl

theorem step_error (e : Failure) : (step log (.error e)).andThen next = .failed log e := rfl

end

theorem run_of_refused {e : Failure} (h : s.prepare = .error e) :
    run s storage = .failed #[] e := by
  rw [run, h, step_error]

theorem run_of_first_unstored (h : s.prepare = .ok (t, seed))
    (ha : storage .first t.area = false) :
    run s storage = .failed #[.started s] (.allocation t.area) := by
  simp only [run, h, step_ok, step_error, Grid.allocate_of_false ha]
  rfl

theorem run_of_second_unstored (h : s.prepare = .ok (t, seed))
    (ha : storage .first t.area = true) (hb : storage .second t.area = false) :
    run s storage = .failed #[.started s, .allocated t.toExtent] (.allocation t.area) := by
  simp only [run, h, step_ok, step_error, Grid.allocate_of_true ha, Grid.allocate_of_false hb]
  rfl

theorem outcome_of_unstored (h : s.prepare = .ok (t, seed)) {slot : Slot}
    (hslot : storage slot t.area = false) :
    (run s storage).outcome = .error (.allocation t.area) := by
  by_cases ha : storage .first t.area = true
  · cases slot with
    | first => simp [ha] at hslot
    | second => rw [run_of_second_unstored h ha hslot]; rfl
  · rw [Bool.not_eq_true] at ha
    rw [run_of_first_unstored h ha]
    rfl

theorem evolve_seeded (s : Settings) (t : Torus) (seed : Seed) :
    evolve s t (TwinGrid.seeded t seed)
      #[.started s, .allocated t.toExtent, .allocated t.toExtent] = complete s t seed := by
  have h : (TwinGrid.seeded t seed).torus = (Automaton.mk t s.rule.rule).torus := rfl
  simp only [evolve, TwinGrid.evolve_eq observe s.generations _ h]
  rfl

theorem sow_both (hc : ∀ c ∈ seed.cells, t.Contains c) :
    ∃ q, ((TwinGrid.mk (.dead t) (.dead t) .first rfl).sow .first (.given seed)).toExcept =
        .ok (q, ()) ∧
      (q.sow .second (.given seed)).toExcept = .ok (TwinGrid.seeded t seed, ()) := by
  have h : (Grid.dead t).sowChoice (.given seed) = .done (seed.planted t) () :=
    Grid.sow_of_contains hc
  refine ⟨⟨seed.planted t, .dead t, .first, rfl⟩, ?_, ?_⟩
  · simp only [TwinGrid.sow, TwinGrid.modify, h]
    rfl
  · simp only [TwinGrid.sow, TwinGrid.modify, h]
    rfl

theorem run_of_stored (h : s.prepare = .ok (t, seed))
    (hs : ∀ slot, storage slot t.area = true) : run s storage = complete s t seed := by
  obtain ⟨ht, hr⟩ := Settings.prepare_eq_ok_iff.1 h
  obtain ⟨q, hq, hseeded⟩ := sow_both fun c hc => (Settings.holds_iff ht c).2 (hr.fits c hc)
  have hpair : TwinGrid.pair (.dead t) (.dead t) = .ok ⟨.dead t, .dead t, .first, rfl⟩ :=
    dif_pos rfl
  simp only [run, h, step_ok, Grid.allocate_of_true (hs _), hpair, hq, hseeded]
  exact evolve_seeded s t seed

def expected (s : Settings) (t : Torus) (seed : Seed) : Report where
  generations := s.generations
  cellsPerSweep := s.rows * s.cols
  alive := ((seed.planted t).after s.rule.rule s.generations).aliveCells.card
  output := if s.generations % 2 = 0 then .first else .second

/-- The outcomes of a run, each with the conditions under which it is the one. -/
inductive Answer (s : Settings) (storage : Slot → Storage) : Except Failure Report → Prop where
  | refused (e : Failure) : s.Refused e → Answer s storage (.error e)
  | unstored (seed : Seed) (slot : Slot) : s.Ready seed →
      storage slot (s.rows * s.cols) = false →
      Answer s storage (.error (.allocation (s.rows * s.cols)))
  | finished (seed : Seed) (t : Torus) : s.Ready seed → t.toExtent = ⟨s.rows, s.cols⟩ →
      (∀ slot, storage slot (s.rows * s.cols) = true) →
      Answer s storage (.ok (expected s t seed))

theorem outcome_complete (ht : t.toExtent = s.extent) :
    (complete s t seed).outcome = .ok (expected s t seed) := by
  have harea : t.area = s.rows * s.cols := Settings.area_eq ht
  have hslot : Slot.other^[s.generations] .first =
      if s.generations % 2 = 0 then Slot.first else .second := Slot.other_iterate ..
  rw [expected, ← harea, ← hslot, Grid.card_aliveCells]
  rfl

theorem answer_run (s : Settings) (storage : Slot → Storage) :
    Answer s storage (run s storage).outcome := by
  cases h : s.prepare with
  | error e =>
    rw [run_of_refused h]
    exact .refused e (Settings.prepare_eq_error_iff.1 h)
  | ok r =>
    obtain ⟨t, seed⟩ := r
    obtain ⟨ht, hr⟩ := Settings.prepare_eq_ok_iff.1 h
    have harea : t.area = s.rows * s.cols := Settings.area_eq ht
    by_cases hs : ∀ slot, storage slot t.area = true
    · rw [run_of_stored h hs, outcome_complete ht]
      exact .finished seed t hr ht (harea ▸ hs)
    · simp only [not_forall, Bool.not_eq_true] at hs
      obtain ⟨slot, hslot⟩ := hs
      rw [outcome_of_unstored h hslot, harea]
      exact .unstored seed slot hr (harea ▸ hslot)

theorem Answer.outcome_eq {o : Except Failure Report} (h : Answer s storage o) :
    (run s storage).outcome = o := by
  cases h with
  | refused e he => rw [run_of_refused (Settings.prepare_eq_error_iff.2 he)]; rfl
  | unstored seed slot hr hslot =>
    obtain ⟨t, ht⟩ := Settings.sized_iff.1 hr.sized
    have harea : t.area = s.rows * s.cols := Settings.area_eq ht
    rw [← harea] at hslot ⊢
    exact outcome_of_unstored (Settings.prepare_eq_ok_iff.2 ⟨ht, hr⟩) hslot
  | finished seed t hr ht hs =>
    have harea : t.area = s.rows * s.cols := Settings.area_eq ht
    rw [run_of_stored (Settings.prepare_eq_ok_iff.2 ⟨ht, hr⟩) (harea ▸ hs), outcome_complete ht]

theorem Answer.not_fault {f : Fault} : ¬ Answer s storage (.error (.fault f)) := by
  intro h
  cases h with
  | refused _ he => cases he

theorem outcome_run_iff {o : Except Failure Report} :
    (run s storage).outcome = o ↔ Answer s storage o := by
  constructor
  · rintro rfl
    exact answer_run s storage
  · exact Answer.outcome_eq

/-- A run ends in exactly one of the ways listed, never in a fault, and validation foretells the
refusals without allocating anything. -/
theorem run_outcome_iff_answer (s : Settings) (storage : Slot → Storage) :
    (∀ o, (run s storage).outcome = o ↔ Answer s storage o) ∧
      (∀ f, (run s storage).outcome ≠ .error (.fault f)) ∧
      (∀ e, s.validate = .error e ↔ s.Refused e) ∧
      (s.validate = .ok () ↔ ∃ seed, s.Ready seed) := by
  refine ⟨fun _ => outcome_run_iff, ?_, fun _ => Settings.validate_eq_error_iff,
    Settings.validate_eq_ok_iff⟩
  intro f hf
  exact Answer.not_fault (outcome_run_iff.1 hf)

end Simulation

end TorusAutomaton
