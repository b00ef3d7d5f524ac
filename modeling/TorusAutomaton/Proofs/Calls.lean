import TorusAutomaton.Proofs.Evolution
import TorusAutomaton.TwinGrid.Call
import TorusAutomaton.Proofs.Planting
import TorusAutomaton.Proofs.Sweep

/-! Evolution in stages. A run may be left after any generation and taken up again from the pair as
it is: the two grids, the roles and what observers saw are those of one long run. The smallest
stages are a sweep and a change of roles, called one after the other. -/
namespace TorusAutomaton

/-- The same observation in a run that began `m` generations earlier. -/
def Observation.later (m : Nat) (o : Observation) : Observation :=
  { o with generation := m + o.generation }

namespace TwinGrid

theorem generations_start (f : Rule) (k m n : Nat) (p : TwinGrid) :
    p.generations f (m + k) n = (p.generations f k n).map (·.later m) := by
  unfold generations
  rw [List.map_map]
  apply List.map_congr_left
  intro j _
  simp only [Function.comp_apply, Observation.later, Nat.add_assoc]

theorem generations_add (f : Rule) (k m n : Nat) (p : TwinGrid) :
    p.generations f k (m + n) =
      p.generations f k m ++ ((advance f)^[m] p).generations f (m + k) n := by
  unfold generations
  rw [List.range_add, List.map_append, List.map_map]
  congr 1
  apply List.map_congr_left
  intro j _
  have hslot : Slot.other^[m + j + 1] p.current =
      Slot.other^[j + 1] ((advance f)^[m] p).current := by
    rw [current_iterate_advance, ← Function.iterate_add_apply, Nat.add_comm (j + 1), Nat.add_assoc]
  have hgrid : p.source.after f (m + j + 1) =
      ((advance f)^[m] p).source.after f (j + 1) := by
    rw [source_iterate_advance, ← Grid.after_add, Nat.add_assoc]
  have hnumber : k + (m + j) = m + k + j := by omega
  simp only [Function.comp_apply, hslot, hgrid, hnumber]

theorem numbers_generations (f : Rule) (k n : Nat) (p : TwinGrid) :
    (p.generations f k n).map (·.generation) = List.range' k n := by
  rw [List.range'_eq_map_range, generations, List.map_map]
  rfl

theorem reportAfter_add (f : Rule) (m n : Nat) (p : TwinGrid) :
    p.reportAfter f (m + n) =
      { ((advance f)^[m] p).reportAfter f n with generations := m + n } := by
  simp only [reportAfter, torus_iterate_advance, source_iterate_advance, current_iterate_advance,
    Grid.after_add, ← Function.iterate_add_apply, Nat.add_comm n m]

def rounds (f : Rule) : Nat → List Call
  | 0 => []
  | n + 1 => .sweep (.given f) :: .swapRoles :: rounds f n

theorem apply_sweep (f : Rule) (p : TwinGrid) :
    apply (.sweep (.given f)) p = .done (p.renew f) .nothing := by
  have h : p.sweep ⟨p.torus, f⟩ = .done (p.renew f) () := sweep_eq_renew rfl
  change (p.sweep ⟨p.torus, f⟩).mapResult _ = _
  rw [h]
  rfl

theorem final_rounds (f : Rule) (n : Nat) (p : TwinGrid) :
    Attempt.final apply (rounds f n) p = (advance f)^[n] p := by
  induction n generalizing p with
  | zero => rfl
  | succ n ih =>
    change Attempt.final apply (rounds f n) (apply (.sweep (.given f)) p).state.swapRoles = _
    rw [apply_sweep, ih, Function.iterate_succ_apply]
    rfl

theorem trace_rounds (f : Rule) (n : Nat) (p : TwinGrid) :
    ∀ r ∈ Attempt.trace apply (rounds f n) p, r.outcome = .ok .nothing := by
  induction n generalizing p with
  | zero =>
    intro r hr
    cases hr
  | succ n ih =>
    intro r hr
    rcases List.mem_cons.1 hr with rfl | hr
    · rw [apply_sweep]
      rfl
    · rcases List.mem_cons.1 hr with rfl | hr
      · rfl
      · exact ih _ r hr

/-- Two runs on the same pair, one after the other, are one run: they leave the same grids in the
same places and in the same roles, together they show what it shows, and the last report is the same
but for the number of generations. A run is also so many rounds of a sweep and a change of roles. -/
theorem evolve_in_stages (p : TwinGrid) (f : Rule) (m n : Nat) :
    (∃ q q' report report' seen seen',
      p.watch ⟨p.torus, f⟩ m = .done q (report, seen) ∧
      q.watch ⟨p.torus, f⟩ n = .done q' (report', seen') ∧
      p.watch ⟨p.torus, f⟩ (m + n) =
        .done q' ({ report' with generations := m + n }, seen ++ seen'.map (·.later m)) ∧
      seen.map (·.generation) = List.range' 1 m ∧
      seen'.map (·.generation) = List.range' 1 n) ∧
    (∀ r ∈ Attempt.trace apply (rounds f n) p, r.outcome = .ok .nothing) ∧
    ∃ report, p.Evolves f n (Attempt.final apply (rounds f n) p) report := by
  refine ⟨?_, trace_rounds f n p, p.reportAfter f n, ?_⟩
  · have hq : ((advance f)^[m] p).torus = p.torus := torus_iterate_advance ..
    refine ⟨_, _, _, _, _, _, watch_eq m rfl, watch_eq n hq, ?_, numbers_generations ..,
      numbers_generations ..⟩
    rw [watch_eq (m + n) rfl, reportAfter_add, generations_add, generations_start, Nat.add_comm m n,
      Function.iterate_add_apply]
  · rw [final_rounds]
    exact evolves_advance p f n

end TwinGrid

/-! Twin grids under any sequence of calls. A call that fails changes nothing at all; one that
succeeds keeps the torus, leaves alone the grids that it is not about, and changes the roles a known
number of times. What one call keeps, every sequence of calls keeps. -/

namespace TwinGrid

theorem sweep_of_ne {p : TwinGrid} {a : Automaton} (ha : p.torus ≠ a.torus) :
    ∃ e, p.sweep a = .failed p e := by
  obtain ⟨x, y, current, same⟩ := p
  refine ⟨.fault (.disagreement .sampling x.torus.toExtent a.torus.toExtent), ?_⟩
  cases current with
  | first =>
    have h := Automaton.sweep_of_ne (ha : x.torus ≠ a.torus) y
    simp only [sweep, h]
    rfl
  | second =>
    have h := Automaton.sweep_of_ne (same ▸ ha : y.torus ≠ a.torus) x
    simp only [sweep, h, ← same]
    rfl

def Call.Fails (t : Torus) : Call → Prop
  | .get _ i | .set _ i _ | .readSource i | .writeTarget i _ => t.area ≤ i
  | .sow _ choice => ∀ seed, choice.resolve = .ok seed → ∃ c ∈ seed.cells, ¬ t.Contains c
  | .sweep rule extent | .evolve rule _ extent =>
    (∀ r, rule.resolve ≠ .ok r) ∨ ∃ e, extent = some e ∧ e ≠ t.toExtent
  | .swapRoles | .other _ | .clear _ | .counts | .equal => False

def Call.turns : Call → Nat
  | .swapRoles => 1
  | .evolve _ n _ => n
  | _ => 0

def Call.Touches (p : TwinGrid) (s : Slot) : Call → Prop
  | .set t _ _ | .clear t | .sow t _ => s = t
  | .writeTarget _ _ | .sweep _ _ => s = p.current.other
  | .evolve _ _ _ => True
  | _ => False

/-- What a call that succeeds makes of twin grids. -/
structure Call.Effect (c : Call) (p q : TwinGrid) : Prop where
  torus_eq : q.torus = p.torus
  current_eq : q.current = Slot.other^[c.turns] p.current
  frame : ∀ s, ¬ c.Touches p s → q.grid s = p.grid s

theorem size_grid (p : TwinGrid) (s : Slot) : (p.grid s).size = p.torus.area := by
  rw [Grid.size_eq_area, torus_grid]

/-- A rule that does not exist and an extent of no torus are found out before anything is done; an
automaton of another torus is not. -/
theorem automaton_of_fails {p : TwinGrid} {rule : Rule.Choice} {extent : Option Extent}
    (h : (∀ r, rule.resolve ≠ .ok r) ∨ ∃ e, extent = some e ∧ e ≠ p.torus.toExtent) :
    (∃ e, p.automaton rule extent = .error e) ∨
      ∃ a, p.automaton rule extent = .ok a ∧ p.torus ≠ a.torus := by
  unfold automaton
  cases extent with
  | none =>
    rcases h with h | ⟨e, he, -⟩
    · cases hr : rule.resolve with
      | error e => exact .inl ⟨e, rfl⟩
      | ok r => exact absurd hr (h r)
    · cases he
  | some e =>
    cases ht : Torus.ofExtent e with
    | error x => exact .inl ⟨x, by simp only [ht]; rfl⟩
    | ok t =>
      cases hr : rule.resolve with
      | error x => exact .inl ⟨x, by simp only [ht]; rfl⟩
      | ok r =>
        refine .inr ⟨⟨t, r⟩, by simp only [ht]; rfl, ?_⟩
        rcases h with h | ⟨e', he, hne⟩
        · exact absurd hr (h r)
        · cases he
          rw [← Torus.ofExtent_eq_ok_iff.1 ht] at hne
          intro heq
          exact hne (congrArg Torus.toExtent heq.symm)

theorem automaton_of_not_fails {p : TwinGrid} {rule : Rule.Choice} {extent : Option Extent}
    (h : ¬ ((∀ r, rule.resolve ≠ .ok r) ∨ ∃ e, extent = some e ∧ e ≠ p.torus.toExtent)) :
    ∃ a, p.automaton rule extent = .ok a ∧ p.torus = a.torus := by
  simp only [not_or, not_forall, not_exists, not_and, not_not] at h
  obtain ⟨⟨r, hr⟩, he⟩ := h
  refine ⟨⟨p.torus, r⟩, ?_, rfl⟩
  unfold automaton
  cases extent with
  | none => rw [hr]; rfl
  | some e =>
    simp only [he e rfl, Torus.ofExtent_eq_ok_iff.2 rfl, hr]
    rfl

theorem set_of_le {p : TwinGrid} (s : Slot) {i : Nat} (h : p.torus.area ≤ i) (b : Bool) :
    ∃ e, p.set s i b = .failed p e := by
  rw [← p.size_grid s] at h
  exact ⟨_, modify_of_failed _ (Grid.set_of_le h b)⟩

theorem set_of_lt {p : TwinGrid} (s : Slot) {i : Nat} (h : i < p.torus.area) (b : Bool) :
    ∃ q, p.set s i b = .done q () ∧ q.torus = p.torus ∧ q.current = p.current ∧
      q.grid s.other = p.grid s.other := by
  rw [← p.size_grid s] at h
  obtain ⟨q, hq, ht, hc, -, ho⟩ :=
    modify_of_done (fun g => g.torus_set i b) (Grid.set_of_lt h b)
  exact ⟨q, hq, ht, hc, ho⟩

theorem apply_of_fails {c : Call} {p : TwinGrid} (h : c.Fails p.torus) :
    ∃ e, apply c p = .failed p e := by
  cases c with
  | get s i =>
    have hi : (p.grid s).size ≤ i := by rwa [size_grid]
    exact ⟨_, by rw [apply, Grid.get_of_le hi]; rfl⟩
  | readSource i =>
    have hi : p.source.size ≤ i := by rwa [source, size_grid]
    exact ⟨_, by rw [apply, Grid.get_of_le hi]; rfl⟩
  | set s i b =>
    obtain ⟨e, he⟩ := set_of_le s h b
    exact ⟨e, by rw [apply, he]; rfl⟩
  | writeTarget i b =>
    obtain ⟨e, he⟩ := set_of_le p.current.other h b
    exact ⟨e, by rw [apply, he]; rfl⟩
  | sow s choice =>
    have hs : ∃ e, (p.grid s).sowChoice choice = .failed (p.grid s) e := by
      unfold Grid.sowChoice
      cases hr : choice.resolve with
      | error e => exact ⟨e, rfl⟩
      | ok seed =>
        obtain ⟨c, hm, hc⟩ := h seed hr
        exact Grid.sow_of_not_contains ⟨c, hm, by rwa [torus_grid]⟩
    obtain ⟨e, he⟩ := hs
    exact ⟨e, by rw [apply, sow, modify_of_failed _ he]; rfl⟩
  | sweep rule extent =>
    rcases automaton_of_fails h with ⟨e, he⟩ | ⟨a, ha, hne⟩
    · exact ⟨e, by rw [apply, he]⟩
    · obtain ⟨e, he⟩ := sweep_of_ne hne
      exact ⟨e, by rw [apply, ha]; simp only [he]; rfl⟩
  | evolve rule n extent =>
    rcases automaton_of_fails h with ⟨e, he⟩ | ⟨a, ha, hne⟩
    · exact ⟨e, by rw [apply, he]⟩
    · exact ⟨_, by rw [apply, ha]; simp only [evolve, if_neg hne]; rfl⟩
  | swapRoles | other | clear | counts | equal => cases h

theorem Call.Effect.self {c : Call} (p : TwinGrid) (h : c.turns = 0) : c.Effect p p :=
  ⟨rfl, by rw [h]; rfl, fun _ _ => rfl⟩

theorem Call.Effect.at {c : Call} {p q : TwinGrid} {s : Slot} (h : c.turns = 0)
    (hs : ∀ t, ¬ c.Touches p t → t ≠ s) (ht : q.torus = p.torus) (hc : q.current = p.current)
    (ho : q.grid s.other = p.grid s.other) : c.Effect p q where
  torus_eq := ht
  current_eq := by rw [hc, h]; rfl
  frame t htouch := by
    rcases Slot.eq_or_eq_other s t with rfl | rfl
    · exact absurd rfl (hs _ htouch)
    · exact ho

theorem apply_of_not_fails {c : Call} {p : TwinGrid} (h : ¬ c.Fails p.torus) :
    ∃ q r, apply c p = .done q r ∧ c.Effect p q := by
  cases c with
  | get s i =>
    have hi : i < (p.grid s).size := by rw [size_grid]; exact Nat.not_le.1 h
    exact ⟨p, _, by rw [apply, Grid.get_of_lt hi]; rfl, .self p rfl⟩
  | readSource i =>
    have hi : i < p.source.size := by rw [source, size_grid]; exact Nat.not_le.1 h
    exact ⟨p, _, by rw [apply, Grid.get_of_lt hi]; rfl, .self p rfl⟩
  | other | counts | equal => exact ⟨p, _, rfl, .self p rfl⟩
  | set s i b =>
    obtain ⟨q, hq, ht, hc, ho⟩ := set_of_lt s (Nat.not_le.1 h) b
    exact ⟨q, _, by rw [apply, hq]; rfl, .at rfl (fun _ hn => hn) ht hc ho⟩
  | writeTarget i b =>
    obtain ⟨q, hq, ht, hc, ho⟩ := set_of_lt p.current.other (Nat.not_le.1 h) b
    exact ⟨q, _, by rw [apply, hq]; rfl, .at rfl (fun _ hn => hn) ht hc ho⟩
  | clear s =>
    obtain ⟨q, hq, ht, hc, -, ho⟩ :=
      modify_of_done (p := p) (s := s) (f := fun g => .done g.clear ()) Grid.torus_clear rfl
    exact ⟨q, _, by rw [apply, clear, hq]; rfl, .at rfl (fun _ hn => hn) ht hc ho⟩
  | sow s choice =>
    simp only [Call.Fails, not_forall, not_exists, not_and, not_not] at h
    obtain ⟨seed, hseed, hcells⟩ := h
    have hs : (p.grid s).sowChoice choice = .done (seed.planted (p.grid s).torus) () := by
      rw [← torus_grid p s] at hcells
      simp only [Grid.sowChoice, hseed, Grid.sow_of_contains hcells]
    obtain ⟨q, hq, ht, hc, -, ho⟩ := modify_of_done (fun g => g.torus_sowChoice choice) hs
    exact ⟨q, _, by rw [apply, sow, hq]; rfl, .at rfl (fun _ hn => hn) ht hc ho⟩
  | sweep rule extent =>
    obtain ⟨a, ha, ht⟩ := automaton_of_not_fails h
    refine ⟨p.renew a.rule, .nothing, ?_, torus_renew .., current_renew .., ?_⟩
    · rw [apply, ha]
      simp only [sweep_eq_renew ht]
      rfl
    · intro s hs
      obtain rfl : s = p.current := (Slot.eq_or_eq_other p.current s).resolve_right hs
      have hsource := source_renew a.rule p
      rwa [source, current_renew] at hsource
  | evolve rule n extent =>
    obtain ⟨a, ha, ht⟩ := automaton_of_not_fails h
    refine ⟨(advance a.rule)^[n] p, .report (p.reportAfter a.rule n), ?_, torus_iterate_advance ..,
      current_iterate_advance .., fun s hs => absurd trivial hs⟩
    rw [apply, ha]
    simp only [evolve_eq _ n () ht]
    rfl
  | swapRoles =>
    exact ⟨p.swapRoles, _, rfl, rfl, rfl, fun s _ => rfl⟩

theorem fails_iff (c : Call) (p : TwinGrid) :
    c.Fails p.torus ↔ ∃ e, (apply c p).outcome = .error e := by
  constructor
  · intro h
    obtain ⟨e, he⟩ := apply_of_fails h
    exact ⟨e, by rw [he]; rfl⟩
  · rintro ⟨e, he⟩
    by_contra h
    obtain ⟨q, r, hq, -⟩ := apply_of_not_fails h
    rw [hq] at he
    cases he

theorem apply_cases (c : Call) (p : TwinGrid) :
    (∃ e, apply c p = .failed p e) ∨ ∃ q r, apply c p = .done q r ∧ c.Effect p q := by
  by_cases h : c.Fails p.torus
  · exact .inl (apply_of_fails h)
  · exact .inr (apply_of_not_fails h)

theorem state_of_error {c : Call} {p : TwinGrid} {e : Failure}
    (h : (apply c p).outcome = .error e) : (apply c p).state = p := by
  rcases apply_cases c p with ⟨e', he⟩ | ⟨q, r, hq, -⟩
  · rw [he]
    rfl
  · rw [hq] at h
    cases h

theorem torus_apply (c : Call) (p : TwinGrid) : (apply c p).state.torus = p.torus := by
  rcases apply_cases c p with ⟨e, he⟩ | ⟨q, r, hq, heffect⟩
  · rw [he]
    rfl
  · rw [hq]
    exact heffect.torus_eq

theorem grid_apply_of_not_touches {c : Call} {p : TwinGrid} {s : Slot} (hs : ¬ c.Touches p s) :
    (apply c p).state.grid s = p.grid s := by
  rcases apply_cases c p with ⟨e, he⟩ | ⟨q, r, hq, heffect⟩
  · rw [he]
    rfl
  · rw [hq]
    exact heffect.frame s hs

def turns (calls : List Call) (p : TwinGrid) : Nat :=
  (List.zipWith (fun c r => if r.outcome.isOk then c.turns else 0) calls
    (Attempt.trace apply calls p)).sum

theorem current_apply (c : Call) (p : TwinGrid) :
    (apply c p).state.current =
      Slot.other^[if (apply c p).outcome.isOk then c.turns else 0] p.current := by
  rcases apply_cases c p with ⟨e, he⟩ | ⟨q, r, hq, heffect⟩
  · rw [he]
    rfl
  · rw [hq]
    exact heffect.current_eq

theorem torus_final (calls : List Call) (p : TwinGrid) :
    (Attempt.final apply calls p).torus = p.torus :=
  Attempt.final_state (P := fun q => q.torus = p.torus)
    (fun c q hq => (torus_apply c q).trans hq) calls p rfl

theorem current_final (calls : List Call) (p : TwinGrid) :
    (Attempt.final apply calls p).current = Slot.other^[turns calls p] p.current := by
  induction calls generalizing p with
  | nil => rfl
  | cons c calls ih =>
    change (Attempt.final apply calls (apply c p).state).current = _
    rw [ih, current_apply, ← Function.iterate_add_apply, Nat.add_comm]
    rfl

/-- Two grids of one torus keep their places, their torus and their sizes whatever calls are made,
also calls that fail. The roles tell how often they were changed, and each further call either fails
and changes nothing or changes only what it is about. -/
theorem calls_keep_places {a b : Grid} (h : a.torus = b.torus) (calls : List Call) :
    ∃ p, pair a b = .ok p ∧ p.grid .first = a ∧ p.grid .second = b ∧
      let q := Attempt.final apply calls p
      (∀ s, (q.grid s).torus = a.torus ∧ (q.grid s).size = a.torus.rows * a.torus.cols) ∧
      (q.current = .first ↔ Even (turns calls p)) ∧
      ∀ c : Call,
        (c.Fails a.torus ↔ ∃ e, (apply c q).outcome = .error e) ∧
        (∀ e, (apply c q).outcome = .error e → (apply c q).state = q) ∧
        ∀ s, ¬ c.Touches q s → (apply c q).state.grid s = q.grid s := by
  refine ⟨⟨a, b, .first, h⟩, dif_pos h, rfl, rfl, ?_⟩
  intro q
  have ht : q.torus = a.torus := torus_final calls _
  refine ⟨?_, ?_, ?_⟩
  · intro s
    rw [torus_grid, size_grid, ht]
    exact ⟨rfl, rfl⟩
  · have hc : q.current = Slot.other^[turns calls ⟨a, b, .first, h⟩] .first := current_final ..
    rw [hc, Slot.other_iterate, Nat.even_iff]
    split <;> simp_all [Slot.other]
  · intro c
    exact ⟨ht ▸ fails_iff c q, fun _ he => state_of_error he,
      fun _ hs => grid_apply_of_not_touches hs⟩

/-- Three calls on a torus of two cells, of which the last fails. -/
theorem calls_keep_places_of_two_cells :
    let t : Torus := ⟨⟨1, 2⟩, by decide, by decide⟩
    let calls : List Call :=
      [.swapRoles, .evolve (.given Rule.exactlyOne) 3 none, .set .first 2 true]
    (Grid.dead t).torus = (Seed.planted ⟨"", [⟨0, 1⟩]⟩ t).torus ∧
      ∃ p, pair (.dead t) (Seed.planted ⟨"", [⟨0, 1⟩]⟩ t) = .ok p ∧
        (Attempt.final apply calls p).current = .first := by
  intro t calls
  obtain ⟨p, hp, -, -, -, hc, -⟩ :=
    calls_keep_places (a := .dead t) (b := Seed.planted ⟨"", [⟨0, 1⟩]⟩ t) rfl calls
  refine ⟨rfl, p, hp, hc.2 ?_⟩
  obtain rfl := Except.ok.inj hp
  decide

end TwinGrid

end TorusAutomaton
