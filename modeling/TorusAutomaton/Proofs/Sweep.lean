import TorusAutomaton.Proofs.Evolution

/-! A sweep as work on two grids of any sizes, one to read and one to write.
On grids of one torus the cells can be taken in any order; on others the sweep
stops at a known place and with a known failure. -/
namespace TorusAutomaton

namespace Automaton

theorem sweep_of_ne {a : Automaton} {source : Grid} (ha : source.torus ≠ a.torus)
    (target : Grid) :
    a.sweep source target = .failed target
      (.fault (.disagreement .sampling source.torus.toExtent a.torus.toExtent)) := by
  have hsize := source.size_eq_area
  obtain ⟨n, hn⟩ : ∃ n, source.size = n + 1 := ⟨source.size - 1, by
    have := source.torus.area_pos
    omega⟩
  unfold sweep
  rw [hn, List.range_succ_eq_map]
  simp only [updateAll, update, next, Torus.sample, if_neg ha]
  rfl

theorem updateAll_append (a : Automaton) (source : Grid) (is js : List Nat) (target : Grid) :
    a.updateAll source (is ++ js) target =
      (a.updateAll source is target).andThen fun g _ => a.updateAll source js g := by
  induction is generalizing target with
  | nil => rfl
  | cons i is ih =>
    rw [List.cons_append, updateAll, updateAll]
    rcases a.update source i target with ⟨g, _ | _⟩
    · rfl
    · exact ih g

end Automaton

namespace Grid

theorem size_eq {g h : Grid} (ht : g.torus = h.torus) : g.size = h.size := by
  rw [size_eq_area, size_eq_area, ht]

theorem ext_get {g h : Grid} (ht : g.torus = h.torus) (hget : ∀ i < g.size, g.get i = h.get i) :
    g = h := by
  apply ext_alive ht
  intro i hi
  have hi' : i < g.size := g.size_eq_area ▸ hi
  have hread := hget i hi'
  rw [get_of_lt hi', get_of_lt (size_eq ht ▸ hi')] at hread
  exact Except.ok.inj hread

end Grid

/-- Two grids, not always of one torus. -/
structure GridPair where
  source : Grid
  target : Grid
  deriving DecidableEq

namespace GridPair

/-- One cell of a sweep: reads what it sees in the source as this is now, and writes the target. -/
def update (x : GridPair) (a : Automaton) (i : Nat) : Attempt GridPair Unit :=
  match a.next x.source i with
  | .ok b => (x.target.set i b).onState fun g => { x with target := g }
  | .error e => .failed x e

def updateAll (a : Automaton) : List Nat → GridPair → Attempt GridPair Unit
  | [], x => .done x ()
  | i :: is, x => (x.update a i).andThen fun x _ => updateAll a is x

def sweep (x : GridPair) (a : Automaton) : Attempt GridPair Unit :=
  updateAll a (List.range x.source.size) x

theorem update_eq (x : GridPair) (a : Automaton) (i : Nat) :
    x.update a i = (a.update x.source i x.target).onState (GridPair.mk x.source) := by
  unfold update Automaton.update
  cases a.next x.source i <;> rfl

theorem updateAll_eq (a : Automaton) (is : List Nat) (x : GridPair) :
    updateAll a is x = (a.updateAll x.source is x.target).onState (GridPair.mk x.source) := by
  induction is generalizing x with
  | nil => rfl
  | cons i is ih =>
    rw [updateAll, Automaton.updateAll, update_eq]
    rcases a.update x.source i x.target with ⟨g, _ | _⟩
    · rfl
    · exact ih ⟨x.source, g⟩

theorem sweep_eq (x : GridPair) (a : Automaton) :
    x.sweep a = (a.sweep x.source x.target).onState (GridPair.mk x.source) := updateAll_eq ..

/-- What a sweep of an automaton leaves, and how it ends. No cell holds anything but its next state
or what it held before. -/
inductive Swept (a : Automaton) (x : GridPair) : Attempt GridPair Unit → Prop where
  | refused : x.source.torus ≠ a.torus →
      Swept a x (.failed x
        (.fault (.disagreement .sampling x.source.torus.toExtent a.torus.toExtent)))
  | cutShort (g : Grid) : x.source.torus = a.torus → x.target.size < x.source.size →
      g.torus = x.target.torus → (∀ i < x.target.size, g.get i = a.next x.source i) →
      Swept a x (.failed ⟨x.source, g⟩ (.fault (.index x.target.size x.target.size)))
  | finished (g : Grid) : x.source.torus = a.torus → x.source.size ≤ x.target.size →
      g.torus = x.target.torus → (∀ i < x.source.size, g.get i = a.next x.source i) →
      (∀ i, x.source.size ≤ i → g.get i = x.target.get i) →
      Swept a x (.done ⟨x.source, g⟩ ())

theorem swept_cutShort {a : Automaton} {x : GridPair} (ha : x.source.torus = a.torus)
    (h : x.target.size < x.source.size) : Swept a x (x.sweep a) := by
  have hsource := x.source.size_eq_area
  have htarget := x.target.size_eq_area
  obtain ⟨g, hg, htorus, halive⟩ := Automaton.updateAll_of_lt ha (List.range x.target.size) x.target
    (fun i hi => by rw [List.mem_range] at hi; omega)
    (fun i hi => by rwa [List.mem_range, htarget] at hi)
  have hsize : g.size = x.target.size := Grid.size_eq htorus
  obtain ⟨rest, hrange⟩ : ∃ rest,
      List.range x.source.size = List.range x.target.size ++ x.target.size :: rest := by
    obtain ⟨n, hn⟩ : ∃ n, x.source.size = x.target.size + (n + 1) :=
      ⟨x.source.size - x.target.size - 1, by omega⟩
    refine ⟨(List.range n).map (fun i => x.target.size + (i + 1)), ?_⟩
    rw [hn, List.range_add, List.range_succ_eq_map, List.map_cons, List.map_map]
    rfl
  have hstop : a.update x.source x.target.size g =
      .failed g (.fault (.index x.target.size x.target.size)) := by
    unfold Automaton.update
    rw [Automaton.next_of_lt ha (by omega)]
    dsimp only
    rw [Grid.set_of_le (by omega), hsize]
  have hsweep : a.sweep x.source x.target =
      .failed g (.fault (.index x.target.size x.target.size)) := by
    unfold Automaton.sweep
    rw [hrange, Automaton.updateAll_append, hg, Attempt.andThen_done, Automaton.updateAll, hstop,
      Attempt.andThen_failed]
  rw [sweep_eq, hsweep]
  refine .cutShort g ha h htorus fun i hi => ?_
  rw [Grid.get_of_lt (by omega), halive, if_pos (List.mem_range.2 hi),
    Automaton.next_of_lt ha (by omega)]

theorem swept_finished {a : Automaton} {x : GridPair} (ha : x.source.torus = a.torus)
    (h : x.source.size ≤ x.target.size) : Swept a x (x.sweep a) := by
  have hsource := x.source.size_eq_area
  have htarget := x.target.size_eq_area
  obtain ⟨g, hg, htorus, halive⟩ := Automaton.updateAll_of_lt ha (List.range x.source.size) x.target
    (fun i hi => by rwa [List.mem_range, hsource] at hi)
    (fun i hi => by rw [List.mem_range] at hi; omega)
  have hsize : g.size = x.target.size := Grid.size_eq htorus
  have hsweep : a.sweep x.source x.target = .done g () := hg
  rw [sweep_eq, hsweep]
  refine .finished g ha h htorus (fun i hi => ?_) (fun i hi => ?_)
  · rw [Grid.get_of_lt (by omega), halive, if_pos (List.mem_range.2 hi),
      Automaton.next_of_lt ha (by omega)]
  · by_cases hi' : i < x.target.size
    · rw [Grid.get_of_lt (by omega), Grid.get_of_lt hi', halive,
        if_neg (by rw [List.mem_range]; omega)]
    · rw [Grid.get_of_le (by omega), Grid.get_of_le (by omega), hsize]

theorem swept_sweep (a : Automaton) (x : GridPair) : Swept a x (x.sweep a) := by
  by_cases ha : x.source.torus = a.torus
  · by_cases h : x.target.size < x.source.size
    · exact swept_cutShort ha h
    · exact swept_finished ha (Nat.not_lt.1 h)
  · rw [sweep_eq, Automaton.sweep_of_ne ha]
    exact .refused ha

theorem Swept.unique {a : Automaton} {x : GridPair} {r r' : Attempt GridPair Unit}
    (h : Swept a x r) (h' : Swept a x r') : r = r' := by
  cases h with
  | refused ha =>
    cases h' with
    | refused => rfl
    | cutShort _ ha' => exact absurd ha' ha
    | finished _ ha' => exact absurd ha' ha
  | cutShort g ha hlt ht hg =>
    cases h' with
    | refused ha' => exact absurd ha ha'
    | finished _ _ hle => omega
    | cutShort g' _ _ ht' hg' =>
      have hsize : g.size = x.target.size := Grid.size_eq ht
      have he : g = g' := Grid.ext_get (ht.trans ht'.symm) fun i hi => by
        rw [hg i (hsize ▸ hi), hg' i (hsize ▸ hi)]
      rw [he]
  | finished g ha hle ht hg hrest =>
    cases h' with
    | refused ha' => exact absurd ha ha'
    | cutShort _ _ hlt => omega
    | finished g' _ _ ht' hg' hrest' =>
      have he : g = g' := by
        apply Grid.ext_get (ht.trans ht'.symm)
        intro i _
        rcases Nat.lt_or_ge i x.source.size with hi | hi
        · rw [hg i hi, hg' i hi]
        · rw [hrest i hi, hrest' i hi]
      rw [he]

/-- However the three sizes differ, a sweep has one way to end. It never
writes its source; a source of another torus is refused before the first
write, and a target that is too small is written to its end. -/
theorem sweep_ends_as_swept (a : Automaton) (x : GridPair) :
    x.sweep a = (a.sweep x.source x.target).onState (GridPair.mk x.source) ∧
      (∀ r, Swept a x r ↔ r = x.sweep a) ∧
      (x.sweep a).state.source = x.source ∧
      ∀ e, (x.sweep a).outcome = .error e → e.message? = some
        (if x.source.torus = a.torus then
          "index out of bounds: the len is " ++ toString x.target.size ++
            " but the index is " ++ toString x.target.size
        else
          "assertion `left == right` failed: sampler and buffer dims differ" ++
            "\n  left: " ++ x.source.torus.record ++ "\n right: " ++ a.torus.record) := by
  have hswept := swept_sweep a x
  refine ⟨sweep_eq x a, fun r => ⟨fun h => h.unique hswept, fun h => h ▸ hswept⟩, ?_, ?_⟩
  · rw [sweep_eq]
    rfl
  · intro e he
    generalize x.sweep a = r at hswept he
    cases hswept with
    | refused ha =>
      cases he
      rw [if_neg ha]
      rfl
    | cutShort g ha =>
      cases he
      rw [if_pos ha]
      rfl
    | finished => cases he

/-- A sweep is the same whatever the order of its cells and however often each is taken: any list
that has all cells of the torus and no others gives the generation after the source, and nothing is
left of what the target held. -/
theorem updateAll_in_any_order {x : GridPair} {t : Torus} (hs : x.source.torus = t)
    (ht : x.target.torus = t) (f : Rule) {is : List Nat}
    (his : ∀ i, i ∈ is ↔ i < t.rows * t.cols) :
    ∃ g : Grid, (Automaton.mk t f).sweep x.source x.target = .done g () ∧
      (∀ i < t.rows * t.cols, (Automaton.mk t f).next x.source i = .ok (g.alive i)) ∧
      ∀ target : Grid, target.torus = t →
        updateAll ⟨t, f⟩ is ⟨x.source, target⟩ = .done ⟨x.source, g⟩ () := by
  subst hs
  refine ⟨x.source.step f, Automaton.sweep_eq_step rfl ht,
    fun i hi => Automaton.next_of_lt rfl hi, ?_⟩
  intro target htarget
  obtain ⟨g, hg, htorus, halive⟩ := Automaton.updateAll_of_lt (a := ⟨x.source.torus, f⟩) rfl
    is target (fun i hi => (his i).1 hi) (fun i hi => htarget ▸ (his i).1 hi)
  have he : g = x.source.step f := by
    apply Grid.ext_alive
    · rw [htorus, htarget, Grid.torus_step]
    intro i hi
    rw [htorus, htarget] at hi
    rw [halive, if_pos ((his i).2 hi)]
  rw [updateAll_eq, hg, he]
  rfl

/-- Two cells taken from the last to the first, the last one twice. -/
theorem updateAll_in_any_order_of_two_cells :
    let t : Torus := ⟨⟨1, 2⟩, by decide, by decide⟩
    let x : GridPair := ⟨.tabulate t fun c => c.col = 1, .dead t⟩
    x.source.torus = t ∧ x.target.torus = t ∧ (∀ i, i ∈ [1, 1, 0] ↔ i < t.rows * t.cols) ∧
      (updateAll ⟨t, fun n => n.left⟩ [1, 1, 0] x).state.target.picture = ["#."] := by
  intro t x
  have his : ∀ i, i ∈ [1, 1, 0] ↔ i < t.rows * t.cols := by
    intro i
    have hcells : t.rows * t.cols = 2 := rfl
    rw [hcells]
    simp only [List.mem_cons, List.not_mem_nil, or_false]
    omega
  obtain ⟨g, hg, -, horder⟩ :=
    updateAll_in_any_order (x := x) (t := t) rfl rfl (fun n => n.left) his
  refine ⟨rfl, rfl, his, ?_⟩
  rw [horder x.target rfl]
  rw [← show ((Automaton.mk t fun n => n.left).sweep x.source x.target).state.picture = ["#."] from
    by decide, hg]
  rfl

end GridPair

end TorusAutomaton
