import TorusAutomaton.Proofs.Cells
import TorusAutomaton.TwinGrid
import Mathlib.Algebra.Ring.Periodic
import Mathlib.Algebra.Ring.Parity
import Mathlib.Data.List.Forall2

/-! Generations of a grid without storage: the grid unrolls to a plane, the
plane moves on, and the torus cuts the next grid out of it. The sweep computes
exactly this, whatever its target held before. -/
namespace TorusAutomaton

namespace Plane

def cut (x : Plane) (t : Torus) : Grid := .tabulate t fun c => x c.row c.col

@[simp] theorem torus_cut (x : Plane) (t : Torus) : (x.cut t).torus = t := rfl

theorem aliveAt_cut (x : Plane) {t : Torus} {c : Cell} (h : t.Contains c) :
    (x.cut t).aliveAt c = x c.row c.col := Grid.aliveAt_tabulate _ h

theorem Repeats.apply_emod {x : Plane} {rows cols : Int} (h : x.Repeats rows cols) (r c : Int) :
    x (r % rows) (c % cols) = x r c := by
  have hr : Function.Periodic (fun a => x a (c % cols)) rows := fun a => h.by_rows a _
  have hc : Function.Periodic (fun b => x r b) cols := fun b => h.by_cols r b
  calc x (r % rows) (c % cols) = x r (c % cols) := by
        have := hr.int_mul (r / rows) (r % rows)
        simpa only [Int.cast_id, Int.emod_add_ediv_mul] using this.symm
    _ = x r c := by
        have := hc.int_mul (c / cols) (c % cols)
        simpa only [Int.cast_id, Int.emod_add_ediv_mul] using this.symm

theorem unroll_cut {x : Plane} {t : Torus} (h : x.Repeats t.rows t.cols) :
    (x.cut t).unroll = x := by
  funext r c
  rw [Grid.unroll_apply, torus_cut, aliveAt_cut x (t.contains_locate r c), Torus.row_locate,
    Torus.col_locate, h.apply_emod]

end Plane

namespace Grid

/-- The generation after a grid. -/
def step (f : Rule) (g : Grid) : Grid := (g.unroll.step f).cut g.torus

def after (f : Rule) : Nat → Grid → Grid
  | 0, g => g
  | n + 1, g => (after f n g).step f

@[simp] theorem torus_step (f : Rule) (g : Grid) : (g.step f).torus = g.torus := rfl

@[simp] theorem torus_after (f : Rule) (n : Nat) (g : Grid) : (g.after f n).torus = g.torus := by
  induction n with
  | zero => rfl
  | succ n ih => exact ih

theorem after_step (f : Rule) (n : Nat) (g : Grid) : (g.step f).after f n = g.after f (n + 1) := by
  induction n with
  | zero => rfl
  | succ n ih => rw [after, ih]; rfl

theorem after_add (f : Rule) (m n : Nat) (g : Grid) :
    g.after f (m + n) = (g.after f m).after f n := by
  induction n with
  | zero => rfl
  | succ n ih => rw [← Nat.add_assoc, after, ih, after]

theorem aliveAt_step (f : Rule) {g : Grid} {c : Cell} (h : g.torus.Contains c) :
    (g.step f).aliveAt c = f (g.unroll.sees c.row c.col) := Plane.aliveAt_cut _ h

theorem unroll_step (f : Rule) (g : Grid) : (g.step f).unroll = g.unroll.step f :=
  Plane.unroll_cut (g.unroll_repeats.after f 1)

theorem unroll_after (f : Rule) (n : Nat) (g : Grid) :
    (g.after f n).unroll = g.unroll.after f n := by
  induction n with
  | zero => rfl
  | succ n ih => rw [after, unroll_step, ih, Plane.after]

theorem aliveAt_after {g : Grid} {c : Cell} (hc : g.torus.Contains c) (f : Rule) (n : Nat) :
    (g.after f n).aliveAt c = g.unroll.after f n c.row c.col := by
  rw [← unroll_after, unroll_of_contains (by rwa [torus_after])]

end Grid

namespace Automaton

theorem next_of_lt {a : Automaton} {source : Grid} (ha : source.torus = a.torus) {i : Nat}
    (hi : i < source.torus.area) : a.next source i = .ok ((source.step a.rule).alive i) := by
  unfold next
  rw [← ha, Torus.sample_of_row_lt (Torus.row_cellOf_lt hi), Grid.alive_eq_aliveAt,
    Grid.torus_step, Grid.aliveAt_step a.rule (Torus.contains_cellOf hi)]
  rfl

/-- In whatever order cells are updated, those updated hold their next states and the others what
they held: the source is not written, so no update can spoil a later one. -/
theorem updateAll_of_lt {a : Automaton} {source : Grid} (ha : source.torus = a.torus)
    (is : List Nat) (target : Grid) (hs : ∀ i ∈ is, i < source.torus.area)
    (ht : ∀ i ∈ is, i < target.torus.area) :
    ∃ result : Grid, a.updateAll source is target = .done result () ∧
      result.torus = target.torus ∧
      ∀ j, result.alive j = if j ∈ is then (source.step a.rule).alive j else target.alive j := by
  induction is generalizing target with
  | nil => exact ⟨target, rfl, rfl, fun j => by simp⟩
  | cons i is ih =>
    have hi : i < target.states.size := by
      rw [target.size_states]
      exact ht i (by simp)
    obtain ⟨result, hr, htorus, halive⟩ :=
      ih (target.write i ((source.step a.rule).alive i) hi)
        (fun j hj => hs j (List.mem_cons_of_mem _ hj))
        (fun j hj => ht j (List.mem_cons_of_mem _ hj))
    refine ⟨result, ?_, htorus, ?_⟩
    · -- the source is the same for every update, so the list can be taken in any order
      unfold updateAll update
      rw [next_of_lt ha (hs i (by simp))]
      dsimp only
      rw [Grid.set_of_lt (show i < target.size from hi), Attempt.andThen_done, hr]
    · intro j
      rw [halive, Grid.alive_write]
      by_cases hj : j ∈ is
      · simp [hj]
      · by_cases hij : i = j
        · subst j; simp
        · simp [hj, hij, Ne.symm hij]

theorem sweep_eq_step {a : Automaton} {source target : Grid} (ha : source.torus = a.torus)
    (ht : target.torus = source.torus) :
    a.sweep source target = .done (source.step a.rule) () := by
  have hsize := source.size_eq_area
  obtain ⟨result, hr, htorus, halive⟩ := updateAll_of_lt ha (List.range source.size) target
    (fun i hi => by rwa [List.mem_range, hsize] at hi)
    (fun i hi => by rwa [List.mem_range, hsize, ← ht] at hi)
  have he : result = source.step a.rule := by
    apply Grid.ext_alive
    · rw [htorus, ht, Grid.torus_step]
    intro i hi
    rw [htorus, ht, ← hsize] at hi
    rw [halive, if_pos (List.mem_range.2 hi)]
  unfold sweep
  rw [hr, he]

end Automaton

/-! The two places of a pair and the two roles that they take. A change of roles moves no grid, and
a call on the grid in one place leaves the other grid and the roles alone. -/

namespace Slot

theorem other_involutive : Function.Involutive other := by
  intro s
  cases s <;> rfl

theorem other_iterate (n : Nat) (s : Slot) : other^[n] s = if n % 2 = 0 then s else s.other := by
  by_cases h : n % 2 = 0
  · rw [if_pos h, other_involutive.iterate_even (Nat.even_iff.2 h), id]
  · rw [if_neg h, other_involutive.iterate_odd (Nat.odd_iff.2 (by omega))]

theorem eq_or_eq_other (s t : Slot) : t = s ∨ t = s.other := by
  cases s <;> cases t <;> simp [other]

end Slot

namespace TwinGrid

theorem torus_grid (p : TwinGrid) (s : Slot) : (p.grid s).torus = p.torus := by
  cases s with
  | first => rfl
  | second => exact p.same_torus.symm

theorem torus_source (p : TwinGrid) : p.source.torus = p.torus := p.torus_grid _

theorem ext_places {p q : TwinGrid} (hc : p.current = q.current)
    (hg : ∀ s, p.grid s = q.grid s) : p = q := by
  obtain ⟨a, b, s, hab⟩ := p
  obtain ⟨x, y, t, hxy⟩ := q
  obtain rfl : s = t := hc
  obtain rfl : a = x := hg .first
  obtain rfl : b = y := hg .second
  rfl

@[simp] theorem current_swapRoles (p : TwinGrid) : p.swapRoles.current = p.current.other := rfl

@[simp] theorem source_swapRoles (p : TwinGrid) : p.swapRoles.source = p.target := rfl

@[simp] theorem target_swapRoles (p : TwinGrid) : p.swapRoles.target = p.source := by
  obtain ⟨x, y, current, same⟩ := p
  cases current <;> rfl

section

variable {α : Type} (p : TwinGrid) (s : Slot) (f : Grid → Attempt Grid α)
  (keeps : ∀ g, (f g).state.torus = g.torus)

theorem grid_modify : (p.modify s f keeps).state.grid s = (f (p.grid s)).state := by
  cases s <;> rfl

theorem grid_other_modify : (p.modify s f keeps).state.grid s.other = p.grid s.other := by
  cases s <;> rfl

theorem current_modify : (p.modify s f keeps).state.current = p.current := by
  cases s <;> rfl

theorem outcome_modify : (p.modify s f keeps).outcome = (f (p.grid s)).outcome := by
  cases s <;> rfl

end

section

variable {α : Type} {p : TwinGrid} {s : Slot} {f : Grid → Attempt Grid α}

theorem modify_of_done (keeps : ∀ g, (f g).state.torus = g.torus) {g : Grid} {r : α}
    (h : f (p.grid s) = .done g r) :
    ∃ q : TwinGrid, p.modify s f keeps = .done q r ∧ q.torus = p.torus ∧
      q.current = p.current ∧ q.grid s = g ∧ q.grid s.other = p.grid s.other := by
  have ho : (p.modify s f keeps).outcome = .ok r := by rw [outcome_modify, h]; rfl
  have hg : (p.modify s f keeps).state.grid s = g := by rw [grid_modify, h]; rfl
  exact ⟨_, Attempt.eq_done ho, torus_modify .., current_modify .., hg, grid_other_modify ..⟩

theorem modify_of_failed (keeps : ∀ g, (f g).state.torus = g.torus) {e : Failure}
    (h : f (p.grid s) = .failed (p.grid s) e) : p.modify s f keeps = .failed p e := by
  have ho : (p.modify s f keeps).outcome = .error e := by rw [outcome_modify, h]; rfl
  have hp : (p.modify s f keeps).state = p := by
    apply ext_places (current_modify ..)
    intro t
    rcases Slot.eq_or_eq_other s t with rfl | rfl
    · rw [grid_modify, h]; rfl
    · exact grid_other_modify ..
  rw [Attempt.eq_failed ho, hp]

end

end TwinGrid

/-! Evolution in place computes the generations of the automaton. Sweeps alternate between two
grids, but what an observer sees and what is left at the end depend on the current grid alone. -/

namespace TwinGrid

def renew (f : Rule) (p : TwinGrid) : TwinGrid :=
  match p with
  | ⟨x, _, .first, _⟩ => ⟨x, x.step f, .first, rfl⟩
  | ⟨_, y, .second, _⟩ => ⟨y.step f, y, .second, rfl⟩

def advance (f : Rule) (p : TwinGrid) : TwinGrid := (p.renew f).swapRoles

@[simp] theorem current_renew (f : Rule) (p : TwinGrid) : (p.renew f).current = p.current := by
  obtain ⟨x, y, current, same⟩ := p
  cases current <;> rfl

@[simp] theorem source_renew (f : Rule) (p : TwinGrid) : (p.renew f).source = p.source := by
  obtain ⟨x, y, current, same⟩ := p
  cases current <;> rfl

@[simp] theorem target_renew (f : Rule) (p : TwinGrid) :
    (p.renew f).target = p.source.step f := by
  obtain ⟨x, y, current, same⟩ := p
  cases current <;> rfl

@[simp] theorem torus_renew (f : Rule) (p : TwinGrid) : (p.renew f).torus = p.torus := by
  rw [← torus_source, source_renew, torus_source]

@[simp] theorem current_advance (f : Rule) (p : TwinGrid) :
    (p.advance f).current = p.current.other := by simp [advance]

@[simp] theorem source_advance (f : Rule) (p : TwinGrid) :
    (p.advance f).source = p.source.step f := by simp [advance]

@[simp] theorem target_advance (f : Rule) (p : TwinGrid) : (p.advance f).target = p.source := by
  simp [advance]

@[simp] theorem torus_advance (f : Rule) (p : TwinGrid) : (p.advance f).torus = p.torus := by
  simp [advance]

theorem current_iterate_advance (f : Rule) (n : Nat) (p : TwinGrid) :
    ((advance f)^[n] p).current = Slot.other^[n] p.current := by
  induction n with
  | zero => rfl
  | succ n ih =>
    rw [Function.iterate_succ_apply', current_advance, ih, Function.iterate_succ_apply']

theorem source_iterate_advance (f : Rule) (n : Nat) (p : TwinGrid) :
    ((advance f)^[n] p).source = p.source.after f n := by
  induction n with
  | zero => rfl
  | succ n ih => rw [Function.iterate_succ_apply', source_advance, ih, Grid.after]

theorem target_iterate_advance (f : Rule) (n : Nat) (p : TwinGrid) :
    ((advance f)^[n + 1] p).target = p.source.after f n := by
  rw [Function.iterate_succ_apply', target_advance, source_iterate_advance]

theorem torus_iterate_advance (f : Rule) (n : Nat) (p : TwinGrid) :
    ((advance f)^[n] p).torus = p.torus := by
  rw [← torus_source, source_iterate_advance, Grid.torus_after, torus_source]

theorem sweep_eq_renew {p : TwinGrid} {a : Automaton} (ha : p.torus = a.torus) :
    p.sweep a = .done (p.renew a.rule) () := by
  obtain ⟨x, y, current, same⟩ := p
  cases current with
  | first =>
    have h : a.sweep x y = .done (x.step a.rule) () := Automaton.sweep_eq_step ha same.symm
    simp only [sweep, renew, h]
    rfl
  | second =>
    have h : a.sweep y x = .done (y.step a.rule) () :=
      Automaton.sweep_eq_step (same.symm.trans ha) same
    simp only [sweep, renew, h]
    rfl

/-- What an observer of `n` generations is shown, the first of which has the number `k`. -/
def generations (f : Rule) (k n : Nat) (p : TwinGrid) : List Observation :=
  (List.range n).map fun j => ⟨k + j, Slot.other^[j + 1] p.current, p.source.after f (j + 1)⟩

theorem generations_succ (f : Rule) (k n : Nat) (p : TwinGrid) :
    p.generations f k (n + 1) =
      ⟨k, (p.advance f).current, (p.advance f).source⟩ ::
        (p.advance f).generations f (k + 1) n := by
  unfold generations
  rw [List.range_succ_eq_map, List.map_cons, List.map_map]
  congr 1
  · simp [Grid.after]
  · apply List.map_congr_left
    intro j _
    rw [source_advance, current_advance, Grid.after_step, ← Function.iterate_succ_apply,
      Nat.add_right_comm]
    rfl

theorem length_generations (f : Rule) (k n : Nat) (p : TwinGrid) :
    (p.generations f k n).length = n := by simp [generations]

theorem forall₂_generations {R : Observation → Observation → Prop} {f f' : Rule} {k n : Nat}
    {p q : TwinGrid}
    (h : ∀ j < n, R ⟨k + j, Slot.other^[j + 1] p.current, p.source.after f (j + 1)⟩
      ⟨k + j, Slot.other^[j + 1] q.current, q.source.after f' (j + 1)⟩) :
    List.Forall₂ R (p.generations f k n) (q.generations f' k n) := by
  unfold generations
  rw [List.forall₂_map_left_iff, List.forall₂_map_right_iff, List.forall₂_same]
  intro j hj
  exact h j (List.mem_range.1 hj)

theorem evolveFrom_eq {α : Type} {a : Automaton} (observe : α → Observation → α) (n k : Nat)
    (seen : α) {p : TwinGrid} (ha : p.torus = a.torus) :
    evolveFrom a observe n k seen p =
      .done ((advance a.rule)^[n] p) ((p.generations a.rule k n).foldl observe seen) := by
  induction n generalizing k seen p with
  | zero => rfl
  | succ n ih =>
    have hn : (p.advance a.rule).torus = a.torus := (torus_advance ..).trans ha
    unfold evolveFrom
    rw [sweep_eq_renew ha, Attempt.andThen_done]
    change evolveFrom a observe n (k + 1) _ (p.advance a.rule) = _
    rw [ih _ _ hn, generations_succ, List.foldl_cons, Function.iterate_succ_apply]
    rfl

def reportAfter (f : Rule) (n : Nat) (p : TwinGrid) : Report where
  generations := n
  cellsPerSweep := p.torus.area
  alive := (p.source.after f n).aliveCount
  output := Slot.other^[n] p.current

theorem evolve_eq {α : Type} {a : Automaton} (observe : α → Observation → α) (n : Nat) (seen : α)
    {p : TwinGrid} (ha : p.torus = a.torus) :
    p.evolve a n observe seen = .done ((advance a.rule)^[n] p)
      (p.reportAfter a.rule n, (p.generations a.rule 1 n).foldl observe seen) := by
  unfold evolve
  rw [if_pos ha, evolveFrom_eq observe n 1 seen ha, Attempt.andThen_done]
  simp only [report, reportAfter, torus_iterate_advance, source_iterate_advance,
    current_iterate_advance]

def watch (p : TwinGrid) (a : Automaton) (n : Nat) :
    Attempt TwinGrid (Report × List Observation) := p.evolve a n (fun seen o => seen ++ [o]) []

theorem watch_eq {a : Automaton} (n : Nat) {p : TwinGrid} (ha : p.torus = a.torus) :
    p.watch a n = .done ((advance a.rule)^[n] p)
      (p.reportAfter a.rule n, p.generations a.rule 1 n) := by
  unfold watch
  rw [evolve_eq _ n [] ha, List.foldl_append_eq_append, List.nil_append, ← List.flatMap_def,
    List.flatMap_singleton']

/-- Whether evolution with nobody watching succeeds, leaves `q` and reports `r`. -/
def Evolves (p : TwinGrid) (f : Rule) (n : Nat) (q : TwinGrid) (r : Report) : Prop :=
  p.evolve ⟨p.torus, f⟩ n (fun _ _ => ()) () = .done q (r, ())

theorem evolves_advance (p : TwinGrid) (f : Rule) (n : Nat) :
    p.Evolves f n ((advance f)^[n] p) (p.reportAfter f n) := evolve_eq _ n () rfl

/-- Evolution never fails on grids of the automaton's own torus. The observer sees each generation
once, in order and from alternating places; at the end the two last generations are left. -/
theorem evolve_runs_through_generations {α : Type} (p : TwinGrid) (f : Rule) (n : Nat)
    (observe : α → Observation → α) (seen : α) :
    ∃ q : TwinGrid,
      p.evolve ⟨p.torus, f⟩ n observe seen =
        .done q (⟨n, p.torus.rows * p.torus.cols, (p.source.after f n).aliveCells.card,
            Slot.other^[n] p.current⟩,
          ((List.range n).map fun k => Observation.mk (k + 1) (Slot.other^[k + 1] p.current)
            (p.source.after f (k + 1))).foldl observe seen) ∧
      q.current = Slot.other^[n] p.current ∧
      q.source = p.source.after f n ∧
      q.target = match n with
        | 0 => p.target
        | m + 1 => p.source.after f m := by
  refine ⟨(advance f)^[n] p, ?_, current_iterate_advance f n p, source_iterate_advance f n p, ?_⟩
  · rw [evolve_eq observe n seen rfl]
    simp only [reportAfter, generations, Extent.area, Nat.add_comm 1, Grid.card_aliveCells]
  · cases n with
    | zero => rfl
    | succ n => exact target_iterate_advance f n p

end TwinGrid

end TorusAutomaton
