import TorusAutomaton.Proofs.Evolution
import TorusAutomaton.Proofs.Cells
import TorusAutomaton.Proofs.Translation
import TorusAutomaton.Proofs.Run
import TorusAutomaton.Proofs.Planting
import Mathlib.Data.List.Range
import Mathlib.Algebra.Order.Group.Unbundled.Int
import Mathlib.Data.Int.ModEq

/-! Relations between two runs. Left and down are one cell, so a torus shows
only half of all neighborhoods; a relation between states that two rules keep
on those is kept by every generation. Instances are rules that agree, rules
that grow with their neighborhood, and a rule beside its dual. -/
namespace TorusAutomaton

namespace Neighborhood

/-- Whether left and down show the same state. -/
def Paired (n : Neighborhood) : Prop := n.left = n.down

def complement (n : Neighborhood) : Neighborhood := ⟨!n.left, !n.right, !n.up, !n.down⟩

theorem get_complement (n : Neighborhood) (d : Direction) : n.complement.get d = !n.get d := by
  cases d <;> rfl

end Neighborhood

theorem Plane.paired_sees (x : Plane) (r c : Int) : (x.sees r c).Paired := rfl

namespace Rule

/-- Whether two rules give related states in related neighborhoods, of those
that a torus can show. -/
def Keeps (P : Bool → Bool → Prop) (f h : Rule) : Prop :=
  ∀ m n : Neighborhood, m.Paired → n.Paired → (∀ d, P (m.get d) (n.get d)) → P (f m) (h n)

/-- Whether more alive neighbors never kill a cell. -/
def Ascending (f : Rule) : Prop :=
  ∀ m n : Neighborhood, m.Paired → n.Paired → (∀ d, m.get d = true → n.get d = true) →
    f m = true → f n = true

/-- The rule that sees dead cells as alive and alive ones as dead, and answers so. -/
def dual (f : Rule) : Rule := fun n => !f n.complement

theorem majority_of_paired {n : Neighborhood} (hn : n.Paired) :
    majority n = (n.left && (n.right || n.up)) := by
  obtain ⟨l, r, u, d⟩ := n
  obtain rfl : l = d := hn
  cases l <;> cases r <;> cases u <;> rfl

theorem exactlyOne_of_paired {n : Neighborhood} (hn : n.Paired) :
    exactlyOne n = (!n.left && (n.right ^^ n.up)) := by
  obtain ⟨l, r, u, d⟩ := n
  obtain rfl : l = d := hn
  cases l <;> cases r <;> cases u <;> rfl

theorem ascending_majority : majority.Ascending := by
  intro m n hm hn hmn
  rw [majority_of_paired hm, majority_of_paired hn]
  simp only [Bool.and_eq_true, Bool.or_eq_true]
  rintro ⟨hleft, hright | hup⟩
  · exact ⟨hmn .left hleft, .inl (hmn .right hright)⟩
  · exact ⟨hmn .left hleft, .inr (hmn .up hup)⟩

theorem keeps_eq {f h : Rule} (hfh : ∀ n : Neighborhood, n.Paired → f n = h n) :
    f.Keeps (· = ·) h := by
  intro m n hm _ hmn
  obtain rfl : m = n := Neighborhood.ext_get hmn
  exact hfh m hm

theorem keeps_dual (f : Rule) : f.Keeps (fun a b => b = !a) f.dual := by
  intro m n _ _ hmn
  have hn : n.complement = m := by
    apply Neighborhood.ext_get
    intro d
    rw [Neighborhood.get_complement, hmn d, Bool.not_not]
  change (!f n.complement) = !f m
  rw [hn]

end Rule

variable {P : Bool → Bool → Prop} {f h : Rule}

theorem Plane.rel_after (hk : f.Keeps P h) {x y : Plane} (hxy : ∀ r c, P (x r c) (y r c)) (n : Nat)
    (r c : Int) : P (x.after f n r c) (y.after h n r c) := by
  induction n generalizing r c with
  | zero => exact hxy r c
  | succ n ih =>
    apply hk _ _ (paired_sees ..) (paired_sees ..)
    intro d
    rw [get_sees, get_sees]
    exact ih ..

namespace Grid

variable {g g' : Grid}

theorem rel_unroll (ht : g'.torus = g.torus) (hp : ∀ i < g.torus.area, P (g.alive i) (g'.alive i))
    (r c : Int) : P (g.unroll r c) (g'.unroll r c) := by
  have hi := Torus.rowMajor_lt (g.torus.contains_locate r c)
  have := hp _ hi
  rwa [unroll_apply, unroll_apply, aliveAt, aliveAt, ht]

theorem rel_after (hk : f.Keeps P h) (ht : g'.torus = g.torus)
    (hp : ∀ i < g.torus.area, P (g.alive i) (g'.alive i)) (n : Nat) :
    ∀ i < g.torus.area, P ((g.after f n).alive i) ((g'.after h n).alive i) := by
  intro i hi
  have hc := Torus.contains_cellOf hi
  rw [alive_eq_aliveAt, alive_eq_aliveAt, torus_after, torus_after, aliveAt_after hc, ht,
    aliveAt_after (ht ▸ hc)]
  exact Plane.rel_after hk (rel_unroll ht hp) n _ _

theorem after_congr (hfh : ∀ n : Neighborhood, n.Paired → f n = h n) (g : Grid) (n : Nat) :
    g.after f n = g.after h n := by
  apply ext_alive (by rw [torus_after, torus_after])
  intro i hi
  rw [torus_after] at hi
  exact rel_after (Rule.keeps_eq hfh) rfl (fun _ _ => rfl) n i hi

theorem aliveCells_after_subset (hf : f.Ascending) (ht : g'.torus = g.torus)
    (hs : g.aliveCells ⊆ g'.aliveCells) (n : Nat) :
    (g.after f n).aliveCells ⊆ (g'.after f n).aliveCells := by
  rw [subset_aliveCells_iff ht] at hs
  rw [subset_aliveCells_iff (by rw [torus_after, torus_after, ht]), torus_after]
  intro c hc
  have hk : f.Keeps (fun a b => a = true → b = true) f := hf
  rw [aliveAt_after hc, aliveAt_after (ht ▸ hc)]
  apply Plane.rel_after hk
  intro r c
  rw [unroll_apply, unroll_apply, ht]
  exact hs _ (Torus.contains_locate ..)

theorem after_dual (f : Rule) (g : Grid) (n : Nat) :
    g.complement.after f.dual n = (g.after f n).complement := by
  apply ext_alive
  · rw [torus_after, torus_complement, torus_complement, torus_after]
  intro i hi
  rw [torus_after, torus_complement] at hi
  rw [alive_complement (by rwa [torus_after])]
  have hp : ∀ j < g.torus.area, g.complement.alive j = !g.alive j := fun _ hj => alive_complement hj
  exact rel_after (Rule.keeps_dual f) (torus_complement g) hp n i hi

end Grid

namespace TwinGrid

theorem evolve_congr (hfh : ∀ n : Neighborhood, n.Paired → f n = h n) {α : Type} (p : TwinGrid)
    (n : Nat) (observe : α → Observation → α) (seen : α) :
    p.evolve ⟨p.torus, f⟩ n observe seen = p.evolve ⟨p.torus, h⟩ n observe seen := by
  have hstep : Grid.step f = Grid.step h := by
    funext g
    exact Grid.after_congr hfh g 1
  have hadvance : advance f = advance h := by
    funext q
    simp only [advance, renew, hstep]
  rw [evolve_eq observe n seen rfl, evolve_eq observe n seen rfl]
  simp only [hadvance, reportAfter, generations, Grid.after_congr hfh]

/-- Two runs on grids of one torus keep any relation between states that their rules keep. So rules
that agree on what a torus can show have the same runs, more alive cells give more under an
ascending rule, and the dual of a rule turns the complement of a seed into the complement of what
the rule makes of it. -/
theorem evolve_keeps_relation {p q : TwinGrid} (ht : q.torus = p.torus) (n : Nat) :
    (∀ (P : Bool → Bool → Prop) (f h : Rule), f.Keeps P h →
      (∀ i < p.torus.rows * p.torus.cols, P (p.source.alive i) (q.source.alive i)) →
      ∃ p' q' r r', p.Evolves f n p' r ∧ q.Evolves h n q' r' ∧
        ∀ i < p.torus.rows * p.torus.cols, P (p'.source.alive i) (q'.source.alive i)) ∧
    (∀ f h : Rule, (∀ m : Neighborhood, m.Paired → f m = h m) →
      ∀ {α : Type} (observe : α → Observation → α) (seen : α),
        p.evolve ⟨p.torus, f⟩ n observe seen = p.evolve ⟨p.torus, h⟩ n observe seen) ∧
    (∀ f : Rule, f.Ascending → p.source.aliveCells ⊆ q.source.aliveCells →
      ∃ p' q' r r', p.Evolves f n p' r ∧ q.Evolves f n q' r' ∧
        p'.source.aliveCells ⊆ q'.source.aliveCells) ∧
    Rule.majority.Ascending ∧
    ∀ f : Rule, q.source = p.source.complement →
      ∃ p' q' r r', p.Evolves f n p' r ∧ q.Evolves f.dual n q' r' ∧
        q'.source = p'.source.complement ∧ r.alive + r'.alive = p.torus.rows * p.torus.cols := by
  have hsource : q.source.torus = p.source.torus := by rw [torus_source, torus_source, ht]
  have hcells : p.torus.rows * p.torus.cols = p.source.torus.area := by rw [torus_source]; rfl
  rw [hcells]
  refine ⟨?_, ?_, ?_, Rule.ascending_majority, ?_⟩
  · intro P f h hk hp
    refine ⟨_, _, _, _, evolves_advance p f n, evolves_advance q h n, ?_⟩
    rw [source_iterate_advance, source_iterate_advance]
    exact Grid.rel_after hk hsource hp n
  · intro f h hfh α observe seen
    exact evolve_congr hfh p n observe seen
  · intro f hf hs
    refine ⟨_, _, _, _, evolves_advance p f n, evolves_advance q f n, ?_⟩
    rw [source_iterate_advance, source_iterate_advance]
    exact Grid.aliveCells_after_subset hf hsource hs n
  · intro f hq
    refine ⟨_, _, _, _, evolves_advance p f n, evolves_advance q f.dual n, ?_⟩
    rw [source_iterate_advance, source_iterate_advance, hq, Grid.after_dual]
    refine ⟨rfl, ?_⟩
    simp only [reportAfter, hq, Grid.after_dual]
    rw [Grid.aliveCount_add_complement, Grid.torus_after]

/-- A cell and two cells on a torus where all neighbors of a cell are one. -/
theorem evolve_keeps_relation_of_nested_seeds :
    let t : Torus := ⟨⟨2, 2⟩, by decide, by decide⟩
    let p : TwinGrid := ⟨.tabulate t fun c => decide (c = ⟨0, 0⟩), .dead t, .first, rfl⟩
    let q : TwinGrid := ⟨.full t, .tabulate t fun c => decide (c.row = 0), .second, rfl⟩
    q.torus = p.torus ∧ Rule.majority.Ascending ∧ p.source.aliveCells ⊆ q.source.aliveCells ∧
      ∃ p' q' r r', p.Evolves Rule.majority 3 p' r ∧ q.Evolves Rule.majority 3 q' r' ∧
        p'.source.aliveCells ⊆ q'.source.aliveCells := by
  intro t p q
  have hs : p.source.aliveCells ⊆ q.source.aliveCells := by decide
  obtain ⟨-, -, hascending, hmajority, -⟩ := evolve_keeps_relation (p := p) (q := q) rfl 3
  exact ⟨rfl, hmajority, hs, hascending Rule.majority hmajority hs⟩

end TwinGrid

/-! How many cells are alive under the rules that have names. What all cells
see in one direction is the grid displaced, with as many alive cells; each
rule combines these views, and the counts follow. -/

namespace Grid

def view (g : Grid) (d : Direction) : Grid :=
  (g.unroll.shift d.offset.dr d.offset.dc).cut g.torus

@[simp] theorem torus_view (g : Grid) (d : Direction) : (g.view d).torus = g.torus := rfl

theorem aliveAt_view {g : Grid} {c : Cell} (hc : g.torus.Contains c) (d : Direction) :
    (g.view d).aliveAt c = (g.unroll.sees c.row c.col).get d := by
  rw [view, Plane.aliveAt_cut _ hc, Plane.get_sees, Plane.shift]

theorem shifted_view (g : Grid) (d : Direction) :
    g.Shifted d.offset.dr d.offset.dc (g.view d) where
  torus_eq := rfl
  aliveAt_eq c hc := by rw [aliveAt_view hc, Plane.get_sees, unroll_apply]

theorem aliveCount_view (g : Grid) (d : Direction) : (g.view d).aliveCount = g.aliveCount :=
  (g.shifted_view d).aliveCount_eq

variable {g : Grid}

theorem aliveAt_step_majority {c : Cell} (hc : g.torus.Contains c) :
    (g.step Rule.majority).aliveAt c =
      ((g.view .left).aliveAt c && ((g.view .right).aliveAt c || (g.view .up).aliveAt c)) := by
  rw [aliveAt_step _ hc, Rule.majority_of_paired (Plane.paired_sees ..), aliveAt_view hc,
    aliveAt_view hc, aliveAt_view hc]
  rfl

theorem aliveAt_step_exactlyOne {c : Cell} (hc : g.torus.Contains c) :
    (g.step Rule.exactlyOne).aliveAt c =
      (!(g.view .left).aliveAt c && ((g.view .right).aliveAt c ^^ (g.view .up).aliveAt c)) := by
  rw [aliveAt_step _ hc, Rule.exactlyOne_of_paired (Plane.paired_sees ..), aliveAt_view hc,
    aliveAt_view hc, aliveAt_view hc]
  rfl

theorem step_alwaysDead (g : Grid) : g.step Rule.alwaysDead = dead g.torus := by
  apply eq_dead (torus_step ..)
  intro c hc
  rw [aliveAt_step _ hc]
  rfl

theorem aliveCount_step_majority (g : Grid) :
    (g.step Rule.majority).aliveCount ≤ g.aliveCount := by
  rw [← g.aliveCount_view .left]
  refine aliveCount_mono rfl ?_
  intro c hc halive
  rw [torus_step] at hc
  rw [aliveAt_step_majority hc, Bool.and_eq_true] at halive
  exact halive.1

theorem aliveCount_step_exactlyOne (g : Grid) :
    (g.step Rule.exactlyOne).aliveCount ≤ 2 * g.aliveCount := by
  have hsub : (g.step Rule.exactlyOne).aliveCells ⊆
      (g.view .right).aliveCells ∪ (g.view .up).aliveCells := by
    intro c hm
    obtain ⟨hc, halive⟩ := mem_aliveCells.1 hm
    rw [torus_step] at hc
    rw [aliveAt_step_exactlyOne hc, Bool.and_eq_true] at halive
    rw [Finset.mem_union, mem_aliveCells, mem_aliveCells]
    by_cases hright : (g.view .right).aliveAt c = true
    · exact .inl ⟨hc, hright⟩
    · rw [Bool.not_eq_true] at hright
      rw [hright, Bool.false_xor] at halive
      exact .inr ⟨hc, halive.2⟩
  calc (g.step Rule.exactlyOne).aliveCount
      = (g.step Rule.exactlyOne).aliveCells.card := (card_aliveCells _).symm
    _ ≤ ((g.view .right).aliveCells ∪ (g.view .up).aliveCells).card := Finset.card_le_card hsub
    _ ≤ (g.view .right).aliveCells.card + (g.view .up).aliveCells.card := Finset.card_union_le _ _
    _ = 2 * g.aliveCount := by
      rw [card_aliveCells, card_aliveCells, aliveCount_view, aliveCount_view, Nat.two_mul]

theorem aliveCount_step_exactlyOne_add (g : Grid) :
    (g.step Rule.exactlyOne).aliveCount + g.aliveCount ≤ g.torus.area := by
  have hle : (g.step Rule.exactlyOne).aliveCount ≤ (g.view .left).complement.aliveCount := by
    refine aliveCount_mono rfl ?_
    intro c hc halive
    rw [torus_step] at hc
    rw [aliveAt_step_exactlyOne hc, Bool.and_eq_true] at halive
    have hview : (g.view .left).torus.Contains c := hc
    rw [aliveAt_complement hview]
    exact halive.1
  have hall := aliveCount_add_complement (g.view .left)
  rw [aliveCount_view, torus_view] at hall
  omega

theorem step_majority_full (t : Torus) : (full t).step Rule.majority = full t := by
  refine ext_aliveAt rfl ?_
  intro c hc
  rw [torus_step] at hc
  have hin : t.Contains c := hc
  have hview : ∀ d, ((full t).view d).aliveAt c = true := by
    intro d
    rw [aliveAt_view hc, Plane.get_sees, unroll_apply]
    exact aliveAt_full (Torus.contains_locate ..)
  rw [aliveAt_step_majority hc, hview, hview, aliveAt_full hin]
  rfl

theorem aliveAt_view_right (hcols : g.torus.cols ≤ 2) {c : Cell} (hc : g.torus.Contains c) :
    (g.view .right).aliveAt c = (g.view .up).aliveAt c := by
  have hpos := g.torus.cols_pos
  have hrep := g.unroll_repeats.by_cols (c.row - 1)
  rw [aliveAt_view hc, aliveAt_view hc]
  change g.unroll (c.row - 1) (c.col - 1) = g.unroll (c.row - 1) (c.col + 1)
  obtain h | h : g.torus.cols = 1 ∨ g.torus.cols = 2 := by omega
  · rw [h] at hrep
    rw [← hrep (c.col - 1), ← hrep (c.col - 1 + (1 : Nat))]
    congr 1
    omega
  · rw [h] at hrep
    rw [← hrep (c.col - 1)]
    congr 1
    omega

theorem step_exactlyOne_eq_dead (h : g = dead g.torus ∨ g = full g.torus ∨ g.torus.cols ≤ 2) :
    g.step Rule.exactlyOne = dead g.torus := by
  rcases h with hdead | hfull | hcols
  · have hcount := aliveCount_step_exactlyOne g
    rw [aliveCount_eq_zero_iff.2 hdead] at hcount
    exact aliveCount_eq_zero_iff.1 (by omega)
  · have hcount := aliveCount_step_exactlyOne_add g
    have hall : g.aliveCount = g.torus.area := by rw [hfull, aliveCount_full, torus_full]
    exact aliveCount_eq_zero_iff.1 (by omega)
  · apply eq_dead (torus_step ..)
    intro c hc
    rw [aliveAt_step_exactlyOne hc, aliveAt_view_right hcols hc, Bool.xor_self, Bool.and_false]

theorem after_of_step_eq {f : Rule} (h : g.step f = g) (n : Nat) : g.after f n = g := by
  induction n with
  | zero => rfl
  | succ n ih => rw [after, ih, h]

theorem after_exactlyOne_eq_dead (h : g = dead g.torus ∨ g = full g.torus ∨ g.torus.cols ≤ 2)
    (n : Nat) : g.after Rule.exactlyOne (n + 1) = dead g.torus := by
  have hdead : (dead g.torus).step Rule.exactlyOne = dead g.torus :=
    step_exactlyOne_eq_dead (g := dead g.torus) (.inl rfl)
  rw [← after_step, step_exactlyOne_eq_dead h, after_of_step_eq hdead]

end Grid

/-- Whether a generation on a torus may turn `before` alive cells into `now`. -/
def NamedRule.Permits (t : Torus) : NamedRule → Nat → Nat → Prop
  | .alwaysDead, _, now => now = 0
  | .exactlyOne, before, now => now ≤ 2 * before ∧ now + before ≤ t.rows * t.cols
  | .majority, before, now => now ≤ before

theorem NamedRule.permits_step (rule : NamedRule) (g : Grid) :
    rule.Permits g.torus g.aliveCount (g.step rule.rule).aliveCount := by
  cases rule with
  | alwaysDead => exact Grid.aliveCount_eq_zero_iff.2 g.step_alwaysDead
  | exactlyOne => exact ⟨g.aliveCount_step_exactlyOne, g.aliveCount_step_exactlyOne_add⟩
  | majority => exact g.aliveCount_step_majority

namespace TwinGrid

theorem counts_generations (f : Rule) (n : Nat) (p : TwinGrid) :
    p.source.aliveCount :: (p.generations f 1 n).map (·.grid.aliveCount) =
      (List.range (n + 1)).map fun j => (p.source.after f j).aliveCount := by
  rw [List.range_succ_eq_map, List.map_cons, List.map_map, generations, List.map_map]
  rfl

theorem isChain_counts (rule : NamedRule) (n : Nat) (p : TwinGrid) :
    (p.source.aliveCount :: (p.generations rule.rule 1 n).map (·.grid.aliveCount)).IsChain
      (rule.Permits p.torus) := by
  rw [counts_generations, List.isChain_map, List.isChain_range_succ]
  intro j _
  have h := rule.permits_step (p.source.after rule.rule j)
  rwa [Grid.torus_after, torus_source] at h

theorem grid_of_mem_generations {f : Rule} {k n : Nat} {p : TwinGrid} {o : Observation}
    (h : o ∈ p.generations f k n) : ∃ j, o.grid = p.source.after f (j + 1) := by
  obtain ⟨j, -, rfl⟩ := List.mem_map.1 h
  exact ⟨j, rfl⟩

/-- From the first grid on, the numbers of alive cells that are observed follow one another as the
rule permits, up to the number reported. A majority of a full torus stays full; exactly one leaves
nothing of a dead torus, of a full one, nor of any with one or two columns. -/
theorem evolve_bounds_population (p : TwinGrid) (rule : NamedRule) (n : Nat) :
    ∃ q report seen, p.watch ⟨p.torus, rule.rule⟩ n = .done q (report, seen) ∧ seen.length = n ∧
      (p.source.aliveCount :: seen.map (·.grid.aliveCount)).IsChain (rule.Permits p.torus) ∧
      (p.source.aliveCount :: seen.map (·.grid.aliveCount)).getLast? = some report.alive ∧
      (rule = .majority → p.source = .full p.torus → ∀ o ∈ seen, o.grid = .full p.torus) ∧
      (rule = .exactlyOne →
        p.source = .dead p.torus ∨ p.source = .full p.torus ∨ p.torus.cols ≤ 2 →
        ∀ o ∈ seen, o.grid = .dead p.torus) := by
  refine ⟨_, _, _, watch_eq n rfl, length_generations .., isChain_counts rule n p, ?_, ?_, ?_⟩
  · rw [counts_generations, List.range_succ, List.map_append, List.map_singleton,
      List.getLast?_concat]
    rfl
  · rintro rfl hfull o ho
    obtain ⟨j, hj⟩ := grid_of_mem_generations ho
    rw [hj, hfull]
    exact Grid.after_of_step_eq (Grid.step_majority_full p.torus) (j + 1)
  · rintro rfl h o ho
    obtain ⟨j, hj⟩ := grid_of_mem_generations ho
    rw [← torus_source] at h ⊢
    rw [hj]
    exact Grid.after_exactlyOne_eq_dead h j

end TwinGrid

/-! Extinction under majority. A cell stays alive only between alive rows, so alive cells in a band
of rows lose a row on either side in every generation, provided that two dead rows keep the ends of
the band apart. No seed of the catalogue has more than three rows. -/

namespace Torus

/-- Whether row `r` is one of `h` rows from row `a` on, around the torus. -/
def InBand (t : Torus) (a : Int) (h : Nat) (r : Int) : Prop :=
  ∃ i : Nat, i < h ∧ r % t.rows = (a + i) % t.rows

variable {t : Torus} {a : Int} {h : Nat} {r : Int}

/-- Across a single dead row the ends of the band would be two rows apart as well. -/
theorem InBand.between (hrows : h + 2 ≤ t.rows) (hbelow : t.InBand a h (r + 1))
    (habove : t.InBand a h (r - 1)) : t.InBand (a + 1) (h - 2) r := by
  obtain ⟨i, hi, hri⟩ := hbelow
  obtain ⟨j, hj, hrj⟩ := habove
  have hdvd : (t.rows : Int) ∣ (i : Int) - j - 2 := by
    have hd := Int.dvd_sub (Int.ModEq.dvd hri) (Int.ModEq.dvd hrj)
    have he : a + i - (r + 1) - (a + j - (r - 1)) = (i : Int) - j - 2 := by omega
    rwa [he] at hd
  have hij : (i : Int) - j - 2 = 0 := by
    apply Int.eq_zero_of_abs_lt_dvd hdvd
    rw [abs_lt]
    omega
  have hr : (r - 1 + 1) % t.rows = (a + j + 1) % t.rows := Int.ModEq.add_right 1 hrj
  refine ⟨j, by omega, ?_⟩
  rw [Int.sub_add_cancel] at hr
  rw [hr, Int.add_right_comm]

theorem not_inBand_zero : ¬ t.InBand a 0 r := by
  rintro ⟨i, hi, -⟩
  exact Nat.not_lt_zero i hi

end Torus

variable {a : Int} {h : Nat}

theorem Plane.inBand_after_majority {t : Torus} (hrows : h + 2 ≤ t.rows) {x : Plane}
    (hx : ∀ r c, x r c = true → t.InBand a h r) (n : Nat) (r c : Int)
    (halive : x.after Rule.majority n r c = true) : t.InBand (a + n) (h - 2 * n) r := by
  induction n generalizing r c with
  | zero => simpa using hx r c halive
  | succ n ih =>
    rw [after, step, Rule.majority_of_paired (paired_sees ..), Bool.and_eq_true,
      Bool.or_eq_true] at halive
    obtain ⟨hleft, hother⟩ := halive
    have hbelow : t.InBand (a + n) (h - 2 * n) (r + 1) := ih _ _ hleft
    have habove : t.InBand (a + n) (h - 2 * n) (r - 1) := by
      rcases hother with hright | hup
      · exact ih _ _ hright
      · exact ih _ _ hup
    have hbetween := hbelow.between (by omega) habove
    have hstart : a + ((n + 1 : Nat) : Int) = a + n + 1 := by omega
    have hheight : h - 2 * (n + 1) = h - 2 * n - 2 := by omega
    rwa [hstart, hheight]

namespace Grid

variable {g : Grid}

theorem inBand_unroll (hg : ∀ c ∈ g.aliveCells, g.torus.InBand a h c.row) (r c : Int)
    (halive : g.unroll r c = true) : g.torus.InBand a h r := by
  have hm : g.torus.locate r c ∈ g.aliveCells :=
    mem_aliveCells.2 ⟨Torus.contains_locate .., halive⟩
  obtain ⟨i, hi, hr⟩ := hg _ hm
  rw [Torus.row_locate, Int.emod_emod] at hr
  exact ⟨i, hi, hr⟩

theorem inBand_after_majority (hrows : h + 2 ≤ g.torus.rows)
    (hg : ∀ c ∈ g.aliveCells, g.torus.InBand a h c.row) (n : Nat) :
    ∀ c ∈ (g.after Rule.majority n).aliveCells, g.torus.InBand (a + n) (h - 2 * n) c.row := by
  intro c hm
  obtain ⟨hc, halive⟩ := mem_aliveCells.1 hm
  rw [torus_after] at hc
  rw [aliveAt_after hc] at halive
  exact Plane.inBand_after_majority hrows (inBand_unroll hg) n _ _ halive

theorem aliveCount_after_majority (hrows : h + 2 ≤ g.torus.rows)
    (hg : ∀ c ∈ g.aliveCells, g.torus.InBand a h c.row) {n : Nat} (hn : h ≤ 2 * n) :
    (g.after Rule.majority n).aliveCount = 0 := by
  rw [← card_aliveCells, Finset.card_eq_zero, Finset.eq_empty_iff_forall_notMem]
  intro c hm
  have hband := inBand_after_majority hrows hg n c hm
  rw [Nat.sub_eq_zero_of_le hn] at hband
  exact Torus.not_inBand_zero hband

/-- One dead row between the ends of a band keeps the band alive. -/
example : let t : Torus := ⟨⟨3, 1⟩, by decide, by decide⟩
    ((tabulate t fun c => decide (c.row < 2)).after Rule.majority 1).aliveCount = 1 := by decide

end Grid

namespace Seed

theorem three_rows_of_mem_catalogue {s : Seed} (hs : s ∈ catalogue) :
    (∃ c ∈ s.cells, 4 ≤ c.row) ∧ ∃ a, ∀ c ∈ s.cells, a ≤ c.row ∧ c.row < a + 3 := by
  simp only [catalogue, List.mem_cons, List.not_mem_nil, or_false] at hs
  rcases hs with rfl | rfl | rfl | rfl
  · exact ⟨by decide, 10, by decide⟩
  · exact ⟨by decide, 9, by decide⟩
  · exact ⟨by decide, 10, by decide⟩
  · exact ⟨by decide, 6, by decide⟩

theorem aliveCount_planted_after_majority {s : Seed} {t : Torus} (hs : s ∈ catalogue)
    (hfits : ∀ c ∈ s.cells, t.Contains c) {n : Nat} (hn : 2 ≤ n) :
    ((s.planted t).after Rule.majority n).aliveCount = 0 := by
  obtain ⟨⟨d, hd, hlow⟩, a, hrows⟩ := three_rows_of_mem_catalogue hs
  have hheight : 3 + 2 ≤ t.rows := by
    have := (hfits d hd).1
    omega
  refine Grid.aliveCount_after_majority (a := a) (h := 3) hheight ?_ (by omega)
  intro c hc
  obtain ⟨hle, hlt⟩ := hrows c (mem_aliveCells_planted.1 hc).2
  refine ⟨c.row - a, by omega, ?_⟩
  congr 1
  omega

end Seed

namespace Simulation

theorem run_majority {s : Settings} (hrule : s.rule = .majority) (hn : 2 ≤ s.generations)
    (hvalid : s.validate = .ok ()) (storage : Slot → Storage) :
    (∃ report, (run s storage).outcome = .ok report ∧ report.alive = 0) ∨
      ∃ slot, storage slot (s.rows * s.cols) = false ∧
        (run s storage).outcome = .error (.allocation (s.rows * s.cols)) := by
  have hanswer := answer_run s storage
  generalize (run s storage).outcome = o at hanswer ⊢
  cases hanswer with
  | refused e he =>
    rw [Settings.validate_eq_error_iff.2 he] at hvalid
    cases hvalid
  | unstored seed slot hr hslot => exact .inr ⟨slot, hslot, rfl⟩
  | finished seed t hr ht hs =>
    refine .inl ⟨_, rfl, ?_⟩
    rw [expected, hrule, Grid.card_aliveCells]
    exact Seed.aliveCount_planted_after_majority hr.listed
      (fun c hc => (Settings.holds_iff ht c).2 (hr.fits c hc)) hn

end Simulation

/-- Majority takes a row from either side of a band in every generation, until
nothing is left. A run from a seed of the catalogue has come to that after two
generations, unless there was no storage. -/
theorem Rule.majority_wears_bands_away :
    (∀ (p : TwinGrid) (a : Int) (h n : Nat), h + 2 ≤ p.torus.rows →
      (∀ c ∈ p.source.aliveCells, p.torus.InBand a h c.row) →
      ∃ q r, p.Evolves Rule.majority n q r ∧
        (∀ c ∈ q.source.aliveCells, p.torus.InBand (a + n) (h - 2 * n) c.row) ∧
        (h ≤ 2 * n → r.alive = 0)) ∧
    ∀ (s : Settings) (storage : Slot → Storage),
      s.rule = .majority → 2 ≤ s.generations → s.validate = .ok () →
      (∃ report, (Simulation.run s storage).outcome = .ok report ∧ report.alive = 0) ∨
        ∃ slot, storage slot (s.rows * s.cols) = false ∧
          (Simulation.run s storage).outcome = .error (.allocation (s.rows * s.cols)) := by
  constructor
  · intro p a h n hrows hband
    rw [← p.torus_source] at hrows hband ⊢
    refine ⟨_, _, TwinGrid.evolves_advance p Rule.majority n, ?_, ?_⟩
    · rw [TwinGrid.source_iterate_advance]
      exact Grid.inBand_after_majority hrows hband n
    · intro hn
      exact Grid.aliveCount_after_majority hrows hband hn
  · intro s storage hrule hn hvalid
    exact Simulation.run_majority hrule hn hvalid storage

/-- Two full rows that meet across the edge, and a catalogue seed after two generations. -/
theorem Rule.majority_wears_bands_away_across_edge :
    let t : Torus := ⟨⟨4, 3⟩, by decide, by decide⟩
    let p : TwinGrid :=
      ⟨.tabulate t fun c => decide (c.row = 3 ∨ c.row = 0), .full t, .first, rfl⟩
    let s : Settings := { seedName := "glider", generations := 2, rule := .majority }
    (2 + 2 ≤ t.rows ∧ ∀ c ∈ p.source.aliveCells, t.InBand 3 2 c.row) ∧
      (∃ q r, p.Evolves Rule.majority 1 q r ∧ r.alive = 0) ∧
      (s.rule = .majority ∧ 2 ≤ s.generations ∧ s.validate = .ok ()) ∧
      ∃ report, (Simulation.run s).outcome = .ok report ∧ report.alive = 0 := by
  intro t p s
  have hrows : ∀ r < 4, ∀ k < 3, p.source.aliveAt ⟨r, k⟩ = true → r = 3 ∨ r = 0 := by decide
  have hband : ∀ c ∈ p.source.aliveCells, t.InBand 3 2 c.row := by
    intro c hm
    obtain ⟨hc, halive⟩ := Grid.mem_aliveCells.1 hm
    rcases hrows c.row hc.1 c.col hc.2 halive with h | h
    · exact ⟨0, by decide, by rw [h]; decide⟩
    · exact ⟨1, by decide, by rw [h]; decide⟩
  have hvalid : s.validate = .ok () := by decide
  obtain ⟨hwears, hruns⟩ := Rule.majority_wears_bands_away
  obtain ⟨q, r, hq, -, hr⟩ := hwears p 3 2 1 (by decide) hband
  refine ⟨⟨by decide, hband⟩, ⟨q, r, hq, hr (by decide)⟩, ⟨rfl, by decide, hvalid⟩, ?_⟩
  rcases hruns s (fun _ => .usual) rfl (by decide) hvalid with h | ⟨slot, hslot, -⟩
  · exact h
  · cases hslot

end TorusAutomaton
