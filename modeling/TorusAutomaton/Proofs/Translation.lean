import TorusAutomaton.Proofs.Evolution
import TorusAutomaton.Proofs.Planting
import TorusAutomaton.Proofs.Cells

/-! No place on the torus is special. Of two grids that show the same displaced by some rows and
columns, all generations show the same displaced as far, and as many cells are alive. -/
namespace TorusAutomaton

namespace Grid

/-- Whether the second grid shows at each cell what the first shows `a` rows and `b` columns on. -/
structure Shifted (a b : Int) (g h : Grid) : Prop where
  torus_eq : h.torus = g.torus
  aliveAt_eq : ∀ c, g.torus.Contains c →
    h.aliveAt c = g.aliveAt (g.torus.locate (c.row + a) (c.col + b))

variable {a b : Int} {g h : Grid}

theorem shifted_iff_unroll :
    g.Shifted a b h ↔ h.torus = g.torus ∧ h.unroll = g.unroll.shift a b := by
  constructor
  · rintro ⟨ht, ha⟩
    refine ⟨ht, ?_⟩
    funext r c
    rw [unroll_apply, ht, ha _ (g.torus.contains_locate r c), Torus.locate_add, Plane.shift,
      unroll_apply]
  · rintro ⟨ht, hu⟩
    refine ⟨ht, ?_⟩
    intro c hc
    rw [← unroll_apply, ← unroll_of_contains (ht ▸ hc), hu, Plane.shift]

theorem Shifted.after (hs : g.Shifted a b h) (f : Rule) (n : Nat) :
    (g.after f n).Shifted a b (h.after f n) := by
  obtain ⟨ht, hu⟩ := shifted_iff_unroll.1 hs
  refine shifted_iff_unroll.2 ⟨by rw [torus_after, torus_after, ht], ?_⟩
  rw [unroll_after, unroll_after, hu, Plane.after_shift]

theorem Shifted.aliveCount_eq (hs : g.Shifted a b h) : h.aliveCount = g.aliveCount := by
  obtain ⟨ht, ha⟩ := hs
  rw [← card_aliveCells, ← card_aliveCells]
  refine Finset.card_nbij' (fun c => g.torus.locate (c.row + a) (c.col + b))
    (fun c => g.torus.locate (c.row - a) (c.col - b)) ?_ ?_ ?_ ?_
  · intro c hc
    obtain ⟨hc, halive⟩ := mem_aliveCells.1 hc
    rw [ht] at hc
    exact mem_aliveCells.2 ⟨Torus.contains_locate .., by rw [← ha c hc, halive]⟩
  · intro c hc
    obtain ⟨hc, halive⟩ := mem_aliveCells.1 hc
    have hd := g.torus.contains_locate (c.row - a) (c.col - b)
    refine mem_aliveCells.2 ⟨ht ▸ hd, ?_⟩
    rw [ha _ hd, Torus.locate_add, Int.sub_add_cancel, Int.sub_add_cancel,
      Torus.locate_of_contains hc, halive]
  · intro c hc
    obtain ⟨hc, -⟩ := mem_aliveCells.1 hc
    rw [ht] at hc
    simp only [Int.sub_eq_add_neg, Torus.locate_add, Int.add_neg_cancel_right,
      Torus.locate_of_contains hc]
  · intro c hc
    obtain ⟨hc, -⟩ := mem_aliveCells.1 hc
    simp only [Int.sub_eq_add_neg, Torus.locate_add, Int.neg_add_cancel_right,
      Torus.locate_of_contains hc]

end Grid

namespace TwinGrid

/-- Two runs of one automaton that begin with the same, displaced, go on so: their final grids,
every pair of observed grids and the reported counts. -/
theorem evolve_commutes_with_shift {p q : TwinGrid} (f : Rule) (n : Nat) {a b : Int}
    (h : p.source.Shifted a b q.source) :
    let run := p.watch ⟨p.torus, f⟩ n
    let other := q.watch ⟨p.torus, f⟩ n
    run.state.source.Shifted a b other.state.source ∧
      ∃ report report' seen seen', run.outcome = .ok (report, seen) ∧
        other.outcome = .ok (report', seen') ∧ seen.length = n ∧
        List.Forall₂ (fun o o' => o.generation = o'.generation ∧ o.grid.Shifted a b o'.grid)
          seen seen' ∧
        report.alive = report'.alive := by
  have ht : q.torus = p.torus := by rw [← torus_source, ← torus_source, h.torus_eq]
  intro run other
  have hrun : run = .done _ _ := watch_eq n rfl
  have hother : other = .done _ _ := watch_eq n ht
  rw [hrun, hother]
  refine ⟨?_, _, _, _, _, rfl, rfl, ?_, ?_, ?_⟩
  · change (Grid.Shifted a b ((advance f)^[n] p).source ((advance f)^[n] q).source)
    rw [source_iterate_advance, source_iterate_advance]
    exact h.after f n
  · exact length_generations ..
  · exact forall₂_generations fun j _ => ⟨rfl, h.after f (j + 1)⟩
  · exact (h.after f n).aliveCount_eq.symm

/-- A lone cell and the same cell one row and two columns before it, across both edges. -/
theorem evolve_commutes_with_shift_of_lone_cell :
    let t : Torus := ⟨⟨2, 3⟩, by decide, by decide⟩
    let p : TwinGrid := ⟨Seed.planted ⟨"", [⟨0, 1⟩]⟩ t, .dead t, .first, rfl⟩
    let q : TwinGrid := ⟨.dead t, Seed.planted ⟨"", [⟨1, 2⟩]⟩ t, .second, rfl⟩
    p.source.Shifted 1 2 q.source ∧
      (p.watch ⟨t, Rule.exactlyOne⟩ 3).state.source.Shifted 1 2
        (q.watch ⟨t, Rule.exactlyOne⟩ 3).state.source := by
  intro t p q
  have hs : ∀ r < 2, ∀ c < 3, q.source.aliveAt ⟨r, c⟩ =
      p.source.aliveAt (t.locate ((r : Int) + 1) ((c : Int) + 2)) := by decide
  have h : p.source.Shifted 1 2 q.source := ⟨rfl, fun c hc => hs c.row hc.1 c.col hc.2⟩
  exact ⟨h, (evolve_commutes_with_shift Rule.exactlyOne 3 h).1⟩

end TwinGrid

/-! Rules that copy what they see in one direction. A generation displaces the grid by the
direction's offset and a run by a multiple of it: no cell is born or dies, and the grid is back at
its place as soon as the number of generations is a multiple of both sides. -/

/-- The rule that takes over the state seen in one direction. -/
def Rule.copy (d : Direction) : Rule := fun n => n.get d

namespace Plane

theorem shift_zero (x : Plane) : x.shift 0 0 = x := by
  funext r c
  simp only [shift, Int.add_zero]

theorem shift_shift (x : Plane) (a b a' b' : Int) :
    (x.shift a b).shift a' b' = x.shift (a + a') (b + b') := by
  funext r c
  simp only [shift, Int.add_assoc, Int.add_comm a, Int.add_comm b]

theorem Repeats.shift_of_dvd {x : Plane} {rows cols a b : Int} (h : x.Repeats rows cols)
    (ha : rows ∣ a) (hb : cols ∣ b) : x.shift a b = x := by
  obtain ⟨k, rfl⟩ := ha
  obtain ⟨l, rfl⟩ := hb
  funext r c
  rw [shift, ← h.apply_emod, Int.add_mul_emod_self_left, Int.add_mul_emod_self_left, h.apply_emod]

theorem step_copy (d : Direction) (x : Plane) :
    x.step (Rule.copy d) = x.shift d.offset.dr d.offset.dc := by
  funext r c
  exact get_sees x r c d

theorem after_copy (d : Direction) (n : Nat) (x : Plane) :
    x.after (Rule.copy d) n = x.shift (n * d.offset.dr) (n * d.offset.dc) := by
  induction n with
  | zero => rw [after, Int.natCast_zero, Int.zero_mul, Int.zero_mul, shift_zero]
  | succ n ih =>
    rw [after, ih, step_copy, shift_shift, Int.natCast_succ, Int.add_mul, Int.add_mul, Int.one_mul,
      Int.one_mul]

end Plane

namespace Grid

variable {a b a' b' : Int} {g h k : Grid}

theorem Shifted.trans (hgh : g.Shifted a b h) (hhk : h.Shifted a' b' k) :
    g.Shifted (a + a') (b + b') k := by
  obtain ⟨ht, hu⟩ := shifted_iff_unroll.1 hgh
  obtain ⟨ht', hu'⟩ := shifted_iff_unroll.1 hhk
  refine shifted_iff_unroll.2 ⟨ht'.trans ht, ?_⟩
  rw [hu', hu, Plane.shift_shift]

theorem Shifted.eq_of_dvd (hs : g.Shifted a b h) (ha : (g.torus.rows : Int) ∣ a)
    (hb : (g.torus.cols : Int) ∣ b) : h = g := by
  obtain ⟨ht, hu⟩ := shifted_iff_unroll.1 hs
  apply ext_unroll ht
  rw [hu, g.unroll_repeats.shift_of_dvd ha hb]

theorem shifted_after_copy (d : Direction) (n : Nat) (g : Grid) :
    g.Shifted (n * d.offset.dr) (n * d.offset.dc) (g.after (Rule.copy d) n) := by
  refine shifted_iff_unroll.2 ⟨torus_after .., ?_⟩
  rw [unroll_after, Plane.after_copy]

theorem after_copy_of_dvd {n : Nat} (d : Direction) (hr : g.torus.rows ∣ n)
    (hc : g.torus.cols ∣ n) :
    g.after (Rule.copy d) n = g := by
  apply (g.shifted_after_copy d n).eq_of_dvd
  · exact Int.dvd_mul_of_dvd_left (Int.natCast_dvd_natCast.2 hr)
  · exact Int.dvd_mul_of_dvd_left (Int.natCast_dvd_natCast.2 hc)

theorem after_copy_of_opposite {d e : Direction} (hr : d.offset.dr + e.offset.dr = 0)
    (hc : d.offset.dc + e.offset.dc = 0) (n : Nat) (g : Grid) :
    (g.after (Rule.copy d) n).after (Rule.copy e) n = g := by
  apply ((g.shifted_after_copy d n).trans (shifted_after_copy e n _)).eq_of_dvd
  · rw [← Int.mul_add, hr, Int.mul_zero]
    exact Int.dvd_zero _
  · rw [← Int.mul_add, hc, Int.mul_zero]
    exact Int.dvd_zero _

end Grid

namespace TwinGrid

/-- A run of a rule that copies displaces the grid by so many offsets, across all edges, and keeps
the number of alive cells. Whole turns on both axes leave the grid as it was, and copying right
undoes copying left or down. -/
theorem evolve_copies_displaced (p : TwinGrid) (d : Direction) (n : Nat) :
    ∃ q report, p.Evolves (Rule.copy d) n q report ∧
      p.source.Shifted (n * d.offset.dr) (n * d.offset.dc) q.source ∧
      report.alive = p.source.aliveCount ∧
      (p.torus.rows ∣ n → p.torus.cols ∣ n → q.source = p.source) ∧
      (d = .left ∨ d = .down → ∃ q' report', q.Evolves (Rule.copy .right) n q' report' ∧
        q'.source = p.source) := by
  have hshift := p.source.shifted_after_copy d n
  refine ⟨_, _, evolves_advance p (Rule.copy d) n, ?_, hshift.aliveCount_eq, ?_, ?_⟩
  · rwa [source_iterate_advance]
  · intro hr hc
    rw [source_iterate_advance]
    rw [← torus_source] at hr hc
    exact Grid.after_copy_of_dvd d hr hc
  · intro hd
    refine ⟨_, _, evolves_advance _ (Rule.copy .right) n, ?_⟩
    rw [source_iterate_advance, source_iterate_advance]
    rcases hd with rfl | rfl
    · exact Grid.after_copy_of_opposite rfl rfl n p.source
    · exact Grid.after_copy_of_opposite rfl rfl n p.source

end TwinGrid

/-! Tilings. A torus that is laid out with copies of a smaller grid stays laid out with copies: both
grids unroll to the same plane. Every copy has as many alive cells as the smaller grid. -/

namespace Grid

/-- Whether the second grid is laid out with copies of the first, side by side
from the first cell on. -/
structure Tiles (g h : Grid) : Prop where
  rows_dvd : g.torus.rows ∣ h.torus.rows
  cols_dvd : g.torus.cols ∣ h.torus.cols
  aliveAt_eq : ∀ c, h.torus.Contains c →
    h.aliveAt c = g.aliveAt ⟨c.row % g.torus.rows, c.col % g.torus.cols⟩

variable {g h : Grid}

theorem tiles_iff_unroll :
    g.Tiles h ↔ g.torus.rows ∣ h.torus.rows ∧ g.torus.cols ∣ h.torus.cols ∧
      h.unroll = g.unroll := by
  constructor
  · rintro ⟨hr, hc, ha⟩
    refine ⟨hr, hc, ?_⟩
    funext r c
    rw [unroll_apply, ha _ (Torus.contains_locate ..), ← Torus.locate_natCast,
      Torus.locate_locate hr hc, unroll_apply]
  · rintro ⟨hr, hc, hu⟩
    refine ⟨hr, hc, ?_⟩
    intro c hm
    rw [← Torus.locate_natCast, ← unroll_apply, ← hu, unroll_of_contains hm]

theorem Tiles.after (ht : g.Tiles h) (f : Rule) (n : Nat) : (g.after f n).Tiles (h.after f n) := by
  obtain ⟨hr, hc, hu⟩ := tiles_iff_unroll.1 ht
  refine tiles_iff_unroll.2 ⟨?_, ?_, ?_⟩
  · rwa [torus_after, torus_after]
  · rwa [torus_after, torus_after]
  · rw [unroll_after, unroll_after, hu]

end Grid

theorem mul_add_lt_of_dvd {i b p n : Nat} (hd : p ∣ n) (hi : i < n / p) (hb : b < p) :
    i * p + b < n := by
  have h := Nat.mul_add_lt_mul_of_lt_of_lt hi hb
  rwa [Nat.div_mul_cancel hd, Nat.mul_comm] at h

theorem mul_add_div_of_lt {i b p : Nat} (hb : b < p) : (i * p + b) / p = i := by
  have hp : 0 < p := Nat.zero_lt_of_lt hb
  rw [Nat.mul_comm, Nat.mul_add_div hp, Nat.div_eq_of_lt hb, Nat.add_zero]

namespace Grid

variable {g h : Grid}

theorem Tiles.aliveCount_eq (ht : g.Tiles h) :
    h.aliveCount =
      (h.torus.rows / g.torus.rows) * (h.torus.cols / g.torus.cols) * g.aliveCount := by
  obtain ⟨hr, hc, ha⟩ := ht
  have hp := g.torus.rows_pos
  have hq := g.torus.cols_pos
  rw [← card_aliveCells, ← card_aliveCells, ← Finset.card_range (h.torus.rows / g.torus.rows),
    ← Finset.card_range (h.torus.cols / g.torus.cols), ← Finset.card_product,
    ← Finset.card_product]
  refine Finset.card_nbij'
    (fun c => ((c.row / g.torus.rows, c.col / g.torus.cols),
      ⟨c.row % g.torus.rows, c.col % g.torus.cols⟩))
    (fun x => ⟨x.1.1 * g.torus.rows + x.2.row, x.1.2 * g.torus.cols + x.2.col⟩) ?_ ?_ ?_ ?_
  · intro c hm
    obtain ⟨hm, halive⟩ := mem_aliveCells.1 hm
    rw [ha c hm] at halive
    simp only [Finset.coe_product, Set.mem_prod, Finset.mem_coe, Finset.mem_range, mem_aliveCells]
    exact ⟨⟨Nat.div_lt_div_of_lt_of_dvd hr hm.1, Nat.div_lt_div_of_lt_of_dvd hc hm.2⟩,
      ⟨Nat.mod_lt _ hp, Nat.mod_lt _ hq⟩, halive⟩
  · rintro ⟨⟨i, j⟩, c⟩ hx
    simp only [Finset.coe_product, Set.mem_prod, Finset.mem_coe, Finset.mem_range,
      mem_aliveCells] at hx
    obtain ⟨⟨hi, hj⟩, ⟨hrow, hcol⟩, halive⟩ := hx
    have hm : h.torus.Contains ⟨i * g.torus.rows + c.row, j * g.torus.cols + c.col⟩ :=
      ⟨mul_add_lt_of_dvd hr hi hrow, mul_add_lt_of_dvd hc hj hcol⟩
    refine mem_aliveCells.2 ⟨hm, ?_⟩
    rw [ha _ hm, Nat.mul_add_mod_of_lt hrow, Nat.mul_add_mod_of_lt hcol, halive]
  · intro c _
    simp only [Nat.div_add_mod']
  · rintro ⟨⟨i, j⟩, c⟩ hx
    simp only [Finset.coe_product, Set.mem_prod, Finset.mem_coe, mem_aliveCells] at hx
    obtain ⟨-, ⟨hrow, hcol⟩, -⟩ := hx
    simp only [mul_add_div_of_lt hrow, mul_add_div_of_lt hcol, Nat.mul_add_mod_of_lt hrow,
      Nat.mul_add_mod_of_lt hcol]

end Grid

namespace TwinGrid

/-- A larger torus that starts with copies of a smaller grid goes on with
copies of that grid's later generations. Both pairs change their roles as
often, and the counts differ by the number of copies. -/
theorem evolve_keeps_tiling {p q : TwinGrid} (f : Rule) (n : Nat) (h : p.source.Tiles q.source) :
    ∃ p' q' r r', p.Evolves f n p' r ∧ q.Evolves f n q' r' ∧
      p'.source.Tiles q'.source ∧
      (p'.current = Slot.other^[n] p.current ∧ q'.current = Slot.other^[n] q.current) ∧
      (r.output = p'.current ∧ r'.output = q'.current) ∧
      r'.alive =
        (q.torus.rows / p.torus.rows) * (q.torus.cols / p.torus.cols) * r.alive := by
  refine ⟨_, _, _, _, evolves_advance p f n, evolves_advance q f n, ?_, ?_, ?_, ?_⟩
  · rw [source_iterate_advance, source_iterate_advance]
    exact h.after f n
  · exact ⟨current_iterate_advance .., current_iterate_advance ..⟩
  · exact ⟨(current_iterate_advance ..).symm, (current_iterate_advance ..).symm⟩
  · have hcount := (h.after f n).aliveCount_eq
    rwa [Grid.torus_after, Grid.torus_after, torus_source, torus_source] at hcount

/-- A row of two cells, and two rows in which it stands twice. -/
theorem evolve_keeps_tiling_of_two_cells :
    let t : Torus := ⟨⟨1, 2⟩, by decide, by decide⟩
    let u : Torus := ⟨⟨2, 4⟩, by decide, by decide⟩
    let small := Grid.tabulate t fun c => decide (c.col = 1)
    let large := Grid.tabulate u fun c => decide (c.col % 2 = 1)
    let p : TwinGrid := ⟨small, .dead t, .first, rfl⟩
    let q : TwinGrid := ⟨.dead u, large, .second, rfl⟩
    p.source.Tiles q.source ∧ ∃ p' q' r r',
      p.Evolves Rule.exactlyOne 3 p' r ∧ q.Evolves Rule.exactlyOne 3 q' r' ∧
        p'.source.Tiles q'.source ∧ r'.alive = 4 * r.alive := by
  intro t u small large p q
  have hs : ∀ r < 2, ∀ c < 4, q.source.aliveAt ⟨r, c⟩ = p.source.aliveAt ⟨r % 1, c % 2⟩ := by
    decide
  have h : p.source.Tiles q.source :=
    ⟨by decide, by decide, fun c hc => hs c.row hc.1 c.col hc.2⟩
  have hcopies : q.torus.rows / p.torus.rows * (q.torus.cols / p.torus.cols) = 4 := by decide
  obtain ⟨p', q', r, r', hp, hq, ht, -, -, hcount⟩ := evolve_keeps_tiling Rule.exactlyOne 3 h
  rw [hcopies] at hcount
  exact ⟨h, p', q', r, r', hp, hq, ht, hcount⟩

end TwinGrid

end TorusAutomaton
