import TorusAutomaton.Proofs.Evolution
import TorusAutomaton.Proofs.Cells

/-! What a cell depends on. The offsets of the directions add up over the generations; a cell
depends on the cells at the sums of as many offsets as there were generations, and on no others. -/
namespace TorusAutomaton

namespace Offset

/-- Whether `n` offsets of directions have the sum `o`: `a` times that of left and down, `k` times
that of up, and that of right for the rest. -/
def IsSum (n : Nat) (o : Offset) : Prop :=
  ∃ a k : Nat, a + k ≤ n ∧ o.dr = 2 * a - n ∧ o.dc = 2 * a + 2 * k - n

theorem isSum_zero {o : Offset} : o.IsSum 0 ↔ o.dr = 0 ∧ o.dc = 0 := by
  constructor
  · rintro ⟨a, k, h, hr, hc⟩
    omega
  · rintro ⟨hr, hc⟩
    exact ⟨0, 0, by omega, by omega, by omega⟩

theorem isSum_succ {n : Nat} {o : Offset} :
    o.IsSum (n + 1) ↔ ∃ (d : Direction) (o' : Offset), o'.IsSum n ∧
      o.dr = d.offset.dr + o'.dr ∧ o.dc = d.offset.dc + o'.dc := by
  constructor
  · rintro ⟨a, k, h, hr, hc⟩
    rcases a with _ | a
    · rcases k with _ | k
      · refine ⟨.right, ⟨2 * 0 - n, 2 * 0 + 2 * 0 - n⟩, ⟨0, 0, by omega, rfl, rfl⟩, ?_⟩
        simp only [Direction.offset]
        omega
      · refine ⟨.up, ⟨2 * 0 - n, 2 * 0 + 2 * k - n⟩, ⟨0, k, by omega, rfl, rfl⟩, ?_⟩
        simp only [Direction.offset]
        omega
    · refine ⟨.left, ⟨2 * a - n, 2 * a + 2 * k - n⟩, ⟨a, k, by omega, rfl, rfl⟩, ?_⟩
      simp only [Direction.offset]
      omega
  · rintro ⟨d, o', ⟨a, k, h, hr, hc⟩, hr', hc'⟩
    cases d with
    | left | down =>
      simp only [Direction.offset] at hr' hc'
      exact ⟨a + 1, k, by omega, by omega, by omega⟩
    | right =>
      simp only [Direction.offset] at hr' hc'
      exact ⟨a, k, by omega, by omega, by omega⟩
    | up =>
      simp only [Direction.offset] at hr' hc'
      exact ⟨a, k + 1, by omega, by omega, by omega⟩

theorem IsSum.bounds {n : Nat} {o : Offset} (h : o.IsSum n) :
    (-n ≤ o.dr ∧ o.dr ≤ n) ∧ -n ≤ o.dc ∧ o.dc ≤ n := by
  obtain ⟨a, k, h, hr, hc⟩ := h
  omega

end Offset

def Rule.spread : Rule := fun n => n.left || n.right || n.up

namespace Plane

theorem after_congr {x y : Plane} (f : Rule) {n : Nat} {r c : Int}
    (h : ∀ o : Offset, o.IsSum n → x (r + o.dr) (c + o.dc) = y (r + o.dr) (c + o.dc)) :
    x.after f n r c = y.after f n r c := by
  induction n generalizing r c with
  | zero =>
    have h0 := h ⟨0, 0⟩ (Offset.isSum_zero.2 ⟨rfl, rfl⟩)
    rwa [Int.add_zero, Int.add_zero] at h0
  | succ n ih =>
    have hsees : (x.after f n).sees r c = (y.after f n).sees r c := by
      apply Neighborhood.ext_get
      intro d
      rw [get_sees, get_sees]
      apply ih
      intro o ho
      rw [Int.add_assoc, Int.add_assoc]
      exact h ⟨_, _⟩ (Offset.isSum_succ.2 ⟨d, o, ho, rfl, rfl⟩)
    exact congrArg f hsees

theorem spread_sees (x : Plane) (r c : Int) :
    Rule.spread (x.sees r c) = true ↔
      ∃ d : Direction, x (r + d.offset.dr) (c + d.offset.dc) = true := by
  simp only [← get_sees, Rule.spread, Bool.or_eq_true]
  constructor
  · rintro ((h | h) | h)
    · exact ⟨.left, h⟩
    · exact ⟨.right, h⟩
    · exact ⟨.up, h⟩
  · rintro ⟨d, h⟩
    cases d with
    | left | down => exact .inl (.inl h)
    | right => exact .inl (.inr h)
    | up => exact .inr h

theorem after_spread (x : Plane) (n : Nat) (r c : Int) :
    x.after Rule.spread n r c = true ↔
      ∃ o : Offset, o.IsSum n ∧ x (r + o.dr) (c + o.dc) = true := by
  induction n generalizing r c with
  | zero =>
    constructor
    · intro h
      refine ⟨⟨0, 0⟩, Offset.isSum_zero.2 ⟨rfl, rfl⟩, ?_⟩
      rwa [Int.add_zero, Int.add_zero]
    · rintro ⟨o, ho, h⟩
      obtain ⟨hr, hc⟩ := Offset.isSum_zero.1 ho
      rwa [hr, hc, Int.add_zero, Int.add_zero] at h
  | succ n ih =>
    rw [after, step, spread_sees]
    simp only [ih]
    constructor
    · rintro ⟨d, o, ho, h⟩
      refine ⟨⟨_, _⟩, Offset.isSum_succ.2 ⟨d, o, ho, rfl, rfl⟩, ?_⟩
      rwa [Int.add_assoc, Int.add_assoc] at h
    · rintro ⟨o, ho, h⟩
      obtain ⟨d, o', ho', hr, hc⟩ := Offset.isSum_succ.1 ho
      refine ⟨d, o', ho', ?_⟩
      rwa [Int.add_assoc, Int.add_assoc, ← hr, ← hc]

end Plane

namespace Torus

/-- The cells that a cell depends on after `n` generations. -/
def origins (t : Torus) (n : Nat) (c : Cell) : Set Cell :=
  {d | ∃ a k : Nat, a + k ≤ n ∧ d = t.locate (c.row + 2 * a - n) (c.col + 2 * a + 2 * k - n)}

theorem mem_origins {t : Torus} {n : Nat} {c d : Cell} :
    d ∈ t.origins n c ↔ ∃ o : Offset, o.IsSum n ∧ d = t.locate (c.row + o.dr) (c.col + o.dc) := by
  constructor
  · rintro ⟨a, k, h, rfl⟩
    refine ⟨⟨2 * a - n, 2 * a + 2 * k - n⟩, ⟨a, k, h, rfl, rfl⟩, ?_⟩
    simp only [Int.add_assoc, Int.add_sub_assoc]
  · rintro ⟨o, ⟨a, k, h, hr, hc⟩, rfl⟩
    refine ⟨a, k, h, ?_⟩
    rw [hr, hc]
    simp only [Int.add_assoc, Int.add_sub_assoc]

end Torus

namespace Grid

variable {g h : Grid} {c : Cell} {n : Nat}

theorem aliveAt_after_congr (ht : h.torus = g.torus) (hc : g.torus.Contains c) (f : Rule)
    (ha : ∀ d ∈ g.torus.origins n c, g.aliveAt d = h.aliveAt d) :
    (g.after f n).aliveAt c = (h.after f n).aliveAt c := by
  rw [aliveAt_after hc, aliveAt_after (ht ▸ hc)]
  apply Plane.after_congr
  intro o ho
  rw [unroll_apply, unroll_apply, ht]
  exact ha _ (Torus.mem_origins.2 ⟨o, ho, rfl⟩)

theorem aliveAt_after_spread (hc : g.torus.Contains c) :
    (g.after Rule.spread n).aliveAt c = true ↔ ∃ d ∈ g.torus.origins n c, g.aliveAt d = true := by
  rw [aliveAt_after hc, Plane.after_spread]
  constructor
  · rintro ⟨o, ho, h⟩
    exact ⟨_, Torus.mem_origins.2 ⟨o, ho, rfl⟩, h⟩
  · rintro ⟨d, hd, h⟩
    obtain ⟨o, ho, rfl⟩ := Torus.mem_origins.1 hd
    exact ⟨o, ho, h⟩

end Grid

namespace TwinGrid

/-- After `n` generations a cell depends on its origins alone, whatever the rule, the other cells
and the grids that are written first. There is a rule under which it depends on each of them. -/
theorem evolve_depends_on_origins (p : TwinGrid) (n : Nat) {c : Cell} (hc : p.torus.Contains c) :
    (∀ (f : Rule) (q : TwinGrid), q.torus = p.torus →
      (∀ d ∈ p.torus.origins n c, p.source.aliveAt d = q.source.aliveAt d) →
      ∃ p' q' r r', p.Evolves f n p' r ∧ q.Evolves f n q' r' ∧
        p'.source.aliveAt c = q'.source.aliveAt c) ∧
      ∃ p' r, p.Evolves (fun m => m.left || m.right || m.up) n p' r ∧
        (p'.source.aliveAt c = true ↔
          ∃ d ∈ p.torus.origins n c, p.source.aliveAt d = true) := by
  rw [← p.torus_source] at hc ⊢
  constructor
  · intro f q ht ha
    refine ⟨_, _, _, _, evolves_advance p f n, evolves_advance q f n, ?_⟩
    rw [source_iterate_advance, source_iterate_advance]
    rw [← q.torus_source] at ht
    exact Grid.aliveAt_after_congr ht hc f ha
  · refine ⟨_, _, evolves_advance p Rule.spread n, ?_⟩
    rw [source_iterate_advance]
    exact Grid.aliveAt_after_spread hc

/-- A cell that depends on three corners of the square around it, with different fourth corners. -/
theorem evolve_depends_on_origins_of_one_generation :
    let t : Torus := ⟨⟨3, 5⟩, by decide, by decide⟩
    let p : TwinGrid := ⟨.tabulate t fun d => decide (d = ⟨0, 1⟩), .dead t, .first, rfl⟩
    let q : TwinGrid :=
      ⟨.dead t, .tabulate t fun d => decide (d = ⟨0, 1⟩ ∨ d = ⟨2, 1⟩), .second, rfl⟩
    t.Contains ⟨1, 2⟩ ∧
      (∀ d ∈ t.origins 1 ⟨1, 2⟩, p.source.aliveAt d = q.source.aliveAt d) ∧
      ∃ p' q' r r', p.Evolves Rule.exactlyOne 1 p' r ∧ q.Evolves Rule.exactlyOne 1 q' r' ∧
        p'.source.aliveAt ⟨1, 2⟩ = q'.source.aliveAt ⟨1, 2⟩ := by
  intro t p q
  have hc : t.Contains ⟨1, 2⟩ := by decide
  have ha : ∀ d ∈ t.origins 1 ⟨1, 2⟩, p.source.aliveAt d = q.source.aliveAt d := by
    rintro d ⟨a, k, h, rfl⟩
    obtain ⟨rfl, rfl⟩ | ⟨rfl, rfl⟩ | ⟨rfl, rfl⟩ :
        (a = 0 ∧ k = 0) ∨ (a = 1 ∧ k = 0) ∨ (a = 0 ∧ k = 1) := by omega
    · decide
    · decide
    · decide
  exact ⟨hc, ha, (evolve_depends_on_origins p 1 hc).1 Rule.exactlyOne q rfl ha⟩

end TwinGrid

/-! Away from the edges. Alive cells with enough room around them do not notice how large the torus
is, or that it is one: under a rule that brings nothing to life among the dead they go through the
generations of the unbounded plane. -/

/-- Whether a place is at most `n` rows and `n` columns from a cell. -/
def Cell.Near (n : Nat) (d : Cell) (r c : Int) : Prop :=
  (d.row - n ≤ r ∧ r ≤ d.row + n) ∧ d.col - n ≤ c ∧ c ≤ d.col + n

/-- Whether all places near a cell lie between the edges. -/
def Torus.Surrounds (t : Torus) (n : Nat) (d : Cell) : Prop :=
  (n ≤ d.row ∧ n ≤ d.col) ∧ d.row + n < t.rows ∧ d.col + n < t.cols

namespace Plane

def ofCells (s : Finset Cell) : Plane := fun r c =>
  decide (∃ d ∈ s, (d.row : Int) = r ∧ (d.col : Int) = c)

theorem ofCells_eq_true {s : Finset Cell} {r c : Int} :
    ofCells s r c = true ↔ ∃ d ∈ s, (d.row : Int) = r ∧ (d.col : Int) = c := by
  simp [ofCells]

theorem ofCells_cell {s : Finset Cell} {d : Cell} : ofCells s d.row d.col = true ↔ d ∈ s := by
  rw [ofCells_eq_true]
  constructor
  · rintro ⟨e, he, hr, hc⟩
    obtain ⟨er, ec⟩ := e
    obtain ⟨dr, dc⟩ := d
    obtain rfl : er = dr := Int.ofNat.inj hr
    obtain rfl : ec = dc := Int.ofNat.inj hc
    exact he
  · intro hd
    exact ⟨d, hd, rfl, rfl⟩

theorem ofCells_injective : Function.Injective ofCells := by
  intro s s' h
  ext d
  rw [← ofCells_cell, h, ofCells_cell]

def empty : Plane := fun _ _ => false

theorem after_empty {f : Rule} (hf : f .dead = false) (n : Nat) : empty.after f n = empty := by
  induction n with
  | zero => rfl
  | succ n ih =>
    rw [after, ih]
    funext r c
    exact hf

theorem near_of_after {f : Rule} (hf : f .dead = false) {s : Finset Cell} {n : Nat} {r c : Int}
    (h : (ofCells s).after f n r c = true) : ∃ d ∈ s, d.Near n r c := by
  by_contra hn
  have hempty : (ofCells s).after f n r c = empty.after f n r c := by
    apply after_congr
    intro o ho
    have hb := ho.bounds
    rw [Bool.eq_iff_iff, ofCells_eq_true]
    constructor
    · rintro ⟨d, hd, hr, hc⟩
      refine absurd ⟨d, hd, ?_⟩ hn
      unfold Cell.Near
      omega
    · intro he
      cases he
  rw [after_empty hf, h] at hempty
  cases hempty

end Plane

theorem emod_eq_self_of_margin {x n m : Int} (hl : n ≤ x % m) (hu : x % m + n < m)
    (hlo : -n ≤ x) (hhi : x < m + n) : x % m = x := by
  rcases Int.lt_or_le x 0 with h | h
  · have hx : x % m = x + m := by
      rw [← Int.add_emod_right, Int.emod_eq_of_lt (by omega) (by omega)]
    omega
  · rcases Int.lt_or_le x m with hm | hm
    · exact Int.emod_eq_of_lt h hm
    · have hx : x % m = x - m := by
        rw [← Int.sub_emod_right, Int.emod_eq_of_lt (by omega) (by omega)]
      omega

namespace Grid

variable {g : Grid} {n : Nat}

theorem unroll_eq_ofCells (hs : ∀ d ∈ g.aliveCells, g.torus.Surrounds n d) {r c : Int}
    (hr : -n ≤ r ∧ r < g.torus.rows + n) (hc : -n ≤ c ∧ c < g.torus.cols + n) :
    g.unroll r c = Plane.ofCells g.aliveCells r c := by
  rw [Bool.eq_iff_iff, Plane.ofCells_eq_true, unroll_apply]
  constructor
  · intro halive
    have hd : g.torus.locate r c ∈ g.aliveCells :=
      mem_aliveCells.2 ⟨Torus.contains_locate .., halive⟩
    obtain ⟨⟨hlr, hlc⟩, hur, huc⟩ := hs _ hd
    have hrow := g.torus.row_locate r c
    have hcol := g.torus.col_locate r c
    refine ⟨_, hd, ?_, ?_⟩
    · rw [hrow]
      exact emod_eq_self_of_margin (by omega) (by omega) hr.1 hr.2
    · rw [hcol]
      exact emod_eq_self_of_margin (by omega) (by omega) hc.1 hc.2
  · rintro ⟨d, hd, rfl, rfl⟩
    obtain ⟨hm, halive⟩ := mem_aliveCells.1 hd
    rw [Torus.locate_of_contains hm, halive]

theorem aliveAt_after_eq_ofCells (hs : ∀ d ∈ g.aliveCells, g.torus.Surrounds n d) (f : Rule)
    {d : Cell} (hd : g.torus.Contains d) :
    (g.after f n).aliveAt d = (Plane.ofCells g.aliveCells).after f n d.row d.col := by
  obtain ⟨hr, hc⟩ := hd
  rw [aliveAt_after ⟨hr, hc⟩]
  apply Plane.after_congr
  intro o ho
  have hb := ho.bounds
  exact unroll_eq_ofCells hs (by omega) (by omega)

theorem ofCells_after {f : Rule} (hf : f .dead = false) {s : Finset Cell} (hg : g.aliveCells = s)
    (hs : ∀ d ∈ s, g.torus.Surrounds n d) :
    Plane.ofCells (g.after f n).aliveCells = (Plane.ofCells s).after f n := by
  subst hg
  funext r c
  rw [Bool.eq_iff_iff, Plane.ofCells_eq_true]
  constructor
  · rintro ⟨d, hd, rfl, rfl⟩
    obtain ⟨hm, halive⟩ := mem_aliveCells.1 hd
    rw [torus_after] at hm
    rw [← aliveAt_after_eq_ofCells hs f hm, halive]
  · intro h
    obtain ⟨e, he, hnear⟩ := Plane.near_of_after hf h
    obtain ⟨⟨hlr, hlc⟩, hur, huc⟩ := hs e he
    obtain ⟨⟨hr, hr'⟩, hc, hc'⟩ := hnear
    obtain ⟨row, rfl⟩ := Int.eq_ofNat_of_zero_le (by omega : 0 ≤ r)
    obtain ⟨col, rfl⟩ := Int.eq_ofNat_of_zero_le (by omega : 0 ≤ c)
    have hm : g.torus.Contains ⟨row, col⟩ := ⟨by dsimp only; omega, by dsimp only; omega⟩
    refine ⟨⟨row, col⟩, mem_aliveCells.2 ⟨?_, ?_⟩, rfl, rfl⟩
    · rwa [torus_after]
    · rwa [aliveAt_after_eq_ofCells hs f hm]

end Grid

namespace TwinGrid

/-- Two tori that both leave room for `n` generations around the same cells show the same alive
cells after them, all near the first ones: those that the unbounded plane shows. -/
theorem evolve_far_from_edges {p q : TwinGrid} {f : Rule} {n : Nat} {s : Finset Cell}
    (hf : f .dead = false) (hp : p.source.aliveCells = s) (hq : q.source.aliveCells = s)
    (hs : ∀ d ∈ s, p.torus.Surrounds n d ∧ q.torus.Surrounds n d) :
    ∃ p' q' r r', p.Evolves f n p' r ∧ q.Evolves f n q' r' ∧
      p'.source.aliveCells = q'.source.aliveCells ∧ r.alive = r'.alive ∧
      (∀ d ∈ p'.source.aliveCells, ∃ e ∈ s, e.Near n d.row d.col) ∧
      Plane.ofCells p'.source.aliveCells = (Plane.ofCells s).after f n := by
  have hpp := Grid.ofCells_after hf hp fun d hd => p.torus_source ▸ (hs d hd).1
  have hqp := Grid.ofCells_after hf hq fun d hd => q.torus_source ▸ (hs d hd).2
  have hcells : (p.source.after f n).aliveCells = (q.source.after f n).aliveCells :=
    Plane.ofCells_injective (hpp.trans hqp.symm)
  refine ⟨_, _, _, _, evolves_advance p f n, evolves_advance q f n, ?_⟩
  rw [source_iterate_advance, source_iterate_advance]
  refine ⟨hcells, ?_, ?_, hpp⟩
  · change (p.source.after f n).aliveCount = (q.source.after f n).aliveCount
    rw [← Grid.card_aliveCells, ← Grid.card_aliveCells, hcells]
  · intro d hd
    apply Plane.near_of_after hf
    rw [← hpp, Plane.ofCells_cell]
    exact hd

/-- The same cell on tori of nine cells and of twenty. -/
theorem evolve_far_from_edges_of_lone_cell :
    let t : Torus := ⟨⟨3, 3⟩, by decide, by decide⟩
    let u : Torus := ⟨⟨4, 5⟩, by decide, by decide⟩
    let p : TwinGrid := ⟨.tabulate t fun c => decide (c = ⟨1, 1⟩), .dead t, .first, rfl⟩
    let q : TwinGrid := ⟨.dead u, .tabulate u fun c => decide (c = ⟨1, 1⟩), .second, rfl⟩
    Rule.exactlyOne .dead = false ∧
      (p.source.aliveCells = {⟨1, 1⟩} ∧ q.source.aliveCells = {⟨1, 1⟩}) ∧
      (t.Surrounds 1 ⟨1, 1⟩ ∧ u.Surrounds 1 ⟨1, 1⟩) ∧
      ∃ p' q' r r', p.Evolves Rule.exactlyOne 1 p' r ∧ q.Evolves Rule.exactlyOne 1 q' r' ∧
        p'.source.aliveCells = q'.source.aliveCells ∧ r.alive = r'.alive := by
  intro t u p q
  have hf : Rule.exactlyOne .dead = false := by decide
  have hp : p.source.aliveCells = {⟨1, 1⟩} := by decide
  have hq : q.source.aliveCells = {⟨1, 1⟩} := by decide
  have hs : t.Surrounds 1 ⟨1, 1⟩ ∧ u.Surrounds 1 ⟨1, 1⟩ := by
    unfold Torus.Surrounds
    decide
  obtain ⟨p', q', r, r', hpe, hqe, hcells, hcount, -, -⟩ :=
    evolve_far_from_edges hf hp hq fun d hd => by
      obtain rfl := Finset.mem_singleton.1 hd
      exact hs
  exact ⟨hf, ⟨hp, hq⟩, hs, p', q', r, r', hpe, hqe, hcells, hcount⟩

end TwinGrid

end TorusAutomaton
