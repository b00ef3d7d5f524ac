import TorusAutomaton.Proofs.Cells
import TorusAutomaton.Proofs.Numbering
import Mathlib.Algebra.GroupWithZero.Nat
import Mathlib.Data.List.ProdSigma
import Mathlib.Data.Set.Function

/-! Every direction permutes the cells of a torus: a displacement is undone by its opposite. In one
sweep each cell is therefore read once from each direction, and the neighborhoods show every alive
cell four times. -/
namespace TorusAutomaton

namespace Torus

variable {t : Torus}

/-- The number of the cell that lies `a` rows and `b` columns from the cell numbered `i`. -/
def displace (t : Torus) (a b : Int) (i : Nat) : Nat :=
  t.rowMajor (t.locate ((t.cellOf i).row + a) ((t.cellOf i).col + b))

def toward (t : Torus) (d : Direction) : Nat → Nat := t.displace d.offset.dr d.offset.dc

theorem displace_lt (t : Torus) (a b : Int) (i : Nat) : t.displace a b i < t.area :=
  rowMajor_lt (t.contains_locate ..)

theorem cellOf_displace (t : Torus) (a b : Int) (i : Nat) :
    t.cellOf (t.displace a b i) = t.locate ((t.cellOf i).row + a) ((t.cellOf i).col + b) :=
  cellOf_rowMajor (t.contains_locate ..)

theorem displace_displace (t : Torus) (a b a' b' : Int) (i : Nat) :
    t.displace a' b' (t.displace a b i) = t.displace (a + a') (b + b') i := by
  rw [displace, cellOf_displace, locate_add, Int.add_assoc, Int.add_assoc, displace]

theorem displace_zero {i : Nat} (hi : i < t.area) : t.displace 0 0 i = i := by
  unfold displace
  rw [Int.add_zero, Int.add_zero, locate_of_contains (contains_cellOf hi), rowMajor_cellOf]

theorem leftInvOn_displace {a b a' b' : Int} (ha : a + a' = 0) (hb : b + b' = 0) :
    Set.LeftInvOn (t.displace a' b') (t.displace a b) (Set.Iio t.area) := by
  intro i hi
  rw [displace_displace, ha, hb, displace_zero hi]

theorem invOn_displace {a b a' b' : Int} (ha : a + a' = 0) (hb : b + b' = 0) :
    Set.InvOn (t.displace a' b') (t.displace a b) (Set.Iio t.area) (Set.Iio t.area) :=
  ⟨leftInvOn_displace ha hb,
    leftInvOn_displace ((Int.add_comm a' a).trans ha) ((Int.add_comm b' b).trans hb)⟩

theorem bijOn_displace (t : Torus) (a b : Int) :
    Set.BijOn (t.displace a b) (Set.Iio t.area) (Set.Iio t.area) :=
  (invOn_displace (Int.add_right_neg a) (Int.add_right_neg b)).bijOn
    (fun i _ => t.displace_lt a b i) fun i _ => t.displace_lt (-a) (-b) i

theorem bijOn_toward (t : Torus) (d : Direction) :
    Set.BijOn (t.toward d) (Set.Iio t.area) (Set.Iio t.area) := t.bijOn_displace ..

theorem neighbors_of_row_lt {i : Nat} (h : (t.cellOf i).row < 0x7fffffffffffffff) :
    t.neighbors i = .ok (Direction.all.map fun d => (d, t.toward d i)) := by
  have hd : ∀ d, t.neighbor i d = .ok (t.toward d i) := neighbor_of_row_lt h
  simp only [neighbors, hd]
  rfl

theorem neighbors_of_lt {i : Nat} (hi : i < t.area) :
    t.neighbors i = .ok (Direction.all.map fun d => (d, t.toward d i)) :=
  neighbors_of_row_lt (row_cellOf_lt hi)

theorem map_toward_perm (t : Torus) (d : Direction) :
    ((List.range t.area).map (t.toward d)).Perm (List.range t.area) := by
  obtain ⟨hmaps, hinj, hsurj⟩ := t.bijOn_toward d
  refine (List.perm_ext_iff_of_nodup (List.nodup_range.map_on ?_) List.nodup_range).2 ?_
  · intro i hi j hj hij
    exact hinj (List.mem_range.1 hi) (List.mem_range.1 hj) hij
  · intro j
    simp only [List.mem_map, List.mem_range]
    constructor
    · rintro ⟨i, hi, rfl⟩
      exact hmaps hi
    · intro hj
      exact hsurj hj

theorem flatMap_toward_perm (t : Torus) :
    ((List.range t.area).flatMap fun i => Direction.all.map fun d => (d, t.toward d i)).Perm
      (Direction.all ×ˢ List.range t.area) := by
  have hall : Direction.all.Nodup := by decide
  refine (List.perm_ext_iff_of_nodup (List.nodup_flatMap.2 ⟨?_, ?_⟩)
    (hall.product List.nodup_range)).2 ?_
  · intro i _
    exact hall.map fun d e h => congrArg Prod.fst h
  · refine List.nodup_range.pairwise_of_forall_ne fun i hi j hj hne x hxi hxj => hne ?_
    obtain ⟨d, -, rfl⟩ := List.mem_map.1 hxi
    obtain ⟨e, -, he⟩ := List.mem_map.1 hxj
    obtain ⟨rfl, hij⟩ := Prod.mk.inj he
    exact (t.bijOn_toward e).injOn (List.mem_range.1 hi) (List.mem_range.1 hj) hij.symm
  · rintro ⟨d, j⟩
    simp only [List.mem_flatMap, List.mem_map, List.mem_range, List.mem_product, Prod.mk.injEq]
    constructor
    · rintro ⟨i, hi, e, he, rfl, rfl⟩
      exact ⟨he, (t.bijOn_toward e).mapsTo hi⟩
    · rintro ⟨hd, hj⟩
      obtain ⟨i, hi, hij⟩ := (t.bijOn_toward d).surjOn hj
      exact ⟨i, hi, d, hd, rfl, hij⟩

end Torus

theorem mapM_eq_ok {α β ε : Type} {f : α → Except ε β} {h : α → β} {l : List α}
    (hf : ∀ a ∈ l, f a = .ok (h a)) : l.mapM f = .ok (l.map h) := by
  induction l with
  | nil => rfl
  | cons a l ih =>
    rw [List.mapM_cons, hf a List.mem_cons_self, ih fun b hb => hf b (List.mem_cons_of_mem a hb)]
    rfl

theorem Neighborhood.sum_aliveCount (l : List Neighborhood) :
    (l.map aliveCount).sum = (Direction.all.map fun d => l.countP (·.get d)).sum := by
  induction l with
  | nil => rfl
  | cons n l ih =>
    rw [List.map_cons, List.sum_cons, ih]
    obtain ⟨left, right, up, down⟩ := n
    simp only [Direction.all, List.map_cons, List.map_nil, List.sum_cons, List.sum_nil,
      List.countP_cons, get, aliveCount, toList, List.count_cons, List.count_nil, beq_iff_eq]
    omega

namespace Grid

def sights (g : Grid) : List Neighborhood :=
  (List.range g.torus.area).map fun i =>
    g.unroll.sees (g.torus.cellOf i).row (g.torus.cellOf i).col

theorem mapM_sample (g : Grid) :
    (List.range g.torus.area).mapM (g.torus.sample g) = .ok g.sights :=
  mapM_eq_ok fun _ hi => Torus.sample_of_row_lt (Torus.row_cellOf_lt (List.mem_range.1 hi))

theorem map_get_sights (g : Grid) (d : Direction) :
    g.sights.map (·.get d) =
      (List.range g.torus.area).map fun i => g.alive (g.torus.toward d i) := by
  rw [sights, List.map_map]
  apply List.map_congr_left
  intro i _
  exact Plane.get_sees ..

theorem countP_sights (g : Grid) (d : Direction) : g.sights.countP (·.get d) = g.aliveCount := by
  calc g.sights.countP (·.get d) = (g.sights.map (·.get d)).countP id := by
        rw [List.countP_map]
        rfl
    _ = ((List.range g.torus.area).map (g.torus.toward d)).countP g.alive := by
        rw [map_get_sights, List.countP_map, List.countP_map]
        rfl
    _ = g.aliveCount := by rw [(g.torus.map_toward_perm d).countP_eq, aliveCount_eq_countP]

theorem sum_aliveCount_sights (g : Grid) :
    (g.sights.map Neighborhood.aliveCount).sum = 4 * g.aliveCount := by
  rw [Neighborhood.sum_aliveCount]
  simp only [Direction.all, countP_sights, List.map_cons, List.map_nil, List.sum_cons, List.sum_nil]
  omega

end Grid

/-- Moving in any one direction maps the cells of a torus one-to-one onto themselves, and right
undoes left and down. So the reads of a sweep are each direction once with each cell, and the alive
states that are seen are four times the alive cells. -/
theorem Torus.directions_permute_cells (t : Torus) :
    (∀ i < t.area, t.neighbors i = .ok (Direction.all.map fun d => (d, t.toward d i))) ∧
      (∀ d, Set.BijOn (t.toward d) (Set.Iio t.area) (Set.Iio t.area)) ∧
      (∀ d, d = .left ∨ d = .down →
        Set.InvOn (t.toward .right) (t.toward d) (Set.Iio t.area) (Set.Iio t.area)) ∧
      (∃ reads, (List.range t.area).mapM t.neighbors = .ok reads ∧
        reads.flatten.Perm (Direction.all ×ˢ List.range t.area)) ∧
      ∀ g : Grid, g.torus = t → ∃ seen, (List.range t.area).mapM (t.sample g) = .ok seen ∧
        (∀ d, seen.map (·.get d) = (List.range t.area).map fun i => g.alive (t.toward d i)) ∧
        (seen.map Neighborhood.aliveCount).sum = 4 * g.aliveCount := by
  refine ⟨fun i hi => neighbors_of_lt hi, t.bijOn_toward, ?_, ?_, ?_⟩
  · rintro d (rfl | rfl)
    · exact invOn_displace rfl rfl
    · exact invOn_displace rfl rfl
  · refine ⟨_, mapM_eq_ok fun i hi => neighbors_of_lt (List.mem_range.1 hi), ?_⟩
    rw [← List.flatMap_def]
    exact t.flatMap_toward_perm
  · rintro g rfl
    exact ⟨g.sights, g.mapM_sample, g.map_get_sights, g.sum_aliveCount_sights⟩

/-! When two displacements of a cell meet. They do when they differ by whole turns on both axes,
which small displacements only do on short sides: there neighbors in different directions are one
cell. A cell is its own neighbor on no torus but that of a single cell, so elsewhere its state is no
part of what it sees. -/

namespace Torus

variable {t : Torus} {i : Nat}

theorem locate_eq_locate_iff {r c r' c' : Int} :
    t.locate r c = t.locate r' c' ↔ (t.rows : Int) ∣ r - r' ∧ (t.cols : Int) ∣ c - c' := by
  rw [Int.dvd_iff_emod_eq_zero, Int.dvd_iff_emod_eq_zero, ← Int.emod_eq_emod_iff_emod_sub_eq_zero,
    ← Int.emod_eq_emod_iff_emod_sub_eq_zero]
  constructor
  · intro h
    rw [← row_locate t r c, ← col_locate t r c, h, row_locate, col_locate]
    exact ⟨rfl, rfl⟩
  · rintro ⟨hr, hc⟩
    simp only [locate, hr, hc]

theorem displace_eq_displace_iff (t : Torus) (a b a' b' : Int) (i : Nat) :
    t.displace a b i = t.displace a' b' i ↔ (t.rows : Int) ∣ a - a' ∧ (t.cols : Int) ∣ b - b' := by
  have hinj : t.displace a b i = t.displace a' b' i ↔
      t.locate ((t.cellOf i).row + a) ((t.cellOf i).col + b) =
        t.locate ((t.cellOf i).row + a') ((t.cellOf i).col + b') := by
    rw [← cellOf_displace, ← cellOf_displace]
    refine ⟨congrArg t.cellOf, fun h => ?_⟩
    rw [← t.rowMajor_cellOf (t.displace a b i), h, rowMajor_cellOf]
  rw [hinj, locate_eq_locate_iff, Int.add_sub_add_left, Int.add_sub_add_left]

theorem displace_eq_self_iff (hi : i < t.area) (a b : Int) :
    t.displace a b i = i ↔ (t.rows : Int) ∣ a ∧ (t.cols : Int) ∣ b := by
  calc t.displace a b i = i ↔ t.displace a b i = t.displace 0 0 i := by rw [displace_zero hi]
    _ ↔ (t.rows : Int) ∣ a ∧ (t.cols : Int) ∣ b := by
      rw [displace_eq_displace_iff, Int.sub_zero, Int.sub_zero]

theorem natCast_dvd_two_iff {n : Nat} (hn : 0 < n) : (n : Int) ∣ 2 ↔ n ≤ 2 := by
  rw [show (2 : Int) = (2 : Nat) from rfl, Int.natCast_dvd_natCast]
  constructor
  · exact Nat.le_of_dvd (by decide)
  · intro h
    obtain rfl | rfl : n = 1 ∨ n = 2 := by omega
    · decide
    · decide

theorem natCast_dvd_one_iff {n : Nat} : (n : Int) ∣ 1 ↔ n = 1 := by
  rw [show (1 : Int) = (1 : Nat) from rfl, Int.natCast_dvd_natCast, Nat.dvd_one]

theorem toward_left_eq_up_iff : t.toward .left i = t.toward .up i ↔ t.rows ≤ 2 := by
  rw [toward, toward, displace_eq_displace_iff, ← natCast_dvd_two_iff t.rows_pos]
  exact and_iff_left (Int.dvd_zero _)

theorem toward_right_eq_up_iff : t.toward .right i = t.toward .up i ↔ t.cols ≤ 2 := by
  rw [eq_comm, toward, toward, displace_eq_displace_iff, ← natCast_dvd_two_iff t.cols_pos]
  exact and_iff_right (Int.dvd_zero _)

theorem toward_left_eq_right_iff :
    t.toward .left i = t.toward .right i ↔ t.rows ≤ 2 ∧ t.cols ≤ 2 := by
  rw [toward, toward, displace_eq_displace_iff, ← natCast_dvd_two_iff t.rows_pos,
    ← natCast_dvd_two_iff t.cols_pos]
  rfl

theorem toward_eq_self_iff (hi : i < t.area) (d : Direction) :
    t.toward d i = i ↔ t.rows = 1 ∧ t.cols = 1 := by
  rw [toward, displace_eq_self_iff hi, ← natCast_dvd_one_iff, ← natCast_dvd_one_iff]
  cases d with
  | left | down => rfl
  | right => exact and_congr Int.dvd_neg Int.dvd_neg
  | up => exact and_congr Int.dvd_neg Iff.rfl

theorem sample_of_lt {g : Grid} (hg : g.torus = t) (hi : i < t.area) :
    t.sample g i = .ok ⟨g.alive (t.toward .left i), g.alive (t.toward .right i),
      g.alive (t.toward .up i), g.alive (t.toward .down i)⟩ := by
  subst hg
  exact sample_of_row_lt (row_cellOf_lt hi)

theorem sample_write {g : Grid} (hg : g.torus = t) (hi : i < t.area) (b : Bool)
    (h : i < g.states.size) (hne : ∀ d, t.toward d i ≠ i) :
    t.sample (g.write i b h) i = t.sample g i := by
  have halive : ∀ d, (g.write i b h).alive (t.toward d i) = g.alive (t.toward d i) := by
    intro d
    rw [Grid.alive_write, if_neg (hne d).symm]
  rw [sample_of_lt hg hi, sample_of_lt (by exact hg) hi]
  simp only [halive]

/-- The directions left and down are the same. Left and up meet when there are at most two rows,
right and up when there are at most two columns, left and right when there are at most two of both.
A cell of a torus of more than one is not among its own neighbors, and what it sees does not change
when it is written to. -/
theorem neighbors_coincide_on_short_sides (t : Torus) {i : Nat} (hi : i < t.rows * t.cols) :
    ∃ left right up down,
      t.neighbors i = .ok [(.left, left), (.right, right), (.up, up), (.down, down)] ∧
      left = down ∧
      (left = up ↔ t.rows ≤ 2) ∧
      (right = up ↔ t.cols ≤ 2) ∧
      (left = right ↔ t.rows ≤ 2 ∧ t.cols ≤ 2) ∧
      (i ∈ [left, right, up, down] ↔ t.rows = 1 ∧ t.cols = 1) ∧
      (1 < t.rows * t.cols → ∀ g : Grid, g.torus = t → ∀ b, ∃ g' n,
        g.set i b = .done g' () ∧ t.sample g i = .ok n ∧ t.sample g' i = .ok n) := by
  refine ⟨_, _, _, _, neighbors_of_lt hi, rfl, toward_left_eq_up_iff, toward_right_eq_up_iff,
    toward_left_eq_right_iff, ?_, ?_⟩
  · simp only [List.mem_cons, List.not_mem_nil, or_false, eq_comm (a := i), toward_eq_self_iff hi,
      or_self]
  · intro hcells g hg b
    have hsize : i < g.size := by rwa [g.size_eq_area, hg]
    have hne : ∀ d, t.toward d i ≠ i := by
      intro d hd
      obtain ⟨hr, hc⟩ := (toward_eq_self_iff hi d).1 hd
      rw [hr, hc] at hcells
      omega
    refine ⟨_, _, Grid.set_of_lt hsize b, sample_of_lt hg hi, ?_⟩
    rw [sample_write hg hi b hsize hne, sample_of_lt hg hi]

/-- Two rows of three: left and up are one cell, right and up are not. -/
theorem neighbors_coincide_on_short_sides_of_two_rows :
    let t : Torus := ⟨⟨2, 3⟩, by decide, by decide⟩
    4 < t.rows * t.cols ∧ ∃ left right up down,
      t.neighbors 4 = .ok [(.left, left), (.right, right), (.up, up), (.down, down)] ∧
        left = up ∧ right ≠ up ∧ 4 ∉ [left, right, up, down] := by
  intro t
  have hi : 4 < t.rows * t.cols := by decide
  obtain ⟨left, right, up, down, h, -, hrows, hcols, -, hself, -⟩ :=
    neighbors_coincide_on_short_sides t hi
  refine ⟨hi, left, right, up, down, h, hrows.2 (by decide), ?_, ?_⟩
  · intro hru
    exact absurd (hcols.1 hru) (by decide)
  · intro hmem
    exact absurd (hself.1 hmem) (by decide)

end Torus

/-! Displacements in words. A displacement fails exactly where a sum does not fit its word, and
otherwise comes to the cell that the integers name: whole turns lead back, and displacements add up.
The four displacements of the sampler never fail for a number whose row can still be moved down,
also past the last cell, and repeat themselves from there on. -/

namespace Torus

variable {t : Torus} {c : Cell} {a b a' b' : Int} {i : Nat}

theorem shift_of_not_movable (h : ¬ c.Movable a b) :
    t.shift c a b = .error (.fault .sumOverflow) := by
  by_cases hr : Word.Fits (Word.signed c.row + a)
  · -- the row comes through its sum and its remainder before the column is looked at
    have hc : ¬ Word.Fits (Word.signed c.col + b) := fun hc => h ⟨hr, hc⟩
    simp only [shift, Word.add_of_fits hr, Word.add_of_not_fits hc, bind, Except.bind,
      Word.wrap_of_pos t.rows_pos t.rows_lt]
  · simp only [shift, Word.add_of_not_fits hr, bind, Except.bind]

theorem shift_eq_error_iff {e : Failure} :
    t.shift c a b = .error e ↔ ¬ c.Movable a b ∧ e = .fault .sumOverflow := by
  by_cases h : c.Movable a b
  · rw [shift_of_movable h]
    exact iff_of_false (fun he => by cases he) fun he => he.1 h
  · rw [shift_of_not_movable h, Except.error.injEq]
    exact ⟨fun he => ⟨h, he.symm⟩, fun he => he.2.symm⟩

theorem shift_of_contains (hc : t.Contains c) (h : c.Movable a b) :
    t.shift c a b = .ok (t.rowMajor (t.locate (c.row + a) (c.col + b))) := by
  have hrow : Word.signed c.row = c.row := Word.signed_of_lt (Nat.lt_trans hc.1 t.rows_lt)
  have hcol : Word.signed c.col = c.col := Word.signed_of_lt (Nat.lt_trans hc.2 t.cols_lt)
  rw [shift_of_movable h, hrow, hcol]

theorem locate_add_turns (t : Torus) (r c k l : Int) :
    t.locate (r + k * t.rows) (c + l * t.cols) = t.locate r c := by
  unfold locate
  rw [Int.add_mul_emod_self_right, Int.add_mul_emod_self_right]

theorem shift_turns (hc : t.Contains c) {k l : Int} (h : c.Movable (k * t.rows) (l * t.cols)) :
    t.shift c (k * t.rows) (l * t.cols) = .ok (t.rowMajor c) := by
  rw [shift_of_contains hc h, locate_add_turns, locate_of_contains hc]

theorem shift_shift (hc : t.Contains c) (h : c.Movable (a + a') (b + b'))
    (h' : (t.locate (c.row + a) (c.col + b)).Movable a' b') :
    t.shift (t.locate (c.row + a) (c.col + b)) a' b' = t.shift c (a + a') (b + b') := by
  rw [shift_of_contains (contains_locate ..) h', locate_add, shift_of_contains hc h, Int.add_assoc,
    Int.add_assoc]

/-- For whatever rows, columns and displacements, a displacement fails if and only if a sum of words
does not fit, with overflow, and otherwise comes to the number of the cell that the floor remainders
of the sums name. On the cells of the torus whole turns change nothing, and going on from where a
displacement led is one displacement. -/
theorem shift_acts_on_cells (t : Torus) :
    (∀ c a b e, t.shift c a b = .error e ↔ ¬ c.Movable a b ∧ e = .fault .sumOverflow) ∧
      Fault.sumOverflow.message = "attempt to add with overflow" ∧
      (∀ c a b, c.Movable a b → ∃ j, t.shift c a b = .ok j ∧ t.Numbers (t.cellOf j) j ∧
        ((t.cellOf j).row : Int) = (Word.signed c.row + a) % t.rows ∧
        ((t.cellOf j).col : Int) = (Word.signed c.col + b) % t.cols) ∧
      (∀ c, t.Contains c → ∀ k l : Int, c.Movable (k * t.rows) (l * t.cols) →
        t.shift c (k * t.rows) (l * t.cols) = .ok (t.rowMajor c)) ∧
      ∀ c, t.Contains c → ∀ a b a' b', c.Movable a b → c.Movable (a + a') (b + b') →
        ∃ j, t.shift c a b = .ok j ∧ ((t.cellOf j).Movable a' b' →
          ∃ k, t.shift (t.cellOf j) a' b' = .ok k ∧ t.shift c (a + a') (b + b') = .ok k) := by
  refine ⟨fun _ _ _ _ => shift_eq_error_iff, rfl, ?_, fun c hc _ _ h => shift_turns hc h, ?_⟩
  · intro c a b h
    have hm := t.contains_locate (Word.signed c.row + a) (Word.signed c.col + b)
    refine ⟨_, shift_of_movable h, ?_⟩
    rw [cellOf_rowMajor hm]
    exact ⟨numbers_of_contains hm, row_locate .., col_locate ..⟩
  · intro c hc a b a' b' h hsum
    refine ⟨_, shift_of_contains hc h, ?_⟩
    rw [cellOf_rowMajor (contains_locate ..)]
    intro h'
    exact ⟨_, shift_of_movable h', by rw [← shift_shift hc hsum h', shift_of_movable h']⟩

/-- A cell whose words are negative when signed: one sum is below all words,
and the next smaller one is not. -/
theorem shift_acts_on_cells_of_negative_words :
    let t : Torus := ⟨⟨3, 7⟩, by decide, by decide⟩
    let c : Cell := ⟨0xffffffffffffffff, 0x8000000000000000⟩
    ¬ c.Movable (-0x8000000000000000) 1 ∧ c.Movable (-0x7fffffffffffffff) 1 ∧
      t.shift c (-0x8000000000000000) 1 = .error (.fault .sumOverflow) ∧
      t.shift c (-0x7fffffffffffffff) 1 = .ok 7 := by
  intro t c
  have hn : ¬ c.Movable (-0x8000000000000000) 1 := by decide
  have hm : c.Movable (-0x7fffffffffffffff) 1 := by decide
  obtain ⟨herror, -, hok, -⟩ := shift_acts_on_cells t
  refine ⟨hn, hm, (herror _ _ _ _).2 ⟨hn, rfl⟩, ?_⟩
  obtain ⟨j, hj, hnumbers, hrow, hcol⟩ := hok c _ _ hm
  have hrow' : (t.cellOf j).row = 1 := Int.ofNat.inj (hrow.trans (by decide))
  have hcol' : (t.cellOf j).col = 0 := Int.ofNat.inj (hcol.trans (by decide))
  rw [hj, ← hnumbers.eq, hrow', hcol']
  rfl

/-- What a sampler is to find in a direction: none of its words stands for another integer, both
sums fit, and the cell that the remainders of the integers name has the number it reports. -/
structure Finds (t : Torus) (i : Nat) (d : Direction) (c : Cell) (j : Nat) : Prop where
  row_signed : Word.signed (i / t.cols) = (i / t.cols : Nat)
  col_signed : Word.signed (i % t.cols) = (i % t.cols : Nat)
  rows_signed : Word.signed t.rows = t.rows
  cols_signed : Word.signed t.cols = t.cols
  movable : (t.cellOf i).Movable d.offset.dr d.offset.dc
  row_eq : (c.row : Int) = ((i / t.cols : Nat) + d.offset.dr) % t.rows
  col_eq : (c.col : Int) = ((i % t.cols : Nat) + d.offset.dc) % t.cols
  numbers : t.Numbers c j

theorem cellOf_mod_area (t : Torus) (i : Nat) :
    t.cellOf (i % t.area) = t.locate (t.cellOf i).row (t.cellOf i).col := by
  rw [locate_natCast]
  unfold cellOf Extent.area
  rw [Nat.mod_mul_left_div_self, Nat.mod_mul_left_mod, Nat.mod_mod]

/-- Numbers past the last cell start again at the first one. -/
theorem displace_mod_area (t : Torus) (a b : Int) (i : Nat) :
    t.displace a b (i % t.area) = t.displace a b i := by
  unfold displace
  rw [cellOf_mod_area, locate_add]

theorem row_cellOf_mod_area (t : Torus) (i : Nat) :
    (t.cellOf (i % t.area)).row < 0x7fffffffffffffff :=
  row_cellOf_lt (Nat.mod_lt i t.area_pos)

section

variable (h : (t.cellOf i).row < 0x7fffffffffffffff)
include h

theorem finds_toward (d : Direction) :
    t.Finds i d (t.locate ((t.cellOf i).row + d.offset.dr) ((t.cellOf i).col + d.offset.dc))
      (t.toward d i) where
  row_signed := signed_row_cellOf h
  col_signed := signed_col_cellOf t i
  rows_signed := Word.signed_of_lt t.rows_lt
  cols_signed := Word.signed_of_lt t.cols_lt
  movable := movable_cellOf h d
  row_eq := row_locate ..
  col_eq := col_locate ..
  numbers := numbers_of_contains (contains_locate ..)

theorem neighbor_mod_area (d : Direction) : t.neighbor (i % t.area) d = t.neighbor i d := by
  rw [neighbor_of_row_lt h, neighbor_of_row_lt (row_cellOf_mod_area t i)]
  exact congrArg Except.ok (t.displace_mod_area ..)

theorem neighbors_mod_area : t.neighbors (i % t.area) = t.neighbors i := by
  simp only [neighbors, neighbor_mod_area h]

theorem sample_mod_area (g : Grid) : t.sample g (i % t.area) = t.sample g i := by
  simp only [sample, neighbor_mod_area h]

end

section

variable (h : (t.cellOf i).row = 0x7fffffffffffffff)
include h

/-- One row further down there is no word for. -/
theorem neighbor_left_of_last_row : t.neighbor i .left = .error (.fault .sumOverflow) := by
  apply shift_of_not_movable
  intro hm
  have hfits := hm.1
  rw [h] at hfits
  revert hfits
  decide

theorem neighbors_of_last_row : t.neighbors i = .error (.fault .sumOverflow) := by
  simp only [neighbors, Direction.all, List.mapM_cons, neighbor_left_of_last_row h]
  rfl

theorem sample_of_last_row {g : Grid} (hg : g.torus = t) :
    t.sample g i = .error (.fault .sumOverflow) := by
  simp only [sample, if_pos hg, neighbor_left_of_last_row h]
  rfl

end

theorem row_cellOf_of_cols (hi : i < 0x10000000000000000) (hcols : 3 ≤ t.cols) :
    (t.cellOf i).row < 0x7fffffffffffffff := by
  have hle : i / t.cols ≤ i / 3 := Nat.div_le_div_left hcols (by decide)
  change i / t.cols < _
  omega

/-- A sampler stays within its words for every number whose row is at least one below the largest
signed word, and these are all numbers of cells, and all unsigned words if there are three columns.
What it reports repeats itself past the last cell, and so does what it sees. With the row at the
largest word its first sum overflows. -/
theorem sampling_stays_in_words (t : Torus) :
    (∀ i, i / t.cols ≤ 0x7ffffffffffffffe →
      (∃ js, t.neighbors i = .ok js ∧ js.map Prod.fst = Direction.all ∧
        ∀ x ∈ js, ∃ c, t.Finds i x.1 c x.2) ∧
      t.neighbors i = t.neighbors (i % (t.rows * t.cols)) ∧
      ∀ g : Grid, g.torus = t → (∃ n, t.sample g i = .ok n) ∧
        t.sample g i = t.sample g (i % (t.rows * t.cols))) ∧
    (∀ i, i < t.rows * t.cols ∨ i < 0x10000000000000000 ∧ 3 ≤ t.cols →
      i / t.cols ≤ 0x7ffffffffffffffe) ∧
    ∀ i, i / t.cols = 0x7fffffffffffffff →
      t.neighbor i .left = .error (.fault .sumOverflow) ∧
      t.neighbors i = .error (.fault .sumOverflow) ∧
      ∀ g : Grid, g.torus = t → t.sample g i = .error (.fault .sumOverflow) := by
  refine ⟨?_, ?_, ?_⟩
  · intro i hi
    have h : (t.cellOf i).row < 0x7fffffffffffffff := Nat.lt_succ_of_le hi
    refine ⟨⟨_, neighbors_of_row_lt h, ?_, ?_⟩, (neighbors_mod_area h).symm, ?_⟩
    · rw [List.map_map]
      exact List.map_id _
    · intro x hx
      obtain ⟨d, -, rfl⟩ := List.mem_map.1 hx
      exact ⟨_, finds_toward h d⟩
    · rintro g rfl
      exact ⟨⟨_, sample_of_row_lt h⟩, (sample_mod_area h g).symm⟩
  · rintro i (hi | ⟨hi, hcols⟩)
    · exact Nat.le_of_lt_succ (row_cellOf_lt hi)
    · exact Nat.le_of_lt_succ (row_cellOf_of_cols hi hcols)
  · intro i hi
    exact ⟨neighbor_left_of_last_row hi, neighbors_of_last_row hi,
      fun g hg => sample_of_last_row hi hg⟩

/-- The longest torus: its last number can be moved down, and the number past it cannot. -/
theorem sampling_stays_in_words_of_longest_torus :
    let t : Torus := ⟨⟨0x7fffffffffffffff, 1⟩, by decide, by decide⟩
    (∃ js, t.neighbors 0x7ffffffffffffffe = .ok js ∧ js.map Prod.fst = Direction.all) ∧
      t.neighbors 0x7fffffffffffffff = .error (.fault .sumOverflow) := by
  intro t
  obtain ⟨hok, -, herror⟩ := sampling_stays_in_words t
  obtain ⟨⟨js, hjs, hall, -⟩, -⟩ := hok 0x7ffffffffffffffe (by decide)
  exact ⟨⟨js, hjs, hall⟩, (herror 0x7fffffffffffffff (by decide)).2.1⟩

end Torus

end TorusAutomaton
