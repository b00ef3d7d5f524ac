import TorusAutomaton.Grid
import TorusAutomaton.Proofs.Cells
import Mathlib.Algebra.Order.Group.Unbundled.Int
import Mathlib.Data.Prod.Lex
import Mathlib.Data.Set.Function
import Mathlib.Order.Interval.Set.Defs

/-! Remainders of words. A divisor is read as a signed word, and only its size counts: up to
`2 ^ 63` that is the divisor itself, from there on what it lacks to `2 ^ 64`. The remainder is the
residue below that size, and there is none for zero, nor of the least word for `-1`. -/
namespace TorusAutomaton.Word

/-- Whether `w` is the number below `m` that differs from `x` by a multiple of `m`. -/
structure IsResidue (m : Nat) (x : Int) (w : Nat) : Prop where
  lt : w < m
  dvd : (m : Int) ∣ x - w

variable {m n v w : Nat} {x y : Int}

theorem IsResidue.unique (hv : IsResidue m x v) (hw : IsResidue m x w) : v = w := by
  have hdvd : (m : Int) ∣ (v : Int) - w := by
    rw [← sub_sub_sub_cancel_left (w : Int) v x]
    exact Int.dvd_sub hw.dvd hv.dvd
  have habs : |(v : Int) - w| < m := by
    have hvm := hv.lt
    have hwm := hw.lt
    rw [abs_lt]
    omega
  have hzero := Int.eq_zero_of_abs_lt_dvd hdvd habs
  omega

theorem IsResidue.iff_eq (hw : IsResidue m x w) : IsResidue m x v ↔ v = w :=
  ⟨fun hv => hv.unique hw, fun h => h ▸ hw⟩

theorem IsResidue.add_turns (h : IsResidue m x w) (k : Int) : IsResidue m (x + k * m) w := by
  refine ⟨h.lt, ?_⟩
  rw [add_sub_right_comm]
  exact Int.dvd_add h.dvd (Int.dvd_mul_left k m)

theorem IsResidue.eq_of_range (h : IsResidue m x w) (hx : 0 ≤ x) (hlt : x < m) : (w : Int) = x := by
  obtain ⟨v, rfl⟩ := Int.eq_ofNat_of_zero_le hx
  have hv : IsResidue m v v := by
    refine ⟨Int.ofNat_lt.1 hlt, ?_⟩
    rw [Int.sub_self]
    exact Int.dvd_zero _
  rw [h.unique hv]

theorem isResidue_emod (hy : y ≠ 0) : IsResidue y.natAbs x (x % y).toNat := by
  have hnonneg := Int.emod_nonneg x hy
  have hlt := Int.emod_lt x hy
  refine ⟨by omega, ?_⟩
  rw [Int.toNat_of_nonneg hnonneg, Int.natAbs_dvd]
  exact Int.dvd_self_sub_emod

theorem signed_eq_zero_iff (hn : n < 0x10000000000000000) : signed n = 0 ↔ n = 0 := by
  unfold signed
  split <;> omega

theorem signed_eq_neg_one_iff : signed n = -1 ↔ n = 0xffffffffffffffff := by
  unfold signed
  split <;> omega

theorem natAbs_signed_of_le (h : n ≤ 0x8000000000000000) : (signed n).natAbs = n := by
  unfold signed
  split <;> omega

theorem natAbs_signed_of_gt (hn : n < 0x10000000000000000) (h : 0x8000000000000000 < n) :
    (signed n).natAbs = 0x10000000000000000 - n := by
  unfold signed
  split <;> omega

theorem natAbs_signed_le (hn : n < 0x10000000000000000) : (signed n).natAbs ≤ n := by
  rcases Nat.lt_or_ge 0x8000000000000000 n with h | h
  · rw [natAbs_signed_of_gt hn h]
    omega
  · exact Nat.le_of_eq (natAbs_signed_of_le h)

theorem wrap_zero (x : Int) : wrap x 0 = .error (.fault .zeroDivisor) := rfl

theorem wrap_least_by_neg_one :
    wrap (-0x8000000000000000) 0xffffffffffffffff = .error (.fault .remainderOverflow) := rfl

theorem wrap_eq_emod (hzero : n ≠ 0)
    (hleast : ¬ (x = -0x8000000000000000 ∧ n = 0xffffffffffffffff)) :
    wrap x n = .ok (x % signed n).toNat := by
  rw [← signed_eq_neg_one_iff] at hleast
  unfold wrap
  rw [if_neg hzero, if_neg hleast]

theorem wrap_eq_error_iff {e : Failure} :
    wrap x n = .error e ↔ n = 0 ∧ e = .fault .zeroDivisor ∨
      (x = -0x8000000000000000 ∧ n = 0xffffffffffffffff) ∧ e = .fault .remainderOverflow := by
  by_cases hzero : n = 0
  · subst hzero
    rw [wrap_zero, Except.error.injEq]
    simp [eq_comm]
  by_cases hleast : x = -0x8000000000000000 ∧ n = 0xffffffffffffffff
  · obtain ⟨rfl, rfl⟩ := hleast
    rw [wrap_least_by_neg_one, Except.error.injEq]
    simp [eq_comm]
  · rw [wrap_eq_emod hzero hleast]
    simp [hzero, hleast]

section

variable (hn : n < 0x10000000000000000)
include hn

theorem wrap_eq_ok_iff :
    wrap x n = .ok w ↔
      ¬ (x = -0x8000000000000000 ∧ n = 0xffffffffffffffff) ∧ IsResidue (signed n).natAbs x w := by
  by_cases hzero : n = 0
  · -- below zero there is no residue
    subst hzero
    exact iff_of_false (fun h => by cases h) fun h => Nat.not_lt_zero w h.2.lt
  by_cases hleast : x = -0x8000000000000000 ∧ n = 0xffffffffffffffff
  · obtain ⟨rfl, rfl⟩ := hleast
    exact iff_of_false (fun h => by cases h) fun h => h.1 ⟨rfl, rfl⟩
  · have hs : signed n ≠ 0 := fun h => hzero ((signed_eq_zero_iff hn).1 h)
    rw [wrap_eq_emod hzero hleast, Except.ok.injEq, and_iff_right hleast,
      (isResidue_emod hs).iff_eq]
    exact eq_comm

theorem wrap_lt (h : wrap x n = .ok w) : w < n :=
  Nat.lt_of_lt_of_le ((wrap_eq_ok_iff hn).1 h).2.lt (natAbs_signed_le hn)

end

section

variable (h : n ≤ 0x8000000000000000)
include h

theorem wrap_eq_ok_iff_of_le : wrap x n = .ok w ↔ IsResidue n x w := by
  rw [wrap_eq_ok_iff (by omega), natAbs_signed_of_le h]
  exact and_iff_right (by omega)

theorem wrap_add_turns (hw : wrap x n = .ok w) (k : Int) : wrap (x + k * n) n = .ok w := by
  rw [wrap_eq_ok_iff_of_le h] at hw ⊢
  exact hw.add_turns k

end

/-- For any integer and any divisor that is a word, there is no remainder if and only if the divisor
is zero, or it is `-1` when signed and the integer is the least word. Any other remainder is the one
residue below the size of the divisor, and so below the divisor. As long as the divisor is at most
`2 ^ 63` it is its own size: whole multiples of it then change nothing, and what is in range is its
own remainder. -/
theorem wrap_leaves_least_residue (x : Int) {n : Nat} (hn : n < 0x10000000000000000) :
    (∀ e, wrap x n = .error e ↔ n = 0 ∧ e = .fault .zeroDivisor ∨
      (x = -0x8000000000000000 ∧ n = 0xffffffffffffffff) ∧ e = .fault .remainderOverflow) ∧
    Fault.zeroDivisor.message = "attempt to calculate the remainder with a divisor of zero" ∧
    Fault.remainderOverflow.message = "attempt to calculate the remainder with overflow" ∧
    (1 ≤ n → n ≤ 0x8000000000000000 →
      ∃ w, wrap x n = .ok w ∧ (∀ v, IsResidue n x v ↔ v = w) ∧
        (∀ k : Int, wrap (x + k * n) n = .ok w) ∧ (0 ≤ x → x < n → (w : Int) = x)) ∧
    (0x8000000000000000 < n → ¬ (x = -0x8000000000000000 ∧ n = 0xffffffffffffffff) →
      ∃ w, wrap x n = .ok w ∧ ∀ v, IsResidue (0x10000000000000000 - n) x v ↔ v = w) ∧
    ∀ w, wrap x n = .ok w → w < n := by
  refine ⟨fun _ => wrap_eq_error_iff, rfl, rfl, ?_, ?_, fun _ => wrap_lt hn⟩
  · intro hpos hle
    have hw := wrap_eq_emod (x := x) (n := n) (by omega) (by omega)
    have hres := (wrap_eq_ok_iff_of_le hle).1 hw
    exact ⟨_, hw, fun _ => hres.iff_eq, wrap_add_turns hle hw, hres.eq_of_range⟩
  · intro hgt hleast
    have hw := wrap_eq_emod (by omega) hleast
    have hres := ((wrap_eq_ok_iff hn).1 hw).2
    rw [natAbs_signed_of_gt hn hgt] at hres
    exact ⟨_, hw, fun _ => hres.iff_eq⟩

/-- The first divisor that is negative when signed is still its own size; the one that is `-3` when
signed takes the least word to a remainder below 3, and the one that is `-1` takes it to none. -/
theorem wrap_leaves_least_residue_past_signed_words :
    0x8000000000000000 < 0x10000000000000000 ∧
      wrap (-1) 0x8000000000000000 = .ok 0x7fffffffffffffff ∧
      0xfffffffffffffffd < 0x10000000000000000 ∧
      wrap (-0x8000000000000000) 0xfffffffffffffffd = .ok 1 ∧
      0xffffffffffffffff < 0x10000000000000000 ∧
      wrap (-0x8000000000000000) 0xffffffffffffffff = .error (.fault .remainderOverflow) := by
  refine ⟨by decide, ?_, by decide, ?_, by decide, ?_⟩
  · obtain ⟨-, -, -, hok, -⟩ := wrap_leaves_least_residue (-1) (n := 0x8000000000000000) (by decide)
    obtain ⟨w, hw, hres, -⟩ := hok (by decide) (by decide)
    rw [hw, (hres 0x7fffffffffffffff).1 ⟨by decide, by decide⟩]
  · obtain ⟨-, -, -, -, hok, -⟩ :=
      wrap_leaves_least_residue (-0x8000000000000000) (n := 0xfffffffffffffffd) (by decide)
    obtain ⟨w, hw, hres⟩ := hok (by decide) (by decide)
    rw [hw, (hres 1).1 ⟨by decide, by decide⟩]
  · obtain ⟨herror, -⟩ :=
      wrap_leaves_least_residue (-0x8000000000000000) (n := 0xffffffffffffffff) (by decide)
    exact (herror _).2 (.inr ⟨⟨rfl, rfl⟩, rfl⟩)

end TorusAutomaton.Word

/-! The numbers of the cells of a torus. A number and its cell tell each other, and a cell that
comes later, row by row, has a larger number. The limit on the cells keeps the product and the sum
that make up a number within unsigned words. -/
namespace TorusAutomaton

/-- Cells are ordered by their rows, and within a row by their columns. -/
def Cell.key (c : Cell) : Nat ×ₗ Nat := toLex (c.row, c.col)

theorem Cell.key_lt_iff {c d : Cell} :
    c.key < d.key ↔ c.row < d.row ∨ c.row = d.row ∧ c.col < d.col :=
  Prod.Lex.toLex_lt_toLex

namespace Torus

/-- Whether `i` is the number of a cell of the torus, with nothing on the way
to it too large for a word. -/
structure Numbers (t : Torus) (c : Cell) (i : Nat) : Prop where
  product_lt : c.row * t.cols < 0x10000000000000000
  sum_lt : c.row * t.cols + c.col < 0x10000000000000000
  eq : c.row * t.cols + c.col = i
  lt : i < t.rows * t.cols

variable {t : Torus} {c d : Cell} {i : Nat}

theorem numbers_of_contains (h : t.Contains c) : t.Numbers c (t.rowMajor c) := by
  have hlt : c.row * t.cols + c.col < t.rows * t.cols := rowMajor_lt h
  have harea : t.rows * t.cols < 0x8000000000000000 := t.area_lt
  exact ⟨by omega, by omega, rfl, hlt⟩

theorem contains_cellOf_iff : t.Contains (t.cellOf i) ↔ i < t.area := by
  refine ⟨fun h => ?_, contains_cellOf⟩
  have hlt := rowMajor_lt h
  rwa [rowMajor_cellOf] at hlt

theorem bijOn_cellOf (t : Torus) : Set.BijOn t.cellOf (Set.Iio t.area) {c | t.Contains c} := by
  have hinv : Set.InvOn t.rowMajor t.cellOf (Set.Iio t.area) {c | t.Contains c} :=
    ⟨fun i _ => t.rowMajor_cellOf i, fun _ hc => cellOf_rowMajor hc⟩
  exact hinv.bijOn (fun _ hi => contains_cellOf hi) fun _ hc => rowMajor_lt hc

theorem rowMajor_lt_of_row_lt (hc : t.Contains c) (h : c.row < d.row) :
    t.rowMajor c < t.rowMajor d := by
  have hcol := hc.2
  calc t.rowMajor c < (c.row + 1) * t.cols := by
        rw [Nat.succ_mul]
        unfold rowMajor
        omega
    _ ≤ d.row * t.cols := Nat.mul_le_mul_right t.cols h
    _ ≤ t.rowMajor d := Nat.le_add_right ..

theorem rowMajor_lt_rowMajor_iff (hc : t.Contains c) (hd : t.Contains d) :
    t.rowMajor c < t.rowMajor d ↔ c.key < d.key := by
  rw [Cell.key_lt_iff]
  rcases Nat.lt_trichotomy c.row d.row with h | h | h
  · exact iff_of_true (rowMajor_lt_of_row_lt hc h) (.inl h)
  · unfold rowMajor
    rw [h]
    omega
  · have := rowMajor_lt_of_row_lt hd h
    omega

theorem index_eq_ok_iff : t.index c = .ok i ↔ t.Contains c ∧ t.rowMajor c = i := by
  unfold index
  by_cases h : t.Contains c
  · rw [if_pos h, Except.ok.injEq]
    exact (and_iff_right h).symm
  · rw [if_neg h]
    exact iff_of_false (fun he => by cases he) fun hi => h hi.1

theorem index_eq_error_iff {e : Failure} :
    t.index c = .error e ↔ ¬ t.Contains c ∧ e = .fault (.cell c t.toExtent) := by
  unfold index
  by_cases h : t.Contains c
  · rw [if_pos h]
    exact iff_of_false (fun he => by cases he) fun hi => hi.1 h
  · rw [if_neg h, Except.error.injEq]
    exact ⟨fun he => ⟨h, he.symm⟩, fun he => he.2.symm⟩

/-- Whatever rows and columns make a torus, its cells are counted row by row: cells and numbers
below their product tell each other, the count grows with the order of the cells, and it exists for
cells of the torus only. -/
theorem index_counts_row_by_row {e : Extent} {t : Torus} (h : ofExtent e = .ok t) :
    Set.BijOn t.cellOf (Set.Iio (e.rows * e.cols)) {c | t.Contains c} ∧
      (∀ i < e.rows * e.cols, t.index (t.cellOf i) = .ok i) ∧
      (∀ i, e.rows * e.cols ≤ i → ¬ t.Contains (t.cellOf i)) ∧
      (∀ c, (∃ i, t.index c = .ok i) ↔ t.Contains c) ∧
      (∀ c x, t.index c = .error x ↔ ¬ t.Contains c ∧ x = .fault (.cell c e)) ∧
      (∀ c i, t.index c = .ok i → t.Numbers c i ∧ t.cellOf i = c) ∧
      ∀ c d i j, t.index c = .ok i → t.index d = .ok j → (i < j ↔ c.key < d.key) := by
  obtain rfl := ofExtent_eq_ok_iff.1 h
  refine ⟨t.bijOn_cellOf, ?_, ?_, ?_, ?_, ?_, ?_⟩
  · intro i hi
    exact index_eq_ok_iff.2 ⟨contains_cellOf hi, t.rowMajor_cellOf i⟩
  · intro i hi hc
    exact Nat.not_lt.2 hi (contains_cellOf_iff.1 hc)
  · intro c
    simp only [index_eq_ok_iff, exists_and_left, exists_eq', and_true]
  · intro c x
    exact index_eq_error_iff
  · intro c i hi
    obtain ⟨hc, rfl⟩ := index_eq_ok_iff.1 hi
    exact ⟨numbers_of_contains hc, cellOf_rowMajor hc⟩
  · intro c d i j hi hj
    obtain ⟨hc, rfl⟩ := index_eq_ok_iff.1 hi
    obtain ⟨hd, rfl⟩ := index_eq_ok_iff.1 hj
    exact rowMajor_lt_rowMajor_iff hc hd

/-- Three rows, as long as they can be. -/
theorem index_counts_row_by_row_at_limit :
    let e : Extent := ⟨3, 0x2aaaaaaaaaaaaaaa⟩
    ∃ t, ofExtent e = .ok t ∧ t.Numbers ⟨2, 0x2aaaaaaaaaaaaaa9⟩ 0x7ffffffffffffffd ∧
      ¬ t.Contains (t.cellOf 0x7ffffffffffffffe) := by
  intro e
  let t : Torus := ⟨e, by decide, by decide⟩
  have h : ofExtent e = .ok t := ofExtent_eq_ok_iff.2 rfl
  have hlast : t.index ⟨2, 0x2aaaaaaaaaaaaaa9⟩ = .ok 0x7ffffffffffffffd :=
    index_eq_ok_iff.2 ⟨by decide, by decide⟩
  obtain ⟨-, -, houtside, -, -, hnumbers, -⟩ := index_counts_row_by_row h
  exact ⟨t, h, (hnumbers _ _ hlast).1, houtside _ (by decide)⟩

end Torus

end TorusAutomaton
