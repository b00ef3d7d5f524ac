import TorusAutomaton.TwinGrid
import Mathlib.Data.Finset.Card

/-! The same automaton on the unbounded plane, where no edges meet. A grid unrolls to a plane that
repeats itself; every generation commutes with displacements, so it keeps that repetition. -/
namespace TorusAutomaton

/-- A state for every cell of the unbounded plane. -/
abbrev Plane := Int → Int → Bool

namespace Plane

def sees (x : Plane) (r c : Int) : Neighborhood where
  left := x (r + 1) (c + 1)
  right := x (r - 1) (c - 1)
  up := x (r - 1) (c + 1)
  down := x (r + 1) (c + 1)

def step (f : Rule) (x : Plane) : Plane := fun r c => f (x.sees r c)

def after (f : Rule) : Nat → Plane → Plane
  | 0, x => x
  | n + 1, x => (after f n x).step f

def shift (x : Plane) (a b : Int) : Plane := fun r c => x (r + a) (c + b)

structure Repeats (x : Plane) (rows cols : Int) : Prop where
  by_rows : ∀ r c, x (r + rows) c = x r c
  by_cols : ∀ r c, x r (c + cols) = x r c

theorem get_sees (x : Plane) (r c : Int) (d : Direction) :
    (x.sees r c).get d = x (r + d.offset.dr) (c + d.offset.dc) := by
  cases d <;> rfl

theorem step_shift (f : Rule) (x : Plane) (a b : Int) :
    (x.shift a b).step f = (x.step f).shift a b := by
  funext r c
  simp only [step, sees, shift, Int.add_right_comm, Int.sub_eq_add_neg]

theorem after_shift (f : Rule) (n : Nat) (x : Plane) (a b : Int) :
    (x.shift a b).after f n = (x.after f n).shift a b := by
  induction n with
  | zero => rfl
  | succ n ih => rw [after, ih, step_shift, after]

theorem repeats_iff {x : Plane} {rows cols : Int} :
    x.Repeats rows cols ↔ x.shift rows 0 = x ∧ x.shift 0 cols = x := by
  constructor
  · rintro ⟨hr, hc⟩
    constructor <;> funext r c
    · simpa [shift] using hr r c
    · simpa [shift] using hc r c
  · rintro ⟨hr, hc⟩
    exact ⟨fun r c => by simpa [shift] using congrFun (congrFun hr r) c,
      fun r c => by simpa [shift] using congrFun (congrFun hc r) c⟩

theorem Repeats.after {x : Plane} {rows cols : Int} (h : x.Repeats rows cols) (f : Rule) (n : Nat) :
    (x.after f n).Repeats rows cols := by
  obtain ⟨hr, hc⟩ := repeats_iff.1 h
  exact repeats_iff.2 ⟨by rw [← after_shift, hr], by rw [← after_shift, hc]⟩

end Plane

/-- The plane in which a grid lies side by side with itself in all directions. -/
def Grid.unroll (g : Grid) : Plane := fun r c =>
  g.aliveAt ⟨(r % g.torus.rows).toNat, (c % g.torus.cols).toNat⟩

theorem Grid.unroll_repeats (g : Grid) : g.unroll.Repeats g.torus.rows g.torus.cols where
  by_rows r c := by simp [unroll]
  by_cols r c := by simp [unroll]

/-! The cells of a torus. Grids are the same when they agree cell by cell. Any two integers name a
cell: floor remainders fold them back, displacements then add like integers, and the limit on the
number of cells keeps the words that sampling adds in range. -/

/-- Whether a displacement can be added to a cell: both sums fit signed words. -/
def Cell.Movable (c : Cell) (a b : Int) : Prop :=
  Word.Fits (Word.signed c.row + a) ∧ Word.Fits (Word.signed c.col + b)

instance (c : Cell) (a b : Int) : Decidable (c.Movable a b) :=
  inferInstanceAs (Decidable (_ ∧ _))

namespace Torus

theorem ofExtent_eq_ok_iff {e : Extent} {t : Torus} : ofExtent e = .ok t ↔ t.toExtent = e := by
  unfold ofExtent
  constructor
  · intro h
    split at h
    · cases h; rfl
    · cases h
  · rintro rfl
    rw [dif_pos ⟨t.area_pos, t.area_lt⟩]

theorem ofExtent_eq_error_iff {e : Extent} {x : Failure} :
    ofExtent e = .error x ↔
      (e.area = 0 ∨ 0x8000000000000000 ≤ e.area) ∧ x = .invalidExtent e := by
  unfold ofExtent
  split
  · next h =>
    simp only [reduceCtorEq, false_iff]
    rintro ⟨hn, -⟩
    omega
  · next h =>
    constructor
    · intro hx
      cases hx
      exact ⟨by omega, rfl⟩
    · rintro ⟨-, rfl⟩
      rfl

def locate (t : Torus) (r c : Int) : Cell := ⟨(r % t.rows).toNat, (c % t.cols).toNat⟩

theorem rows_lt (t : Torus) : t.rows < 0x8000000000000000 :=
  Nat.lt_of_le_of_lt t.rows_le_area t.area_lt

theorem cols_lt (t : Torus) : t.cols < 0x8000000000000000 :=
  Nat.lt_of_le_of_lt t.cols_le_area t.area_lt

theorem contains_locate (t : Torus) (r c : Int) : t.Contains (t.locate r c) := by
  have hr : (0 : Int) < t.rows := by have := t.rows_pos; omega
  have hc : (0 : Int) < t.cols := by have := t.cols_pos; omega
  have := Int.emod_nonneg r (by omega : (t.rows : Int) ≠ 0)
  have := Int.emod_lt_of_pos r hr
  have := Int.emod_nonneg c (by omega : (t.cols : Int) ≠ 0)
  have := Int.emod_lt_of_pos c hc
  constructor
  · change (r % t.rows).toNat < t.rows
    omega
  · change (c % t.cols).toNat < t.cols
    omega

theorem locate_natCast (t : Torus) (r c : Nat) : t.locate r c = ⟨r % t.rows, c % t.cols⟩ := by
  unfold locate
  rw [← Int.natCast_emod, ← Int.natCast_emod, Int.toNat_natCast, Int.toNat_natCast]

theorem locate_of_contains {t : Torus} {c : Cell} (h : t.Contains c) :
    t.locate c.row c.col = c := by
  obtain ⟨hr, hc⟩ := h
  rw [locate_natCast, Nat.mod_eq_of_lt hr, Nat.mod_eq_of_lt hc]

theorem row_locate (t : Torus) (r c : Int) : ((t.locate r c).row : Int) = r % t.rows := by
  have := t.rows_pos
  exact Int.toNat_of_nonneg (Int.emod_nonneg r (by omega))

theorem col_locate (t : Torus) (r c : Int) : ((t.locate r c).col : Int) = c % t.cols := by
  have := t.cols_pos
  exact Int.toNat_of_nonneg (Int.emod_nonneg c (by omega))

theorem locate_add (t : Torus) (r c a b : Int) :
    t.locate ((t.locate r c).row + a) ((t.locate r c).col + b) = t.locate (r + a) (c + b) := by
  rw [row_locate, col_locate]
  simp only [locate, Int.emod_add_emod]

theorem locate_locate {t u : Torus} (hr : t.rows ∣ u.rows) (hc : t.cols ∣ u.cols) (r c : Int) :
    t.locate (u.locate r c).row (u.locate r c).col = t.locate r c := by
  have hr' : (t.rows : Int) ∣ u.rows := Int.natCast_dvd_natCast.2 hr
  have hc' : (t.cols : Int) ∣ u.cols := Int.natCast_dvd_natCast.2 hc
  rw [row_locate, col_locate]
  unfold locate
  rw [Int.emod_emod_of_dvd r hr', Int.emod_emod_of_dvd c hc']

theorem shift_of_movable {t : Torus} {c : Cell} {a b : Int} (h : c.Movable a b) :
    t.shift c a b =
      .ok (t.rowMajor (t.locate (Word.signed c.row + a) (Word.signed c.col + b))) := by
  simp only [shift, Word.add_of_fits h.1, Word.add_of_fits h.2, bind, Except.bind, pure,
    Except.pure, Word.wrap_of_pos t.rows_pos t.rows_lt, Word.wrap_of_pos t.cols_pos t.cols_lt,
    locate]

theorem offset_bounds (d : Direction) :
    (-1 ≤ d.offset.dr ∧ d.offset.dr ≤ 1) ∧ -1 ≤ d.offset.dc ∧ d.offset.dc ≤ 1 := by
  cases d <;> decide

theorem signed_col_cellOf (t : Torus) (i : Nat) : Word.signed (t.cellOf i).col = (t.cellOf i).col :=
  Word.signed_of_lt (Nat.lt_trans (Nat.mod_lt _ t.cols_pos) t.cols_lt)

section

variable {t : Torus} {i : Nat} (h : (t.cellOf i).row < 0x7fffffffffffffff)
include h

theorem signed_row_cellOf : Word.signed (t.cellOf i).row = (t.cellOf i).row :=
  Word.signed_of_lt (by omega)

theorem movable_cellOf (d : Direction) : (t.cellOf i).Movable d.offset.dr d.offset.dc := by
  have hc : (t.cellOf i).col < t.cols := Nat.mod_lt _ t.cols_pos
  have hw := t.cols_lt
  obtain ⟨hdr, hdc⟩ := offset_bounds d
  unfold Cell.Movable Word.Fits
  rw [signed_row_cellOf h, signed_col_cellOf]
  omega

theorem neighbor_of_row_lt (d : Direction) :
    t.neighbor i d = .ok (t.rowMajor
      (t.locate ((t.cellOf i).row + d.offset.dr) ((t.cellOf i).col + d.offset.dc))) := by
  unfold neighbor
  rw [shift_of_movable (movable_cellOf h d), signed_row_cellOf h, signed_col_cellOf]

end

theorem row_cellOf_lt {t : Torus} {i : Nat} (h : i < t.area) :
    (t.cellOf i).row < 0x7fffffffffffffff := by
  have := (contains_cellOf h).1
  have := t.rows_lt
  omega

end Torus

namespace Grid

theorem alive_eq_aliveAt (g : Grid) (i : Nat) : g.alive i = g.aliveAt (g.torus.cellOf i) := by
  unfold aliveAt
  rw [Torus.rowMajor_cellOf]

theorem ext_aliveAt {g h : Grid} (ht : g.torus = h.torus)
    (ha : ∀ c, g.torus.Contains c → g.aliveAt c = h.aliveAt c) : g = h := by
  apply ext_alive ht
  intro i hi
  rw [alive_eq_aliveAt, alive_eq_aliveAt, ← ht]
  exact ha _ (Torus.contains_cellOf hi)

def tabulate (t : Torus) (x : Cell → Bool) : Grid where
  torus := t
  states := Array.ofFn fun i : Fin t.area => x (t.cellOf i)
  size_states := Array.size_ofFn

@[simp] theorem torus_tabulate (t : Torus) (x : Cell → Bool) : (tabulate t x).torus = t := rfl

theorem alive_tabulate {t : Torus} (x : Cell → Bool) {i : Nat} (h : i < t.area) :
    (tabulate t x).alive i = x (t.cellOf i) := by
  simp [alive, tabulate, h]

theorem aliveAt_tabulate {t : Torus} (x : Cell → Bool) {c : Cell} (h : t.Contains c) :
    (tabulate t x).aliveAt c = x c := by
  unfold aliveAt
  rw [torus_tabulate, alive_tabulate x (Torus.rowMajor_lt h), Torus.cellOf_rowMajor h]

theorem aliveAt_dead (t : Torus) (c : Cell) : (dead t).aliveAt c = false := alive_dead ..

theorem aliveAt_clear (g : Grid) (c : Cell) : g.clear.aliveAt c = false := aliveAt_dead ..

theorem aliveAt_write {g : Grid} {i : Nat} (b : Bool) (hi : i < g.states.size) {c : Cell}
    (hc : g.torus.Contains c) :
    (g.write i b hi).aliveAt c = if g.torus.cellOf i = c then b else g.aliveAt c := by
  have hiff : i = g.torus.rowMajor c ↔ g.torus.cellOf i = c := by
    constructor
    · rintro rfl
      exact Torus.cellOf_rowMajor hc
    · rintro rfl
      exact (g.torus.rowMajor_cellOf i).symm
  unfold aliveAt
  rw [torus_write, alive_write]
  simp only [hiff]

theorem setAt_of_contains {g : Grid} {c : Cell} (hc : g.torus.Contains c) (b : Bool) :
    ∃ result : Grid, g.setAt c b = .done result () ∧ result.torus = g.torus ∧
      ∀ d, g.torus.Contains d → result.aliveAt d = if c = d then b else g.aliveAt d := by
  have hi : g.torus.rowMajor c < g.states.size := by
    rw [g.size_states]
    exact Torus.rowMajor_lt hc
  refine ⟨g.write _ b hi, ?_, rfl, ?_⟩
  · simp only [setAt, Torus.index, if_pos hc]
    exact set_of_lt hi b
  · intro d hd
    rw [aliveAt_write b hi hd, Torus.cellOf_rowMajor hc]

theorem unroll_apply (g : Grid) (r c : Int) : g.unroll r c = g.aliveAt (g.torus.locate r c) := rfl

theorem unroll_of_contains {g : Grid} {c : Cell} (h : g.torus.Contains c) :
    g.unroll c.row c.col = g.aliveAt c := by
  rw [unroll_apply, Torus.locate_of_contains h]

theorem ext_unroll {g h : Grid} (ht : g.torus = h.torus) (hu : g.unroll = h.unroll) : g = h := by
  apply ext_aliveAt ht
  intro c hc
  rw [← unroll_of_contains hc, ← unroll_of_contains (ht ▸ hc), hu]

theorem get_locate (g : Grid) (r c : Int) :
    g.get (g.torus.rowMajor (g.torus.locate r c)) = .ok (g.unroll r c) := by
  apply get_of_lt
  change _ < g.states.size
  rw [g.size_states]
  exact Torus.rowMajor_lt (Torus.contains_locate ..)

end Grid

theorem Torus.sample_of_row_lt {g : Grid} {i : Nat}
    (h : (g.torus.cellOf i).row < 0x7fffffffffffffff) :
    g.torus.sample g i = .ok (g.unroll.sees (g.torus.cellOf i).row (g.torus.cellOf i).col) := by
  unfold sample
  simp only [if_pos, neighbor_of_row_lt h, bind, Except.bind, pure, Except.pure, Grid.get_locate]
  rfl

/-! The alive cells of a grid as a finite set. Its size is the count that
reports give, so that grids are compared by maps between their alive cells and
not by the order in which cells are stored. -/

theorem Torus.cellOf_injective (t : Torus) : Function.Injective t.cellOf := by
  intro i j h
  rw [← t.rowMajor_cellOf i, h, t.rowMajor_cellOf]

namespace Grid

theorem toList_states (g : Grid) : g.states.toList = (List.range g.size).map g.alive := by
  apply List.ext_getElem
  · simp [size]
  · intro i hi _
    have hi' : i < g.states.size := by simpa using hi
    simp [alive, hi']

theorem aliveCount_eq_countP (g : Grid) :
    g.aliveCount = (List.range g.torus.area).countP g.alive := by
  unfold aliveCount
  rw [← Array.count_toList, toList_states, List.count_eq_countP, List.countP_map, size_eq_area]
  congr 1
  funext i
  simp

theorem aliveCount_eq_length (g : Grid) : g.aliveCount = g.aliveIndices.length := by
  rw [aliveCount_eq_countP, List.countP_eq_length_filter, aliveIndices, size_eq_area]

def aliveCells (g : Grid) : Finset Cell := (g.aliveIndices.map g.torus.cellOf).toFinset

theorem mem_aliveCells {g : Grid} {c : Cell} :
    c ∈ g.aliveCells ↔ g.torus.Contains c ∧ g.aliveAt c = true := by
  simp only [aliveCells, aliveIndices, List.mem_toFinset, List.mem_map, List.mem_filter,
    List.mem_range, size_eq_area]
  constructor
  · rintro ⟨i, ⟨hi, ha⟩, rfl⟩
    exact ⟨Torus.contains_cellOf hi, by rwa [← alive_eq_aliveAt]⟩
  · rintro ⟨hc, ha⟩
    exact ⟨g.torus.rowMajor c, ⟨Torus.rowMajor_lt hc, ha⟩, Torus.cellOf_rowMajor hc⟩

theorem card_aliveCells (g : Grid) : g.aliveCells.card = g.aliveCount := by
  have hn : (g.aliveIndices.map g.torus.cellOf).Nodup :=
    (List.nodup_range.filter _).map g.torus.cellOf_injective
  rw [aliveCells, List.toFinset_card_of_nodup hn, List.length_map, aliveCount_eq_length]

theorem subset_aliveCells_iff {g h : Grid} (ht : h.torus = g.torus) :
    g.aliveCells ⊆ h.aliveCells ↔
      ∀ c, g.torus.Contains c → g.aliveAt c = true → h.aliveAt c = true := by
  constructor
  · intro hs c hc halive
    exact (mem_aliveCells.1 (hs (mem_aliveCells.2 ⟨hc, halive⟩))).2
  · intro hs c hm
    obtain ⟨hc, halive⟩ := mem_aliveCells.1 hm
    exact mem_aliveCells.2 ⟨ht ▸ hc, hs c hc halive⟩

theorem aliveCount_mono {g h : Grid} (ht : h.torus = g.torus)
    (hs : ∀ c, g.torus.Contains c → g.aliveAt c = true → h.aliveAt c = true) :
    g.aliveCount ≤ h.aliveCount := by
  rw [← card_aliveCells, ← card_aliveCells]
  exact Finset.card_le_card ((subset_aliveCells_iff ht).2 hs)

theorem eq_dead {g : Grid} {t : Torus} (ht : g.torus = t)
    (h : ∀ c, t.Contains c → g.aliveAt c = false) : g = dead t := by
  apply ext_aliveAt (ht.trans (torus_dead t).symm)
  intro c hc
  rw [h c (ht ▸ hc), aliveAt_dead]

theorem aliveCount_eq_zero_iff {g : Grid} : g.aliveCount = 0 ↔ g = dead g.torus := by
  rw [← card_aliveCells, Finset.card_eq_zero, Finset.eq_empty_iff_forall_notMem]
  simp only [mem_aliveCells, not_and, Bool.not_eq_true]
  constructor
  · exact eq_dead rfl
  · intro h c _
    rw [h, aliveAt_dead]

def complement (g : Grid) : Grid := tabulate g.torus fun c => !g.aliveAt c

@[simp] theorem torus_complement (g : Grid) : g.complement.torus = g.torus := rfl

theorem aliveAt_complement {g : Grid} {c : Cell} (hc : g.torus.Contains c) :
    g.complement.aliveAt c = !g.aliveAt c := aliveAt_tabulate _ hc

theorem alive_complement {g : Grid} {i : Nat} (hi : i < g.torus.area) :
    g.complement.alive i = !g.alive i := by
  rw [alive_eq_aliveAt, torus_complement, aliveAt_complement (Torus.contains_cellOf hi),
    ← alive_eq_aliveAt]

theorem aliveCount_add_complement (g : Grid) :
    g.aliveCount + g.complement.aliveCount = g.torus.area := by
  have hcomplement : g.complement.aliveCount =
      (List.range g.torus.area).countP (fun i => !g.alive i) := by
    rw [aliveCount_eq_countP, torus_complement]
    apply List.countP_congr
    intro i hi
    rw [alive_complement (List.mem_range.1 hi)]
  have hcells := List.length_eq_countP_add_countP g.alive (l := List.range g.torus.area)
  rw [aliveCount_eq_countP, hcomplement]
  simpa using hcells.symm

def full (t : Torus) : Grid := (dead t).complement

@[simp] theorem torus_full (t : Torus) : (full t).torus = t := rfl

theorem aliveAt_full {t : Torus} {c : Cell} (hc : t.Contains c) : (full t).aliveAt c = true := by
  rw [full, aliveAt_complement hc, aliveAt_dead]
  rfl

theorem aliveCount_full (t : Torus) : (full t).aliveCount = t.area := by
  have h : (dead t).aliveCount = 0 := aliveCount_eq_zero_iff.2 rfl
  have := aliveCount_add_complement (dead t)
  rw [h, Nat.zero_add] at this
  exact this

end Grid

end TorusAutomaton
