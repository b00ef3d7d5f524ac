import TorusAutomaton.Failure

/-! Signed words of 64 bits as integers between `-2 ^ 63` and `2 ^ 63 - 1`. Unsigned words are
natural numbers; read as signed ones, those from `2 ^ 63` on are negative. In hexadecimal `2 ^ 63`
is an eight with fifteen zeros and `2 ^ 64` a one with sixteen. -/
namespace TorusAutomaton.Word

def Fits (x : Int) : Prop := -0x8000000000000000 ≤ x ∧ x < 0x8000000000000000

instance (x : Int) : Decidable (Fits x) := inferInstanceAs (Decidable (_ ∧ _))

/-- The signed word with the bits of an unsigned one. -/
def signed (n : Nat) : Int := if n < 0x8000000000000000 then n else (n : Int) - 0x10000000000000000

theorem signed_of_lt {n : Nat} (h : n < 0x8000000000000000) : signed n = n := if_pos h

def add (x y : Int) : Except Failure Int :=
  if Fits (x + y) then .ok (x + y) else .error (.fault .sumOverflow)

theorem add_of_fits {x y : Int} (h : Fits (x + y)) : add x y = .ok (x + y) := if_pos h

theorem add_of_not_fits {x y : Int} (h : ¬ Fits (x + y)) :
    add x y = .error (.fault .sumOverflow) := if_neg h

/-- The remainder of `x` by the signed word of `n`, never negative. The least word divided by `-1`
has no quotient and hence no remainder. -/
def wrap (x : Int) (n : Nat) : Except Failure Nat :=
  if n = 0 then .error (.fault .zeroDivisor)
  else if x = -0x8000000000000000 ∧ signed n = -1 then .error (.fault .remainderOverflow)
  else .ok (x % signed n).toNat

theorem wrap_of_pos {x : Int} {n : Nat} (hn : 0 < n) (h : n < 0x8000000000000000) :
    wrap x n = .ok (x % n).toNat := by
  have hs := signed_of_lt h
  unfold wrap
  rw [if_neg (by omega), if_neg (by omega), hs]

end TorusAutomaton.Word

/-! The torus: a rectangle of cells whose edges meet. Cells are numbered row by row, and the limit
on their number keeps every index and every displacement within a signed word. -/
namespace TorusAutomaton

structure Torus extends Extent where
  area_pos : 0 < toExtent.area
  area_lt : toExtent.area < 0x8000000000000000
  deriving DecidableEq, Repr

namespace Torus

def standard : Torus := ⟨⟨20, 20⟩, by decide, by decide⟩

instance : Inhabited Torus := ⟨standard⟩

def ofExtent (e : Extent) : Except Failure Torus :=
  if h : 0 < e.area ∧ e.area < 0x8000000000000000 then .ok ⟨e, h.1, h.2⟩
  else .error (.invalidExtent e)

def Contains (t : Torus) (c : Cell) : Prop := c.row < t.rows ∧ c.col < t.cols

instance (t : Torus) (c : Cell) : Decidable (t.Contains c) :=
  inferInstanceAs (Decidable (_ ∧ _))

def rowMajor (t : Torus) (c : Cell) : Nat := c.row * t.cols + c.col

/-- The cell with a given number. Numbers past the last cell give cells below the last row. -/
def cellOf (t : Torus) (i : Nat) : Cell := ⟨i / t.cols, i % t.cols⟩

def index (t : Torus) (c : Cell) : Except Failure Nat :=
  if t.Contains c then .ok (t.rowMajor c) else .error (.fault (.cell c t.toExtent))

/-- The number of the cell that lies `dr` rows and `dc` columns further, across the edges. The row
is settled before the column. -/
def shift (t : Torus) (c : Cell) (dr dc : Int) : Except Failure Nat := do
  let row ← Word.add (Word.signed c.row) dr
  let row ← Word.wrap row t.rows
  let col ← Word.add (Word.signed c.col) dc
  let col ← Word.wrap col t.cols
  return t.rowMajor ⟨row, col⟩

theorem rows_pos (t : Torus) : 0 < t.rows := Nat.pos_of_mul_pos_right t.area_pos

theorem cols_pos (t : Torus) : 0 < t.cols := Nat.pos_of_mul_pos_left t.area_pos

theorem rows_le_area (t : Torus) : t.rows ≤ t.area := Nat.le_mul_of_pos_right _ t.cols_pos

theorem cols_le_area (t : Torus) : t.cols ≤ t.area := Nat.le_mul_of_pos_left _ t.rows_pos

theorem cellOf_rowMajor {t : Torus} {c : Cell} (h : t.Contains c) :
    t.cellOf (t.rowMajor c) = c := by
  have hc := h.2
  unfold cellOf rowMajor
  rw [Nat.mul_comm, Nat.mul_add_div t.cols_pos, Nat.div_eq_of_lt hc, Nat.mul_add_mod,
    Nat.mod_eq_of_lt hc, Nat.add_zero]

theorem rowMajor_cellOf (t : Torus) (i : Nat) : t.rowMajor (t.cellOf i) = i := by
  unfold cellOf rowMajor
  rw [Nat.mul_comm]
  exact Nat.div_add_mod i t.cols

theorem contains_cellOf {t : Torus} {i : Nat} (h : i < t.area) : t.Contains (t.cellOf i) :=
  ⟨(Nat.div_lt_iff_lt_mul t.cols_pos).2 h, Nat.mod_lt _ t.cols_pos⟩

theorem rowMajor_lt {t : Torus} {c : Cell} (h : t.Contains c) : t.rowMajor c < t.area := by
  obtain ⟨hr, hc⟩ := h
  have hm := Nat.mul_le_mul_right t.cols (Nat.succ_le_of_lt hr)
  rw [Nat.succ_mul] at hm
  unfold rowMajor Extent.area
  omega

end Torus

/-! A grid: one cell state for every cell of a torus, in the order of their numbers. A call that
names a cell outside the torus fails and changes nothing. -/

structure Grid where
  torus : Torus
  states : Array Bool
  size_states : states.size = torus.area
  deriving DecidableEq

abbrev Storage := Nat → Bool

/-- Two to the power 50 cells, or more, cannot be stored. -/
def Storage.usual : Storage := fun cells => decide (cells < 0x4000000000000)

namespace Grid

def dead (t : Torus) : Grid := ⟨t, Array.replicate t.area false, Array.size_replicate⟩

instance : Inhabited Grid := ⟨dead default⟩

def allocate (t : Torus) (storage : Storage := .usual) : Except Failure Grid :=
  if storage t.area then .ok (dead t) else .error (.allocation t.area)

def size (g : Grid) : Nat := g.states.size

def isEmpty (g : Grid) : Bool := g.states.isEmpty

/-- Whether the cell with a number is alive; no cell outside the grid is. -/
def alive (g : Grid) (i : Nat) : Bool := g.states.getD i false

def aliveAt (g : Grid) (c : Cell) : Bool := g.alive (g.torus.rowMajor c)

def get (g : Grid) (i : Nat) : Except Failure Bool :=
  if h : i < g.states.size then .ok g.states[i] else .error (.fault (.index g.size i))

def write (g : Grid) (i : Nat) (b : Bool) (h : i < g.states.size) : Grid where
  torus := g.torus
  states := g.states.set i b h
  size_states := by rw [Array.size_set, g.size_states]

def set (g : Grid) (i : Nat) (b : Bool) : Attempt Grid Unit :=
  if h : i < g.states.size then .done (g.write i b h) ()
  else .failed g (.fault (.index g.states.size i))

def getAt (g : Grid) (c : Cell) : Except Failure Bool := do
  let i ← g.torus.index c
  g.get i

def setAt (g : Grid) (c : Cell) (b : Bool) : Attempt Grid Unit :=
  match g.torus.index c with
  | .ok i => g.set i b
  | .error e => .failed g e

def clear (g : Grid) : Grid := dead g.torus

def aliveCount (g : Grid) : Nat := g.states.count true

def aliveIndices (g : Grid) : List Nat := (List.range g.size).filter g.alive

def picture (g : Grid) : List String :=
  (List.range g.torus.rows).map fun row =>
    String.ofList <| (List.range g.torus.cols).map fun col =>
      if g.aliveAt ⟨row, col⟩ then '#' else '.'

@[simp] theorem torus_dead (t : Torus) : (dead t).torus = t := rfl

@[simp] theorem torus_write (g : Grid) (i : Nat) (b : Bool) (h : i < g.states.size) :
    (g.write i b h).torus = g.torus := rfl

@[simp] theorem torus_clear (g : Grid) : g.clear.torus = g.torus := rfl

@[simp] theorem alive_dead (t : Torus) (i : Nat) : (dead t).alive i = false := by
  simp only [alive, dead, Array.getD_eq_getD_getElem?, Array.getElem?_replicate]
  split <;> rfl

theorem alive_write (g : Grid) (i : Nat) (b : Bool) (h : i < g.states.size) (j : Nat) :
    (g.write i b h).alive j = if i = j then b else g.alive j := by
  simp only [alive, write, Array.getD_eq_getD_getElem?, Array.getElem?_set]
  split <;> rfl

theorem size_eq_area (g : Grid) : g.size = g.torus.area := g.size_states

theorem get_of_lt {g : Grid} {i : Nat} (h : i < g.size) : g.get i = .ok (g.alive i) := by
  have h' : i < g.states.size := h
  simp [get, alive, h']

theorem get_of_le {g : Grid} {i : Nat} (h : g.size ≤ i) :
    g.get i = .error (.fault (.index g.size i)) := dif_neg (Nat.not_lt.2 h)

theorem set_of_lt {g : Grid} {i : Nat} (h : i < g.size) (b : Bool) :
    g.set i b = .done (g.write i b h) () := dif_pos h

theorem set_of_le {g : Grid} {i : Nat} (h : g.size ≤ i) (b : Bool) :
    g.set i b = .failed g (.fault (.index g.size i)) := dif_neg (Nat.not_lt.2 h)

@[simp] theorem torus_set (g : Grid) (i : Nat) (b : Bool) : (g.set i b).state.torus = g.torus := by
  unfold set
  split <;> rfl

@[simp] theorem torus_setAt (g : Grid) (c : Cell) (b : Bool) :
    (g.setAt c b).state.torus = g.torus := by
  unfold setAt
  split
  · exact torus_set ..
  · rfl

theorem ext_alive {g h : Grid} (ht : g.torus = h.torus)
    (ha : ∀ i, i < g.torus.area → g.alive i = h.alive i) : g = h := by
  obtain ⟨t, x, hx⟩ := g
  obtain ⟨u, y, hy⟩ := h
  obtain rfl : t = u := ht
  have : x = y := by
    apply Array.ext (hx.trans hy.symm)
    intro i hi hj
    have := ha i (hx ▸ hi)
    simpa [alive, Array.getD_eq_getD_getElem?, hi, hj] using this
  subst this
  rfl

end Grid

/-! Seeds: named lists of cells that are brought to life before the first generation. A seed that
does not fit leaves the grid as it was. -/

structure Seed where
  name : String
  cells : List Cell
  deriving DecidableEq, Repr

namespace Seed

def tee : Seed := ⟨"tee", [⟨10, 10⟩, ⟨10, 11⟩, ⟨10, 12⟩, ⟨11, 11⟩]⟩

def cappedTee : Seed := ⟨"tee-capped", [⟨9, 11⟩, ⟨10, 10⟩, ⟨10, 11⟩, ⟨10, 12⟩, ⟨11, 11⟩]⟩

def blinker : Seed := ⟨"blinker", [⟨10, 9⟩, ⟨10, 10⟩, ⟨10, 11⟩]⟩

def glider : Seed := ⟨"glider", [⟨6, 7⟩, ⟨7, 8⟩, ⟨8, 6⟩, ⟨8, 7⟩, ⟨8, 8⟩]⟩

def catalogue : List Seed := [tee, cappedTee, blinker, glider]

def named (name : String) : Except Failure Seed :=
  match catalogue.find? fun s => s.name = name with
  | some s => .ok s
  | none => .error (.unknownSeed name)

inductive Choice where
  | named (name : String)
  | given (seed : Seed)
  deriving DecidableEq, Repr

def Choice.resolve : Choice → Except Failure Seed
  | .named name => Seed.named name
  | .given seed => .ok seed

/-- Fails at the first cell of the list that lies outside the torus. -/
def checkFits (s : Seed) (t : Torus) : Except Failure Unit :=
  match s.cells.find? fun c => ¬ t.Contains c with
  | some c => .error (.seedOutOfBounds s.name c t.toExtent)
  | none => .ok ()

theorem checkFits_eq_ok_iff {s : Seed} {t : Torus} :
    s.checkFits t = .ok () ↔ ∀ c ∈ s.cells, t.Contains c := by
  unfold checkFits
  split
  · next c h =>
    have hc := List.find?_some h
    have hm := List.mem_of_find?_eq_some h
    simp only [decide_eq_true_eq] at hc
    simp only [reduceCtorEq, false_iff]
    exact fun all => hc (all c hm)
  · next h => simpa using h

end Seed

namespace Grid

def enliven : List Cell → Grid → Attempt Grid Unit
  | [], g => .done g ()
  | c :: cells, g => (g.setAt c true).andThen fun g _ => enliven cells g

def sow (g : Grid) (s : Seed) : Attempt Grid Unit :=
  match s.checkFits g.torus with
  | .ok () => enliven s.cells g.clear
  | .error e => .failed g e

theorem torus_enliven (cells : List Cell) (g : Grid) :
    (enliven cells g).state.torus = g.torus := by
  induction cells generalizing g with
  | nil => rfl
  | cons c cells ih =>
    exact Attempt.andThen_state (P := fun h : Grid => h.torus = g.torus) (torus_setAt g c true)
      fun h _ hh => (ih h).trans hh

@[simp] theorem torus_sow (g : Grid) (s : Seed) : (g.sow s).state.torus = g.torus := by
  unfold sow
  split
  · exact torus_enliven ..
  · rfl

def sowChoice (g : Grid) (choice : Seed.Choice) : Attempt Grid Unit :=
  match choice.resolve with
  | .ok seed => g.sow seed
  | .error e => .failed g e

@[simp] theorem torus_sowChoice (g : Grid) (choice : Seed.Choice) :
    (g.sowChoice choice).state.torus = g.torus := by
  unfold sowChoice
  split
  · exact torus_sow ..
  · rfl

end Grid

end TorusAutomaton
