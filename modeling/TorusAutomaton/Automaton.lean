import TorusAutomaton.Grid

/-! What a cell sees of the grid: the states of four cells at fixed offsets, its own state not among
them. Left and down are the same cell. -/
namespace TorusAutomaton

inductive Direction where
  | left
  | right
  | up
  | down
  deriving DecidableEq, Repr

structure Offset where
  dr : Int
  dc : Int
  deriving DecidableEq, Repr

def Direction.all : List Direction := [.left, .right, .up, .down]

def Direction.offset : Direction → Offset
  | .left => ⟨1, 1⟩
  | .right => ⟨-1, -1⟩
  | .up => ⟨-1, 1⟩
  | .down => ⟨1, 1⟩

structure Neighborhood where
  left : Bool
  right : Bool
  up : Bool
  down : Bool
  deriving DecidableEq, Repr, Inhabited

namespace Neighborhood

def dead : Neighborhood := ⟨false, false, false, false⟩

def get (n : Neighborhood) : Direction → Bool
  | .left => n.left
  | .right => n.right
  | .up => n.up
  | .down => n.down

def set (n : Neighborhood) (d : Direction) (b : Bool) : Neighborhood :=
  match d with
  | .left => { n with left := b }
  | .right => { n with right := b }
  | .up => { n with up := b }
  | .down => { n with down := b }

def toList (n : Neighborhood) : List Bool := Direction.all.map n.get

def aliveCount (n : Neighborhood) : Nat := n.toList.count true

theorem ext_get {m n : Neighborhood} (h : ∀ d, m.get d = n.get d) : m = n := by
  obtain ⟨l, r, u, d⟩ := m
  obtain rfl : l = n.left := h .left
  obtain rfl : r = n.right := h .right
  obtain rfl : u = n.up := h .up
  obtain rfl : d = n.down := h .down
  rfl

end Neighborhood

namespace Torus

def neighbor (t : Torus) (i : Nat) (d : Direction) : Except Failure Nat :=
  t.shift (t.cellOf i) d.offset.dr d.offset.dc

def neighbors (t : Torus) (i : Nat) : Except Failure (List (Direction × Nat)) :=
  Direction.all.mapM fun d => do return (d, ← t.neighbor i d)

/-- What the cell numbered `i` sees of a grid of the same torus. -/
def sample (t : Torus) (g : Grid) (i : Nat) : Except Failure Neighborhood :=
  if g.torus = t then do
    let left ← g.get (← t.neighbor i .left)
    let right ← g.get (← t.neighbor i .right)
    let up ← g.get (← t.neighbor i .up)
    let down ← g.get (← t.neighbor i .down)
    return ⟨left, right, up, down⟩
  else .error (.fault (.disagreement .sampling g.torus.toExtent t.toExtent))

end Torus

/-! Transition rules. A rule decides a cell's next state from its neighborhood
alone; three rules have names. -/

abbrev Rule := Neighborhood → Bool

namespace Rule

def alwaysDead : Rule := fun _ => false

def exactlyOne : Rule := fun n => n.aliveCount == 1

def majority : Rule := fun n => decide (n.toList.length < 2 * n.aliveCount)

/-- The rule whose answers are the binary digits of a number, looked up by reading the states as
binary digits with left the lowest. -/
def ofTable (table : Nat) : Rule := fun n =>
  table.testBit (n.left.toNat + 2 * n.right.toNat + 4 * n.up.toNat + 8 * n.down.toNat)

end Rule

inductive NamedRule where
  | alwaysDead
  | exactlyOne
  | majority
  deriving DecidableEq, Repr

namespace NamedRule

instance : Inhabited NamedRule := ⟨.alwaysDead⟩

def all : List NamedRule := [.alwaysDead, .exactlyOne, .majority]

def name : NamedRule → String
  | .alwaysDead => "always-dead"
  | .exactlyOne => "exactly-one"
  | .majority => "majority"

def rule : NamedRule → Rule
  | .alwaysDead => Rule.alwaysDead
  | .exactlyOne => Rule.exactlyOne
  | .majority => Rule.majority

def ofName? (name : String) : Option NamedRule := all.find? fun r => r.name = name

def named (name : String) : Except Failure NamedRule :=
  match ofName? name with
  | some r => .ok r
  | none => .error (.unknownRule name)

theorem ofName?_eq_some_iff {name : String} {r : NamedRule} :
    ofName? name = some r ↔ name = r.name := by
  constructor
  · intro h
    have hname := List.find?_some h
    exact (of_decide_eq_true hname).symm
  · rintro rfl
    cases r <;> rfl

end NamedRule

inductive Rule.Choice where
  | named (name : String)
  | given (rule : Rule)

def Rule.Choice.resolve : Rule.Choice → Except Failure Rule
  | .named name => (NamedRule.named name).map NamedRule.rule
  | .given rule => .ok rule

/-! A cellular automaton: a torus and a rule. A sweep reads one grid and writes another, cell after
cell in the order of their numbers, so no cell is read after it was written. -/

structure Automaton where
  torus : Torus
  rule : Rule

namespace Automaton

def next (a : Automaton) (source : Grid) (i : Nat) : Except Failure Bool :=
  (a.torus.sample source i).map a.rule

def update (a : Automaton) (source : Grid) (i : Nat) (target : Grid) : Attempt Grid Unit :=
  match a.next source i with
  | .ok b => target.set i b
  | .error e => .failed target e

def updateAll (a : Automaton) (source : Grid) : List Nat → Grid → Attempt Grid Unit
  | [], target => .done target ()
  | i :: is, target =>
    (a.update source i target).andThen fun target _ => updateAll a source is target

/-- Writes the next states of all cells of the source. A target with fewer cells is written up to
its end, one with more keeps the rest. -/
def sweep (a : Automaton) (source target : Grid) : Attempt Grid Unit :=
  a.updateAll source (List.range source.size) target

@[simp] theorem torus_update (a : Automaton) (source : Grid) (i : Nat) (target : Grid) :
    (a.update source i target).state.torus = target.torus := by
  unfold update
  split
  · exact Grid.torus_set ..
  · rfl

@[simp] theorem torus_updateAll (a : Automaton) (source : Grid) (is : List Nat) (target : Grid) :
    (a.updateAll source is target).state.torus = target.torus := by
  induction is generalizing target with
  | nil => rfl
  | cons i is ih =>
    exact Attempt.andThen_state (P := fun h : Grid => h.torus = target.torus)
      (torus_update a source i target) fun h _ hh => (ih h).trans hh

@[simp] theorem torus_sweep (a : Automaton) (source target : Grid) :
    (a.sweep source target).state.torus = target.torus := torus_updateAll ..

end Automaton

end TorusAutomaton
