import TorusAutomaton.Automaton
import TorusAutomaton.Grid

/-! Two grids of one torus that take turns: one holds the current generation and is read, the other
receives the next and is written. After a sweep only the marker that says which is which changes.
Evolution repeats sweep and change of roles, and shows every new generation to an observer. -/
namespace TorusAutomaton

/-- The place of a grid within the pair. Grids keep their places. -/
inductive Slot where
  | first
  | second
  deriving DecidableEq, Repr

def Slot.other : Slot → Slot
  | .first => .second
  | .second => .first

def Slot.name : Slot → String
  | .first => "First"
  | .second => "Second"

structure TwinGrid where
  first : Grid
  second : Grid
  current : Slot
  same_torus : first.torus = second.torus
  deriving DecidableEq

structure Observation where
  generation : Nat
  slot : Slot
  grid : Grid
  deriving DecidableEq

structure Report where
  generations : Nat
  cellsPerSweep : Nat
  alive : Nat
  output : Slot
  deriving DecidableEq, Repr

namespace TwinGrid

def pair (a b : Grid) : Except Failure TwinGrid :=
  if h : a.torus = b.torus then .ok ⟨a, b, .first, h⟩
  else .error (.fault (.disagreement .halves a.torus.toExtent b.torus.toExtent))

def allocate (t : Torus) : Except Failure TwinGrid := do
  let a ← Grid.allocate t
  let b ← Grid.allocate t
  pair a b

def torus (p : TwinGrid) : Torus := p.first.torus

def grid (p : TwinGrid) : Slot → Grid
  | .first => p.first
  | .second => p.second

def source (p : TwinGrid) : Grid := p.grid p.current

def target (p : TwinGrid) : Grid := p.grid p.current.other

def swapRoles (p : TwinGrid) : TwinGrid := { p with current := p.current.other }

@[inline] def modify {α : Type} (p : TwinGrid) (s : Slot) (f : Grid → Attempt Grid α)
    (keeps : ∀ g, (f g).state.torus = g.torus) : Attempt TwinGrid α :=
  match p, s with
  | ⟨a, b, current, same⟩, .first =>
    let r := f a
    ⟨⟨r.state, b, current, (keeps a).trans same⟩, r.outcome⟩
  | ⟨a, b, current, same⟩, .second =>
    let r := f b
    ⟨⟨a, r.state, current, same.trans (keeps b).symm⟩, r.outcome⟩

def set (p : TwinGrid) (s : Slot) (i : Nat) (b : Bool) : Attempt TwinGrid Unit :=
  p.modify s (·.set i b) fun g => g.torus_set i b

def clear (p : TwinGrid) (s : Slot) : Attempt TwinGrid Unit :=
  p.modify s (fun g => .done g.clear ()) Grid.torus_clear

def sow (p : TwinGrid) (s : Slot) (choice : Seed.Choice) : Attempt TwinGrid Unit :=
  p.modify s (·.sowChoice choice) fun g => g.torus_sowChoice choice

def sweep (p : TwinGrid) (a : Automaton) : Attempt TwinGrid Unit :=
  match p with
  | ⟨x, y, .first, same⟩ =>
    let r := a.sweep x y
    ⟨⟨x, r.state, .first, same.trans (a.torus_sweep x y).symm⟩, r.outcome⟩
  | ⟨x, y, .second, same⟩ =>
    let r := a.sweep y x
    ⟨⟨r.state, y, .second, (a.torus_sweep y x).trans same⟩, r.outcome⟩

/-- Sweeps and changes roles `n` times; `k` is the number of the generation that comes next. -/
def evolveFrom {α : Type} (a : Automaton) (observe : α → Observation → α) :
    Nat → Nat → α → TwinGrid → Attempt TwinGrid α
  | 0, _, seen, p => .done p seen
  | n + 1, k, seen, p => (p.sweep a).andThen fun p _ =>
    let p := p.swapRoles
    evolveFrom a observe n (k + 1) (observe seen ⟨k, p.current, p.source⟩) p

def report (p : TwinGrid) (generations : Nat) : Report where
  generations := generations
  cellsPerSweep := p.torus.area
  alive := p.source.aliveCount
  output := p.current

/-- Evolves for some generations, folding the observer over each of them. The automaton must be one
of the same torus, also when there is nothing to do. -/
def evolve {α : Type} (p : TwinGrid) (a : Automaton) (generations : Nat)
    (observe : α → Observation → α) (seen : α) : Attempt TwinGrid (Report × α) :=
  if p.torus = a.torus then
    (evolveFrom a observe generations 1 seen p).andThen fun p seen =>
      .done p (p.report generations, seen)
  else .failed p (.fault (.disagreement .evolution p.torus.toExtent a.torus.toExtent))

@[simp] theorem torus_swapRoles (p : TwinGrid) : p.swapRoles.torus = p.torus := rfl

@[simp] theorem torus_modify {α : Type} (p : TwinGrid) (s : Slot) (f : Grid → Attempt Grid α)
    (keeps : ∀ g, (f g).state.torus = g.torus) : (p.modify s f keeps).state.torus = p.torus := by
  cases s with
  | first => exact keeps p.first
  | second => rfl

end TwinGrid

end TorusAutomaton
