import TorusAutomaton.Grid

/-! Grids made from a description. The first part of it that is wrong decides the failure: the
extent, the room for the cells, the alive cells in their order, the name of the seed, its fit. -/
namespace TorusAutomaton.Grid

/-- A grid described by its extent, its alive cells and, instead of these, a seed. -/
structure Plan where
  extent : Extent
  alive : List Nat
  seed : Option Seed.Choice

def enlivenAll (g : Grid) : List Nat → Except Failure Grid
  | [] => .ok g
  | i :: is =>
    match g.set i true with
    | ⟨g, .ok ()⟩ => g.enlivenAll is
    | ⟨_, .error e⟩ => .error e

/-- The seed is looked up last and replaces the alive cells. -/
def Plan.build (p : Plan) : Except Failure Grid := do
  let t ← Torus.ofExtent p.extent
  let g ← Grid.allocate t
  let g ← g.enlivenAll p.alive
  match p.seed with
  | none => return g
  | some choice =>
    match g.sowChoice choice with
    | ⟨g, .ok ()⟩ => return g
    | ⟨_, .error e⟩ => throw e

/-! Grids under a sequence of calls that read and change them. An editor also
keeps a copy to compare with. -/

inductive Call where
  | get (i : Nat)
  | set (i : Nat) (b : Bool)
  | getAt (c : Cell)
  | setAt (c : Cell) (b : Bool)
  | clear
  | size
  | isEmpty
  | aliveCount
  | aliveIndices
  | sow (seed : Seed.Choice)
  deriving DecidableEq, Repr

inductive Reply where
  | nothing
  | flag (b : Bool)
  | number (n : Nat)
  | numbers (ns : List Nat)
  deriving DecidableEq, Repr

def answer (g : Grid) (r : Except Failure Reply) : Attempt Grid Reply := ⟨g, r⟩

def apply (c : Call) (g : Grid) : Attempt Grid Reply :=
  match c with
  | .get i => g.answer ((g.get i).map .flag)
  | .set i b => (g.set i b).mapResult fun _ => .nothing
  | .getAt c => g.answer ((g.getAt c).map .flag)
  | .setAt c b => (g.setAt c b).mapResult fun _ => .nothing
  | .clear => .done g.clear .nothing
  | .size => .done g (.number g.size)
  | .isEmpty => .done g (.flag g.isEmpty)
  | .aliveCount => .done g (.number g.aliveCount)
  | .aliveIndices => .done g (.numbers g.aliveIndices)
  | .sow choice => (g.sowChoice choice).mapResult fun _ => .nothing

@[simp] theorem torus_apply (c : Call) (g : Grid) : (apply c g).state.torus = g.torus := by
  cases c with
  | set i b => exact torus_set ..
  | setAt c b => exact torus_setAt ..
  | sow choice => exact torus_sowChoice ..
  | _ => rfl

structure Editor where
  grid : Grid
  saved : Grid

inductive Editor.Call where
  | edit (call : Grid.Call)
  | save
  | equalsSaved

def Editor.start (g : Grid) : Editor := ⟨g, g⟩

def Editor.apply (c : Editor.Call) (e : Editor) : Attempt Editor Reply :=
  match c with
  | .edit call => (Grid.apply call e.grid).onState fun g => ⟨g, e.saved⟩
  | .save => .done ⟨e.grid, e.grid⟩ .nothing
  | .equalsSaved => .done e (.flag (e.grid = e.saved))

end TorusAutomaton.Grid
