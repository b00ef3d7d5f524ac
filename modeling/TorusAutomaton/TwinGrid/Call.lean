import TorusAutomaton.Grid.Call
import TorusAutomaton.TwinGrid

/-! Twin grids under a sequence of calls, on either grid, on the roles, or on the whole pair. -/
namespace TorusAutomaton.TwinGrid

def sown (e : Extent) (alive : List Nat) : Except Failure TwinGrid := do
  let t ← Torus.ofExtent e
  let p ← allocate t
  let a ← p.first.enlivenAll alive
  pair a p.second

inductive Call where
  | swapRoles
  | other (s : Slot)
  | get (s : Slot) (i : Nat)
  | set (s : Slot) (i : Nat) (b : Bool)
  | clear (s : Slot)
  | sow (s : Slot) (seed : Seed.Choice)
  | readSource (i : Nat)
  | writeTarget (i : Nat) (b : Bool)
  | counts
  | equal
  | sweep (rule : Rule.Choice) (extent : Option Extent := none)
  | evolve (rule : Rule.Choice) (generations : Nat) (extent : Option Extent)

inductive Reply where
  | nothing
  | flag (b : Bool)
  | slot (s : Slot)
  | counts (source target : Nat)
  | report (r : Report)
  deriving DecidableEq, Repr

/-- The automaton asked for; its torus is settled before its rule. -/
def automaton (p : TwinGrid) (rule : Rule.Choice) (extent : Option Extent) :
    Except Failure Automaton := do
  let t ← match extent with
    | none => pure p.torus
    | some e => Torus.ofExtent e
  let r ← rule.resolve
  return ⟨t, r⟩

def apply (c : Call) (p : TwinGrid) : Attempt TwinGrid Reply :=
  match c with
  | .swapRoles => .done p.swapRoles .nothing
  | .other s => .done p (.slot s.other)
  | .get s i => ⟨p, ((p.grid s).get i).map .flag⟩
  | .set s i b => (p.set s i b).mapResult fun _ => .nothing
  | .clear s => (p.clear s).mapResult fun _ => .nothing
  | .sow s choice => (p.sow s choice).mapResult fun _ => .nothing
  | .readSource i => ⟨p, (p.source.get i).map .flag⟩
  | .writeTarget i b => (p.set p.current.other i b).mapResult fun _ => .nothing
  | .counts => .done p (.counts p.source.aliveCount p.target.aliveCount)
  | .equal => .done p (.flag (p.source = p.target))
  | .sweep rule extent =>
    match p.automaton rule extent with
    | .ok a => (p.sweep a).mapResult fun _ => .nothing
    | .error e => .failed p e
  | .evolve rule generations extent =>
    match p.automaton rule extent with
    | .ok a => (p.evolve a generations (fun _ _ => ()) ()).mapResult fun r => .report r.1
    | .error e => .failed p e

end TorusAutomaton.TwinGrid
