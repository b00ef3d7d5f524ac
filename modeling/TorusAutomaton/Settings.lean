import TorusAutomaton.Automaton
import TorusAutomaton.Grid
import TorusAutomaton.Toml

/-! What one run needs. Settings are plain numbers and names; they are checked when a run begins and
not when they are made. -/
namespace TorusAutomaton

structure Settings where
  rows : Nat := 20
  cols : Nat := 20
  generations : Nat := 20
  seedName : String := "tee"
  rule : NamedRule := .alwaysDead
  deriving DecidableEq, Repr

namespace Settings

instance : Inhabited Settings := ⟨{}⟩

def extent (s : Settings) : Extent := ⟨s.rows, s.cols⟩

def torus (s : Settings) : Except Failure Torus := Torus.ofExtent s.extent

def seed (s : Settings) : Except Failure Seed := Seed.named s.seedName

/-- The torus and the seed that fits it: first the extent is checked, then the
name, then the fit. -/
def prepare (s : Settings) : Except Failure (Torus × Seed) := do
  let t ← s.torus
  let seed ← s.seed
  seed.checkFits t
  return (t, seed)

def validate (s : Settings) : Except Failure Unit := s.prepare.map fun _ => ()

end Settings

end TorusAutomaton

/-! Settings written as a TOML text. The entries are taken in their order, each replaces one
default, and the first that cannot be used decides the failure. A text that is not TOML is refused
before any of its entries is looked at. -/
namespace TorusAutomaton.Settings

open Toml (Value Entries)

def foundIn : Value → Found
  | .string s => .string s
  | .integer n => .integer n
  | .float x => .float x
  | .boolean b => .boolean b
  | .array _ | .tables _ => .sequence
  | .table _ _ | .moment => .map

def Wanted.limit : Wanted → Nat
  | .counter => 0x100000000
  | _ => 0x10000000000000000

def readNat (wanted : Wanted) : Value → Except Problem Nat
  | .integer n =>
    if 0 ≤ n ∧ n < wanted.limit then .ok n.toNat else .error (.outOfRange n wanted)
  | v => .error (.wrongType (foundIn v) wanted)

def readText : Value → Except Problem String
  | .string s => .ok s
  | v => .error (.wrongType (foundIn v) .text)

def ruleNamed (name : String) : Except Problem NamedRule :=
  match NamedRule.ofName? name with
  | some r => .ok r
  | none => .error (.unknownRule name)

def holdsNothing : Value → Bool
  | .array items => items.isEmpty
  | .tables members => members.isEmpty
  | .table _ entries => entries.isEmpty
  | _ => false

/-- A rule is its name, or a table whose only key is the name and holds nothing. -/
def readRule : Value → Except Problem NamedRule
  | .string s => ruleNamed s
  | .table _ [(name, v)] => do
    let r ← ruleNamed name
    if holdsNothing v then return r else throw .ruleForm
  | _ => .error .ruleForm

def readEntry (s : Settings) (e : String × Value) : Except Problem Settings := do
  match e.1 with
  | "rows" => return { s with rows := ← readNat .size e.2 }
  | "cols" => return { s with cols := ← readNat .size e.2 }
  | "generations" => return { s with generations := ← readNat .counter e.2 }
  | "pattern" => return { s with seedName := ← readText e.2 }
  | "rule" => return { s with rule := ← readRule e.2 }
  | key => throw (.unknownKey key)

def ofEntries (es : Entries) : Except Problem Settings := es.foldlM readEntry default

def parse (cs : List Char) : Except Problem Settings :=
  match Toml.parse? cs with
  | some es => ofEntries es
  | none => .error .malformed

def ofText (s : String) : Except Failure Settings :=
  match parse s.toList with
  | .ok r => .ok r
  | .error p => .error (.settings p)

def ofBytes (contents : Except ReadFailure ByteArray) : Except Failure Settings :=
  match contents with
  | .error cause => .error (.unreadable cause)
  | .ok bytes =>
    match String.fromUTF8? bytes with
    | none => .error (.unreadable .invalidText)
    | some s => ofText s

end TorusAutomaton.Settings
