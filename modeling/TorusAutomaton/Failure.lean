import TorusAutomaton.Decimal
import TorusAutomaton.Text

/-! Why a settings text was refused. Violations of the text's own grammar are not told apart. -/
namespace TorusAutomaton.Settings

inductive Found where
  | integer (n : Int)
  | float (x : Binary64)
  | boolean (b : Bool)
  | string (s : String)
  | sequence
  | map
  deriving DecidableEq, Repr

def Found.text : Found → String
  | .integer n => "integer `" ++ toString n ++ "`"
  | .float x => "floating point `" ++ x.text ++ "`"
  | .boolean b => "boolean `" ++ toString b ++ "`"
  | .string s => "string " ++ Text.quoted s
  | .sequence => "sequence"
  | .map => "map"

inductive Wanted where
  | size
  | counter
  | text
  deriving DecidableEq, Repr

def Wanted.label : Wanted → String
  | .size => "usize"
  | .counter => "u32"
  | .text => "a string"

inductive Problem where
  | malformed
  | unknownKey (key : String)
  | wrongType (found : Found) (wanted : Wanted)
  | outOfRange (n : Int) (wanted : Wanted)
  | unknownRule (name : String)
  | ruleForm
  deriving DecidableEq, Repr

/-- Keys and names are shown as they are, not quoted. -/
def Problem.message? : Problem → Option String
  | .malformed | .ruleForm => none
  | .unknownKey key => some <| "unknown field `" ++ key ++
      "`, expected one of `rows`, `cols`, `generations`, `pattern`, `rule`"
  | .wrongType found wanted =>
      some <| "invalid type: " ++ found.text ++ ", expected " ++ wanted.label
  | .outOfRange n wanted =>
      some <| "invalid value: " ++ (Found.integer n).text ++ ", expected " ++ wanted.label
  | .unknownRule name => some <| "unknown variant `" ++ name ++
      "`, expected one of `always-dead`, `exactly-one`, `majority`"

end TorusAutomaton.Settings

/-! The ways in which a call fails. A `Fault` is a call outside its domain; the other failures are
answers to a bad request. The wording stands in `message?` and nowhere else. -/
namespace TorusAutomaton

/-- Row and column counts as asked for; not every extent is that of a torus. -/
structure Extent where
  rows : Nat
  cols : Nat
  deriving DecidableEq, Repr

def Extent.area (e : Extent) : Nat := e.rows * e.cols

structure Cell where
  row : Nat
  col : Nat
  deriving DecidableEq, Repr

inductive Agreement where
  | sampling
  | halves
  | evolution
  deriving DecidableEq, Repr

inductive Fault where
  | index (size index : Nat)
  | cell (cell : Cell) (extent : Extent)
  | sumOverflow
  | zeroDivisor
  | remainderOverflow
  | disagreement (rule : Agreement) (left right : Extent)
  deriving DecidableEq, Repr

inductive ReadFailure where
  | notFound
  | isDirectory
  | notDirectory
  | invalidText
  deriving DecidableEq, Repr

inductive Failure where
  | allocation (cells : Nat)
  | invalidExtent (extent : Extent)
  | seedOutOfBounds (seed : String) (cell : Cell) (extent : Extent)
  | unknownSeed (name : String)
  | unknownRule (name : String)
  | settings (problem : Settings.Problem)
  | unreadable (cause : ReadFailure)
  | fault (fault : Fault)
  deriving DecidableEq, Repr

def Extent.text (e : Extent) : String := toString e.rows ++ "x" ++ toString e.cols

def Cell.text (c : Cell) : String := "(" ++ toString c.row ++ ", " ++ toString c.col ++ ")"

def Agreement.text : Agreement → String
  | .sampling => "sampler and buffer dims differ"
  | .halves => "double buffer halves must share dims"
  | .evolution => "evolver and buffers disagree on dims"

def Extent.record (e : Extent) : String :=
  "GridDims \x7b rows: " ++ toString e.rows ++ ", cols: " ++ toString e.cols ++ " \x7d"

def Fault.message : Fault → String
  | .index size i =>
      "index out of bounds: the len is " ++ toString size ++ " but the index is " ++ toString i
  | .cell c e => "index: " ++ c.text ++ " out of bounds for " ++ e.text ++ " grid"
  | .sumOverflow => "attempt to add with overflow"
  | .zeroDivisor => "attempt to calculate the remainder with a divisor of zero"
  | .remainderOverflow => "attempt to calculate the remainder with overflow"
  | .disagreement rule left right =>
      "assertion `left == right` failed: " ++ rule.text ++ "\n  left: " ++ left.record ++
        "\n right: " ++ right.record

/-- Unreadable files and malformed settings have no text of their own. -/
def Failure.message? : Failure → Option String
  | .allocation cells =>
      some <| "failed to allocate grid buffer of " ++ toString cells ++ " cells"
  | .invalidExtent e => some <| "invalid grid dimensions " ++ e.text ++
      ": both must be non-zero and the cell count must fit in isize"
  | .seedOutOfBounds seed c e => some <| "seed cell " ++ c.text ++ " of pattern '" ++ seed ++
      "' lies outside a " ++ e.text ++ " grid"
  | .unknownSeed name => some <| "unknown seed pattern: " ++ name
  | .unknownRule name => some <| "unknown transition rule: " ++ name
  | .settings problem => problem.message?
  | .unreadable _ => none
  | .fault f => some f.message

/-! A call that may change a state. When it fails, what it had done by then stays done. -/

structure Attempt (σ α : Type) where
  state : σ
  outcome : Except Failure α

namespace Attempt

variable {σ τ α β : Type}

def done (s : σ) (a : α) : Attempt σ α := ⟨s, .ok a⟩

def failed (s : σ) (e : Failure) : Attempt σ α := ⟨s, .error e⟩

@[inline] def andThen (x : Attempt σ α) (next : σ → α → Attempt σ β) : Attempt σ β :=
  match x with
  | ⟨s, .ok a⟩ => next s a
  | ⟨s, .error e⟩ => ⟨s, .error e⟩

@[inline] def onState (x : Attempt σ α) (f : σ → τ) : Attempt τ α := ⟨f x.state, x.outcome⟩

@[inline] def mapResult (x : Attempt σ α) (f : α → β) : Attempt σ β := ⟨x.state, x.outcome.map f⟩

def toExcept (x : Attempt σ α) : Except Failure (σ × α) := x.outcome.map fun a => (x.state, a)

@[simp] theorem andThen_done (s : σ) (a : α) (next : σ → α → Attempt σ β) :
    (done s a).andThen next = next s a := rfl

@[simp] theorem andThen_failed (s : σ) (e : Failure) (next : σ → α → Attempt σ β) :
    (failed s e : Attempt σ α).andThen next = failed s e := rfl

theorem eq_done {x : Attempt σ α} {a : α} (h : x.outcome = .ok a) : x = done x.state a := by
  obtain ⟨s, o⟩ := x
  obtain rfl : o = .ok a := h
  rfl

theorem eq_failed {x : Attempt σ α} {e : Failure} (h : x.outcome = .error e) :
    x = failed x.state e := by
  obtain ⟨s, o⟩ := x
  obtain rfl : o = .error e := h
  rfl

theorem andThen_state {P : σ → Prop} {x : Attempt σ α} {next : σ → α → Attempt σ β}
    (hx : P x.state) (hn : ∀ s a, P s → P (next s a).state) : P (x.andThen next).state := by
  obtain ⟨s, o⟩ := x
  cases o with
  | error e => exact hx
  | ok a => exact hn s a hx

/-- The calls of a list one after another, each with its outcome and the state after it; a call that
fails does not stop the ones that follow. -/
def trace {κ : Type} (step : κ → σ → Attempt σ α) : List κ → σ → List (Attempt σ α)
  | [], _ => []
  | call :: calls, s =>
    let after := step call s
    after :: trace step calls after.state

def final {κ : Type} (step : κ → σ → Attempt σ α) (calls : List κ) (s : σ) : σ :=
  calls.foldl (fun s call => (step call s).state) s

/-- Whatever every call keeps, every list of calls keeps. -/
theorem final_state {κ : Type} {step : κ → σ → Attempt σ α} {P : σ → Prop}
    (h : ∀ call s, P s → P (step call s).state) (calls : List κ) (s : σ) (hs : P s) :
    P (final step calls s) := by
  induction calls generalizing s with
  | nil => exact hs
  | cons call calls ih => exact ih _ (h call s hs)

end Attempt

end TorusAutomaton
