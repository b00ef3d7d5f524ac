import TorusAutomaton.Settings
import TorusAutomaton.TwinGrid
import TorusAutomaton.Text
import TorusAutomaton.Text.Regex

/-! What a run tells about itself. Each event has a level, an origin, and a line of text. -/
namespace TorusAutomaton.Log

inductive Level where
  | error
  | warn
  | info
  | debug
  | trace
  deriving DecidableEq, Repr

def Level.rank : Level → Nat
  | .error => 1
  | .warn => 2
  | .info => 3
  | .debug => 4
  | .trace => 5

/-- The most detailed level that is shown, or none at all. -/
abbrev Threshold := Option Level

def Threshold.rank (t : Threshold) : Nat := t.elim 0 Level.rank

def Threshold.named? (name : String) : Option Threshold :=
  match name with
  | "off" => some none
  | "error" => some (some .error)
  | "warn" => some (some .warn)
  | "info" => some (some .info)
  | "debug" => some (some .debug)
  | "trace" => some (some .trace)
  | _ => none

inductive Event where
  | started (settings : Settings)
  | allocated (extent : Extent)
  | generation (number alive : Nat)
  | completed (report : Report)
  deriving DecidableEq, Repr

def Event.level : Event → Level
  | .started _ => .info
  | .allocated _ => .trace
  | .generation _ _ => .debug
  | .completed _ => .info

def Level.label : Level → String
  | .error => "ERROR"
  | .warn => " WARN"
  | .info => " INFO"
  | .debug => "DEBUG"
  | .trace => "TRACE"

def Event.origin : Event → String
  | .started _ | .completed _ => "stencil"
  | .allocated _ => "stencil::grid"
  | .generation _ _ => "stencil::evolve"

def Event.message : Event → String
  | .started _ => "starting stencil run"
  | .allocated _ => "allocated grid buffer"
  | .generation _ _ => "generation complete"
  | .completed _ => "stencil run complete"

def Event.fields : Event → List (String × String)
  | .started s => [("rows", toString s.rows), ("cols", toString s.cols),
      ("generations", toString s.generations), ("pattern", Text.quoted s.seedName),
      ("rule", s.rule.name)]
  | .allocated e => [("rows", toString e.rows), ("cols", toString e.cols)]
  | .generation k alive => [("generation", toString k), ("alive", toString alive)]
  | .completed r => [("generations", toString r.generations), ("alive", toString r.alive),
      ("output", r.output.name)]

def Event.line (e : Event) : String :=
  e.level.label ++ " " ++ e.origin ++ ": " ++ e.message ++
    String.join (e.fields.map fun f => " " ++ f.1 ++ "=" ++ f.2)

/-! Which events are shown. A directive sets the most detailed level for a scope: the events from
one part of the program, those that have a certain field, or all. Of the directives whose scope
covers an event the most specific decides; where none does, the event is not shown. -/

def Event.fieldNames (e : Event) : List String := "message" :: e.fields.map Prod.fst

/-- Events whose origin starts as given and which have the given field, only
inside of spans if so marked. -/
structure Scope where
  origin : Option String
  field : Option String
  inSpan : Bool
  deriving DecidableEq, Repr

namespace Scope

def everything : Scope := ⟨none, none, false⟩

/-- Nothing happens inside of a span: the program opens none. -/
def covers (s : Scope) (e : Event) : Bool :=
  !s.inSpan && (s.origin.all fun o => o.toList.isPrefixOf e.origin.toList) &&
    s.field.all e.fieldNames.contains

def originLength (s : Scope) : Nat := s.origin.elim 0 fun o => o.length + 1

/-- A field makes a scope more specific than none does, and a later name more
than an earlier one. -/
def fieldBelow : Option String → Option String → Bool
  | _, none => false
  | none, some _ => true
  | some f, some g => decide (f < g)

def below (s t : Scope) : Bool :=
  s.originLength < t.originLength ||
    (s.originLength == t.originLength && fieldBelow s.field t.field)

end Scope

structure Directive where
  scope : Scope
  limit : Threshold
  deriving DecidableEq, Repr

def Directive.mostSpecific? : List Directive → Option Directive
  | [] => none
  | d :: ds =>
    match mostSpecific? ds with
    | none => some d
    | some best => some (if best.scope.below d.scope then d else best)

abbrev Filter := List Directive

namespace Filter

def upTo (limit : Threshold) : Filter := [⟨.everything, limit⟩]

def limit (f : Filter) (e : Event) : Threshold :=
  (Directive.mostSpecific? (f.filter (·.scope.covers e))).bind Directive.limit

end Filter

def Event.passes (e : Event) (f : Filter) : Bool := e.level.rank ≤ (f.limit e).rank

def lines (f : Filter) (events : List Event) : List String :=
  (events.filter (·.passes f)).map Event.line

/-! Filters as text: directives between commas. A directive is a level, or the start of an origin
that a level may follow after an equals sign. Before that sign there may be brackets, which hold the
name of a span, that of a field in braces, or both. A field may have a value, which is a number or a
regular expression. -/

def Threshold.numbered? : Nat → Option Threshold
  | 0 => some none
  | 1 => some (some .error)
  | 2 => some (some .warn)
  | 3 => some (some .info)
  | 4 => some (some .debug)
  | 5 => some (some .trace)
  | _ => none

/-- A level goes by its number or by its name, in letters of either case. -/
def Threshold.ofText? (cs : List Char) : Option Threshold :=
  match Text.natural? cs with
  | some n => numbered? n
  | none => named? (String.ofList (cs.map Char.toLower))

namespace Directive

def isOpening (c : Char) : Bool :=
  c == '[' || c == '-' || c == ':' || c == '_' || Text.isAlphanumeric c

def isOrigin (c : Char) : Bool := c != '=' && c != '['

def isSpanName (c : Char) : Bool := c != ']' && c != '\x7b'

def isField (c : Char) : Bool := c != '\x7d'

def originOf (cs : List Char) : Option String :=
  if cs.isEmpty then none else some (String.ofList cs)

/-- The limit that the end of a directive sets, which is none where no level is given. No level can
be given for an origin that a blank sets off. -/
def limitAfter? (origin : List Char) : List Char → Option Threshold
  | '=' :: level =>
    if origin.head?.any Text.isBlank then none
    else if level.isEmpty then some (some .trace)
    else Threshold.ofText? level
  | rest => if rest.all Text.isBlank then some (some .trace) else none

def valueOf? (field : List Char) : Option (List Char) :=
  match field.dropWhile (· != '=') with
  | [] => none
  | _ :: r => some (r.takeWhile (· != '='))

def isValue (cs : List Char) : Bool := Text.isReal cs || Text.Regex.isUsable cs

def fieldScope? (origin : Option String) (inSpan : Bool) (field : List Char) : Option Scope :=
  match valueOf? field with
  | none => some ⟨origin, some (String.ofList field), inSpan⟩
  | some value =>
    if isValue value then some ⟨origin, some (String.ofList field), true⟩ else none

/-- As many places as the text has bytes, each character in its first one. -/
def spread (cs : List Char) : List (Option Char) :=
  cs.flatMap fun c => some c :: List.replicate (c.utf8Size - 1) none

/-- The bytes of a directive that are as many as those of `part`, and as far from its beginning as
`part` is without the blanks before the directive. With such blanks a part is found too early. -/
def displaced (cs part rest : List Char) : List Char :=
  let before := (spread (cs.dropWhile Text.isBlank)).length - (spread (part ++ rest)).length
  (((spread cs).drop before).take (spread part).length).filterMap id

def narrowed? (cs origin r : List Char) : Option (Scope × List Char) :=
  match r.dropWhile isSpanName with
  | ']' :: rest => some (⟨originOf origin, none, true⟩, rest)
  | _ :: inBraces =>
    let field := inBraces.takeWhile isField
    match inBraces.dropWhile isField with
    | brace :: ']' :: rest =>
      if field.isEmpty then none
      else
        (fieldScope? (originOf origin) (r.head?.any isSpanName)
          (displaced cs field (brace :: ']' :: rest))).map (·, rest)
    | _ => none
  | [] => none

def ofText? (cs : List Char) : Option Directive :=
  if ¬ (cs.dropWhile Text.isBlank).head?.any isOpening then none
  else
    let origin := cs.takeWhile isOrigin
    match cs.dropWhile isOrigin with
    | [] =>
      match Threshold.ofText? cs with
      | some limit => some ⟨.everything, limit⟩
      | none => some ⟨⟨originOf cs, none, false⟩, some .trace⟩
    | '[' :: r => do
      let (scope, rest) ← narrowed? cs origin r
      return ⟨scope, ← limitAfter? origin rest⟩
    | rest => (limitAfter? origin rest).map (⟨⟨originOf origin, none, false⟩, ·⟩)

end Directive

/-- Parts between commas may be empty. Where all are, only errors are shown. -/
def Filter.ofText? (text : String) : Option Filter := do
  let parts := (Text.splitAt ',' text.toList).filter (!·.isEmpty)
  let directives ← parts.mapM Directive.ofText?
  return if directives.isEmpty then upTo (some .error) else directives

end TorusAutomaton.Log
