import TorusAutomaton.Text

/-! Escapes in regular expressions, and the modes in which the text of an expression is read. -/
namespace TorusAutomaton.Text.Regex

/-- Whether blanks and comments are left out, whether characters of all scripts are meant rather
than bytes, and whether letters of either case are. -/
structure Mode where
  spaced : Bool
  unicode : Bool
  anyCase : Bool
  deriving DecidableEq, Repr

namespace Mode

def initial : Mode := ⟨false, true, false⟩

def knowsCase (m : Mode) : Bool := !(m.unicode && m.anyCase)

end Mode

def skipSpaced (inComment : Bool) : List Char → List Char
  | [] => []
  | c :: r =>
    if inComment then skipSpaced (c != '\n') r
    else if c == '#' then skipSpaced true r
    else if isBlank c then skipSpaced false r
    else c :: r

def skip (m : Mode) (cs : List Char) : List Char := if m.spaced then skipSpaced false cs else cs

/-- What a backslash and the text after it stand for. A byte is a character given by two digits. -/
inductive Escape where
  | character (c : Char)
  | byte (c : Char)
  | kind (negated : Bool)
  | edge
  | wordEdge
  deriving DecidableEq, Repr

def hexadecimals? (m : Mode) : Nat → List Char → Option (List Char × List Char)
  | 0, cs => some ([], cs)
  | n + 1, cs =>
    match skip m cs with
    | [] => none
    | c :: r =>
      if isHexadecimal c then (hexadecimals? m n r).map fun (ds, r) => (c :: ds, r) else none

def codePoint? (m : Mode) (n : Nat) (cs : List Char) : Option (Char × List Char) := do
  let (ds, r) ← hexadecimals? m n cs
  return (← scalar? (valueOf 16 ds), r)

def isEscapable (c : Char) : Bool := c.toNat < 0x80 && !c.isAlphanum && c != '<' && c != '>'

/-- The text begins after the backslash. Properties of characters are not known. -/
def escape? (m : Mode) : List Char → Option (Escape × List Char)
  | [] => none
  | c :: r =>
    match c with
    | 'x' => (codePoint? m 2 r).map fun (d, r) => (.byte d, r)
    | 'u' => (codePoint? m 4 r).map fun (d, r) => (.character d, r)
    | 'U' => (codePoint? m 8 r).map fun (d, r) => (.character d, r)
    | 'd' | 's' | 'w' => some (.kind false, r)
    | 'D' | 'S' | 'W' => some (.kind true, r)
    | 'a' => some (.character '\x07', r)
    | 'f' => some (.character '\x0c', r)
    | 't' => some (.character '\t', r)
    | 'n' => some (.character '\n', r)
    | 'r' => some (.character '\r', r)
    | 'v' => some (.character '\x0b', r)
    | 'A' | 'z' => some (.edge, r)
    | 'b' | 'B' | '<' | '>' => some (.wordEdge, r)
    | c => if isEscapable c then some (.character c, r) else none

/-- How deep parts are that stand side by side: two or more are one level
deeper than the deepest. -/
def depthBeside : List Nat → Nat
  | [] => 0
  | [d] => d
  | ds => ds.foldl max 0 + 1

/-! Sets of characters in brackets: characters, ranges, named classes and further sets, joined by
nothing or by the operators of two characters. A set of bytes holds no more than ASCII, so that it
cannot be negated. -/

namespace Mode

def allowsMember (m : Mode) (c : Char) : Bool := if m.unicode then !m.anyCase else c.toNat < 0x80

def allowsNamed (m : Mode) (negated : Bool) : Bool := if m.unicode then !m.anyCase else !negated

def allowsKind (m : Mode) (negated : Bool) : Bool := !m.unicode && !negated

end Mode

def namedClasses : List String := ["alnum", "alpha", "ascii", "blank", "cntrl", "digit", "graph",
  "lower", "print", "punct", "space", "upper", "word", "xdigit"]

def named? : List Char → Option (Bool × List Char)
  | ':' :: r =>
    let (negated, r) := match r with
      | '^' :: r => (true, r)
      | r => (false, r)
    match r.dropWhile (· != ':') with
    | ':' :: ']' :: rest =>
      if namedClasses.contains (String.ofList (r.takeWhile (· != ':'))) then some (negated, rest)
      else none
    | _ => none
  | _ => none

def member? (m : Mode) : List Char → Option (Escape × List Char)
  | [] => none
  | '\\' :: r => escape? m r
  | c :: r => some (.character c, r)

def Escape.char? : Escape → Option Char
  | .character c | .byte c => some c
  | _ => none

def Mode.allowsAlone (m : Mode) : Escape → Bool
  | .character c | .byte c => m.allowsMember c
  | .kind negated => m.allowsKind negated
  | .edge | .wordEdge => false

def peek? (m : Mode) (cs : List Char) : Option Char :=
  if m.spaced then
    match cs.dropWhile isBlank with
    | '#' :: r => (r.dropWhile isBlank).head?
    | r => r.head?
  else cs.head?

def joins (m : Mode) (cs : List Char) : Bool := peek? m cs != some ']' && peek? m cs != some '-'

def range? (m : Mode) (cs : List Char) : Option (List Char) := do
  let (first, r) ← member? m cs
  match skip m r with
  | '-' :: r' =>
    if joins m r' then
      let (last, r) ← member? m (skip m r')
      let c ← first.char?
      let d ← last.char?
      guard (c.toNat ≤ d.toNat && m.allowsMember c && m.allowsMember d)
      return r
    else
      guard (m.allowsAlone first)
      return '-' :: r'
  | r =>
    guard (m.allowsAlone first)
    return r

def entered? (m : Mode) (cs : List Char) : Option (List Char) :=
  match skip m cs with
  | '^' :: r => if m.unicode then some r else none
  | r => some r

def joined (operand : Option Nat) (members : List Nat) : Nat :=
  match operand with
  | none => depthBeside members
  | some d => max d (depthBeside members) + 1

def isOperator (c : Char) : Bool := c == '&' || c == '-' || c == '~'

/-- The depth of a set and the text after it. At its `start` hyphens are members, and so is a
closing bracket before any other. `fuel` bounds the steps. -/
def set? (m : Mode) : (fuel : Nat) → (start : Bool) → (operand : Option Nat) →
    (members : List Nat) → List Char → Option (Nat × List Char)
  | 0, _, _, _, _ => none
  | fuel + 1, start, operand, members, cs =>
    match skip m cs with
    | [] => none
    | c :: r =>
      if c == ']' then
        if start && members.isEmpty then
          if m.allowsMember c then set? m fuel false operand [0] r else none
        else some (joined operand members + 1, r)
      else if start && c == '-' then
        if m.allowsMember c then set? m fuel true operand (0 :: members) r else none
      else if c == '[' then
        match named? r with
        | some (negated, r) =>
          if m.allowsNamed negated then set? m fuel false operand (0 :: members) r else none
        | none => do
          let (d, r) ← set? m fuel true none [] (← entered? m r)
          set? m fuel false operand (d :: members) r
      else if isOperator c && r.head? == some c then
        set? m fuel false (some (joined operand members)) [] (r.drop 1)
      else do
        set? m fuel false operand (0 :: members) (← range? m (c :: r))

def bracket? (m : Mode) (cs : List Char) : Option (Nat × List Char) := do
  let r ← entered? m cs
  set? m (r.length + 1) true none [] r

/-! Regular expressions that can be used: those that are well formed, not too deep, and need no more
knowledge about characters than ASCII gives. What they match is of no concern here. -/

def deepest : Nat := 250

namespace Mode

def allowsCharacter (m : Mode) (c : Char) : Bool :=
  if c == '.' then m.unicode else if c == '^' || c == '$' then true else m.knowsCase

def allowsEscape (m : Mode) : Escape → Bool
  | .character _ => m.knowsCase
  | .byte c => if m.unicode then !m.anyCase else c.toNat < 0x80
  | .kind negated => m.allowsKind negated
  | .edge => true
  | .wordEdge => !m.unicode

end Mode

def isFlag (c : Char) : Bool := "imsUuRx-".toList.contains c

/-- Flags before the hyphen are set and those after it cleared. None may be given twice. -/
def areFlags (flags : List Char) : Bool :=
  flags.all isFlag && flags.Nodup && flags.getLast? != some '-'

def flagged (flags : List Char) (flag : Char) (before : Bool) : Bool :=
  if (flags.takeWhile (· != '-')).contains flag then true
  else if flags.contains flag then false
  else before

def Mode.change (m : Mode) (flags : List Char) : Mode where
  spaced := flagged flags 'x' m.spaced
  unicode := flagged flags 'u' m.unicode
  anyCase := flagged flags 'i' m.anyCase

abbrev Names := List (List Char)

def isNamePart (c : Char) : Bool :=
  c == '_' || c == '.' || c == '[' || c == ']' || isAlphanumeric c

def isName : List Char → Bool
  | [] => false
  | c :: r => (c == '_' || isAlphabetic c) && r.all isNamePart

inductive Opening where
  | change (m : Mode)
  | group (m : Mode) (names : Names)

def namedGroup? (m : Mode) (names : Names) (cs : List Char) : Option (Opening × List Char) :=
  let name := cs.takeWhile (· != '>')
  match cs.dropWhile (· != '>') with
  | [] => none
  | _ :: r =>
    if isName name && !names.contains name then some (.group m (name :: names), r) else none

def flagGroup? (m : Mode) (names : Names) (cs : List Char) : Option (Opening × List Char) :=
  let flags := cs.takeWhile fun c => c != ':' && c != ')'
  if areFlags flags then
    match cs.dropWhile fun c => c != ':' && c != ')' with
    | ':' :: r => some (.group (m.change flags) names, r)
    | ')' :: r => if flags.isEmpty then none else some (.change (m.change flags), r)
    | _ => none
  else none

def opening? (m : Mode) (names : Names) (cs : List Char) : Option (Opening × List Char) :=
  match skip m cs with
  | '?' :: 'P' :: '<' :: r => namedGroup? m names r
  | '?' :: '<' :: r => namedGroup? m names r
  | '?' :: r => flagGroup? m names r
  | r => some (.group m names, r)

/-- What has been read of a group: its mode, the names in the expression, the depths of its finished
branches and of the parts of the last one, and whether the last part can be repeated. -/
structure Progress where
  mode : Mode
  names : Names
  branches : List Nat
  parts : List Nat
  repeatable : Bool

namespace Progress

def start (m : Mode) (names : Names) : Progress := ⟨m, names, [], [], false⟩

def part (p : Progress) (depth : Nat) : Progress :=
  { p with parts := depth :: p.parts, repeatable := true }

def change (p : Progress) (m : Mode) : Progress :=
  { p with mode := m, parts := 0 :: p.parts, repeatable := false }

def branch (p : Progress) : Progress :=
  { p with branches := depthBeside p.parts :: p.branches, parts := [], repeatable := false }

def repeatLast? (p : Progress) : Option Progress :=
  match p.parts with
  | d :: ds => if p.repeatable then some { p with parts := (d + 1) :: ds } else none
  | [] => none

def depth (p : Progress) : Nat := depthBeside (depthBeside p.parts :: p.branches)

end Progress

def afterLazy : List Char → List Char
  | '?' :: r => r
  | r => r

def single? (m : Mode) (c : Char) (r : List Char) : Option (List Char) :=
  if c == '\x7b' then none
  else if c == '\\' then
    (escape? m r).bind fun (e, r) => if m.allowsEscape e then some r else none
  else if m.allowsCharacter c then some r
  else none

def parts? : (fuel : Nat) → (inGroup : Bool) → Progress → List Char →
    Option (Progress × List Char)
  | 0, _, _, _ => none
  | fuel + 1, inGroup, p, cs =>
    match skip p.mode cs with
    | [] => if inGroup then none else some (p, [])
    | c :: r =>
      if c == ')' then
        if inGroup then some (p, r) else none
      else if c == '(' then do
        match ← opening? p.mode p.names r with
        | (.change m, r) => parts? fuel inGroup (p.change m) r
        | (.group m names, r) => do
          let (q, r) ← parts? fuel true (.start m names) r
          parts? fuel inGroup ({ p with names := q.names }.part (q.depth + 1)) r
      else if c == '|' then parts? fuel inGroup p.branch r
      else if c == '?' || c == '*' || c == '+' then do
        parts? fuel inGroup (← p.repeatLast?) (afterLazy r)
      else if c == '[' then do
        let (d, r) ← bracket? p.mode r
        parts? fuel inGroup (p.part d) r
      else do
        parts? fuel inGroup (p.part 0) (← single? p.mode c r)

def isUsable (cs : List Char) : Bool :=
  match parts? (cs.length + 1) false (.start .initial []) cs with
  | some (p, _) => p.depth ≤ deepest
  | none => false

end TorusAutomaton.Text.Regex
