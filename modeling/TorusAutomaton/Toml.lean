import TorusAutomaton.Decimal
import TorusAutomaton.Text

/-! What stands between the parts of a TOML text: blanks, line ends and comments. Every reader takes
the text from its front and gives back the rest; `none` means that the text is not TOML. -/
namespace TorusAutomaton.Toml

abbrev Reader (α : Type) := List Char → Option (α × List Char)

def isBlank (c : Char) : Bool := c == ' ' || c == '\t'

/-- Characters that stand for themselves in comments and quoted text: the tab and all that are not
ASCII controls. -/
def isPlain (c : Char) : Bool := c == '\t' || (0x20 ≤ c.toNat && c.toNat != 0x7f)

def skipBlanks (cs : List Char) : List Char := cs.dropWhile isBlank

def newline? : List Char → Option (List Char)
  | '\n' :: r => some r
  | '\r' :: '\n' :: r => some r
  | _ => none

def skipComment : List Char → List Char
  | '#' :: r => r.dropWhile isPlain
  | r => r

def endLine? (cs : List Char) : Option (List Char) :=
  match skipComment (skipBlanks cs) with
  | [] => some []
  | r => newline? r

def skipLines : List Char → List Char
  | [] => []
  | '\r' :: '\n' :: r => skipLines r
  | c :: r => if isBlank c || c == '\n' then skipLines r else c :: r

def skipGap (inComment : Bool) : List Char → List Char
  | [] => []
  | '\r' :: '\n' :: r => skipGap false r
  | c :: r =>
    if inComment && isPlain c then skipGap true r
    else if isBlank c || c == '\n' then skipGap false r
    else if c == '#' then skipGap true r
    else c :: r

/-! Numbers in a TOML text. Between two digits one underscore may stand. An integer must be a signed
word; a decimal without a leading zero may have a sign, the other bases have none. -/

open Text (isDecimal isHexadecimal valueOf)

def isOctal (c : Char) : Bool := '0' ≤ c && c ≤ '7'

def isBinary (c : Char) : Bool := c == '0' || c == '1'

def moreDigits (isDigit : Char → Bool) : List Char → List Char × List Char
  | [] => ([], [])
  | c :: r =>
    if isDigit c then
      let (ds, rest) := moreDigits isDigit r
      (c :: ds, rest)
    else
      match c, r with
      | '_', d :: r' =>
        if isDigit d then
          let (ds, rest) := moreDigits isDigit r'
          (d :: ds, rest)
        else ([], c :: r)
      | _, _ => ([], c :: r)

def digits? (isDigit : Char → Bool) : Reader (List Char)
  | c :: r =>
    if isDigit c then
      let (ds, rest) := moreDigits isDigit r
      some (c :: ds, rest)
    else none
  | [] => none

def sign : List Char → Bool × List Char
  | '-' :: r => (true, r)
  | '+' :: r => (false, r)
  | r => (false, r)

/-- The digits of a decimal integer: a zero, or digits of which the first is none. -/
def wholeDigits? : Reader (List Char)
  | '0' :: r => some (['0'], r)
  | cs => digits? isDecimal cs

def signed (negative : Bool) (n : Nat) : Int := if negative then -n else n

def decimal? : Reader Int := fun cs => do
  let (negative, r) := sign cs
  let (ds, r) ← wholeDigits? r
  return (signed negative (valueOf 10 ds), r)

def unchecked? : Reader Int
  | '0' :: 'x' :: r => do
    let (ds, r) ← digits? isHexadecimal r
    return ((valueOf 16 ds : Int), r)
  | '0' :: 'o' :: r => do
    let (ds, r) ← digits? isOctal r
    return ((valueOf 8 ds : Int), r)
  | '0' :: 'b' :: r => do
    let (ds, r) ← digits? isBinary r
    return ((valueOf 2 ds : Int), r)
  | cs => decimal? cs

def integer? : Reader Int := fun cs => do
  let (n, r) ← unchecked? cs
  if -0x8000000000000000 ≤ n ∧ n < 0x8000000000000000 then some (n, r) else none

def exponent? : Reader Int := fun cs => do
  let (negative, r) := sign cs
  let (ds, r) ← digits? isDecimal r
  return (signed negative (valueOf 10 ds), r)

def optionalExponent? : Reader Int
  | 'e' :: r => exponent? r
  | 'E' :: r => exponent? r
  | r => some (0, r)

def special? (negative : Bool) : Reader Binary64
  | 'i' :: 'n' :: 'f' :: r => some (.infinite negative, r)
  | 'n' :: 'a' :: 'n' :: r => some (.nan, r)
  | _ => none

def fractional? (negative : Bool) : Reader Binary64 := fun cs => do
  let (whole, r) ← wholeDigits? cs
  match r with
  | '.' :: r => do
    let (part, r) ← digits? isDecimal r
    let (e, r) ← optionalExponent? r
    return (.ofDecimal negative (valueOf 10 (whole ++ part)) (e - part.length), r)
  | c :: _ => do
    guard (c == 'e' || c == 'E')
    let (e, r) ← optionalExponent? r
    return (.ofDecimal negative (valueOf 10 whole) e, r)
  | [] => none

/-- A floating-point number. A number too large for one is refused when it is positive. -/
def float? : Reader Binary64 := fun cs => do
  let (negative, r) := sign cs
  match fractional? negative r with
  | some (.infinite false, _) => none
  | some result => some result
  | none => special? negative r

/-! Quoted text in a TOML text, in four kinds: with escapes between double quotes or without between
single ones, on one line or on several between triple quotes. -/

open Text (isHexadecimal scalar? valueOf)

def hexadecimalDigits? (n : Nat) : Reader (List Char) := fun cs =>
  let ds := cs.take n
  if ds.length = n ∧ ds.all isHexadecimal then some (ds, cs.drop n) else none

def codePoint? (n : Nat) : Reader Char := fun cs => do
  let (ds, r) ← hexadecimalDigits? n cs
  return (← scalar? (valueOf 16 ds), r)

/-- The character that an escape stands for; the text begins after its backslash. -/
def escape? : Reader Char
  | 'b' :: r => some ('\x08', r)
  | 't' :: r => some ('\t', r)
  | 'n' :: r => some ('\n', r)
  | 'f' :: r => some ('\x0c', r)
  | 'r' :: r => some ('\r', r)
  | '"' :: r => some ('"', r)
  | '\\' :: r => some ('\\', r)
  | 'u' :: r => codePoint? 4 r
  | 'U' :: r => codePoint? 8 r
  | _ => none

def basicBody : Nat → Reader (List Char)
  | 0, _ => none
  | _ + 1, [] => none
  | fuel + 1, c :: r =>
    if c == '"' then some ([], r)
    else if c == '\\' then do
      let (d, r) ← escape? r
      let (s, r) ← basicBody fuel r
      return (d :: s, r)
    else if isPlain c then do
      let (s, r) ← basicBody fuel r
      return (c :: s, r)
    else none

def basic? : Reader (List Char)
  | '"' :: r => basicBody (r.length + 1) r
  | _ => none

def literal? : Reader (List Char)
  | '\'' :: r =>
    let s := r.takeWhile fun c => isPlain c && c != '\''
    match r.drop s.length with
    | '\'' :: r => some (s, r)
    | _ => none
  | _ => none

def continuation? (cs : List Char) : Option (List Char) :=
  (newline? (skipBlanks cs)).map skipLines

/-- What a run of quotes means inside triple quotes. One or two stand for themselves; three close
the text, and up to two more before them belong to it. -/
inductive QuoteRun where
  | inside (count : Nat)
  | closing (count : Nat)

def quoteRun (count : Nat) : QuoteRun :=
  if count < 3 then .inside count else .closing (min (count - 3) 2)

def multilineBody (quote : Char) (escapes : Bool) : Nat → Reader (List Char)
  | 0, _ => none
  | _ + 1, [] => none
  | fuel + 1, c :: r =>
    if c == quote then
      let run := (c :: r).takeWhile (· == quote)
      match quoteRun run.length with
      | .inside n => do
        let (s, r) ← multilineBody quote escapes fuel ((c :: r).drop n)
        return (List.replicate n quote ++ s, r)
      | .closing n => some (List.replicate n quote, (c :: r).drop (n + 3))
    else if escapes && c == '\\' then
      match continuation? r with
      | some r => multilineBody quote escapes fuel r
      | none => do
        let (d, r) ← escape? r
        let (s, r) ← multilineBody quote escapes fuel r
        return (d :: s, r)
    else
      match newline? (c :: r) with
      | some r => do
        let (s, r) ← multilineBody quote escapes fuel r
        return ('\n' :: s, r)
      | none =>
        if isPlain c then do
          let (s, r) ← multilineBody quote escapes fuel r
          return (c :: s, r)
        else none

/-- Text after opening triple quotes. A line end right after them does not belong to it. -/
def multiline? (quote : Char) (escapes : Bool) : Reader (List Char) := fun cs =>
  let r := (newline? cs).getD cs
  multilineBody quote escapes (r.length + 1) r

def quotation? : Reader (List Char)
  | '"' :: '"' :: '"' :: r => multiline? '"' true r
  | '\'' :: '\'' :: '\'' :: r => multiline? '\'' false r
  | '"' :: r => basic? ('"' :: r)
  | '\'' :: r => literal? ('\'' :: r)
  | _ => none

/-! Keys of a TOML text. A dotted key is a path of simple ones, bare or
quoted, with blanks around each. -/

open Text (isDecimal)

def isBare (c : Char) : Bool :=
  isDecimal c || ('a' ≤ c && c ≤ 'z') || ('A' ≤ c && c ≤ 'Z') || c == '_' || c == '-'

/-- Paths and nested values may not be longer or deeper than this. -/
def deepest : Nat := 79

def simpleKey? : Reader String
  | '"' :: r => (basic? ('"' :: r)).map fun (s, r) => (String.ofList s, r)
  | '\'' :: r => (literal? ('\'' :: r)).map fun (s, r) => (String.ofList s, r)
  | cs =>
    let s := cs.takeWhile isBare
    if s.isEmpty then none else some (String.ofList s, cs.drop s.length)

def path? : Nat → Reader (List String × String)
  | 0, _ => none
  | fuel + 1, cs => do
    let (key, r) ← simpleKey? (skipBlanks cs)
    match skipBlanks r with
    | '.' :: r => do
      let ((path, last), r) ← path? fuel r
      return ((key :: path, last), r)
    | r => return (([], key), r)

def key? : Reader (List String × String) := path? deepest

/-! Dates and times in a TOML text. Their values are checked and then forgotten, because nothing
that is read from a text here is a date. -/

open Text (isDecimal valueOf)

def fixedDigits? : Nat → Reader (List Char)
  | 0, cs => some ([], cs)
  | _ + 1, [] => none
  | n + 1, c :: r =>
    if isDecimal c then (fixedDigits? n r).map fun (ds, r) => (c :: ds, r) else none

def fixedNumber? (n : Nat) : Reader Nat := fun cs =>
  (fixedDigits? n cs).map fun (ds, r) => (valueOf 10 ds, r)

def expect? (c : Char) : List Char → Option (List Char)
  | d :: r => if d == c then some r else none
  | [] => none

def isLeapYear (year : Nat) : Bool := year % 4 == 0 && (year % 100 != 0 || year % 400 == 0)

def daysIn (year month : Nat) : Nat :=
  if month = 2 then if isLeapYear year then 29 else 28
  else if month = 4 ∨ month = 6 ∨ month = 9 ∨ month = 11 then 30 else 31

def date? (cs : List Char) : Option (List Char) := do
  let (year, r) ← fixedNumber? 4 cs
  let (month, r) ← fixedNumber? 2 (← expect? '-' r)
  let (day, r) ← fixedNumber? 2 (← expect? '-' r)
  guard (1 ≤ month ∧ month ≤ 12 ∧ 1 ≤ day ∧ day ≤ daysIn year month)
  return r

def clock? (cs : List Char) : Option (List Char) := do
  let (hour, r) ← fixedNumber? 2 cs
  let (minute, r) ← fixedNumber? 2 (← expect? ':' r)
  guard (hour ≤ 23 ∧ minute ≤ 59)
  return r

/-- A time has seconds, one of them a leap second, and may have a fraction of a second. -/
def time? (cs : List Char) : Option (List Char) := do
  let (second, r) ← fixedNumber? 2 (← expect? ':' (← clock? cs))
  guard (second ≤ 60)
  match r with
  | '.' :: d :: r' => if isDecimal d then return r'.dropWhile isDecimal else return r
  | _ => return r

def offset? : List Char → Option (List Char)
  | 'Z' :: r | 'z' :: r => some r
  | '+' :: r | '-' :: r => clock? r
  | _ => none

/-- A time may follow a date, and an offset such a time. -/
def dateTime? (cs : List Char) : Option (List Char) := do
  match date? cs with
  | none => time? cs
  | some r =>
    match r with
    | c :: r' =>
      if c == 'T' || c == 't' || c == ' ' then
        match time? r' with
        | some r'' => return (offset? r'').getD r''
        | none => return r
      else return r
    | [] => return r

/-! Values of a TOML text, and tables that grow while the text is read. How a table came about
decides what may still be added to it. -/

open Text (isDecimal)

inductive Origin where
  /-- written between braces, and complete -/
  | inline
  /-- announced by a header of its own -/
  | header
  /-- named on the way by a header of another table -/
  | parent
  /-- named on the way by a dotted key -/
  | dotted
  deriving DecidableEq, Repr

/-- Entries of a table are in the order of their first appearance. -/
inductive Value where
  | string (s : String)
  | integer (n : Int)
  | float (x : Binary64)
  | boolean (b : Bool)
  | moment
  | array (items : List Value)
  | table (origin : Origin) (entries : List (String × Value))
  /-- the tables of one repeated header -/
  | tables (members : List (List (String × Value)))

abbrev Entries := List (String × Value)

namespace Entries

def replace (es : Entries) (key : String) (v : Value) : Entries :=
  es.map fun e => if e.1 = key then (key, v) else e

/-- Gives the table at the end of a path to `f` and puts what `f` makes of it in its place. Missing
tables are made on the way. Tables between braces cannot be entered, by dotted keys also not those
that had a header; of the tables of a repeated header the last is entered. -/
def descend {α : Type} (byKey : Bool) (f : Origin → Entries → Option (Entries × α)) :
    Origin → List String → Entries → Option (Entries × α)
  | origin, [], es => f origin es
  | _, key :: path, es =>
    match es.lookup key with
    | none => do
      let made := if byKey then Origin.dotted else .parent
      let (sub, a) ← descend byKey f made path []
      return (es ++ [(key, .table made sub)], a)
    | some (.table origin sub) => do
      guard (origin ≠ .inline ∧ ¬ (byKey ∧ origin = .header))
      let (sub, a) ← descend byKey f origin path sub
      return (es.replace key (.table origin sub), a)
    | some (.tables members) => do
      let sub ← members.getLast?
      let (sub, a) ← descend byKey f .header path sub
      return (es.replace key (.tables (members.dropLast ++ [sub])), a)
    | some _ => none

/-- A new entry. A key stands once in a table, and a dotted key ends in a
table made by dotted keys. -/
def insertLast (path : List String) (key : String) (v : Value) (origin : Origin) (es : Entries) :
    Option (Entries × Unit) := do
  guard (path.isEmpty ∨ origin = .dotted)
  guard (es.lookup key).isNone
  return (es ++ [(key, v)], ())

def insert (es : Entries) (path : List String) (key : String) (v : Value) : Option Entries :=
  (descend true (insertLast path key v) .header path es).map (·.1)

end Entries

structure Pair where
  path : List String
  key : String
  value : Value

def Entries.ofPairs (ps : List Pair) : Option Entries :=
  ps.foldlM (fun es p => es.insert p.path p.key p.value) []

def numeral? (cs : List Char) : Option (Value × List Char) :=
  match dateTime? cs with
  | some r => some (.moment, r)
  | none =>
    match float? cs with
    | some (x, r) => some (.float x, r)
    | none => (integer? cs).map fun (n, r) => (.integer n, r)

def scalarValue? (cs : List Char) : Option (Value × List Char) :=
  match cs with
  | 't' :: 'r' :: 'u' :: 'e' :: r => some (.boolean true, r)
  | 'f' :: 'a' :: 'l' :: 's' :: 'e' :: r => some (.boolean false, r)
  | c :: _ =>
    if c == '"' || c == '\'' then
      (quotation? cs).map fun (s, r) => (.string (String.ofList s), r)
    else if c == '+' || c == '-' || isDecimal c then numeral? cs
    else (special? false cs).map fun (x, r) => (.float x, r)
  | [] => none

mutual

def value? : (fuel depth : Nat) → List Char → Option (Value × List Char)
  | 0, _, _ => none
  | fuel + 1, depth, '[' :: r =>
    match depth with
    | 0 => none
    | depth + 1 => (items? fuel depth r).map fun (vs, r) => (.array vs, r)
  | fuel + 1, depth, '\x7b' :: r =>
    match depth with
    | 0 => none
    | depth + 1 => do
      let (ps, r) ← match skipBlanks r with
        | '\x7d' :: r => pure ([], r)
        | r => pairs? fuel depth r
      return (.table .inline (← Entries.ofPairs ps), r)
  | _ + 1, _, cs => scalarValue? cs

/-- The items of an array after its opening bracket. A comma may follow the last. -/
def items? : (fuel depth : Nat) → List Char → Option (List Value × List Char)
  | 0, _, _ => none
  | fuel + 1, depth, cs =>
    match skipGap false cs with
    | ']' :: r => some ([], r)
    | r => do
      let (v, r) ← value? fuel depth r
      match skipGap false r with
      | ',' :: r => do
        let (vs, r) ← items? fuel depth r
        return (v :: vs, r)
      | ']' :: r => return ([v], r)
      | _ => none

/-- The entries of a table between braces. No comma follows the last. -/
def pairs? : (fuel depth : Nat) → List Char → Option (List Pair × List Char)
  | 0, _, _ => none
  | fuel + 1, depth, cs => do
    let ((path, key), r) ← key? cs
    let r ← expect? '=' r
    let (v, r) ← value? fuel depth (skipBlanks r)
    let p : Pair := ⟨path, key, v⟩
    match skipBlanks r with
    | ',' :: r => do
      let (ps, r) ← pairs? fuel depth r
      return (p :: ps, r)
    | '\x7d' :: r => return ([p], r)
    | _ => none

end

/-- A value at the front of a text. Two steps for each character are enough. -/
def readValue? : Reader Value := fun cs => value? (2 * cs.length + 2) deepest cs

/-! A TOML document: first its statements are read, then the tables are built from them. A header
opens a table that receives the entries up to the next header. -/

inductive Statement where
  | entry (pair : Pair)
  | header (path : List String) (key : String)
  | member (path : List String) (key : String)

def statement? : Reader Statement
  | '[' :: '[' :: r => do
    let ((path, key), r) ← key? r
    let r ← endLine? (← expect? ']' (← expect? ']' r))
    return (.member path key, r)
  | '[' :: r => do
    let ((path, key), r) ← key? r
    let r ← endLine? (← expect? ']' r)
    return (.header path key, r)
  | cs => do
    let ((path, key), r) ← key? cs
    let (v, r) ← readValue? (skipBlanks (← expect? '=' r))
    return (.entry ⟨path, key, v⟩, ← endLine? r)

def statements? : Nat → List Char → Option (List Statement)
  | 0, _ => none
  | fuel + 1, cs =>
    match skipBlanks cs with
    | [] => some []
    | c :: r =>
      if c == '#' || c == '\n' || c == '\r' then
        (endLine? (c :: r)).bind (statements? fuel)
      else do
        let (s, r) ← statement? (c :: r)
        let ss ← statements? fuel r
        return s :: ss

inductive Place where
  | top
  | table (path : List String) (key : String)
  | member (path : List String) (key : String)

structure Draft where
  root : Entries
  place : Place
  body : Entries

namespace Draft

def empty : Draft := ⟨[], .top, []⟩

def close (d : Draft) : Option Entries :=
  match d.place with
  | .top => some d.body
  | .table path key =>
    (Entries.descend false (fun _ es => do
      guard (es.lookup key).isNone
      return (es ++ [(key, .table .header d.body)], ())) .header path d.root).map (·.1)
  | .member path key =>
    (Entries.descend false (fun _ es =>
      match es.lookup key with
      | some (.tables members) =>
        some (es.replace key (.tables (members ++ [d.body])), ())
      | _ => none) .header path d.root).map (·.1)

/-- Opens the table of a header. One that until now was only a parent of others is taken from its
place, to come last in the table that holds it. -/
def openTable (path : List String) (key : String) (root : Entries) : Option Draft := do
  let (root, body) ← Entries.descend false (fun _ es =>
    match es.lookup key with
    | none => some (es, [])
    | some (.table .parent sub) => some (es.filter (·.1 ≠ key), sub)
    | some _ => none) .header path root
  return ⟨root, .table path key, body⟩

def openMember (path : List String) (key : String) (root : Entries) : Option Draft := do
  let (root, _) ← Entries.descend false (fun _ es =>
    match es.lookup key with
    | none => some (es ++ [(key, .tables [])], ())
    | some (.tables _) => some (es, ())
    | some _ => none) .header path root
  return ⟨root, .member path key, []⟩

def add (d : Draft) : Statement → Option Draft
  | .entry p => do return { d with body := ← d.body.insert p.path p.key p.value }
  | .header path key => do openTable path key (← d.close)
  | .member path key => do openMember path key (← d.close)

end Draft

def Entries.ofStatements (ss : List Statement) : Option Entries := do
  let d ← ss.foldlM Draft.add Draft.empty
  d.close

def dropMark : List Char → List Char
  | '\ufeff' :: r => r
  | r => r

def parse? (cs : List Char) : Option Entries := do
  let r := dropMark cs
  Entries.ofStatements (← statements? (r.length + 1) r)

end TorusAutomaton.Toml
