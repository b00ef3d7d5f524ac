/-! Floating-point numbers of 53 significant bits, as exact integers.
A decimal number becomes the nearest of them, and of two equally near the one with the even
mantissa; nothing here depends on the machine's own floating-point arithmetic. -/
namespace TorusAutomaton

/-- A finite value is `± mantissa * 2 ^ exponent`. The sign of zero is kept. -/
inductive Binary64 where
  | finite (negative : Bool) (mantissa : Nat) (exponent : Int)
  | infinite (negative : Bool)
  | nan
  deriving DecidableEq, Repr

namespace Binary64

def scale (num den : Nat) (e : Int) : Nat × Nat :=
  (num * Nat.pow 2 (-e).toNat, den * Nat.pow 2 e.toNat)

def roundHalfEven (num den : Nat) : Nat :=
  let q := num / den
  let r := num % den
  if 2 * r < den then q else if den < 2 * r then q + 1 else q + q % 2

def floorLog2 (num den : Nat) : Int :=
  let e : Int := (num.log2 : Int) - den.log2
  let s := scale num den e
  if s.2 ≤ s.1 then e else e - 1

/-- The exponent of the last of 53 bits, or of the smallest subnormal number. -/
def lastPlace (num den : Nat) : Int := max (floorLog2 num den - 52) (-1074)

def ofRatio (negative : Bool) (num den : Nat) : Binary64 :=
  if num = 0 then .finite negative 0 0
  else
    let e := lastPlace num den
    let s := scale num den e
    let m := roundHalfEven s.1 s.2
    let r : Nat × Int := if m = 0x20000000000000 then (0x10000000000000, e + 1) else (m, e)
    if 971 < r.2 then .infinite negative else .finite negative r.1 r.2

def digitCount (n : Nat) : Nat :=
  if n < 10 then 1 else digitCount (n / 10) + 1
termination_by n
decreasing_by omega

/-- The value nearest to `± digits * 10 ^ exponent`. From `10 ^ 310` on every number is infinite and
below `10 ^ (-330)` every number is zero, so a huge exponent is never raised. -/
def ofDecimal (negative : Bool) (digits : Nat) (exponent : Int) : Binary64 :=
  let magnitude := (digitCount digits : Int) + exponent
  if digits = 0 ∨ magnitude < -330 then .finite negative 0 0
  else if 311 < magnitude then .infinite negative
  else ofRatio negative (digits * Nat.pow 10 exponent.toNat) (Nat.pow 10 (-exponent).toNat)

end Binary64

end TorusAutomaton

/-! The shortest decimal that reads back as a given value.
The reals that round to `m * 2 ^ e` form an interval. Of the grids of multiples of `10 ^ p` the
coarsest that meets it gives the fewest digits, and on that grid one of the value's two neighbours
lies in the interval. Of two the nearer is taken, and of two equally near the larger. -/
namespace TorusAutomaton.Binary64

/-- The reals that round to one value, in units of `2 ^ (exponent - 2)`; the ends belong to it only
when `closed`. -/
structure Interval where
  low : Nat
  value : Nat
  high : Nat
  closed : Bool
  exponent : Int
  deriving DecidableEq, Repr

/-- The next smaller value is half as far away when the mantissa is a power of two. -/
def interval (mantissa : Nat) (exponent : Int) : Interval where
  low := 4 * mantissa - if mantissa = 0x10000000000000 then 1 else 2
  value := 4 * mantissa
  high := 4 * mantissa + 2
  closed := mantissa % 2 = 0
  exponent := exponent - 2

namespace Interval

/-- Factors `a` and `b` such that `c * 10 ^ p` is to `k` units of the interval
as `c * a` to `k * b`. -/
def factors (i : Interval) (p : Int) : Nat × Nat :=
  (Nat.pow 10 p.toNat * Nat.pow 2 (-i.exponent).toNat,
    Nat.pow 2 i.exponent.toNat * Nat.pow 10 (-p).toNat)

def contains (i : Interval) (c : Nat) (p : Int) : Bool :=
  let f := i.factors p
  let x := c * f.1
  if i.closed then i.low * f.2 ≤ x && x ≤ i.high * f.2
  else i.low * f.2 < x && x < i.high * f.2

def nearestOn (i : Interval) (p : Int) : Option Nat :=
  let f := i.factors p
  let below := i.value * f.2 / f.1
  let pastBelow := i.value * f.2 % f.1
  match i.contains below p, i.contains (below + 1) p with
  | true, true => some (if 2 * pastBelow < f.1 then below else below + 1)
  | true, false => some below
  | false, true => some (below + 1)
  | false, false => none

def ceilLog10 (i : Interval) : Int :=
  let s := scale (i.value * Nat.pow 10 400) 1 (-i.exponent)
  (digitCount (s.1 / s.2) : Int) - 400

/-- Digits and exponent of the shortest decimal. Seventeen digits always suffice. -/
def shortest (i : Interval) : Option (Nat × Int) :=
  (List.range 20).findSome? fun (n : Nat) =>
    let p := i.ceilLog10 - n
    (i.nearestOn p).map fun c => (c, p)

end Interval

/-- A decimal without an exponent part, and with `.0` when it is a whole number. -/
def positional (digits : Nat) (exponent : Int) : String :=
  if 0 ≤ exponent then toString digits ++ String.ofList (List.replicate exponent.toNat '0') ++ ".0"
  else
    let places := (-exponent).toNat
    let ds := toString digits
    let padded := String.ofList (List.replicate (places + 1 - ds.length) '0') ++ ds
    let whole := padded.toList.take (padded.length - places)
    let part := padded.toList.drop (padded.length - places)
    String.ofList whole ++ "." ++ String.ofList part

def sign (negative : Bool) : String := if negative then "-" else ""

def text : Binary64 → String
  | .nan => "NaN"
  | .infinite negative => sign negative ++ "inf"
  | .finite negative 0 _ => sign negative ++ "0.0"
  | .finite negative mantissa exponent =>
    sign negative ++
      ((interval mantissa exponent).shortest.map fun (c, p) => positional c p).getD ""

end TorusAutomaton.Binary64
