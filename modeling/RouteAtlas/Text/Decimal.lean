set_option autoImplicit false

/-!
# Decimal text of a double

A decimal or radix literal stands for the nearest double, and a double is written positionally
with the fewest digits that read back as the same double. All arithmetic is exact: a double is
`mantissa · 2 ^ exponent`, and every comparison is made between natural numbers.
-/
namespace RouteAtlas.Text

/-- A non-negative double: a finite value `mantissa · 2 ^ exponent`, or infinity. -/
inductive Double where
  | finite (mantissa : Nat) (exponent : Int)
  | infinite
  deriving DecidableEq, Repr

namespace Double

def roundQuotient (num den : Nat) : Nat :=
  let q := num / den
  let r := num % den
  if 2 * r < den then q
  else if 2 * r > den then q + 1
  else if q % 2 = 0 then q else q + 1

def scaleDown (num den : Nat) (e : Int) : Nat × Nat :=
  if 0 ≤ e then (num, den * Nat.pow 2 e.toNat) else (num * Nat.pow 2 (-e).toNat, den)

def ofRatio (num den : Nat) : Double :=
  if num = 0 then .finite 0 (-1074)
  else
    let guess : Int := (Nat.log2 num : Int) - (Nat.log2 den : Int) - 52
    let (n, d) := scaleDown num den guess
    let e := max (if n / d < Nat.pow 2 52 then guess - 1 else guess) (-1074)
    let (n, d) := scaleDown num den e
    let m := roundQuotient n d
    let (m, e) := if m = Nat.pow 2 53 then (Nat.pow 2 52, e + 1) else (m, e)
    if e > 971 then .infinite else .finite m e

def ofDecimal (digits : Nat) (exponent : Int) : Double :=
  let size : Int := (Nat.toDigits 10 digits).length
  if digits = 0 || size + exponent < -400 then .finite 0 (-1074)
  else if size + exponent > 400 then .infinite
  else if 0 ≤ exponent then ofRatio (digits * Nat.pow 10 exponent.toNat) 1
  else ofRatio digits (Nat.pow 10 (-exponent).toNat)

/-- The ends of the interval of reals that round to `mantissa · 2 ^ exponent`, and the value
itself, as numerators over one denominator. -/
def neighbourhood (mantissa : Nat) (exponent : Int) : Nat × Nat × Nat × Nat :=
  let below := if mantissa = Nat.pow 2 52 && exponent > -1074 then 1 else 2
  let up (x : Nat) : Nat := if exponent ≥ 2 then x * Nat.pow 2 (exponent - 2).toNat else x
  let den : Nat := if exponent ≥ 2 then 1 else Nat.pow 2 (2 - exponent).toNat
  (up (4 * mantissa - below), up (4 * mantissa), up (4 * mantissa + 2), den)

/-- The number `k` with `10 ^ (k - 1) ≤ num / den < 10 ^ k`. -/
def magnitude (num den : Nat) : Int :=
  if den ≤ num then ((Nat.toDigits 10 (num / den)).length : Int)
  else
    match (List.range 400).find? fun j => decide (den ≤ num * Nat.pow 10 (j + 1)) with
    | some j => -(j : Int)
    | none => -400

/-- A decimal `digits · 10 ^ exponent` with the given number of digits that reads back as the
double, if there is one; of two, the nearer. -/
def withDigits? (mantissa : Nat) (exponent : Int) (count : Nat) : Option (Nat × Int) :=
  let (lo, value, hi, den) := neighbourhood mantissa exponent
  let place : Int := magnitude value den - count
  let scale (x : Nat) : Nat := if place < 0 then x * Nat.pow 10 (-place).toNat else x
  let unit : Nat := if place < 0 then den else den * Nat.pow 10 place.toNat
  let d := scale value / unit
  let inside (x : Nat) : Bool :=
    if mantissa % 2 = 0 then decide (scale lo ≤ x * unit ∧ x * unit ≤ scale hi)
    else decide (scale lo < x * unit ∧ x * unit < scale hi)
  let nearer : Bool := decide (2 * (scale value - d * unit) ≤ unit)
  if inside d && (nearer || !inside (d + 1)) then some (d, place)
  else if inside (d + 1) then some (d + 1, place)
  else none

/-- The shortest decimal that reads back. Seventeen digits always suffice. -/
def shortest (mantissa : Nat) (exponent : Int) : Nat × Int :=
  ((List.range 17).findSome? fun n => withDigits? mantissa exponent (n + 1)).getD
    (mantissa, exponent)

def positional (digits : Nat) (exponent : Int) : List Char :=
  let ds := Nat.toDigits 10 digits
  let zeros := (ds.reverse.takeWhile (· == '0')).length
  let ds := ds.take (ds.length - zeros)
  let e := exponent + zeros
  if 0 ≤ e then ds ++ List.replicate e.toNat '0'
  else
    let point : Int := ds.length + e
    if 0 < point then ds.take point.toNat ++ '.' :: ds.drop point.toNat
    else '0' :: '.' :: (List.replicate (-point).toNat '0' ++ ds)

def render : Double → List Char
  | .infinite => "inf".toList
  | .finite 0 _ => ['0']
  | .finite m e => let (d, p) := shortest m e; positional d p

end Double

end RouteAtlas.Text
