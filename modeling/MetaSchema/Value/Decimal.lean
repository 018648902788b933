import MetaSchema.Text.Split
import MetaSchema.Value.Integer

/-!
# Scaled decimals

Real numbers as they are written: an unscaled integer and a scale, which may be negative. The
decimal `digits * 10 ^ (-scale)` keeps the number of places it was written with, so `1.0` and
`1.00` are two decimals of one value.

* `Decimal.ofChars?`: reading, with a point and an exponent.
* `Decimal.toChars`: the text. Plain notation is left where more than five zeros would follow the
  point, or more than fifteen the digits.
* `Decimal.reduced`, `Decimal.sameValue`: comparison by value.
-/

namespace MetaSchema.Value

open Text

/-- The number `digits * 10 ^ (-scale)`. -/
structure Decimal where
  digits : Int
  scale : Int
deriving DecidableEq, Repr

namespace Decimal

/-- The scales that a decimal may have, those of 64 bits. -/
def scaleFits (scale : Int) : Bool :=
  -0x8000000000000000 ≤ scale && scale < 0x8000000000000000

/-- An exponent mark. -/
def isExponentMark (c : Char) : Bool := c == 'e' || c == 'E'

/-- The text before the first exponent mark and the exponent after it; without a mark the exponent
is zero. An exponent is an optional sign and digits. -/
def splitExponent? (cs : List Char) : Option (List Char × Int) :=
  match cs.dropWhile (!isExponentMark ·) with
  | [] => some (cs, 0)
  | _ :: r =>
    (natural? (splitSign r).2).map fun n =>
      (cs.takeWhile (!isExponentMark ·), signed (splitSign r).1 n)

/-- The text without its first point and the number of digit places after that point. -/
def splitPoint (cs : List Char) : List Char × Nat :=
  match splitFirst? '.' cs with
  | none => (cs, 0)
  | some (whole, places) => (whole ++ places, (places.filter (· ≠ '_')).length)

/-- Reads a decimal: what is left of the mantissa when its first point is taken out is read as one
integer, and the scale is the number of places after the point less the exponent. -/
def ofChars? (cs : List Char) : Option Decimal :=
  (splitExponent? cs).bind fun (mantissa, exponent) =>
    (integer? (splitPoint mantissa).1).bind fun digits =>
      let scale := (splitPoint mantissa).2 - exponent
      if scaleFits scale then some ⟨digits, scale⟩ else none

/-- The most zeros that may follow the point before the first digit. -/
def maxLeadingZeros : Nat := 5

/-- The most zeros that may be added after the digits of a large number. -/
def maxTrailingZeros : Nat := 15

/-- The text of a decimal that is not negative: scientific with `E-` for a small number, the digits
followed by `e+` and their power of ten for a large one, plain in between. -/
def magnitudeText (ds : List Char) (scale : Int) : List Char :=
  let n := ds.length
  if scale - n > maxLeadingZeros then
    let places := if n = 1 then [] else '.' :: ds.drop 1
    ds.take 1 ++ places ++ 'E' :: '-' :: naturalText (scale - n + 1).toNat
  else if -scale > maxTrailingZeros then ds ++ 'e' :: '+' :: naturalText (-scale).toNat
  else if scale ≤ 0 then ds ++ List.replicate (-scale).toNat '0'
  else if scale < n then ds.take (n - scale.toNat) ++ '.' :: ds.drop (n - scale.toNat)
  else '0' :: '.' :: (List.replicate (scale.toNat - n) '0' ++ ds)

/-- The text of a decimal. The scale of zero is not shown. -/
def toChars (d : Decimal) : List Char :=
  let scale := if d.digits = 0 then 0 else d.scale
  let magnitude := magnitudeText (naturalText d.digits.natAbs) scale
  if d.digits < 0 then '-' :: magnitude else magnitude

/-- Divides ten out of `n` as often as it goes, and counts it off the scale. -/
def reduce (n : Nat) (scale : Int) : Nat × Int :=
  if h : n = 0 then (0, 0)
  else if n % 10 = 0 then reduce (n / 10) (scale - 1)
  else (n, scale)
termination_by n
decreasing_by omega

/-- The decimal of the same value whose unscaled integer is not divisible by ten. -/
def reduced (d : Decimal) : Decimal :=
  let r := reduce d.digits.natAbs d.scale
  ⟨signed (decide (d.digits < 0)) r.1, r.2⟩

/-- Two decimals of one value. -/
def sameValue (a b : Decimal) : Bool := a.reduced == b.reduced

example : (ofChars? "6.02e23".toList).map toChars = some "602e+21".toList := by decide +kernel

example : (ofChars? ".-5".toList).map toChars = some "-0.05".toList := by decide +kernel

end Decimal

end MetaSchema.Value
