import MetaSchema.Text.Numeral

/-!
# Integers

Unbounded integers in decimal: at most one sign, then digits, between which `_` may stand.

* `integer?`: reading.
* `integerText`: the digits without leading zeros, after a `-` for a negative number.
-/

namespace MetaSchema.Value

open Text

/-- Splits a leading sign off a text: whether it is `-`, and what follows it. -/
def splitSign : List Char → Bool × List Char
  | '-' :: r => (true, r)
  | '+' :: r => (false, r)
  | cs => (false, cs)

/-- The integer of sign `negative` and magnitude `n`. -/
def signed (negative : Bool) (n : Nat) : Int := if negative then -(n : Int) else n

/-- Reads an integer: an optional sign, a digit, then digits and `_`. -/
def integer? (cs : List Char) : Option Int :=
  (groupedNatural? (splitSign cs).2).map (signed (splitSign cs).1)

/-- The text of an integer. -/
def integerText (n : Int) : List Char :=
  if n < 0 then '-' :: naturalText n.natAbs else naturalText n.natAbs

example : integer? "-1_000".toList = some (-1000) ∧ integer? "-+5".toList = none ∧
    integer? "_1".toList = none := by decide +kernel

end MetaSchema.Value
