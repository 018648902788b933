/-!
# Decimal numerals

Natural numbers written in ASCII digits, decimal or of another radix up to 16.

* `digit?`, `hexDigit?`: the value of one digit.
* `natural?`: the number that a non-empty run of digits writes; no sign, no blank, nothing else.
* `groupedNatural?`: the same with `_` allowed after the first digit.
* `radixFrom?`: reading on after a number, in a given radix.
* `naturalText`, `hexDigits`: the digits of a number, without leading zeros.
-/

namespace MetaSchema.Text

/-- The value of an ASCII digit. -/
def digit? (c : Char) : Option Nat :=
  if '0' ≤ c ∧ c ≤ '9' then some (c.toNat - '0'.toNat) else none

/-- An ASCII digit. -/
def isDigit (c : Char) : Bool := (digit? c).isSome

/-- The number that digits write after a number `n`. -/
def digitsFrom? : Nat → List Char → Option Nat
  | n, [] => some n
  | n, c :: r => (digit? c).bind fun d => digitsFrom? (10 * n + d) r

/-- The number that a non-empty run of digits writes. -/
def natural? : List Char → Option Nat
  | [] => none
  | c :: r => digitsFrom? 0 (c :: r)

/-- The number that digits write, where `_` may stand anywhere after the first digit. -/
def groupedNatural? : List Char → Option Nat
  | [] => none
  | c :: r => if c = '_' then none else digitsFrom? 0 ((c :: r).filter (· ≠ '_'))

/-- The value of a hexadecimal digit of either case. -/
def hexDigit? (c : Char) : Option Nat :=
  if c.isDigit then some (c.toNat - '0'.toNat)
  else if 'a' ≤ c ∧ c ≤ 'f' then some (c.toNat - 'a'.toNat + 10)
  else if 'A' ≤ c ∧ c ≤ 'F' then some (c.toNat - 'A'.toNat + 10)
  else none

/-- The number that digits of a radix up to 16 write after a number `n`. -/
def radixFrom? (radix : Nat) : Nat → List Char → Option Nat
  | n, [] => some n
  | n, c :: r => ((hexDigit? c).filter (· < radix)).bind fun d => radixFrom? radix (radix * n + d) r

/-- A number in lower-case hexadecimal, without leading zeros. -/
def hexDigits (n : Nat) : List Char := Nat.toDigits 16 n

/-- The digits of a number, without leading zeros. -/
def naturalText (n : Nat) : List Char := Nat.toDigits 10 n

example : natural? "0123".toList = some 123 ∧ natural? "".toList = none ∧
    natural? "+1".toList = none := by decide +kernel

end MetaSchema.Text
