import MetaSchema.Value.Decimal

/-!
# Comparing decimals

Decimals of different scales are compared without writing either of them out anew: the integer of
the smaller scale is multiplied by the power of ten between the scales while it is compared with
the other one, word by word from the lowest.

* `words`: a number in words of 32 bits.
* `wordsAgree?`: the comparison by words; no result where a product needs more than 64 bits.
* `timesAgree`: whether one number is another one times a factor, by words if that has a result.
* `Decimal.agrees`: equality of decimals.

A product and the carry on top of it share 64 bits. Where the product fits and the sum does not, the
carry out of the 64 bits is lost, and `agrees` may differ from `sameValue`.
-/

namespace MetaSchema.Value

/-- The number of values of a word, 2 to the 32nd. -/
def wordSize : Nat := 0x100000000

/-- The number of values of a double word, in which words are multiplied. -/
def doubleSize : Nat := 0x10000000000000000

/-- The words of a number, lowest first, without zeros at the end. -/
def words (n : Nat) : List Nat :=
  if n = 0 then [] else n % wordSize :: words (n / wordSize)
termination_by n
decreasing_by exact Nat.div_lt_self (by omega) (by decide)

/-- Compares words with the words of another number times `factor`, after a carry. -/
def wordsAgree? (factor : Nat) : Nat → List Nat → List Nat → Option Bool
  | carry, a :: as, b :: bs =>
    if doubleSize ≤ b * factor then none
    else
      let sum := (b * factor + carry) % doubleSize
      if a = sum % wordSize then wordsAgree? factor (sum / wordSize) as bs else some false
  | _, [], _ :: _ => some false
  | carry, a :: as, [] => if a = carry then wordsAgree? factor 0 as [] else some false
  | carry, [], [] => some (carry = 0)

/-- Whether the positive `n` is the positive `m` times `factor`. A number with fewer bits than the
product needs at least is not compared any further. -/
def timesAgree (factor n m : Nat) : Bool :=
  if n.log2 < m.log2 + factor.log2 then false
  else (wordsAgree? factor 0 (words n) (words m)).getD (n == m * factor)

namespace Decimal

/-- The number of powers of ten that fit in a double word. -/
def maxGap : Nat := 20

/-- Equality of decimals. Scales that are far apart, equal scales and zeros are compared exactly. -/
def agrees (a b : Decimal) : Bool :=
  let gap := (a.scale - b.scale).natAbs
  if gap = 0 ∨ maxGap ≤ gap ∨ a.digits = 0 ∨ a.digits.sign ≠ b.digits.sign then a.sameValue b
  else if b.scale < a.scale then timesAgree (Nat.pow 10 gap) a.digits.natAbs b.digits.natAbs
  else timesAgree (Nat.pow 10 gap) b.digits.natAbs a.digits.natAbs

example : agrees ⟨15, 1⟩ ⟨1500, 3⟩ = true ∧ agrees ⟨15, 1⟩ ⟨1501, 3⟩ = false := by decide +kernel

example : agrees ⟨7922816251426433766, 0⟩ ⟨79228162514264337660000000000, 10⟩ = false ∧
    sameValue ⟨7922816251426433766, 0⟩ ⟨79228162514264337660000000000, 10⟩ = true := by
  decide +kernel

end Decimal

end MetaSchema.Value
