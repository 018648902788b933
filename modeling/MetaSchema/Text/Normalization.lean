import MetaSchema.Text.CombiningClass
import MetaSchema.Text.Decomposition

/-!
# Composed texts

A text has many canonically equivalent forms. The composed form (NFC) has as few characters as can
be: a letter takes up the marks after it while there is a character for the two.

* `reorder`: the marks after a letter in the order of their classes.
* `composeFrom`: a letter with the marks that it takes up, and what follows.
* `composed`: the composed form of a text.
-/

namespace MetaSchema.Text

/-- Puts a mark in front of a text, but after the marks of lower classes at its start. -/
def settle (c : Char) : List Char → List Char
  | [] => [c]
  | d :: r =>
    if combiningClass d ≠ 0 ∧ combiningClass d < combiningClass c then d :: settle c r
    else c :: d :: r

/-- The marks after each letter in the order of their classes; marks of one class keep theirs. -/
def reorder (cs : List Char) : List Char := cs.foldr settle []

/-- Composes a text that follows `letter` and marks that it does not take up. These are given in
reverse, and `last` is the class of the last one, which hides marks of its own class. -/
def composeFrom (letter : Char) (passed : List Char) (last : Nat) : List Char → List Char
  | [] => letter :: passed.reverse
  | c :: r =>
    let reached := passed.isEmpty ∨ last < combiningClass c
    match if reached then compose? letter c else none with
    | some taken => composeFrom taken passed last r
    | none =>
      if combiningClass c = 0 then letter :: passed.reverse ++ composeFrom c [] 0 r
      else composeFrom letter (c :: passed) (combiningClass c) r

/-- The composed form of a text. -/
def composed (cs : List Char) : List Char :=
  match reorder (cs.flatMap decompose) with
  | [] => []
  | c :: r => composeFrom c [] 0 r

example : composed ['e', '\u0323', '\u0302'] = ['\u1ec7'] ∧
    composed ['e', '\u0302', '\u0323'] = ['\u1ec7'] := by decide +kernel

end MetaSchema.Text
