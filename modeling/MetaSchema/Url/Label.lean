import MetaSchema.Text.CombiningClass
import MetaSchema.Text.Direction
import MetaSchema.Text.Joining
import MetaSchema.Text.Normalization
import MetaSchema.Url.Folding
import MetaSchema.Url.Punycode

/-!
# Labels

The parts of a domain name between its dots, and what a label in any script must keep to.

* `joinersFit`: joiners stand only where they make a difference.
* `directionFits`: characters of both directions are not mixed.
* `foldText`: the characters of a label as they stand in it.
* `label?`: what a label says, which Punycode may hide.
* `labelText`: a label in ASCII.
-/

namespace MetaSchema.Url

open Text

/-! ## Joiners -/

/-- Whether the first letter that is not transparent has a property. -/
def nextLetter (p : Char → Bool) (cs : List Char) : Bool :=
  ((cs.dropWhile isTransparent).head?.map p).getD false

/-- Whether a joiner fits between the text before it, which is given in reverse, and the text after
it: after a virama, or as a non-joiner between letters that would join. -/
def joinerFits (c : Char) (before after : List Char) : Bool :=
  (before.head?.any fun d => combiningClass d == viramaClass) ||
    (c == '\u200c' && nextLetter joinsAfter before && nextLetter joinsBefore after)

/-- Whether all joiners fit in a text that follows the characters `before`, given in reverse. -/
def joinersFit (before : List Char) : List Char → Bool
  | [] => true
  | c :: r => (!isJoiner c || joinerFits c before r) && joinersFit (c :: before) r

/-! ## Directions -/

/-- A character for which the labels of a name must keep to one direction. -/
def isOfBothWays (c : Char) : Bool :=
  direction c == .rightToLeft || direction c == .arabicNumber

/-- The directions after the first character, without those of marks at the end. -/
def directionsAfter (cs : List Char) : List Direction :=
  ((cs.map direction).reverse.dropWhile (· == .mark)).reverse

/-- Whether a label keeps to the direction of its first character, which is a letter, and ends in a
letter or a number. Numbers of both kinds do not stand together from right to left. -/
def directionFits : List Char → Bool
  | [] => true
  | c :: r =>
    let rest := directionsAfter r
    match direction c with
    | .leftToRight =>
      rest.all (fun d => d != .rightToLeft && d != .arabicNumber) &&
        rest.getLast?.all fun d => d == .leftToRight || d == .europeanNumber
    | .rightToLeft =>
      rest.all (· != .leftToRight) &&
        (rest.getLast?.all fun d => d != .neutral) &&
        !(rest.contains .europeanNumber && rest.contains .arabicNumber)
    | _ => false

/-! ## Whole labels -/

/-- The longest label with other characters than ASCII. -/
def maxLabel : Nat := 1000

/-- The longest label in Punycode, without its mark. -/
def maxPunycode : Nat := 2000

/-- A text as it stands in a name. -/
def foldText (cs : List Char) : List Char := composed (cs.flatMap fold)

/-- Whether the characters of a folded label may stand together. -/
def isLabel (cs : List Char) : Bool :=
  cs.all Punycode.isAscii ||
    (!cs.head?.any isMark && joinersFit [] cs && cs.length ≤ maxLabel)

/-- What stands before a label in Punycode. -/
def punycodeMark : List Char := "xn--".toList

/-- What a label in Punycode says. It is a folded label that has no other form than Punycode. -/
def punycodeLabel? (cs : List Char) : Option (List Char) :=
  (Punycode.decode? cs).filter fun label =>
    cs.length ≤ maxPunycode && Punycode.encode label == cs &&
      label.any (!Punycode.isAscii ·) && foldText label == label &&
      !label.any isDisallowed && isLabel label

/-- What a folded label says. -/
def label? (cs : List Char) : Option (List Char) :=
  if punycodeMark.isPrefixOf cs then punycodeLabel? (cs.drop punycodeMark.length)
  else if isLabel cs then some cs
  else none

/-- A label in ASCII. -/
def labelText (label : List Char) : List Char :=
  if label.all Punycode.isAscii then label else punycodeMark ++ Punycode.encode label

example : label? "xn--tda".toList = some ['\u00fc'] := by decide +kernel

end MetaSchema.Url
