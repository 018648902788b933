import MetaSchema.Text.Numeral
import MetaSchema.Text.Split

/-!
# Punycode

A text as ASCII characters. Its ASCII characters come first, then a hyphen, then for each other
character, in the order of code points, how far on it is from the one before it: a count of the
places and code points that are passed over, as a numeral of variable length in 36 digits.

* `threshold`, `adapt`: where a numeral ends, and how that follows the numerals seen so far.
* `encode`: the ASCII text.
* `decode?`: reading it.
-/

namespace MetaSchema.Url.Punycode

open Text

/-- A digit: the letters are 0 to 25 and the decimal digits 26 to 35. -/
def digitChar (d : Nat) : Char :=
  if d < 26 then Char.ofNat ('a'.toNat + d) else Char.ofNat ('0'.toNat + d - 26)

/-- The value of a digit of either case. -/
def digitValue? (c : Char) : Option Nat :=
  if c.isLower then some (c.toNat - 'a'.toNat)
  else if c.isUpper then some (c.toNat - 'A'.toNat)
  else if c.isDigit then some (c.toNat - '0'.toNat + 26)
  else none

/-- The digit at `place`, which counts in steps of 36, ends a numeral if it is below this. -/
def threshold (bias place : Nat) : Nat := min 26 (max 1 (place - bias))

/-- Divides by 35 down to 455 and counts the divisions in steps of 36. -/
def shrink (n count : Nat) : Nat × Nat :=
  if h : n ≤ 455 then (n, count) else shrink (n / 35) (count + 36)
termination_by n
decreasing_by exact Nat.div_lt_self (by omega) (by decide)

/-- The bias after a numeral of value `delta` when there are `length` characters. -/
def adapt (delta length : Nat) (first : Bool) : Nat :=
  let n := if first then delta / 700 else delta / 2
  let (n, count) := shrink (n + n / length) 0
  count + 36 * n / (n + 38)

/-! ## Writing -/

/-- A number as a numeral, from `place` on. No numeral has more digits than the number has bits. -/
def numeral (bias : Nat) : Nat → Nat → Nat → List Char
  | 0, _, n => [digitChar n]
  | fuel + 1, place, n =>
    let t := threshold bias place
    if n < t then [digitChar n]
    else digitChar (t + (n - t) % (36 - t)) ::
      numeral bias fuel (place + 36) ((n - t) / (36 - t))

/-- A text that is partly written. -/
structure Writing where
  /-- The places and code points that were passed over since the last numeral. -/
  delta : Nat
  bias : Nat
  /-- The number of characters that are written. -/
  count : Nat
  out : List Char

/-- Passes a character of the text while those of code point `point` are written. -/
def Writing.pass (basic point : Nat) (w : Writing) (c : Char) : Writing :=
  if c.toNat < point then { w with delta := w.delta + 1 }
  else if c.toNat = point then
    { delta := 0
      bias := adapt w.delta (w.count + 1) (w.count == basic)
      count := w.count + 1
      out := w.out ++ numeral w.bias (w.delta.log2 + 1) 36 w.delta }
  else w

/-- Writes the characters of the code points in order; `next` is the first one not passed over. -/
def Writing.run (text : List Char) (basic : Nat) : Nat → List Nat → Writing → Writing
  | _, [], w => w
  | next, point :: points, w =>
    let w := { w with delta := w.delta + (point - next) * (w.count + 1) }
    let w := text.foldl (Writing.pass basic point) w
    run text basic (point + 1) points { w with delta := w.delta + 1 }

/-- An ASCII character. -/
def isAscii (c : Char) : Bool := c.toNat < 0x80

/-- A text as ASCII characters. -/
def encode (text : List Char) : List Char :=
  let basic := text.filter isAscii
  let points := ((text.filter (!isAscii ·)).map Char.toNat).mergeSort.eraseDups
  let w := Writing.run text basic.length 0x80 points ⟨0, 72, basic.length, []⟩
  basic ++ (if basic.isEmpty then [] else ['-']) ++ w.out

/-! ## Reading -/

/-- Reads a numeral from `place` on, whose digits count `weight` times; it is added to `n`. -/
def readNumeral? (bias : Nat) : Nat → Nat → Nat → List Char → Option (Nat × List Char)
  | _, _, _, [] => none
  | place, weight, n, c :: r =>
    (digitValue? c).bind fun d =>
      let t := threshold bias place
      if d < t then some (n + d * weight, r)
      else readNumeral? bias (place + 36) (weight * (36 - t)) (n + d * weight) r

/-- Reads numerals and puts each character in its place. `i` counts places from the start of the
text and `point` is the code point at which they are counted. Every numeral has a digit, so there
are no more of them than characters. -/
def readCharacters? : Nat → Nat → Nat → Nat → List Char → List Char → Option (List Char)
  | _, _, _, _, text, [] => some text
  | 0, _, _, _, _, _ :: _ => none
  | fuel + 1, bias, point, i, text, c :: r => do
    let (j, rest) ← readNumeral? bias 36 1 i (c :: r)
    let length := text.length + 1
    let point := point + j / length
    if ¬ point.isValidChar then none
    else
      let text := text.take (j % length) ++ Char.ofNat point :: text.drop (j % length)
      readCharacters? fuel (adapt (j - i) length (i == 0)) point (j % length + 1) text rest

/-- The text that ASCII characters stand for. -/
def decode? (cs : List Char) : Option (List Char) :=
  let (basic, rest) := (splitLast? '-' cs).getD ([], cs)
  readCharacters? rest.length 72 0x80 0 basic rest

example : encode "bücher".toList = "bcher-kva".toList ∧
    decode? "bcher-kva".toList = some "bücher".toList := by decide +kernel

end MetaSchema.Url.Punycode
