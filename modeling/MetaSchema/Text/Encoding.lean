/-!
# Character encodings of a document

From the octets of a document to its text. A byte order mark chooses the encoding; without one the
document is UTF-8.

* `Encoding.sniff`: the encoding, and the octets after the mark.
* `Encoding.decode`: the text of unmarked octets, or `none` where they are not valid. Nothing is
  repaired: a lone surrogate, an odd octet or an overlong form makes the whole document invalid.
* `decodeDocument`: both steps.
* `utf8Octets`: the octets of a text in UTF-8.
-/

namespace MetaSchema.Text

/-- The content of a file or of a reply. -/
abbrev Octets := List UInt8

inductive Encoding where
  | utf8
  | utf16le
  | utf16be
deriving DecidableEq, Repr

namespace Encoding

def name : Encoding → String
  | utf8 => "UTF-8"
  | utf16le => "UTF-16LE"
  | utf16be => "UTF-16BE"

/-- The byte order mark U+FEFF in this encoding. -/
def mark : Encoding → Octets
  | utf8 => [0xEF, 0xBB, 0xBF]
  | utf16le => [0xFF, 0xFE]
  | utf16be => [0xFE, 0xFF]

/-- The encoding that the octets' mark chooses and the octets after the mark. -/
def sniff : Octets → Encoding × Octets
  | 0xEF :: 0xBB :: 0xBF :: r => (utf8, r)
  | 0xFF :: 0xFE :: r => (utf16le, r)
  | 0xFE :: 0xFF :: r => (utf16be, r)
  | os => (utf8, os)

/-- Pairs of octets as 16-bit units, or `none` for an odd number of octets. -/
def units? (unit : UInt8 → UInt8 → Nat) : Octets → Option (List Nat)
  | [] => some []
  | [_] => none
  | a :: b :: r => (units? unit r).map (unit a b :: ·)

/-- The code point that a high and a low surrogate stand for. -/
def surrogatePair (high low : Nat) : Nat := 0x10000 + (high - 0xD800) * 0x400 + (low - 0xDC00)

/-- The text of a list of 16-bit units; surrogates must come in pairs, high before low. -/
def ofUnits? : List Nat → Option (List Char)
  | [] => some []
  | [u] => if u < 0xD800 ∨ 0xE000 ≤ u then some [Char.ofNat u] else none
  | u :: v :: r =>
    if u < 0xD800 ∨ 0xE000 ≤ u then (ofUnits? (v :: r)).map (Char.ofNat u :: ·)
    else if u < 0xDC00 ∧ 0xDC00 ≤ v ∧ v < 0xE000 then
      (ofUnits? r).map (Char.ofNat (surrogatePair u v) :: ·)
    else none

/-- The text of octets without a mark. -/
def decode : Encoding → Octets → Option (List Char)
  | utf8, os => (String.fromUTF8? os.toByteArray).map String.toList
  | utf16le, os => (units? (fun a b => a.toNat + 256 * b.toNat) os).bind ofUnits?
  | utf16be, os => (units? (fun a b => 256 * a.toNat + b.toNat) os).bind ofUnits?

end Encoding

/-- The text of a document, or the encoding in which it is not valid. -/
def decodeDocument (os : Octets) : Except Encoding (List Char) :=
  match (Encoding.sniff os).1.decode (Encoding.sniff os).2 with
  | some text => .ok text
  | none => .error (Encoding.sniff os).1

/-- The octets of a text in UTF-8. -/
def utf8Octets (cs : List Char) : Octets := cs.flatMap String.utf8EncodeChar

example : Encoding.utf16be.decode [0xD8, 0x3D, 0xDE, 0x00] = some ['😀'] := by
  decide +kernel

end MetaSchema.Text
