import MetaSchema.Text.Encoding
import MetaSchema.Text.Numeral

/-!
# Percent-encoding

A character that may not stand in a part of a URL is written as its octets in UTF-8, each as `%` and
two hexadecimal digits.

* `Part`, `Part.escapes`: the parts of a URL, and the characters that are escaped in them.
* `Part.encode`: a text with those characters escaped. A `%` stays, so nothing is escaped twice.
* `percentDecode`: the octets that a text with escapes stands for.
-/

namespace MetaSchema.Url

open Text

/-- The parts of a URL, by what is escaped in them. -/
inductive Part where
  /-- A host or a path without segments. -/
  | plain
  | path
  | query
  /-- The query of a URL with a special scheme. -/
  | specialQuery
  | fragment
  | userinfo
deriving DecidableEq, Repr

namespace Part

/-- The printable ASCII characters that are escaped. -/
def marks : Part → List Char
  | plain => []
  | path => " \"<>\x60#?\x7b\x7d".toList
  | query => " \"#<>".toList
  | specialQuery => " \"#<>'".toList
  | fragment => " \"<>\x60".toList
  | userinfo => " \"<>\x60#?\x7b\x7d/:;=@[\\]^|".toList

/-- Controls and what is not ASCII are escaped in every part. -/
def escapes (p : Part) (c : Char) : Bool :=
  c.toNat < 0x20 || 0x7F ≤ c.toNat || p.marks.contains c

/-- An octet as `%` and two upper-case digits. -/
def encodeOctet (o : UInt8) : List Char :=
  '%' :: [Nat.digitChar (o.toNat / 16), Nat.digitChar (o.toNat % 16)].map Char.toUpper

/-- A text with the characters escaped that may not stand in the part. -/
def encode (p : Part) (cs : List Char) : List Char :=
  cs.flatMap fun c => if p.escapes c then (utf8Octets [c]).flatMap encodeOctet else [c]

end Part

/-- The octets of a text; `%` and two hexadecimal digits stand for one octet. -/
def percentDecode : List Char → Octets
  | [] => []
  | '%' :: a :: b :: r =>
    match hexDigit? a, hexDigit? b with
    | some x, some y => UInt8.ofNat (16 * x + y) :: percentDecode r
    | _, _ => utf8Octets ['%'] ++ percentDecode (a :: b :: r)
  | c :: r => utf8Octets [c] ++ percentDecode r

example : Part.path.encode "a é%".toList = "a%20%C3%A9%".toList := by decide +kernel

example : percentDecode "%41%".toList = [0x41, 0x25] := by decide +kernel

end MetaSchema.Url
