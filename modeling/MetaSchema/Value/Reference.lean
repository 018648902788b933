import MetaSchema.Text.Blank
import MetaSchema.Text.Quoted

/-!
# References to things outside a document

Absolute URIs and UUIDs, as texts of their form.

* `isUri`, `Uri`: a scheme, a colon, and a rest without blanks.
* `isUuid`, `Uuid`: 32 hexadecimal digits in groups of 8, 4, 4, 4 and 12. Upper-case digits are
  read, and kept in lower case.
-/

namespace MetaSchema.Value

open Text

/-! ## URIs -/

/-- A character that may follow the first letter of a scheme. -/
def isSchemePart (c : Char) : Bool := c.isAlphanum || c == '+' || c == '.' || c == '-'

/-- A letter followed by letters, digits, `+`, `.` and `-`. -/
def isScheme : List Char → Bool
  | [] => false
  | c :: r => c.isAlpha && r.all isSchemePart

/-- The text before the first colon. -/
def schemeOf (cs : List Char) : List Char := cs.takeWhile (· ≠ ':')

/-- A scheme, a colon, and a rest without blanks. -/
def isUri (cs : List Char) : Bool :=
  match cs.dropWhile (· ≠ ':') with
  | [] => false
  | _ :: rest => isScheme (schemeOf cs) && rest.all (!isBlank ·)

/-- An absolute URI. -/
structure Uri where
  text : String
  formed : isUri text.toList = true
deriving DecidableEq

namespace Uri

def ofString? (s : String) : Option Uri :=
  if h : isUri s.toList = true then some ⟨s, h⟩ else none

/-- The message for a text that is no absolute URI. -/
def notAbsolute (s : String) : String := quote s ++ " is not an absolute URI"

def scheme (u : Uri) : String := String.ofList (schemeOf u.text.toList)

end Uri

/-! ## UUIDs -/

/-- A lower-case hexadecimal digit. -/
def isHexDigit (c : Char) : Bool := c.isDigit || ('a' ≤ c && c ≤ 'f')

/-- The lengths of the groups of digits. -/
def uuidGroups : List Nat := [8, 4, 4, 4, 12]

/-- Groups of lower-case hexadecimal digits of the right lengths, joined by hyphens. -/
def isUuid (cs : List Char) : Bool :=
  (cs.splitOn '-').map List.length == uuidGroups && (cs.splitOn '-').all (·.all isHexDigit)

/-- A UUID in its canonical text. -/
structure Uuid where
  text : String
  formed : isUuid text.toList = true
deriving DecidableEq

/-- Reads a UUID with digits of either case. -/
def Uuid.ofString? (s : String) : Option Uuid :=
  let lower := String.ofList (s.toList.map Char.toLower)
  if h : isUuid lower.toList = true then some ⟨lower, h⟩ else none

end MetaSchema.Value
