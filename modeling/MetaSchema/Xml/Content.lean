import MetaSchema.Text.Numeral
import MetaSchema.Xml.Error
import MetaSchema.Xml.Char

/-!
# Raw text and the text it stands for

Raw text holds references and line ends as they were written.

* `reference?`: what stands between `&` and `;`: a character by number, one of five by name, or
  the name of an entity, of which none can be declared.
* `pieces`: raw text with its references replaced, each character marked as plain or referred.
* `lineEnds`: the text of an element. `\r\n` and `\r` become `\n`; referred characters stay.
* `spaced`: the value of an attribute. Every plain tab and line end becomes one space.
-/

namespace MetaSchema.Xml

open Text

/-! ## References -/

/-- What a reference stands for. -/
inductive Reference where
  | char (c : Char)
  | entity (name : String)
deriving DecidableEq, Repr

/-- The number of a character reference, `x` and hexadecimal digits or decimal digits. -/
def referenceNumber? : List Char → Option Nat
  | 'x' :: r => if r.isEmpty then none else radixFrom? 16 0 r
  | cs => natural? cs

/-- The character of a number below 2^32; U+FFFD where the number is no character. The character
must be one that may stand in a document. -/
def numberedChar? (n : Nat) : Option Char :=
  if n < UInt32.size then
    let c := if n.isValidChar then Char.ofNat n else '\ufffd'
    if isChar c then some c else none
  else none

/-- The entities that need no declaration. -/
def namedChars : List (String × Char) :=
  [("quot", '"'), ("amp", '&'), ("apos", '\''), ("lt", '<'), ("gt", '>')]

/-- A name as references use it. -/
def isEntityName : List Char → Bool
  | [] => false
  | c :: r => (isNameStart c || c == ':') && r.all fun d => isNamePart d || d == ':'

/-- What stands between `&` and `;`, if it is a reference. -/
def reference? : List Char → Option Reference
  | '#' :: r => (referenceNumber? r).bind numberedChar? |>.map .char
  | cs =>
    if isEntityName cs then
      match namedChars.lookup (String.ofList cs) with
      | some c => some (.char c)
      | none => some (.entity (String.ofList cs))
    else none

/-! ## Pieces -/

/-- A character of a text and whether it was written plainly or by a reference. -/
inductive Piece where
  | plain (c : Char)
  | referred (c : Char)
deriving DecidableEq, Repr

theorem length_dropWhile_le {α : Type} (p : α → Bool) (l : List α) :
    (l.dropWhile p).length ≤ l.length := by
  induction l with
  | nil => simp
  | cons a l ih =>
    rw [List.dropWhile_cons]
    split
    · exact Nat.le_succ_of_le ih
    · exact Nat.le_refl _

/-- The pieces of raw text that starts at a place. -/
def pieces (p : Place) : List Char → Except Error (List Piece)
  | [] => .ok []
  | '&' :: r =>
    let body := r.takeWhile (· ≠ ';')
    match h : r.dropWhile (· ≠ ';') with
    | [] => .error (.malformedReference p)
    | _ :: after =>
      have : after.length < r.length + 1 := by
        have := length_dropWhile_le (· ≠ ';') r
        rw [h, List.length_cons] at this
        omega
      match reference? body with
      | none => .error (.malformedReference p)
      | some (.entity name) => .error (.unknownEntity name p)
      | some (.char c) =>
        (pieces (((p.after '&').afterAll body).after ';') after).map (.referred c :: ·)
  | c :: r => (pieces (p.after c) r).map (.plain c :: ·)
termination_by cs => cs.length

/-! ## Line ends and spaces -/

/-- Puts a plain character after the text `out`, which is in reverse. A `\r` that the text ends
with becomes `\n`, and takes a following `\n` with it; a `\r` at the end of the raw text becomes
`\n` at once. -/
def putPlain (out : List Char) (c : Char) (last : Bool) : List Char :=
  match out with
  | '\r' :: before =>
    if c = '\n' then '\n' :: before
    else if c = '\r' ∧ last then '\n' :: '\n' :: before
    else c :: '\n' :: before
  | _ => if c = '\r' ∧ last then '\n' :: out else c :: out

/-- Puts pieces after the text `out`, which is in reverse. A referred character stands as it is,
and so does the plain character after it, when `referred` says that there was one. -/
def putPieces (out : List Char) (referred : Bool) : List Piece → List Char
  | [] => out
  | .referred c :: r => putPieces (c :: out) true r
  | .plain c :: r =>
    if referred then putPieces (c :: out) false r
    else putPieces (putPlain out c r.isEmpty) false r

/-- The text of an element that these pieces make. -/
def lineEnds (ps : List Piece) : List Char := (putPieces [] false ps).reverse

/-- The value of an attribute that these pieces make. -/
def spaced : List Piece → List Char
  | [] => []
  | .plain '\r' :: .plain '\n' :: r => ' ' :: spaced r
  | .plain c :: r => (if c = '\r' ∨ c = '\n' ∨ c = '\t' then ' ' else c) :: spaced r
  | .referred c :: r => c :: spaced r

example : (pieces .start "a\r\n&lt;\rb\r".toList).toOption.map lineEnds =
    some "a\n<\nb\n".toList := by
  decide +kernel

end MetaSchema.Xml
