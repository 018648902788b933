import MetaSchema.Text.Numeral

/-!
# Numeric hosts

* `endsInNumber`, `ipv4?`: an address of 32 bits, as up to four numbers joined by dots. A number is
  decimal, octal after `0` or hexadecimal after `0x`; the last one fills the octets that are left.
* `ipv4Text`: four decimal numbers.
* `ipv6?`: an address of eight 16-bit pieces in hexadecimal. `::` stands for pieces of zero, and the
  last two pieces may be four decimal numbers.
* `ipv6Text`: the pieces, with the longest run of zeros as `::`.
-/

namespace MetaSchema.Url

open Text

/-! ## Four octets -/

/-- Reads one number of an address; after `0x` there may be no digits. -/
def part? : List Char → Option Nat
  | [] => none
  | '0' :: 'x' :: r => radixFrom? 16 0 r
  | '0' :: 'X' :: r => radixFrom? 16 0 r
  | '0' :: c :: r => radixFrom? 8 0 (c :: r)
  | cs => radixFrom? 10 0 cs

/-- The parts between dots; one dot may stand at the end. -/
def dotted (cs : List Char) : List (List Char) :=
  let parts := cs.splitOn '.'
  if 1 < parts.length ∧ parts.getLast? = some [] then parts.dropLast else parts

/-- Whether a host must be read as an address: its last part is a number, or all digits. -/
def endsInNumber (cs : List Char) : Bool :=
  match (dotted cs).getLast? with
  | none => false
  | some last => !last.isEmpty && (last.all isDigit || (part? last).isSome)

/-- Reads an address of four octets. -/
def ipv4? (cs : List Char) : Option Nat :=
  ((dotted cs).mapM part?).bind fun numbers =>
    match numbers.reverse with
    | [] => none
    | last :: front =>
      if 4 < numbers.length ∨ front.any (0xFF < ·) then none
      else
        let free := Nat.pow 0x100 (4 - front.length)
        if last < free then some (front.reverse.foldl (0x100 * · + ·) 0 * free + last) else none

/-- Four decimal numbers joined by dots. -/
def ipv4Text (n : Nat) : List Char :=
  ['.'].intercalate
    ([n / 0x1000000, n / 0x10000 % 0x100, n / 0x100 % 0x100, n % 0x100].map naturalText)

/-! ## Eight pieces -/

/-- Reads one piece, of one to four hexadecimal digits. -/
def piece? (cs : List Char) : Option Nat :=
  if cs.isEmpty ∨ 4 < cs.length then none else radixFrom? 16 0 cs

/-- Reads a decimal octet, without leading zeros. -/
def octet? (cs : List Char) : Option Nat :=
  match cs with
  | '0' :: _ :: _ => none
  | _ => (natural? cs).filter (· ≤ 0xFF)

/-- Reads four decimal octets as two pieces. -/
def octetPieces? (cs : List Char) : Option (List Nat) :=
  match (cs.splitOn '.').mapM octet? with
  | some [a, b, c, d] => some [0x100 * a + b, 0x100 * c + d]
  | _ => none

/-- Reads pieces joined by colons, of which the last may be four octets if the address ends here. -/
def pieces? (ends : Bool) : List (List Char) → Option (List Nat)
  | [] => some []
  | [cs] => if ends ∧ '.' ∈ cs then octetPieces? cs else (piece? cs).map ([·])
  | cs :: r => (piece? cs).bind fun n => (pieces? ends r).map (n :: ·)

/-- The pieces of one side of `::`; there need not be any. -/
def side? (ends : Bool) (cs : List Char) : Option (List Nat) :=
  if cs.isEmpty then some [] else pieces? ends (cs.splitOn ':')

/-- The texts before and after the first `::`. -/
def cutZeros? : List Char → Option (List Char × List Char)
  | [] => none
  | ':' :: ':' :: r => some ([], r)
  | c :: r => (cutZeros? r).map fun p => (c :: p.1, p.2)

/-- Reads an address of eight pieces; `::` stands for at least one of them. -/
def ipv6? (cs : List Char) : Option (List Nat) :=
  match cutZeros? cs with
  | none => (side? true cs).filter (·.length = 8)
  | some (before, after) => do
    let left ← side? false before
    let right ← side? true after
    if 7 < left.length + right.length then none
    else some (left ++ List.replicate (8 - left.length - right.length) 0 ++ right)

/-- The number of zeros at the start. -/
def leadingZeros (pieces : List Nat) : Nat := (pieces.takeWhile (· = 0)).length

/-- The start of the longest run of zeros, the first one of several, and its length. -/
def longestZeros (pieces : List Nat) : Nat × Nat :=
  (List.range pieces.length).foldl
    (fun best i => if best.2 < leadingZeros (pieces.drop i) then
      (i, leadingZeros (pieces.drop i)) else best) (0, 0)

/-- Pieces joined by colons. -/
def piecesText (pieces : List Nat) : List Char := [':'].intercalate (pieces.map hexDigits)

/-- The text of an address. A single piece of zero is written out. -/
def ipv6Text (pieces : List Nat) : List Char :=
  let (start, count) := longestZeros pieces
  if count < 2 then piecesText pieces
  else piecesText (pieces.take start) ++ "::".toList ++ piecesText (pieces.drop (start + count))

example : (ipv4? "0x7f.1".toList).map ipv4Text = some "127.0.0.1".toList := by decide +kernel

example : (ipv6? "1:0::1.2.3.4".toList).map ipv6Text = some "1::102:304".toList := by
  decide +kernel

end MetaSchema.Url
