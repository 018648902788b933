import MetaSchema.Xml.Char
import MetaSchema.Xml.Error

/-!
# Reading a text from left to right

A cursor is the rest of a text and the place where it starts. The functions here take a cursor and
give back what they read and the cursor after it, or the error at the first character that does
not fit.

* `Cursor.span`, `Cursor.skipSpaces`, `Cursor.drop`: reading by class or by count.
* `Cursor.char`, `Cursor.literal`: reading what must be there.
* `Cursor.scanUntil`: reading text up to a mark; every character read must be one of XML.
* `Cursor.name`, `Cursor.qName`: reading names.
* `Cursor.value`: reading the `=` and the quoted value of an attribute.
-/

namespace MetaSchema.Xml

structure Cursor where
  rest : List Char
  place : Place
deriving DecidableEq, Repr

/-- A name of up to two parts. Without a colon the qualifier is empty. -/
structure QName where
  qualifier : String
  base : String
deriving DecidableEq, Repr

/-- A name as it is written. -/
def QName.text (n : QName) : String :=
  if n.qualifier = "" then n.base else n.qualifier ++ ":" ++ n.base

namespace Cursor

/-- The cursor after the next `n` characters. -/
def drop (k : Cursor) (n : Nat) : Cursor :=
  ⟨k.rest.drop n, k.place.afterAll (k.rest.take n)⟩

/-- The longest run of characters of a class, and the cursor after it. -/
def span (p : Char → Bool) (k : Cursor) : List Char × Cursor :=
  (k.rest.takeWhile p, ⟨k.rest.dropWhile p, k.place.afterAll (k.rest.takeWhile p)⟩)

def skipSpaces (k : Cursor) : Cursor := (k.span isSpace).2

def startsWithSpace (k : Cursor) : Bool := k.rest.head?.any isSpace

def startsWith (s : String) (k : Cursor) : Bool := s.toList.isPrefixOf k.rest

def atEnd (k : Cursor) : Bool := k.rest.isEmpty

/-- Reads the character `c`. -/
def char (c : Char) (k : Cursor) : Except Error Cursor :=
  match k.rest with
  | [] => .error .unexpectedEnd
  | d :: _ => if d = c then .ok (k.drop 1) else .error (.unexpectedChar c d k.place)

/-- Reads the text `s`. -/
def literal (s : String) (k : Cursor) : Except Error Cursor :=
  if k.startsWith s then .ok (k.drop s.length) else .error (.missing s k.place)

/-- Reads characters up to the first place where `stop` holds of the rest, or to the end. -/
def scanFrom (stop : List Char → Bool) : List Char → Place → Except Error (List Char × Cursor)
  | [], p => .ok ([], ⟨[], p⟩)
  | c :: r, p =>
    if !isChar c then .error (.forbiddenChar c p)
    else if stop (c :: r) then .ok ([], ⟨c :: r, p⟩)
    else (scanFrom stop r (p.after c)).map fun (text, k) => (c :: text, k)

/-- Reads characters up to the first place where `stop` holds of the rest, or to the end. -/
def scanUntil (stop : List Char → Bool) (k : Cursor) : Except Error (List Char × Cursor) :=
  scanFrom stop k.rest k.place

/-- Reads a name of one part, in which colons have no meaning. -/
def name (k : Cursor) : Except Error (String × Cursor) :=
  match k.rest with
  | c :: _ =>
    if isNameStart c || c == ':' then
      let (text, after) := k.span fun d => isNamePart d || d == ':'
      .ok (String.ofList text, after)
    else .error (.invalidName k.place)
  | [] => .error (.invalidName k.place)

/-- A part of a qualified name starts as a name does. -/
def startsName (cs : List Char) : Bool := cs.head?.any isNameStart

/-- Reads a name of up to two parts. The part before a colon may be empty. -/
def qName (k : Cursor) : Except Error (QName × Cursor) :=
  let (text, after) := k.span fun d => isNamePart d || d == ':'
  match text.splitOn ':' with
  | [base] =>
    if startsName base then .ok (⟨"", String.ofList base⟩, after)
    else .error (.invalidName k.place)
  | [qualifier, base] =>
    if (qualifier.isEmpty || startsName qualifier) && startsName base then
      .ok (⟨String.ofList qualifier, String.ofList base⟩, after)
    else .error (.invalidName k.place)
  | _ => .error (.invalidName k.place)

/-- Reads a single or double quote. -/
def openQuote (k : Cursor) : Except Error (Char × Cursor) :=
  match k.rest with
  | [] => .error .unexpectedEnd
  | c :: _ =>
    if c = '\'' ∨ c = '"' then .ok (c, k.drop 1) else .error (.notOf "a quote" c k.place)

/-- Reads `=` and a quoted value, with spaces around the sign. The value is given raw, with the
place where it starts; it ends before its quote and holds no `<`. -/
def value (k : Cursor) : Except Error (List Char × Place × Cursor) := do
  let k ← k.skipSpaces.char '='
  let (q, k) ← k.skipSpaces.openQuote
  let (text, after) ← k.scanUntil fun cs => cs.head?.any fun c => c == q || c == '<'
  return (text, k.place, ← after.char q)

end Cursor

end MetaSchema.Xml
