import MetaSchema.Text.Split
import MetaSchema.Xml.Cursor

/-!
# Tokens of a document

A document as a flat list of tokens, before tags are matched and names are resolved.

* `Token`: comments and instructions (of which nothing is kept), the parts of start tags, close
  tags, and raw text.
* `Zone`: where in a document the cursor is, which decides what may come next.
* `next`: the next token.
* `scan`: all tokens up to the end or to the first error.

A document that breaks off is no error here; that its root element is open shows later.
-/

namespace MetaSchema.Xml

inductive Token where
  /-- A comment or a processing instruction. -/
  | aside
  /-- `<` and a name; the place is that of the `<`. -/
  | tagStart (name : QName) (place : Place)
  /-- An attribute with its raw value, its place, and the place of the value. -/
  | pair (name : QName) (value : List Char) (place valuePlace : Place)
  /-- The end of a start tag; `closed` for `/>`. -/
  | tagEnd (closed : Bool)
  | close (name : QName) (place : Place)
  /-- Raw text with the place where it starts. -/
  | text (raw : List Char) (place : Place)
  /-- The content of a CDATA section with the place of its `<`. -/
  | cdata (raw : List Char) (place : Place)
deriving DecidableEq, Repr

/-- A part of a document. -/
inductive Zone where
  | beforeRoot
  /-- Inside a start tag, within `outer` open elements. -/
  | tag (outer : Nat)
  /-- Inside `inner + 1` open elements. -/
  | content (inner : Nat)
  | afterRoot
deriving DecidableEq, Repr

/-- The zone after a close tag or an empty element within `outer` open elements. -/
def Zone.leaving : Nat → Zone
  | 0 => .afterRoot
  | n + 1 => .content n

/-- A token, and where reading goes on after it. -/
structure Step where
  token : Token
  zone : Zone
  cursor : Cursor
deriving Repr

/-! ## The tokens one by one -/

/-- Reads a comment; two hyphens in a row end it or are an error. -/
def comment (k : Cursor) : Except Error Cursor := do
  let (text, after) ← (k.drop 4).scanUntil ("-->".toList.isPrefixOf ·)
  let after ← after.literal "-->"
  if Text.occursIn "--".toList text || text.getLast? == some '-' then
    .error (.invalidComment k.place)
  else return after

/-- Reads a processing instruction. -/
def instruction (k : Cursor) : Except Error Cursor := do
  if k.startsWith "<?xml " then .error (.unexpectedDeclaration k.place)
  else
    let (_, k) ← (k.drop 2).name
    let (_, k) ← k.skipSpaces.scanUntil ("?>".toList.isPrefixOf ·)
    k.literal "?>"

/-- Reads the name of a start tag. -/
def tagStart (outer : Nat) (k : Cursor) : Except Error Step := do
  let (name, after) ← (k.drop 1).qName
  return ⟨.tagStart name k.place, .tag outer, after⟩

/-- Reads an attribute. -/
def tagPair (outer : Nat) (k : Cursor) : Except Error Step := do
  let (name, after) ← k.qName
  let (value, valuePlace, after) ← after.value
  return ⟨.pair name value k.place valuePlace, .tag outer, after⟩

/-- Reads an attribute or the end of a start tag. A start tag that breaks off gives no token. -/
def inTag (outer : Nat) (k : Cursor) : Except Error (Option Step) :=
  if k.atEnd then .ok none
  else
    let inner := k.skipSpaces
    match inner.rest with
    | [] => .error .unexpectedEnd
    | '/' :: _ => do
      let after ← (inner.drop 1).char '>'
      return some ⟨.tagEnd true, Zone.leaving outer, after⟩
    | '>' :: _ => .ok (some ⟨.tagEnd false, .content outer, inner.drop 1⟩)
    | c :: _ =>
      if k.startsWithSpace then (tagPair outer inner).map some
      else .error (.notOf "a whitespace" c inner.place)

/-- Reads a close tag within `inner` other open elements. -/
def closeTag (inner : Nat) (k : Cursor) : Except Error Step := do
  let (name, after) ← (k.drop 2).qName
  let after ← after.skipSpaces.char '>'
  return ⟨.close name k.place, Zone.leaving inner, after⟩

/-- Reads a CDATA section. -/
def cdata (inner : Nat) (k : Cursor) : Except Error Step := do
  let (raw, after) ← (k.drop 9).scanUntil ("]]>".toList.isPrefixOf ·)
  let after ← after.literal "]]>"
  return ⟨.cdata raw k.place, .content inner, after⟩

/-- Reads text up to the next `<`. -/
def text (inner : Nat) (k : Cursor) : Except Error Step := do
  let (raw, after) ← k.scanUntil (·.head? == some '<')
  if Text.occursIn "]]>".toList raw then .error (.closedSection after.place)
  else return ⟨.text raw k.place, .content inner, after⟩

/-- Reads what may stand in an element. -/
def inContent (inner : Nat) (k : Cursor) : Except Error (Option Step) :=
  match k.rest with
  | [] => .ok none
  | '<' :: '!' :: _ =>
    if k.startsWith "<!--" then (comment k).map (some ⟨.aside, .content inner, ·⟩)
    else if k.startsWith "<![CDATA[" then (cdata inner k).map some
    else .error (.unknownToken k.place)
  | '<' :: '?' :: _ => (instruction k).map (some ⟨.aside, .content inner, ·⟩)
  | '<' :: '/' :: _ => (closeTag inner k).map some
  | ['<'] => .error (.unknownToken k.place)
  | '<' :: _ => (tagStart (inner + 1) k).map some
  | _ => (text inner k).map some

/-- Reads what may stand beside the root element: comments and instructions. -/
def beside? (zone : Zone) (k : Cursor) : Option (Except Error Step) :=
  if k.startsWith "<!--" then some ((comment k).map (⟨.aside, zone, ·⟩))
  else if k.startsWith "<?" then some ((instruction k).map (⟨.aside, zone, ·⟩))
  else none

/-- Reads what may stand before the root element, or the name of its start tag. -/
def beforeRoot (k : Cursor) : Except Error (Option Step) :=
  match beside? .beforeRoot k with
  | some step => step.map some
  | none =>
    if k.startsWith "<!DOCTYPE" then .error .dtd
    else if k.startsWith "<" then (tagStart 0 k).map some
    else if k.atEnd then .ok none
    else .error (.unknownToken k.place)

/-- Reads what may stand after the root element. -/
def afterRoot (k : Cursor) : Except Error (Option Step) :=
  match beside? .afterRoot k with
  | some step => step.map some
  | none => if k.atEnd then .ok none else .error (.unknownToken k.place)

/-- The next token, or `none` at the end of the text. -/
def next : Zone → Cursor → Except Error (Option Step)
  | .beforeRoot, k => beforeRoot k.skipSpaces
  | .tag outer, k => inTag outer k
  | .content inner, k => inContent inner k
  | .afterRoot, k => afterRoot k.skipSpaces

/-! ## The XML declaration -/

/-- Reads spaces before the next part of the declaration; there need be none before its end. -/
def declarationGap (k : Cursor) : Except Error Cursor :=
  match k.rest with
  | [] => .ok k
  | c :: _ =>
    if isSpace c then .ok k.skipSpaces
    else if k.startsWith "?>" then .ok k
    else .error (.notOf "a whitespace" c k.place)

/-- Reads a part of the declaration; its name only has to start with `part`. -/
def declarationPart (part : String) (k : Cursor) : Except Error Cursor :=
  if k.startsWith part then do
    let (_, k) ← k.qName
    let (_, _, k) ← k.value
    return k
  else .error (.missing part k.place)

/-- Reads the XML declaration: a version, and perhaps an encoding and a standalone part. -/
def declaration (k : Cursor) : Except Error Cursor := do
  let k ← declarationGap (k.drop 5)
  let k ← declarationPart "version" k
  let k ← declarationGap k
  let k ← if k.startsWith "encoding" then (declarationPart "encoding" k).bind declarationGap
    else .ok k
  let k ← if k.startsWith "standalone" then declarationPart "standalone" k else .ok k
  k.skipSpaces.literal "?>"

/-- Reads the byte order mark and the declaration that may open a document. -/
def opening (cs : List Char) : Except Error Cursor :=
  let k : Cursor := ⟨cs, .start⟩
  let k := if k.startsWith "\ufeff" then k.drop 1 else k
  if k.startsWith "<?xml " then declaration k else .ok k

/-! ## The whole document -/

/-- The tokens of a text, and the error that ends them, if there is one. -/
structure Scan where
  tokens : List Token
  failure : Option Error
deriving Repr

/-- At most `fuel` tokens from the cursor on. -/
def scanFrom : Nat → Zone → Cursor → Scan
  | 0, _, _ => ⟨[], none⟩
  | fuel + 1, zone, k =>
    match next zone k with
    | .error e => ⟨[], some e⟩
    | .ok none => ⟨[], none⟩
    | .ok (some step) =>
      let rest := scanFrom fuel step.zone step.cursor
      ⟨step.token :: rest.tokens, rest.failure⟩

/-- The tokens of a text. Each takes at least one character, so there are no more tokens than
characters. -/
def scan (cs : List Char) : Scan :=
  match opening cs with
  | .error e => ⟨[], some e⟩
  | .ok k => scanFrom (k.rest.length + 1) .beforeRoot k

end MetaSchema.Xml
