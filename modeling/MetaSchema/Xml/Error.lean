import MetaSchema.Text.Quoted

/-!
# Errors of XML documents

* `Place`: a line and a column, both counted from one.
* `Xml.Error`: why a text is not a document that can be read.
* `Error.message`, `Error.place`: its wording, and where it is.
-/

namespace MetaSchema.Xml

/-- A line and a column in a text. Columns count characters, and only `\n` ends a line. -/
structure Place where
  line : Nat
  column : Nat
deriving DecidableEq, Repr

namespace Place

/-- The start of a text. -/
def start : Place := ⟨1, 1⟩

/-- The place after a character. -/
def after (p : Place) (c : Char) : Place :=
  if c = '\n' then ⟨p.line + 1, 1⟩ else ⟨p.line, p.column + 1⟩

/-- The place after several characters. -/
def afterAll (p : Place) (cs : List Char) : Place := cs.foldl after p

instance : ToString Place := ⟨fun p => s!"{p.line}:{p.column}"⟩

end Place

/-- The first octet of a character in UTF-8, as a character. Messages about a single octet show
it. -/
def leadOctet (c : Char) : Char :=
  let n := c.toNat
  Char.ofNat <|
    if n < 0x80 then n
    else if n < 0x800 then 0xC0 + n / 0x40
    else if n < 0x10000 then 0xE0 + n / 0x1000
    else 0xF0 + n / 0x40000

inductive Error where
  | xmlPrefixRebound (place : Place)
  | xmlUriElsewhere (place : Place)
  | xmlnsUriDeclared (place : Place)
  | xmlnsElement (place : Place)
  | duplicateNamespace (name : String) (place : Place)
  | unknownNamespace (name : String) (place : Place)
  | unexpectedClose (expected found : String) (place : Place)
  | unknownEntity (name : String) (place : Place)
  | malformedReference (place : Place)
  | duplicateAttribute (name : String) (place : Place)
  | noRoot
  | unclosedRoot
  | unexpectedDeclaration (place : Place)
  | dtd
  | tooManyNodes
  | invalidName (place : Place)
  | forbiddenChar (c : Char) (place : Place)
  | unexpectedChar (expected found : Char) (place : Place)
  | notOf (expected : String) (found : Char) (place : Place)
  | missing (expected : String) (place : Place)
  | invalidComment (place : Place)
  | closedSection (place : Place)
  | unknownToken (place : Place)
  | unexpectedEnd
deriving DecidableEq, Repr

namespace Error

open Text

def message : Error → String
  | xmlPrefixRebound p => s!"'xml' namespace prefix mapped to wrong URI at {p}"
  | xmlUriElsewhere p => s!"the 'xml' namespace URI is used for not 'xml' prefix at {p}"
  | xmlnsUriDeclared p => s!"the 'xmlns' URI is used at {p}, but it must not be declared"
  | xmlnsElement p => s!"the 'xmlns' prefix is used at {p}, but it must not be"
  | duplicateNamespace name p => s!"namespace '{name}' at {p} is already defined"
  | unknownNamespace name p => s!"an unknown namespace prefix '{name}' at {p}"
  | unexpectedClose expected found p => s!"expected '{expected}' tag, not '{found}' at {p}"
  | unknownEntity name p => s!"unknown entity reference '{name}' at {p}"
  | malformedReference p => s!"malformed entity reference at {p}"
  | duplicateAttribute name p => s!"attribute '{name}' at {p} is already defined"
  | noRoot => "the document does not have a root node"
  | unclosedRoot => "the root node was opened but never closed"
  | unexpectedDeclaration p => s!"unexpected XML declaration at {p}"
  | dtd => "XML with DTD detected"
  | tooManyNodes => "nodes limit reached"
  | invalidName p => s!"invalid name token at {p}"
  | forbiddenChar c p => s!"a non-XML character '{String.ofList (escape c)}' found at {p}"
  | unexpectedChar expected found p => s!"expected '{expected}' not '{leadOctet found}' at {p}"
  | notOf expected found p => s!"expected {expected} not '{leadOctet found}' at {p}"
  | missing expected p => s!"expected '{expected}' at {p}"
  | invalidComment p => s!"comment at {p} contains '--'"
  | closedSection p => s!"']]>' at {p} is not allowed inside a character data"
  | unknownToken p => s!"unknown token at {p}"
  | unexpectedEnd => "unexpected end of stream"

/-- Where the error is; the start of the text if it is about the whole of it. -/
def place : Error → Place
  | xmlPrefixRebound p | xmlUriElsewhere p | xmlnsUriDeclared p | xmlnsElement p
  | duplicateNamespace _ p | unknownNamespace _ p | unexpectedClose _ _ p | unknownEntity _ p
  | malformedReference p | duplicateAttribute _ p | unexpectedDeclaration p | invalidName p
  | forbiddenChar _ p | unexpectedChar _ _ p | notOf _ _ p | missing _ p | invalidComment p
  | closedSection p | unknownToken p => p
  | noRoot | unclosedRoot | dtd | tooManyNodes | unexpectedEnd => .start

end Error

end MetaSchema.Xml
