import MetaSchema.Syntax.Grammar
import MetaSchema.Text.Encoding

/-!
# Parsing a schema document

From the octets of a document to a tree: decoding, reading the XML, and the language that the
namespace of the root element names.

* `Language`, `Language.version1`: a version of the schema language.
* `Parser`: the languages that are understood and the limit on a document's size.
* `Parser.parse`: the tree of a document, or the issues that it has.
-/

namespace MetaSchema

/-- A version of the schema language. -/
structure Language where
  /-- The namespace of its elements. -/
  uri : String
  /-- Reads the root element of the document of a uri. -/
  read : String → Xml.Element → Reported (Option (Tree .parsed))

def Language.version1 : Language := ⟨languageUri, Grammar.schema⟩

/-- How documents are parsed. -/
structure Parser where
  /-- The most nodes that a document may have. Zero makes the parser unusable. -/
  nodesLimit : Nat := 100000
  languages : List Language := [.version1]

namespace Parser

/-- What makes a parser unusable, if anything does. -/
def unusable? (p : Parser) : Option UnusableConfig :=
  if p.nodesLimit = 0 then some .noNodes
  else if p.languages.isEmpty then some .noLanguage
  else none

/-- The language of a namespace. -/
def language? (p : Parser) (uri : String) : Option Language := p.languages.find? (·.uri == uri)

/-- The error of a document of a uri whose XML cannot be read. -/
def xmlError (p : Parser) (uri : String) (e : Xml.Error) : ParseError :=
  let position := Grammar.position uri e.place
  match e with
  | .dtd => .invalid .dtd position
  | .tooManyNodes => .invalid (.tooManyNodes p.nodesLimit) position
  | e => .malformed e position

/-- The root element of a document of a uri. -/
def root? (p : Parser) (uri : String) (document : Text.Octets) : Except ParseError Xml.Element :=
  match p.unusable? with
  | some config => .error (.unusable config ⟨uri, 0, 0⟩)
  | none =>
    match Text.decodeDocument document with
    | .error encoding => .error (.undecodable encoding ⟨uri, 0, 0⟩)
    | .ok text =>
      match Xml.root? p.nodesLimit text with
      | .error e => .error (p.xmlError uri e)
      | .ok root => .ok root

/-- The tree of a document. The uri is only used in positions. -/
def parse (p : Parser) (uri : String) (document : Text.Octets) :
    Reported (Option (Tree .parsed)) :=
  match p.root? uri document with
  | .error e => .fail (.parse e)
  | .ok root =>
    match p.language? (root.name.uri.getD "") with
    | some language => language.read uri root
    | none =>
      .fail (Grammar.violation uri root.place (.unsupportedNamespace (root.name.uri.getD "")))

end Parser

end MetaSchema
