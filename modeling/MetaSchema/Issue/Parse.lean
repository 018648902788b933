import MetaSchema.Diagnostic.Basic
import MetaSchema.Syntax.Tree
import MetaSchema.Text.Encoding
import MetaSchema.Xml.Error

/-!
# What can be wrong with a schema document

* `Violation`: what a document that is proper XML does that the schema language forbids. Elements
  are named as messages show them.
* `ParseError`: why a document gives no tree, with the position that is reported.
* `ParseError.diagnostic`: the diagnostic of each error.
-/

namespace MetaSchema

open Text

inductive Violation where
  | dtd
  | tooManyNodes (limit : Nat)
  | unsupportedNamespace (uri : String)
  | wrongRoot (found : String)
  | attributeNotAllowed (name element : String)
  | attributeMissing (element name : String)
  | invalidName (name : String) (error : NameError)
  | notNatural (name value : String)
  | unknownCardinality (token : String)
  | textNotAllowed (element : String)
  | elementNotAllowed (element parent : String)
  | referenceMissing (element : String)
  | notReference (parent found : String)
  | notPrimitive (keyword : String)
  | structural (error : StructuralError)
deriving DecidableEq

def Violation.message : Violation → String
  | dtd => "document type declarations are not permitted"
  | tooManyNodes limit => s!"the document has more than {limit} nodes"
  | unsupportedNamespace uri => s!"unsupported schema namespace {quote uri}"
  | wrongRoot found => s!"the root element must be Schema, found {found}"
  | attributeNotAllowed name element => s!"attribute {quote name} is not allowed on {element}"
  | attributeMissing element name => s!"{element} requires the attribute {quote name}"
  | invalidName name error => s!"attribute {quote name}: {error.message}"
  | notNatural name value =>
    s!"attribute {quote name}: {quote value} is not a non-negative integer"
  | unknownCardinality token =>
    "attribute \"cardinality\": " ++ Cardinality.unknownToken token
  | textNotAllowed element => s!"text is not allowed in {element}"
  | elementNotAllowed element parent => s!"{element} is not allowed in {parent}"
  | referenceMissing element => s!"{element} requires a type reference"
  | notReference parent found => s!"{parent} expects a type reference, found {found}"
  | notPrimitive keyword => s!"{quote keyword} is not a primitive type"
  | structural error => error.message

/-- A configuration with which no document can be read. -/
inductive UnusableConfig where
  | noNodes
  | noLanguage
deriving DecidableEq, Repr

def UnusableConfig.message : UnusableConfig → String
  | noNodes => "the node limit is zero"
  | noLanguage => "no schema language handlers are registered"

inductive ParseError where
  | malformed (error : Xml.Error) (position : Position)
  | undecodable (encoding : Encoding) (position : Position)
  | unreadable (message : String) (position : Position)
  | unusable (config : UnusableConfig) (position : Position)
  | invalid (violation : Violation) (position : Position)
deriving DecidableEq

namespace ParseError

def message : ParseError → String
  | malformed error _ => s!"malformed XML: {error.message}"
  | undecodable encoding _ => s!"malformed XML: the document is not valid {encoding.name}"
  | unreadable message _ => s!"failed to read the schema source: {message}"
  | unusable config _ => s!"the XML parser cannot be used: {config.message}"
  | invalid violation _ => s!"invalid schema: {violation.message}"

def position : ParseError → Position
  | malformed _ p => p
  | undecodable _ p => p
  | unreadable _ p => p
  | unusable _ p => p
  | invalid _ p => p

def code : ParseError → DiagnosticCode
  | malformed _ _ => .parseMalformedXml
  | undecodable _ _ => .parseMalformedXml
  | unreadable _ _ => .parseIo
  | unusable _ _ => .parseBrokenConfig
  | invalid _ _ => .parseInvalidData

def diagnostic (e : ParseError) : Diagnostic := ⟨e.code, .error, e.message, e.position, []⟩

/-- The error of a child that cannot be added, at that child. -/
def ofStructural (e : StructuralError) : ParseError := .invalid (.structural e) e.position

end ParseError

/-- An attribute of another namespace, which is ignored with a warning. -/
structure ForeignAttribute where
  uri : String
  name : String
  element : String
  position : Position
deriving DecidableEq

def ForeignAttribute.diagnostic (a : ForeignAttribute) : Diagnostic :=
  let message := "ignoring attribute \x7b" ++ a.uri ++ "\x7d" ++ a.name ++ " on " ++ a.element
  ⟨.parseForeignAttribute, .warning, message, a.position, []⟩

end MetaSchema
