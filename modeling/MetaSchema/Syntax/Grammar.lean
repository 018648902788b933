import MetaSchema.Issue.Basic
import MetaSchema.Text.Blank
import MetaSchema.Xml.Tree

/-!
# Version 1 of the schema language

From the root element of a document to a schema tree. Everything that is wrong is reported, in
document order within each step; a tree results only if nothing was.

* `languageUri`: the namespace of the language's elements.
* `Grammar.pairIssue?`, `Grammar.strayText?`: attributes and text that an element may not have.
* `Grammar.reference`, `Grammar.commentNode`, `Grammar.importNode`, `Grammar.typeNode`,
  `Grammar.attributeNode`: the elements of the language.
* `Grammar.schema`: the root element.
-/

namespace MetaSchema

/-- The namespace of version 1. -/
def languageUri : String := "urn:docmeta:schema:1"

namespace Grammar

open Xml (Element Node Pair ExpandedName Place)

/-! ## Elements and their attributes -/

/-- A name as messages show it: with its namespace unless that is the language's or none. -/
def shown (n : ExpandedName) : String :=
  match n.uri with
  | none => n.base
  | some uri => if uri = languageUri then n.base else "\x7b" ++ uri ++ "\x7d" ++ n.base

/-- The local name of an element of the language. -/
def tag? (e : Element) : Option String :=
  if e.name.uri = some languageUri then some e.name.base else none

/-- A place in the document `uri`. -/
def position (uri : String) (p : Place) : Position := ⟨uri, p.line, p.column⟩

/-- The issue of a violation at a place. -/
def violation (uri : String) (p : Place) (v : Violation) : Issue :=
  .parse (.invalid v (position uri p))

/-- The issue of one attribute on an element, if there is one. Attributes without a namespace must
be allowed on the element; those of other namespaces are ignored with a warning. -/
def pairIssue? (uri : String) (e : Element) (allowed : List String) (p : Pair) : Option Issue :=
  match p.name.uri with
  | none =>
    if p.name.base ∈ allowed then none
    else some (violation uri e.place (.attributeNotAllowed p.name.base (shown e.name)))
  | some other =>
    if other = languageUri then
      some (violation uri e.place (.attributeNotAllowed p.name.base (shown e.name)))
    else some (.foreignAttribute ⟨other, p.name.base, shown e.name, position uri e.place⟩)

/-- Reports the attributes that an element may not have. -/
def checkPairs (uri : String) (e : Element) (allowed : List String) : Reported Unit :=
  ⟨(), e.pairs.filterMap (pairIssue? uri e allowed)⟩

/-- The value of an attribute without a namespace. -/
def value? (e : Element) (name : String) : Option String :=
  (e.pairs.find? (·.name = ⟨none, name⟩)).map Pair.value

/-- The value of an attribute that must be there. -/
def required (uri : String) (e : Element) (name : String) : Reported (Option String) :=
  match value? e name with
  | some value => pure (some value)
  | none => .fail (violation uri e.place (.attributeMissing (shown e.name) name))

/-- Reads the value of an attribute as a name of kind `k`. -/
def nameOf (uri : String) (e : Element) (k : NameKind) (key value : String) :
    Reported (Option (Name k)) :=
  match Name.ofString? k value with
  | .ok name => pure (some name)
  | .error error => .fail (violation uri e.place (.invalidName key error))

/-- The name in an attribute that must be there. -/
def requiredName (uri : String) (e : Element) (k : NameKind) (key : String) :
    Reported (Option (Name k)) := do
  match ← required uri e key with
  | some value => nameOf uri e k key value
  | none => return none

/-- A number in an attribute that must be there; blanks around its digits are allowed. -/
def requiredNumber (uri : String) (e : Element) (key : String) :
    Reported (Option Nat) := do
  match ← required uri e key with
  | some value =>
    match Text.natural? (Text.trimBlank value.toList) with
    | some n => return some n
    | none => .fail (violation uri e.place (.notNatural key value))
  | none => return none

/-- The version in the two attributes of an element. -/
def version (uri : String) (e : Element) : Reported (Option Version) := do
  let major ← requiredNumber uri e "versionMajor"
  let minor ← requiredNumber uri e "versionMinor"
  return major.bind fun major => minor.map fun minor => ⟨major, minor⟩

/-! ## Children -/

def element? : Node → Option Element
  | .element name pairs children place => some ⟨name, pairs, children, place⟩
  | .text _ _ => none

/-- The issue of a node that is text, if it is more than blanks. -/
def strayText? (uri : String) (parent : Element) : Node → Option Issue
  | .element _ _ _ _ => none
  | .text content place =>
    if Text.allBlank content.toList then none
    else some (violation uri place (.textNotAllowed (shown parent.name)))

/-- The child elements; text between them is reported. -/
def elements (uri : String) (e : Element) : Reported (List Element) :=
  ⟨e.children.filterMap element?, e.children.filterMap (strayText? uri e)⟩

/-- The issue of an element that may not stand in its parent. -/
def misplaced (uri : String) (parent child : Element) : Issue :=
  violation uri child.place (.elementNotAllowed (shown child.name) (shown parent.name))

/-- Reports that none of these elements may stand in their parent. -/
def refuse (uri : String) (parent : Element) (children : List Element) : Reported Unit :=
  ⟨(), children.map (misplaced uri parent)⟩

/-- Reports all content of an element that must be empty. -/
def checkEmpty (uri : String) (e : Element) : Reported Unit := do
  refuse uri e (← elements uri e)

/-! ## The elements of the language -/

def commentNode (uri : String) (e : Element) : Reported CommentNode := do
  checkPairs uri e []
  refuse uri e (e.children.filterMap element?)
  let texts := e.children.filterMap fun
    | .element _ _ _ _ => none
    | .text content _ => some content
  return ⟨position uri e.place, String.join texts⟩

def primitiveReference (uri : String) (e : Element) : Reported (Option WrittenReference) := do
  checkPairs uri e ["type"]
  checkEmpty uri e
  match ← required uri e "type" with
  | none => return none
  | some keyword =>
    match Primitive.ofKeyword? keyword with
    | some p => return some (.primitive p)
    | none => .fail (violation uri e.place (.notPrimitive keyword))

/-- A qualifier may be missing, but one that is there must be a name. -/
def qualifier (uri : String) (e : Element) : Reported (Option (Option SchemaName)) :=
  match value? e "schema" with
  | none => pure (some none)
  | some value => do return (← nameOf uri e .schema "schema" value).map some

def namedReference (uri : String) (e : Element) : Reported (Option WrittenReference) := do
  checkPairs uri e ["schema", "name"]
  checkEmpty uri e
  let schema ← qualifier uri e
  let name ← requiredName uri e .type "name"
  return schema.bind fun schema => name.map fun name => .named schema name

def writtenReference (uri : String) (parent e : Element) : Reported (Option WrittenReference) :=
  match tag? e with
  | some "TypeReferencePrimitive" => primitiveReference uri e
  | some "TypeReferenceNamed" => namedReference uri e
  | _ => .fail (violation uri e.place (.notReference (shown parent.name) (shown e.name)))

/-- A type reference within its parent. -/
def reference (uri : String) (parent e : Element) :
    Reported (Option (ReferenceNode .parsed)) := do
  return (← writtenReference uri parent e).map (⟨position uri e.place, (), ·⟩)

/-- The type reference that an element must start with. -/
def leadingReference (uri : String) (e : Element) (tagName : String) :
    List Element → Reported (Option (ReferenceNode .parsed))
  | [] => .fail (violation uri e.place (.referenceMissing tagName))
  | child :: _ => reference uri e child

def importNode (uri : String) (e : Element) : Reported (Option (ImportNode .parsed)) := do
  checkPairs uri e ["name", "versionMajor", "versionMinor"]
  checkEmpty uri e
  let target ← requiredName uri e .schema "name"
  let version ← version uri e
  return target.bind fun target => version.map (⟨position uri e.place, (), target, ·⟩)

/-- The comment that may follow the reference of a type; nothing may follow it. -/
def trailingComment (uri : String) (e : Element) :
    List Element → Reported (Option CommentNode)
  | [] => pure none
  | child :: others => do
    let found ← if tag? child = some "Comment" then some <$> commentNode uri child
      else .fail (misplaced uri e child)
    refuse uri e others
    return found

def typeNode (uri : String) (e : Element) : Reported (Option (TypeNode .parsed)) := do
  checkPairs uri e ["name"]
  let name ← requiredName uri e .type "name"
  let children ← elements uri e
  let base ← leadingReference uri e "Type" children
  let comment ← trailingComment uri e (children.drop 1)
  return name.bind fun name => base.map (⟨position uri e.place, (), name, ·, comment⟩)

/-- The token of a cardinality in an attribute that must be there. -/
def cardinality (uri : String) (e : Element) : Reported (Option String) := do
  match ← required uri e "cardinality" with
  | none => return none
  | some token =>
    if (Cardinality.ofToken? token).isSome then return some token
    else .fail (violation uri e.place (.unknownCardinality token))

def attributeNode (uri : String) (e : Element) : Reported (Option (AttributeNode .parsed)) := do
  checkPairs uri e ["name", "cardinality"]
  let name ← requiredName uri e .attribute "name"
  let cardinality ← cardinality uri e
  let children ← elements uri e
  let reference ← leadingReference uri e "Attribute" children
  refuse uri e (children.drop 1)
  return name.bind fun name => reference.bind fun reference =>
    cardinality.map (⟨position uri e.place, (), name, reference, ·⟩)

/-- A child of the root element. -/
def child (uri : String) (root e : Element) : Reported (Option (Child .parsed)) :=
  match tag? e with
  | some "Import" => do return (← importNode uri e).map (.declaration ∘ .importing)
  | some "Type" => do return (← typeNode uri e).map (.declaration ∘ .type)
  | some "Attribute" => do return (← attributeNode uri e).map (.declaration ∘ .attribute)
  | some "Comment" => do return some (.declaration (.comment (← commentNode uri e)))
  | _ => .fail (misplaced uri root e)

/-- Reads elements one after the other; those that give nothing are left out. -/
def childrenOf (uri : String) (root : Element) : List Element → Reported (List (Child .parsed))
  | [] => pure []
  | e :: es => do
    let first ← child uri root e
    let rest ← childrenOf uri root es
    return first.toList ++ rest

/-- What a root element says of a schema. -/
structure Content where
  name : Option SchemaName
  version : Option Version
  children : List (Child .parsed)

def content (uri : String) (root : Element) : Reported Content := do
  checkPairs uri root ["name", "versionMajor", "versionMinor"]
  let name ← requiredName uri root .schema "name"
  let version ← version uri root
  let children ← childrenOf uri root (← elements uri root)
  return ⟨name, version, children⟩

/-- The tree that a root element's content makes, if nothing is wrong with it. -/
def treeOf (uri : String) (root : Element) (c : Content) : Reported (Option (Tree .parsed)) :=
  match c.name, c.version with
  | some name, some version =>
    match Tree.ofChildren? (position uri root.place) () name version c.children with
    | .ok tree => pure (some tree)
    | .error e => .fail (.parse (.ofStructural e))
  | _, _ => pure none

/-- The tree of a document with this root element. -/
def schema (uri : String) (root : Element) : Reported (Option (Tree .parsed)) :=
  if tag? root = some "Schema" then
    let c := content uri root
    if c.hasErrors then ⟨none, c.issues⟩ else do treeOf uri root (← c)
  else .fail (violation uri root.place (.wrongRoot (shown root.name)))

end Grammar

end MetaSchema
