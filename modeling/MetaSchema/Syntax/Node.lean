import MetaSchema.Diagnostic.Basic
import MetaSchema.Schema.Basic

/-!
# Nodes of a schema tree

What may stand in the tree of a schema document. Every node has a position, and data that depends
on the phase: a parsed tree carries none, a bound tree the identifier that each name stands for.

* `Phase`, and the data of each kind of node in it.
* `WrittenReference`, `BoundReference`: a type reference as written, and what it stands for.
* `ReferenceNode`, `ImportNode`, `CommentNode`, `TypeNode`, `AttributeNode`: the nodes.
* `Declaration`: the nodes that may stand directly in a schema.
-/

namespace MetaSchema

inductive Phase where
  | parsed
  | bound
deriving DecidableEq, Repr

/-- A type reference as it is written. -/
inductive WrittenReference where
  | primitive (p : Primitive)
  | named (qualifier : Option SchemaName) (name : TypeName)
deriving DecidableEq

instance : ToString WrittenReference where
  toString
    | .primitive p => toString p
    | .named (some qualifier) name => s!"{qualifier}.{name}"
    | .named none name => toString name

/-- What a type reference stands for. -/
inductive BoundReference where
  | primitive (p : Primitive)
  /-- A type of the same schema. -/
  | own (name : QualifiedTypeName)
  /-- A type of an imported schema. -/
  | imported (schema : SchemaIdentifier) (name : TypeName)
deriving DecidableEq

namespace Phase

/-- The data of a schema and of an import. -/
abbrev SchemaData : Phase → Type
  | parsed => Unit
  | bound => SchemaIdentifier

/-- The data of a declared type or attribute. -/
abbrev DeclaredData (k : NameKind) : Phase → Type
  | parsed => Unit
  | bound => QualifiedName k

/-- The data of a type reference. -/
abbrev ReferenceData : Phase → Type
  | parsed => Unit
  | bound => BoundReference

end Phase

structure ReferenceNode (φ : Phase) where
  position : Position
  data : φ.ReferenceData
  written : WrittenReference

structure ImportNode (φ : Phase) where
  position : Position
  data : φ.SchemaData
  target : SchemaName
  version : Version

/-- The schema that an import names. -/
def ImportNode.identifier {φ : Phase} (n : ImportNode φ) : SchemaIdentifier := ⟨n.target, n.version⟩

structure CommentNode where
  position : Position
  text : String
deriving DecidableEq

structure TypeNode (φ : Phase) where
  position : Position
  data : φ.DeclaredData .type
  name : TypeName
  base : ReferenceNode φ
  comment : Option CommentNode

structure AttributeNode (φ : Phase) where
  position : Position
  data : φ.DeclaredData .attribute
  name : AttributeName
  reference : ReferenceNode φ
  /-- The cardinality as it is written. -/
  cardinality : String

inductive Declaration (φ : Phase) where
  | importing (n : ImportNode φ)
  | type (n : TypeNode φ)
  | attribute (n : AttributeNode φ)
  | comment (n : CommentNode)

namespace Declaration

variable {φ : Phase}

def position : Declaration φ → Position
  | .importing n => n.position
  | .type n => n.position
  | .attribute n => n.position
  | .comment n => n.position

def import? : Declaration φ → Option (ImportNode φ)
  | .importing n => some n
  | _ => none

def type? : Declaration φ → Option (TypeNode φ)
  | .type n => some n
  | _ => none

def attribute? : Declaration φ → Option (AttributeNode φ)
  | .attribute n => some n
  | _ => none

def comment? : Declaration φ → Option CommentNode
  | .comment n => some n
  | _ => none

/-- The name of the schema that is imported. -/
def importTarget? (d : Declaration φ) : Option SchemaName := d.import?.map ImportNode.target

/-- The name of the type that is declared. -/
def typeName? (d : Declaration φ) : Option TypeName := d.type?.map TypeNode.name

/-- The name of the attribute that is declared. -/
def attributeName? (d : Declaration φ) : Option AttributeName :=
  d.attribute?.map AttributeNode.name

end Declaration

end MetaSchema
