import MetaSchema.Name.Identifier
import MetaSchema.Schema.Cardinality
import MetaSchema.Schema.Primitive

/-!
# Compiled schemas

What a schema declares once all its names are known.

* `TypeReference`: a primitive type, or a type by its qualified name.
* `TypeDeclaration`, `AttributeDeclaration`, `Schema`: the declarations, in source order.
* `Schema.text`: a schema as lines of text, one for each declaration.
-/

namespace MetaSchema

inductive TypeReference where
  | primitive (p : Primitive)
  | named (name : QualifiedTypeName)
deriving DecidableEq

instance : ToString TypeReference where
  toString
    | .primitive p => toString p
    | .named name => toString name

structure TypeDeclaration where
  name : TypeName
  base : TypeReference
deriving DecidableEq

structure AttributeDeclaration where
  name : AttributeName
  type : TypeReference
  cardinality : Cardinality
deriving DecidableEq

structure Schema where
  identifier : SchemaIdentifier
  imports : List SchemaIdentifier
  types : List TypeDeclaration
  attributes : List AttributeDeclaration
deriving DecidableEq

namespace Schema

/-- The first type declared under this name. -/
def typeNamed? (s : Schema) (name : TypeName) : Option TypeDeclaration :=
  s.types.find? (·.name = name)

/-- The first attribute declared under this name. -/
def attributeNamed? (s : Schema) (name : AttributeName) : Option AttributeDeclaration :=
  s.attributes.find? (·.name = name)

/-- The lines of a schema's text, in source order. -/
def lines (s : Schema) : List String :=
  s!"schema {s.identifier}"
    :: s.imports.map (fun i => s!"  import {i}")
    ++ s.types.map (fun t => s!"  type {t.name} : {t.base}")
    ++ s.attributes.map (fun a => s!"  attribute {a.name} : {a.type} [{a.cardinality}]")

/-- The text of a schema; every line is ended. -/
def text (s : Schema) : String := String.join (s.lines.map (· ++ "\n"))

end Schema

end MetaSchema
