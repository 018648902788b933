import MetaSchema.Schema.Basic
import Mathlib.Logic.Relation

/-!
# Well-formed schemas

What a compiled schema guarantees about itself, whatever other schemas there are.

* `Schema.Declares`: the schema has a type of a name.
* `Schema.OwnBase`: a type and its base, both of the schema.
* `Schema.references`: every type reference of the schema.
* `Schema.WellFormed`: no import of a schema of the same name, nothing declared twice, no cycle of
  bases.
-/

namespace MetaSchema.Schema

open Relation (TransGen)

/-- The schema declares a type of this name. -/
def Declares (s : Schema) (n : TypeName) : Prop := ∃ d ∈ s.types, d.name = n

/-- The type `m` has the base `n` of the same schema. -/
def OwnBase (s : Schema) (m n : TypeName) : Prop :=
  ∃ d ∈ s.types, d.name = m ∧ d.base = .named ⟨s.identifier.name, n⟩

/-- The bases of the types and the types of the attributes. -/
def references (s : Schema) : List TypeReference :=
  s.types.map TypeDeclaration.base ++ s.attributes.map AttributeDeclaration.type

/-- What holds of every compiled schema on its own. -/
structure WellFormed (s : Schema) : Prop where
  imports_ne : ∀ i ∈ s.imports, i.name ≠ s.identifier.name
  imports_nodup : (s.imports.map SchemaIdentifier.name).Nodup
  types_nodup : (s.types.map TypeDeclaration.name).Nodup
  attributes_nodup : (s.attributes.map AttributeDeclaration.name).Nodup
  bases_acyclic : ∀ n, ¬ TransGen s.OwnBase n n

theorem typeNamed?_isSome {s : Schema} {n : TypeName} :
    (s.typeNamed? n).isSome = true ↔ s.Declares n := by
  simp [typeNamed?, Declares]

end MetaSchema.Schema
