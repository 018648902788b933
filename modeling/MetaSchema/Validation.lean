import MetaSchema.Resolution.ImportTable
import MetaSchema.Resolution.Walk
import MetaSchema.Value.Basic

/-!
# Validating attributes

The attributes that a document supplies, checked against the schemas that it imports.

* `UntypedAttribute`, `TypedAttribute`: an attribute as supplied, and one that is valid.
* `Validation.declarationOf?`, `Validation.typed?`: the checks on one attribute. The first that
  fails is reported, and the attribute is left out.
* `Validation.violations`: the declared attributes that occur too often or too rarely. A schema that
  is imported twice is checked once, under its first local name.
* `validate`: the attributes that are valid and whose declaration is not violated.
-/

namespace MetaSchema

/-- An attribute as a document supplies it, under the local name of its schema. -/
structure UntypedAttribute where
  name : QualifiedAttributeName
  value : String
deriving DecidableEq

/-- Reads `LOCAL.NAME=VALUE`. -/
def UntypedAttribute.ofString? (s : String) : Except NameError UntypedAttribute :=
  match Text.splitFirst? '=' s.toList with
  | none => .error (.qualified s)
  | some (name, value) =>
    (QualifiedName.ofString? .attribute (String.ofList name)).map (⟨·, String.ofList value⟩)

/-- A valid attribute. -/
structure TypedAttribute where
  schema : SchemaIdentifier
  name : AttributeName
  value : Value
deriving DecidableEq

instance : ToString TypedAttribute where
  toString a := s!"{a.schema}.{a.name} : {a.value.primitive} = {a.value}"

/-- What attributes are checked against: the resolved schemas and the document's local names. -/
structure Validation where
  resolved : ResolvedSet
  imports : ImportTable

/-- An attribute declared by a schema. -/
structure Occurrence where
  schema : SchemaIdentifier
  name : AttributeName
deriving DecidableEq

/-- A declared attribute that is supplied too often or too rarely. -/
structure CardinalityViolation where
  occurrence : Occurrence
  error : ValidationError

namespace Validation

variable (v : Validation)

/-- The schema that declares an attribute, and the declaration. -/
def declarationOf? (a : UntypedAttribute) :
    Except ValidationError (SchemaIdentifier × AttributeDeclaration) :=
  match v.imports.get? a.name.schema with
  | none => .error (.notImported a.name)
  | some id =>
    match v.resolved.schema? id with
    | none => .error (.schemaMissing a.name id)
    | some schema =>
      match schema.attributeNamed? a.name.name with
      | none => .error (.undeclared a.name id)
      | some d => .ok (id, d)

/-- The value of an attribute by its declaration. -/
def value? (id : SchemaIdentifier) (d : AttributeDeclaration) (a : UntypedAttribute) :
    Except ValidationError Value :=
  match v.resolved.primitiveOf? d.type with
  | none => .error (.internal (.unresolvedReference id (toString d.type)))
  | some p =>
    match Value.ofString? p a.value with
    | some value => .ok value
    | none => .error (.invalidValue a.name p a.value)

/-- The typed form of one attribute, or the first thing that is wrong with it. -/
def typed? (a : UntypedAttribute) : Except ValidationError TypedAttribute :=
  match v.declarationOf? a with
  | .error e => .error e
  | .ok (id, d) => (v.value? id d a).map (⟨id, d.name, ·⟩)

/-- The declared attribute that a supplied one is an occurrence of; its value does not matter. -/
def occurrence? (a : UntypedAttribute) : Option Occurrence :=
  match v.declarationOf? a with
  | .error _ => none
  | .ok (id, d) => some ⟨id, d.name⟩

/-- How often a declared attribute was supplied. -/
def occurrences (as : List UntypedAttribute) (o : Occurrence) : Nat :=
  (as.filterMap v.occurrence?).count o

/-! ## Cardinalities -/

/-- The entries of the table whose schema no entry before them has. -/
def firstEntries : List SchemaIdentifier → List (SchemaName × SchemaIdentifier) →
    List (SchemaName × SchemaIdentifier)
  | _, [] => []
  | seen, e :: es =>
    if e.2 ∈ seen then firstEntries seen es else e :: firstEntries (e.2 :: seen) es

/-- The violation of a declaration of the schema `id`, which has the local name `name`. -/
def violation? (as : List UntypedAttribute) (name : SchemaName) (id : SchemaIdentifier)
    (d : AttributeDeclaration) : Option CardinalityViolation :=
  let count := v.occurrences as ⟨id, d.name⟩
  if d.cardinality.accepts count then none
  else some ⟨⟨id, d.name⟩, .cardinality ⟨name, d.name⟩ d.cardinality count⟩

/-- The violations of the declarations of one imported schema. -/
def violationsOf (as : List UntypedAttribute) (e : SchemaName × SchemaIdentifier) :
    List CardinalityViolation :=
  match v.resolved.schema? e.2 with
  | none => []
  | some schema => schema.attributes.filterMap (v.violation? as e.1 e.2)

/-- The violations of all imported schemas, in the order of the table. -/
def violations (as : List UntypedAttribute) : List CardinalityViolation :=
  (firstEntries [] v.imports.entries).flatMap (v.violationsOf as)

end Validation

/-- The valid attributes, in the order supplied. All occurrences of a violated declaration are left
out. -/
def validate (v : Validation) (as : List UntypedAttribute) : Reported (List TypedAttribute) :=
  let results := as.map v.typed?
  let violations := v.violations as
  let violated := violations.map CardinalityViolation.occurrence
  let typed := results.filterMap Except.toOption
  let errors := results.filterMap fun
    | .ok _ => none
    | .error e => some e
  ⟨typed.filter fun a => ⟨a.schema, a.name⟩ ∉ violated,
    (errors ++ violations.map CardinalityViolation.error).map .validate⟩

/-- Resolves the imports of a document and validates its attributes. There is no result if the
imports cannot be resolved. -/
def Directory.validateDocument {σ : Type} (d : Directory σ) (table : ImportTable)
    (as : List UntypedAttribute) (state : σ) : Outcome σ (Option (List TypedAttribute)) :=
  let resolution := d.resolve table state
  match resolution.value with
  | none => ⟨resolution.state, none, resolution.issues⟩
  | some resolved =>
    let validated := validate ⟨resolved, table⟩ as
    ⟨resolution.state, some validated.value, resolution.issues ++ validated.issues⟩

end MetaSchema
