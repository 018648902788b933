import MetaSchema.Session.Basic

/-!
# Typing a schema

From a bound tree to a compiled schema. The imports are loaded first, and every reference into one
of them must name a type that it declares.

* `loadImports`: loads imports in source order. A failed import is reported at its import, unless
  it failed by its own imports alone: then the cause has been reported where it is.
* `Tree.typedReference?`: a reference into an import that failed has no type and is no defect.
* `Tree.typedDeclarations?`: all types and then all attributes, or the first defect.
* `Tree.typeWith`: the compiled schema, or why there is none.
-/

namespace MetaSchema

/-! ## Imports -/

/-- The imports of a schema after they were loaded. -/
structure LoadedImports where
  session : Session
  /-- The imports that loaded, by name. -/
  schemas : List (SchemaName × Schema)
  /-- Whether an import failed to load. -/
  failed : Bool
  issues : List Issue

/-- Whether a failure to load was reported in full when it happened. -/
def alreadyReported (s : Session) : LoadError → Bool
  | .compilationFailed id => id ∈ s.failedByImport
  | _ => false

/-- Loads the imports of the schema `owner` one after the other. -/
def loadImports (load : Loading) (owner : SchemaIdentifier) :
    List (ImportNode .bound) → Session → LoadedImports
  | [], s => ⟨s, [], false, []⟩
  | n :: ns, s =>
    let first := load owner n.data s
    let rest := loadImports load owner ns first.state
    match first.value with
    | .ok schema =>
      { rest with
        schemas := (n.data.name, schema) :: rest.schemas
        issues := first.issues ++ rest.issues }
    | .error e =>
      let own := if alreadyReported first.state e then [] else [.load e n.position]
      { rest with failed := true, issues := first.issues ++ own ++ rest.issues }

/-! ## Declarations -/

/-- Why a bound tree gives no schema. -/
inductive TypingFailure where
  /-- Only imports failed. -/
  | imports
  /-- The schema itself is in error. -/
  | schema
deriving DecidableEq, Repr

namespace Tree

variable (t : Tree .bound)

/-- What a reference refers to, `none` if that is in an import that did not load. -/
def typedReference? (imports : List (SchemaName × Schema)) (n : ReferenceNode .bound) :
    Except Defect (Option TypeReference) :=
  let unresolved := Defect.unresolvedReference t.data (toString n.written)
  match n.data with
  | .primitive p => .ok (some (.primitive p))
  | .own name =>
    if (t.typeNamed? name.name).isSome then .ok (some (.named name)) else .error unresolved
  | .imported schema name =>
    match imports.lookup schema.name with
    | none => .ok none
    | some imported =>
      if (imported.typeNamed? name).isSome then .ok (some (.named ⟨schema.name, name⟩))
      else .error unresolved

def typedType? (imports : List (SchemaName × Schema)) (n : TypeNode .bound) :
    Except Defect (Option TypeDeclaration) := do
  let base ← t.typedReference? imports n.base
  return base.map (⟨n.name, ·⟩)

/-- The cardinality is looked at before the reference. -/
def typedAttribute? (imports : List (SchemaName × Schema)) (n : AttributeNode .bound) :
    Except Defect (Option AttributeDeclaration) := do
  match Cardinality.ofToken? n.cardinality with
  | none => throw (.unknownCardinality n.data n.cardinality)
  | some cardinality =>
    let type ← t.typedReference? imports n.reference
    return type.map (⟨n.name, ·, cardinality⟩)

/-- The types and attributes, or `none` where one depends on an import that did not load. -/
def typedDeclarations? (imports : List (SchemaName × Schema)) :
    Except Defect (Option (List TypeDeclaration × List AttributeDeclaration)) := do
  let types ← t.types.mapM (t.typedType? imports)
  let attributes ← t.attributes.mapM (t.typedAttribute? imports)
  if types.all Option.isSome ∧ attributes.all Option.isSome then
    return some (types.reduceOption, attributes.reduceOption)
  else return none

/-- Loads the imports of a tree and makes its compiled schema. -/
def typeWith (load : Loading) (s : Session) : Outcome Session (Except TypingFailure Schema) :=
  let loaded := loadImports load t.data t.imports s
  match t.typedDeclarations? loaded.schemas with
  | .error d => ⟨loaded.session, .error .schema, loaded.issues ++ [.defect d]⟩
  | .ok none => ⟨loaded.session, .error .imports, loaded.issues⟩
  | .ok (some (types, attributes)) =>
    if loaded.failed then ⟨loaded.session, .error .imports, loaded.issues⟩
    else
      let imports := t.imports.map (·.data)
      ⟨loaded.session, .ok ⟨t.data, imports, types, attributes⟩, loaded.issues⟩

end Tree

end MetaSchema
