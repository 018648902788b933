import MetaSchema.Graph.Basic
import MetaSchema.Issue.Defect

/-!
# Resolved sets

Schemas that belong together: no two of one name, and no type declared twice.

* `ResolvedSet`: the schemas, the bases of their types by qualified name, and the import graph.
* `ResolvedSet.ofSchemas?`: the set of a list of schemas, or what is in it twice.
* `ResolvedSet.schema?`, `ResolvedSet.schemaNamed?`, `ResolvedSet.base?`: look-up.
* `ResolvedSet.primitiveOf?`: the primitive type at the end of a chain of bases.
-/

namespace MetaSchema

structure ResolvedSet where
  graph : ImportGraph
  schemas : List Schema
  bases : List (QualifiedTypeName × TypeReference)
deriving DecidableEq

namespace ResolvedSet

def empty (graph : ImportGraph) : ResolvedSet := ⟨graph, [], []⟩

variable (r : ResolvedSet)

/-- The schema of a name, at whatever version. -/
def schemaNamed? (name : SchemaName) : Option Schema :=
  r.schemas.find? (·.identifier.name = name)

/-- The schema of an identifier. -/
def schema? (id : SchemaIdentifier) : Option Schema :=
  (r.schemaNamed? id.name).filter (·.identifier = id)

/-- The base of a type. -/
def base? (name : QualifiedTypeName) : Option TypeReference := r.bases.lookup name

/-- Adds the type of a schema of this name. -/
def addType? (schema : SchemaName) (r : ResolvedSet) (d : TypeDeclaration) :
    Except Defect ResolvedSet :=
  let name : QualifiedTypeName := ⟨schema, d.name⟩
  if (r.base? name).isSome then .error (.duplicateName .type (toString name))
  else .ok { r with bases := r.bases ++ [(name, d.base)] }

/-- Adds a schema, its types first. -/
def addSchema? (schema : Schema) : Except Defect ResolvedSet := do
  let name := schema.identifier.name
  let r ← schema.types.foldlM (addType? name) r
  if (r.schemaNamed? name).isSome then throw (.duplicateName .schema (toString name))
  else return { r with schemas := r.schemas ++ [schema] }

/-- The set of these schemas. -/
def ofSchemas? (graph : ImportGraph) (schemas : List Schema) : Except Defect ResolvedSet :=
  schemas.foldlM addSchema? (empty graph)

/-- Follows bases for `rounds` rounds. -/
def followBases : Nat → TypeReference → Option Primitive
  | 0, _ => none
  | _ + 1, .primitive p => some p
  | rounds + 1, .named name => (r.base? name).bind (followBases rounds)

/-- The primitive type that bases lead to. Bases that are no cycle lead through each type at most
once. -/
def primitiveOf? (ref : TypeReference) : Option Primitive :=
  r.followBases (r.bases.length + 1) ref

/-- The schemas in the order of their names. -/
def sortedSchemas : List Schema :=
  r.schemas.mergeSort fun a b => (compare a.identifier.name b.identifier.name).isLE

end ResolvedSet

end MetaSchema
