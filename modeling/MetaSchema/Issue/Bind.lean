import MetaSchema.Diagnostic.Basic
import MetaSchema.Name.Identifier

/-!
# What can be wrong with the names of a schema

* `BindError`: a name that stands for nothing, a schema that imports itself, or a cycle of bases.
* `BindError.diagnostic`: the diagnostic of each error.
-/

namespace MetaSchema

inductive BindError where
  | typeUnbound (schema : SchemaName) (name : TypeName) (position : Position)
  | importUnbound (schema qualifier : SchemaName) (position : Position)
  | importSelf (schema : SchemaName) (position : Position)
  /-- The cycle starts and ends with the type that is named. -/
  | typeCyclic (name : QualifiedTypeName) (cycle : List TypeName) (position : Position)
deriving DecidableEq

namespace BindError

def message : BindError → String
  | typeUnbound schema name _ => s!"type {name} is not declared in schema {schema}"
  | importUnbound schema qualifier _ =>
    s!"schema {schema} does not import a schema named {qualifier}"
  | importSelf schema _ => s!"schema {schema} imports itself"
  | typeCyclic name cycle _ =>
    s!"type {name} is defined in terms of itself " ++
      "(" ++ " -> ".intercalate (cycle.map toString) ++ ")"

def position : BindError → Position
  | typeUnbound _ _ p => p
  | importUnbound _ _ p => p
  | importSelf _ p => p
  | typeCyclic _ _ p => p

def code : BindError → DiagnosticCode
  | typeUnbound _ _ _ => .bindTypeUnbound
  | importUnbound _ _ _ => .bindImportUnbound
  | importSelf _ _ => .bindImportSelf
  | typeCyclic _ _ _ => .bindTypeCyclic

def diagnostic (e : BindError) : Diagnostic := ⟨e.code, .error, e.message, e.position, []⟩

end BindError

end MetaSchema
