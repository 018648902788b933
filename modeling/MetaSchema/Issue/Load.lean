import MetaSchema.Issue.Defect

/-!
# Why a schema cannot be loaded

* `SourceError`: why a source does not open a schema.
* `LoadError`: why loading a schema gives none.
* `pathText`: a path of identifiers as messages show it.
-/

namespace MetaSchema

/-- Identifiers with arrows between them. -/
def pathText (path : List SchemaIdentifier) : String :=
  " -> ".intercalate (path.map toString)

inductive SourceError where
  | notFound
  | failed (message : String)
deriving DecidableEq, Repr

def SourceError.message : SourceError → String
  | notFound => "no schema source provides it"
  | failed message => message

inductive LoadError where
  /-- The path leads from `target` back to `requester`. -/
  | cyclicImport (requester target : SchemaIdentifier) (path : List SchemaIdentifier)
  | source (schema : SchemaIdentifier) (error : SourceError)
  | compilationFailed (schema : SchemaIdentifier)
  | depthExceeded (schema : SchemaIdentifier) (limit : Nat)
  | internal (defect : Defect)
deriving DecidableEq

namespace LoadError

def message : LoadError → String
  | cyclicImport requester target path =>
    s!"importing {target} from {requester} closes the import cycle {pathText path}"
  | source schema error => s!"schema {schema} could not be opened: {error.message}"
  | compilationFailed schema => s!"schema {schema} failed to compile"
  | depthExceeded schema limit => s!"importing {schema} exceeds the maximum import depth of {limit}"
  | internal defect => defect.message

/-- The diagnostic of an error, without a position. -/
def diagnostic (e : LoadError) : Diagnostic :=
  match e with
  | cyclicImport requester target path =>
    ⟨.loadCyclicImport, .error, e.message, .zero,
      [("path", pathText path), ("requester", toString requester), ("target", toString target)]⟩
  | source schema _ => ⟨.loadSource, .error, e.message, .zero, [("schema", toString schema)]⟩
  | compilationFailed schema =>
    ⟨.loadCompilationFailed, .error, e.message, .zero, [("schema", toString schema)]⟩
  | depthExceeded schema limit =>
    ⟨.loadDepthExceeded, .error, e.message, .zero,
      [("limit", toString limit), ("schema", toString schema)]⟩
  | internal defect => defect.diagnostic

end LoadError

end MetaSchema
