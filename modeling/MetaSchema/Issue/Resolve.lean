import MetaSchema.Issue.Load

/-!
# Why imports cannot be resolved

* `ResolveError`: a problem found on the way through the schemas that a document needs.
* `ResolveError.diagnostic`: the diagnostic of each error; none has a position.
-/

namespace MetaSchema

inductive ResolveError where
  /-- `requiredBy` is the importing schema, or `none` for the document. -/
  | versionConflict (existing requested : SchemaIdentifier) (requiredBy : Option SchemaIdentifier)
  | circularImport (path : List SchemaIdentifier)
  | schemaNotFound (schema : SchemaIdentifier)
  | directoryFailed (schema : SchemaIdentifier) (message : String)
  | internal (defect : Defect)
deriving DecidableEq

/-- The one that requires a schema, as messages show it. -/
def requirerText : Option SchemaIdentifier → String
  | some id => toString id
  | none => "the document"

namespace ResolveError

def message : ResolveError → String
  | versionConflict existing requested requiredBy =>
    s!"{requirerText requiredBy} requires {requested}, " ++
      s!"but {existing} is already part of the resolution"
  | circularImport path => s!"circular import {pathText path}"
  | schemaNotFound schema => s!"schema {schema} was not found"
  | directoryFailed schema message =>
    s!"the schema directory failed to provide {schema}: {message}"
  | internal defect => defect.message

def diagnostic (e : ResolveError) : Diagnostic :=
  match e with
  | versionConflict existing requested _ =>
    ⟨.resolveVersionConflict, .error, e.message, .zero,
      [("existing", toString existing), ("requested", toString requested)]⟩
  | circularImport path =>
    ⟨.resolveCircularImport, .error, e.message, .zero, [("path", pathText path)]⟩
  | schemaNotFound schema =>
    ⟨.resolveSchemaNotFound, .error, e.message, .zero, [("schema", toString schema)]⟩
  | directoryFailed schema _ =>
    ⟨.resolveDirectoryFailed, .error, e.message, .zero, [("schema", toString schema)]⟩
  | internal defect => defect.diagnostic

end ResolveError

end MetaSchema
