import MetaSchema.Issue.Defect

/-!
# What can be wrong with the attributes of a document

* `ValidationError`: an attribute that is not declared or whose value is not one of its type, or a
  declared attribute that occurs too often or too rarely.
* `ValidationError.diagnostic`: the diagnostic of each error; none has a position.
-/

namespace MetaSchema

inductive ValidationError where
  | notImported (name : QualifiedAttributeName)
  | schemaMissing (name : QualifiedAttributeName) (schema : SchemaIdentifier)
  | undeclared (name : QualifiedAttributeName) (schema : SchemaIdentifier)
  | cardinality (name : QualifiedAttributeName) (allowed : Cardinality) (count : Nat)
  | invalidValue (name : QualifiedAttributeName) (primitive : Primitive) (value : String)
  | internal (defect : Defect)
deriving DecidableEq

namespace ValidationError

def message : ValidationError → String
  | notImported name => s!"attribute {name}: its schema is not imported"
  | schemaMissing name schema =>
    s!"attribute {name}: schema {schema} is not part of the resolved schemas"
  | undeclared name schema => s!"attribute {name}: schema {schema} declares no such attribute"
  | cardinality name allowed count =>
    s!"attribute {name} occurs {count} times but its cardinality is {allowed}"
  | invalidValue name primitive value =>
    s!"attribute {name}: {Text.quote value} is not a valid {primitive} value"
  | internal defect => defect.message

def diagnostic (e : ValidationError) : Diagnostic :=
  let about (code : DiagnosticCode) (name : QualifiedAttributeName) : Diagnostic :=
    ⟨code, .error, e.message, .zero, [("attribute", toString name)]⟩
  match e with
  | notImported name => about .validateSchemaNotImported name
  | schemaMissing name _ => about .validateSchemaNotFound name
  | undeclared name _ => about .validateAttributeNotFound name
  | cardinality name _ _ => about .validateCardinality name
  | invalidValue name _ _ => about .validateValueInvalid name
  | internal defect => defect.diagnostic

end ValidationError

end MetaSchema
