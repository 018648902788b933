import MetaSchema.Syntax.Tree
import MetaSchema.Text.Quoted

/-!
# Defects

States that the program holds to be impossible, or that only a faulty source of schemas can bring
about. They are reported as critical.
-/

namespace MetaSchema

/-- A thing that may occur once in a resolved set. -/
inductive UniqueKind where
  | schema
  | type
deriving DecidableEq, Repr

def UniqueKind.word : UniqueKind → String
  | schema => "schema"
  | type => "type"

inductive Defect where
  | countMismatch (schema : SchemaIdentifier) (before after : DeclarationCounts)
  | unresolvedReference (schema : SchemaIdentifier) (reference : String)
  | identifierMismatch (expected found : SchemaIdentifier)
  | duplicateName (kind : UniqueKind) (name : String)
  | unknownCardinality (name : QualifiedAttributeName) (token : String)
  | malformedTree (error : StructuralError)
deriving DecidableEq

namespace Defect

def message : Defect → String
  | countMismatch schema before after =>
    s!"binding changed the declarations of {schema} from ({before}) to ({after})"
  | unresolvedReference schema reference =>
    s!"type reference {reference} in {schema} does not resolve"
  | identifierMismatch expected found => s!"compiling {expected} produced {found}"
  | duplicateName kind name =>
    s!"{kind.word} {name} occurs more than once in the resolved schemas"
  | unknownCardinality name token =>
    s!"attribute {name} has the unknown cardinality {Text.quote token}"
  | malformedTree error => s!"malformed bound tree: {error.message}"

def diagnostic (d : Defect) : Diagnostic := ⟨.internal, .critical, d.message, .zero, []⟩

end Defect

end MetaSchema
