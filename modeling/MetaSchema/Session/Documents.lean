import MetaSchema.Session.Basic

/-!
# Documents in memory

A source that holds the documents of schemas itself.

* `Documents`: documents by the identifier that they are opened for.
* `Documents.insert`, `Documents.ofList`: adding one, or several in order.
* `Documents.source`: the source; its uris have the scheme `memory`.
-/

namespace MetaSchema

/-- Documents by identifier, each identifier once. -/
structure Documents where
  entries : List (SchemaIdentifier × Text.Octets)

namespace Documents

def empty : Documents := ⟨[]⟩

/-- Adds a document, in the place of one of the same identifier. -/
def insert (d : Documents) (id : SchemaIdentifier) (document : Text.Octets) : Documents :=
  ⟨(id, document) :: d.entries.filter (·.1 ≠ id)⟩

def ofList (entries : List (SchemaIdentifier × Text.Octets)) : Documents :=
  entries.foldl (fun d e => d.insert e.1 e.2) empty

/-- The document of an identifier. -/
def get? (d : Documents) (id : SchemaIdentifier) : Option Text.Octets := d.entries.lookup id

/-- Opens the documents that are held. -/
def source (d : Documents) : Source := fun id =>
  match d.get? id with
  | some document => .ok ⟨"memory:" ++ id.fileName, .ok document⟩
  | none => .error .notFound

end Documents

end MetaSchema
