import MetaSchema.Name.Identifier

/-!
# Import tables

The schemas that a document uses, by the local name that it gives each of them.

* `ImportTable`: the entries in the order of their local names.
* `ImportTable.insert`: adds an entry, in the place of one of the same local name.
* `ImportTable.get?`: the schema of a local name.
-/

namespace MetaSchema

/-- Entries of a local name and a schema, in the order of the local names. -/
structure ImportTable where
  entries : List (SchemaName × SchemaIdentifier)
deriving DecidableEq

namespace ImportTable

def empty : ImportTable := ⟨[]⟩

/-- Puts an entry where it belongs among ordered entries. -/
def insertInto (name : SchemaName) (id : SchemaIdentifier) :
    List (SchemaName × SchemaIdentifier) → List (SchemaName × SchemaIdentifier)
  | [] => [(name, id)]
  | e :: es =>
    match compare name e.1 with
    | .lt => (name, id) :: e :: es
    | .eq => (name, id) :: es
    | .gt => e :: insertInto name id es

def insert (t : ImportTable) (name : SchemaName) (id : SchemaIdentifier) : ImportTable :=
  ⟨insertInto name id t.entries⟩

def get? (t : ImportTable) (name : SchemaName) : Option SchemaIdentifier :=
  t.entries.lookup name

/-- The table of these entries; a later entry takes the place of an earlier one. -/
def ofList (es : List (SchemaName × SchemaIdentifier)) : ImportTable :=
  es.foldl (fun t e => t.insert e.1 e.2) empty

end ImportTable

end MetaSchema
