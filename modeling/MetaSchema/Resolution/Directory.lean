import MetaSchema.Session.Loading

/-!
# Schema directories

Where compiled schemas are found during a resolution.

* `Directory`: how to find a schema, over a state that finding may change.
* `Catalog`, `Catalog.directory`: schemas held in memory.
* `Session.directory`: a session, which loads what it has not compiled yet.
-/

namespace MetaSchema

structure Directory (σ : Type) where
  find : SchemaIdentifier → σ → Outcome σ (Except ResolveError Schema)
  /-- The number of schemas that are held. -/
  size : σ → Nat

/-- Compiled schemas by identifier, each identifier once. -/
structure Catalog where
  schemas : List Schema

namespace Catalog

def empty : Catalog := ⟨[]⟩

/-- Adds a schema, in the place of one of the same identifier. -/
def insert (c : Catalog) (schema : Schema) : Catalog :=
  ⟨schema :: c.schemas.filter (·.identifier ≠ schema.identifier)⟩

def get? (c : Catalog) (id : SchemaIdentifier) : Option Schema :=
  c.schemas.find? (·.identifier = id)

def ofList (schemas : List Schema) : Catalog := schemas.foldl insert empty

/-- Finds a schema that the catalog holds. -/
def find (id : SchemaIdentifier) (c : Catalog) : Outcome Catalog (Except ResolveError Schema) :=
  match c.get? id with
  | some schema => ⟨c, .ok schema, []⟩
  | none => ⟨c, .error (.schemaNotFound id), []⟩

def directory : Directory Catalog := ⟨find, fun c => c.schemas.length⟩

end Catalog

/-- What a failure to load a schema means for a resolution. -/
def ResolveError.ofLoad (id : SchemaIdentifier) : LoadError → ResolveError
  | .source _ .notFound => .schemaNotFound id
  | .internal d => .internal d
  | e => .directoryFailed id e.message

namespace Session

/-- Finds a schema by loading it. -/
def find (env : Environment) (id : SchemaIdentifier) (s : Session) :
    Outcome Session (Except ResolveError Schema) :=
  let outcome := s.loadRoot env id
  ⟨outcome.state, outcome.value.mapError (ResolveError.ofLoad id), outcome.issues⟩

def directory (env : Environment) : Directory Session := ⟨find env, fun s => s.cache.length⟩

end Session

end MetaSchema
