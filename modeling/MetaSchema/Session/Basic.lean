import MetaSchema.Graph.Basic
import MetaSchema.Issue.Basic
import MetaSchema.Syntax.Parser

/-!
# Sessions

A session compiles schemas and remembers them. Here are its state and what it works with.

* `Source`: where schema documents come from.
* `Environment`: the source, the parser and the limit on nested imports.
* `Session`: the schemas compiled so far, the import graph that all of them share, and counts.
* `Loading`: how one schema is loaded as an import of another.
-/

namespace MetaSchema

/-- A schema document that a source has opened. -/
structure Opened where
  /-- Where it was opened, for positions. -/
  uri : String
  /-- Its content, or why it cannot be read. -/
  content : Except String Text.Octets

/-- Opens the document of a schema. -/
abbrev Source := SchemaIdentifier → Except SourceError Opened

/-- What a session works with. -/
structure Environment where
  source : Source
  parser : Parser := {}
  /-- How many levels of imports below a schema are followed. -/
  maxImportDepth : Nat := 128

/-- An attempt to open a schema, a number of import levels below the one that was asked for. -/
structure Opening where
  schema : SchemaIdentifier
  level : Nat
deriving DecidableEq

structure Session where
  /-- The compiled schemas by identifier, the last compiled first. -/
  cache : List (SchemaIdentifier × Schema)
  /-- The schemas of which a compilation failed by the imports alone, and none succeeded since. -/
  failedByImport : List SchemaIdentifier
  graph : ImportGraph
  /-- The number of documents compiled so far, with success or not. -/
  compilations : Nat
  /-- The attempts to open a schema, the last first. -/
  openings : List Opening

namespace Session

/-- A session that has compiled nothing. -/
def fresh : Session := ⟨[], [], .empty, 0, []⟩

variable (s : Session)

def cached? (id : SchemaIdentifier) : Option Schema := s.cache.lookup id

/-- Remembers a compiled schema, in the place of one of the same identifier. -/
def store (id : SchemaIdentifier) (schema : Schema) : Session :=
  { s with
    cache := (id, schema) :: s.cache.filter (·.1 ≠ id)
    failedByImport := s.failedByImport.filter (· ≠ id) }

/-- Remembers that a schema failed by its imports alone. -/
def blame (id : SchemaIdentifier) : Session :=
  if id ∈ s.failedByImport then s else { s with failedByImport := id :: s.failedByImport }

/-- Adds a schema to the import graph. -/
def mention (id : SchemaIdentifier) : Session := { s with graph := s.graph.addVertex id }

def countCompilation : Session := { s with compilations := s.compilations + 1 }

def recordOpening (schema : SchemaIdentifier) (level : Nat) : Session :=
  { s with openings := ⟨schema, level⟩ :: s.openings }

end Session

/-- Loads a schema (the second) as an import of another (the first). -/
abbrev Loading :=
  SchemaIdentifier → SchemaIdentifier → Session → Outcome Session (Except LoadError Schema)

end MetaSchema
