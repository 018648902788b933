import MetaSchema.Resolution.Directory
import MetaSchema.Resolution.ImportTable
import MetaSchema.Resolution.ResolvedSet

/-!
# Resolving imports

The walk from the entries of an import table through everything that they import. It checks that
there is one version of each schema and no circle of imports.

* `Walk`: what was seen so far, the state of the directory, and the issues reported.
* `Walk.enter`: the checks on a schema that is required, before it is looked for.
* `Walk.visit`, `Walk.visitRoot`: visits a schema and then what it imports, depth first.
* `Directory.resolve`: the resolved set of a table. Every problem is reported, and a set is given
  only if there was none.
-/

namespace MetaSchema

structure Walk (σ : Type) where
  directory : σ
  graph : ImportGraph
  /-- The schemas that were visited, the last first. A name is visited at one version only. -/
  visited : List SchemaIdentifier
  /-- The schemas that were found, in the order of their identifiers. -/
  found : List (SchemaIdentifier × Schema)
  failed : Bool
  issues : List Issue

namespace Walk

variable {σ : Type}

/-- A walk that has seen nothing. -/
def start (directory : σ) : Walk σ := ⟨directory, .empty, [], [], false, []⟩

def fail (w : Walk σ) (e : ResolveError) : Walk σ :=
  { w with failed := true, issues := w.issues ++ [.resolve e] }

/-- The version at which a schema name was visited. -/
def visitedAs? (w : Walk σ) (name : SchemaName) : Option SchemaIdentifier :=
  w.visited.find? (·.name = name)

/-- Records that a schema is required: by another schema, or by the document. -/
def link (w : Walk σ) (requiredBy : Option SchemaIdentifier) (id : SchemaIdentifier) :
    Except ResolveError (Walk σ) :=
  match requiredBy with
  | none => .ok { w with graph := w.graph.addVertex id }
  | some requester =>
    match w.graph.addEdge? requester id with
    | .ok graph => .ok { w with graph }
    | .error path => .error (.circularImport (requester :: path))

/-- Checks a schema that is required and records it. -/
def enter (w : Walk σ) (requiredBy : Option SchemaIdentifier) (id : SchemaIdentifier) :
    Except ResolveError (Walk σ) :=
  match w.visitedAs? id.name with
  | some existing =>
    if existing = id then w.link requiredBy id
    else .error (.versionConflict existing id requiredBy)
  | none => w.link requiredBy id

/-- Puts a schema where it belongs among ordered ones. -/
def insertFound (id : SchemaIdentifier) (schema : Schema) :
    List (SchemaIdentifier × Schema) → List (SchemaIdentifier × Schema)
  | [] => [(id, schema)]
  | e :: es =>
    match compare id e.1 with
    | .lt => (id, schema) :: e :: es
    | .eq => (id, schema) :: es
    | .gt => e :: insertFound id schema es

/-- Looks for a schema that is visited for the first time. The schema is given if it was found. -/
def look (d : Directory σ) (w : Walk σ) (id : SchemaIdentifier) : Walk σ × Option Schema :=
  let found := d.find id w.directory
  let w := { w with
    directory := found.state
    visited := id :: w.visited
    issues := w.issues ++ found.issues }
  match found.value with
  | .error e => (w.fail e, none)
  | .ok schema => ({ w with found := insertFound id schema w.found }, some schema)

/-- Visits a schema that is required by another or by the document. `below` visits, for a schema
that was found, one of the schemas that it imports. -/
def visitWith (d : Directory σ) (below : SchemaIdentifier → Walk σ → SchemaIdentifier → Walk σ)
    (requiredBy : Option SchemaIdentifier) (w : Walk σ) (id : SchemaIdentifier) : Walk σ :=
  match w.enter requiredBy id with
  | .error e => w.fail e
  | .ok w =>
    if id ∈ w.visited then w
    else
      match w.look d id with
      | (w, none) => w
      | (w, some schema) => schema.imports.foldl (below id) w

/-- Visits a schema and follows chains of at most `fuel` imports below it. -/
def visit (d : Directory σ) : Nat → Option SchemaIdentifier → Walk σ → SchemaIdentifier → Walk σ
  | 0 => visitWith d fun _ w _ => w
  | fuel + 1 => visitWith d fun id => visit d fuel (some id)

/-- Visits a schema that the document requires. Once it was found, all that it imports is held in
the directory, so no chain of imports below it has more schemas than that. -/
def visitRoot (d : Directory σ) (w : Walk σ) (id : SchemaIdentifier) : Walk σ :=
  visitWith d (fun id w => visit d (d.size w.directory) (some id) w) none w id

end Walk

/-- Resolves the schemas of an import table. -/
def Directory.walk {σ : Type} (d : Directory σ) (table : ImportTable) (state : σ) : Walk σ :=
  (table.entries.map Prod.snd).foldl (Walk.visitRoot d) (Walk.start state)

/-- The resolved set of an import table, if there is one. -/
def Directory.resolve {σ : Type} (d : Directory σ) (table : ImportTable) (state : σ) :
    Outcome σ (Option ResolvedSet) :=
  let w := d.walk table state
  if w.failed then ⟨w.directory, none, w.issues⟩
  else
    match ResolvedSet.ofSchemas? w.graph (w.found.map Prod.snd) with
    | .ok set => ⟨w.directory, some set, w.issues⟩
    | .error defect => ⟨w.directory, none, w.issues ++ [.resolve (.internal defect)]⟩

end MetaSchema
