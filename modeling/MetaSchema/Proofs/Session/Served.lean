import MetaSchema.Proofs.Session.Compiled
import MetaSchema.Proofs.Syntax.Grammar
import MetaSchema.Session.Loading
import Mathlib.Data.Set.Basic

/-!
# What a source serves

* `Source.environment`: what sessions over a source work with.
* `Environment.served?`: the parsed document of a schema, if the source serves one of that schema.
* `Environment.bound?`: the bound document of a schema.
* `Environment.Imports`, `Environment.importsOf`, `Environment.closure`: the imports of these documents, as
  a relation and as a list, and the schemas that they lead to.
* `Environment.Compilable`: what the documents of a schema and of all that it imports must be.
* `Session.Fetches`: what opening and compiling a schema can do.
* `Sample`: a source of two schemas, one of which imports the other.
-/

namespace MetaSchema

open Relation (ReflTransGen TransGen)

/-- The environment of sessions over a source, which read documents in version 1 of the language. -/
def Source.environment (source : Source) (nodesLimit maxImportDepth : Nat) : Environment :=
  { source, parser := { nodesLimit }, maxImportDepth }

namespace Environment

variable (env : Environment)

/-- The tree of the document that is opened for a schema, if it is a document of that schema. -/
def served? (id : SchemaIdentifier) : Option (Tree .parsed) :=
  match env.source id with
  | .error _ => none
  | .ok opened => (Session.parseOpened env.parser opened).value.filter (·.identifier = id)

/-- The bound tree of the document that is opened for a schema. -/
def bound? (id : SchemaIdentifier) : Option (Tree .bound) :=
  (env.served? id).bind fun tree => tree.bind.value

/-- The document of a schema imports another schema. -/
def Imports (a b : SchemaIdentifier) : Prop := ∃ t, env.bound? a = some t ∧ b ∈ t.imports.map (·.data)

/-- The imports that the document of a schema has, if it binds. -/
def importsOf (id : SchemaIdentifier) : List SchemaIdentifier :=
  match env.bound? id with
  | none => []
  | some b => b.imports.map (·.data)

/-- The schemas that imports lead to, the first one included. -/
def closure (id : SchemaIdentifier) : Set SchemaIdentifier := {x | ReflTransGen env.Imports id x}

/-- All schemas that imports lead to have documents that bind, none of them leads back to itself, and
what refers to a type of an import refers to one that its document declares. -/
structure Compilable (target : SchemaIdentifier) : Prop where
  bound : ∀ id ∈ env.closure target, ∃ t, env.bound? id = some t
  acyclic : ∀ id ∈ env.closure target, ¬ TransGen env.Imports id id
  declared : ∀ id ∈ env.closure target, ∀ t, env.bound? id = some t →
    ∀ schema name, .imported schema name ∈ t.references →
      ∃ u, env.bound? schema = some u ∧ name ∈ u.types.map TypeNode.name

variable {env}

theorem served?_eq_some {id : SchemaIdentifier} {tree : Tree .parsed}
    (h : env.served? id = some tree) : tree.identifier = id ∧
      ∃ opened, env.source id = .ok opened ∧
        (Session.parseOpened env.parser opened).value = some tree := by
  unfold served? at h
  split at h
  · cases h
  · rename_i opened hopened
    obtain ⟨hparse, hid⟩ := Option.filter_eq_some_iff.mp h
    exact ⟨by simpa using hid, opened, hopened, hparse⟩

/-- A bound document is one of its schema. -/
theorem bound?_eq_some {id : SchemaIdentifier} {b : Tree .bound} (h : env.bound? id = some b) :
    b.data = id ∧ ∃ tree, env.served? id = some tree ∧ tree.BoundTo b := by
  obtain ⟨tree, hserved, hbind⟩ := Option.bind_eq_some_iff.mp h
  have hb := Tree.bind_eq_some hbind
  exact ⟨hb.data_eq.trans (served?_eq_some hserved).1, tree, hserved, hb⟩

theorem bound?_of_served? {id : SchemaIdentifier} {tree : Tree .parsed} {b : Tree .bound}
    (hserved : env.served? id = some tree) (hbind : tree.bind.value = some b) :
    env.bound? id = some b :=
  Option.bind_eq_some_iff.mpr ⟨tree, hserved, hbind⟩

/-! ## Schemas that imports lead to -/

variable {a b id : SchemaIdentifier}

theorem mem_importsOf : b ∈ env.importsOf a ↔ env.Imports a b := by
  unfold importsOf Imports
  cases env.bound? a <;> simp

theorem mem_closure_self : id ∈ env.closure id := ReflTransGen.refl

theorem closure_subset (h : env.Imports a b) : env.closure b ⊆ env.closure a :=
  fun _ hx => ReflTransGen.head h hx

/-- Without a circle an import does not lead to what imports it. -/
theorem notMem_closure (h : env.Imports a b) (ha : ¬ TransGen env.Imports a a) :
    a ∉ env.closure b :=
  fun hmem => ha (.head' h hmem)

theorem Compilable.imports (hc : env.Compilable a) (h : env.Imports a b) : env.Compilable b where
  bound := fun id hid => hc.bound id (closure_subset h hid)
  acyclic := fun id hid => hc.acyclic id (closure_subset h hid)
  declared := fun id hid => hc.declared id (closure_subset h hid)

end Environment

namespace Session

/-- A document that was opened and parsed in version 1 of the language. -/
theorem parseOpened_eq_some {p : Parser} (hp : p.languages = [.version1]) {opened : Opened}
    {t : Tree .parsed} (h : (parseOpened p opened).value = some t) :
    t.Tokened ∧ ∀ i ∈ (parseOpened p opened).issues, i.isError = false := by
  unfold parseOpened at h ⊢
  split at h
  · cases h
  · exact Parser.parse_eq_some hp h

/-- What opening and compiling a schema can do: nothing but count if the schema is not served, or
compile the tree that is. -/
inductive Fetches (env : Environment) (load : Loading) (target : SchemaIdentifier) (level : Nat)
    (s : Session) : Outcome Session (Except LoadError Schema) → Prop
  | missed {s' : Session} {e : LoadError} {issues : List Issue} (hserved : env.served? target = none)
      (hcache : s'.cache = s.cache) (hgraph : s'.graph = s.graph)
      (hmarks : s'.failedByImport = s.failedByImport) :
      Fetches env load target level s ⟨s', .error e, issues⟩
  | compiled {opened : Opened} {tree : Tree .parsed} {o : Outcome Session (Except Defect (Option Schema))}
      (hserved : env.served? target = some tree) (hid : tree.identifier = target)
      (hparse : (parseOpened env.parser opened).value = some tree)
      (ho : (s.recordOpening target level).countCompilation.compileTree load tree = o) :
      Fetches env load target level s
        ⟨o.state, loaded target o.value, (parseOpened env.parser opened).issues ++ o.issues⟩

theorem loaded_eq_ok {target : SchemaIdentifier} {r : Except Defect (Option Schema)}
    {schema : Schema} : loaded target r = .ok schema ↔ r = .ok (some schema) := by
  rcases r with e | _ | _ <;> simp [loaded]

theorem fetches (env : Environment) (load : Loading) (target : SchemaIdentifier) (level : Nat)
    (s : Session) : Fetches env load target level s (s.fetchWith env load target level) := by
  unfold fetchWith
  cases hsource : env.source target with
  | error e => exact .missed (by simp [Environment.served?, hsource]) rfl rfl rfl
  | ok opened =>
    simp only [compileWith]
    split
    · rename_i hparse
      exact .missed (by simp [Environment.served?, hsource, hparse]) rfl rfl rfl
    · rename_i tree hparse
      unfold compileParsed
      by_cases hid : target = tree.identifier
      · simp only [hid, ne_eq, not_true_eq_false, ↓reduceIte]
        exact .compiled (by simp [Environment.served?, ← hid, hsource, hparse]) rfl hparse rfl
      · simp only [hid, ne_eq, not_false_eq_true, ↓reduceIte]
        exact .missed (by simp [Environment.served?, hsource, hparse, Ne.symm hid]) rfl rfl rfl

/-- Why a schema cannot be fetched is the same in every session, if the source does not serve it. -/
theorem value_fetchWith_unserved {env : Environment} {target : SchemaIdentifier}
    (h : env.served? target = none) (load load' : Loading) (level level' : Nat) (s s' : Session) :
    (s.fetchWith env load target level).value = (s'.fetchWith env load' target level').value := by
  unfold fetchWith
  unfold Environment.served? at h
  cases hsource : env.source target with
  | error e => rfl
  | ok opened =>
    simp only [hsource] at h
    simp only [compileWith]
    split
    · rfl
    · rename_i tree hparse
      have hid : target ≠ tree.identifier := by
        rintro rfl
        simp [hparse] at h
      simp [compileParsed, hid]

end Session

/-! ## A source of two schemas -/

namespace Sample

/-- A schema without imports. -/
def core : SchemaIdentifier := ⟨⟨"Core", by decide, by decide⟩, ⟨1, 0⟩⟩

/-- A schema with a type whose base is one of the other schema. -/
def dublin : SchemaIdentifier := ⟨⟨"Dublin", by decide, by decide⟩, ⟨1, 0⟩⟩

def coreDocument : List String :=
  ["<Schema", " xmlns=", "\"urn:docmeta:schema:1\"", " name=\"Core\"", " versionMajor=\"1\"",
    " versionMinor=\"0\">", "<Type name=\"Text\">", "<TypeReferencePrimitive",
    " type=\"STRING\"/>", "</Type>", "</Schema>"]

def dublinDocument : List String :=
  ["<Schema", " xmlns=", "\"urn:docmeta:schema:1\"", " name=\"Dublin\"", " versionMajor=\"1\"",
    " versionMinor=\"0\">", "<Import name=\"Core\"", " versionMajor=\"1\"", " versionMinor=\"0\"/>",
    "<Type name=\"Title\">", "<TypeReferenceNamed", " schema=\"Core\"", " name=\"Text\"/>", "</Type>",
    "<Attribute", " name=\"title\"", " cardinality=\"1\">", "<TypeReferenceNamed", " name=\"Title\"/>",
    "</Attribute>", "</Schema>"]

/-- A document of version 1.0 of a schema. -/
def document (name : String) (declarations : List String) : List String :=
  ["<Schema", " xmlns=", "\"urn:docmeta:schema:1\"", " name=\"", name, "\"", " versionMajor=\"1\"",
    " versionMinor=\"0\">"] ++ declarations ++ ["</Schema>"]

/-- The import of version 1.0 of a schema. -/
def importOf (name : String) : List String :=
  ["<Import name=\"", name, "\"", " versionMajor=\"1\"", " versionMinor=\"0\"/>"]

/-- A document of ASCII characters in UTF-16, after a byte order mark. -/
def octets (document : List String) : Text.Octets :=
  0xFE :: 0xFF :: (document.flatMap String.toList).flatMap fun c => [0, c.toNat.toUInt8]

/-- A document of Dublin whose import is not served. -/
def lostDocument : Text.Octets := octets (document "Dublin" (importOf "Lost"))

/-- A document of Core that imports Dublin, which imports the served Core. -/
def draftDocument : Text.Octets := octets (document "Core" (importOf "Dublin"))

/-- Serves both documents. -/
def source : Source := fun id =>
  if id = core then .ok ⟨"memory:core", .ok (octets coreDocument)⟩
  else if id = dublin then .ok ⟨"memory:dublin", .ok (octets dublinDocument)⟩
  else .error .notFound

theorem parse_dublin : ((source.environment 1000 1).parser.parse "memory:dublin"
    (octets dublinDocument)).value.map (·.identifier) = some dublin := by
  decide +kernel

end Sample

end MetaSchema
