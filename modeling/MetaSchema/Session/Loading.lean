import MetaSchema.Binding
import MetaSchema.Session.Typing

/-!
# Compiling and loading

The operations of a session. A schema is compiled by parsing its document, binding it and typing
it; its imports are loaded from the source by the same session.

* `Session.compileWith`: compiles one document.
* `Session.fetchWith`: opens a schema and compiles it.
* `Session.load`: loads a schema as an import of another, following a number of levels of imports.
* `Session.loadRoot`, `Session.compileDocument`, `Session.typeTree`: the operations that start with
  a schema that nothing imports.

A cached schema is given back as it is. An import is recorded in the graph before its document is
opened, so a cycle is found at the import that closes it.
-/

namespace MetaSchema

namespace Session

/-- Binds and types a parsed tree, and remembers the schema. -/
def compileTree (load : Loading) (tree : Tree .parsed) (s : Session) :
    Outcome Session (Except Defect (Option Schema)) :=
  let bound := tree.bind
  match bound.value with
  | none => ⟨s, .ok none, bound.issues⟩
  | some t =>
    if t.counts ≠ tree.counts then
      ⟨s, .error (.countMismatch tree.identifier tree.counts t.counts), bound.issues⟩
    else
      let typed := t.typeWith load s
      let issues := bound.issues ++ typed.issues
      match typed.value with
      | .ok schema => ⟨typed.state.store tree.identifier schema, .ok (some schema), issues⟩
      | .error .imports => ⟨typed.state.blame tree.identifier, .ok none, issues⟩
      | .error .schema => ⟨typed.state, .ok none, issues⟩

/-- Compiles a parsed tree. One that a source gave must have the identifier that was asked for; of
any other, the schema of its identifier that is cached is kept. -/
def compileParsed (load : Loading) (expected : Option SchemaIdentifier) (tree : Tree .parsed)
    (s : Session) : Outcome Session (Except Defect (Option Schema)) :=
  match expected with
  | some id =>
    if id ≠ tree.identifier then ⟨s, .error (.identifierMismatch id tree.identifier), []⟩
    else s.compileTree load tree
  | none =>
    match s.cached? tree.identifier with
    | some schema => ⟨s, .ok (some schema), []⟩
    | none => (s.mention tree.identifier).compileTree load tree

/-- Parses a document that was opened. -/
def parseOpened (parser : Parser) (opened : Opened) : Reported (Option (Tree .parsed)) :=
  match opened.content with
  | .error message => .fail (.parse (.unreadable message ⟨opened.uri, 0, 0⟩))
  | .ok document => parser.parse opened.uri document

/-- Compiles a document; `expected` is the identifier that it was opened for, if any. -/
def compileWith (parser : Parser) (load : Loading) (opened : Opened)
    (expected : Option SchemaIdentifier) (s : Session) :
    Outcome Session (Except Defect (Option Schema)) :=
  let parsed := parseOpened parser opened
  match parsed.value with
  | none => ⟨s.countCompilation, .ok none, parsed.issues⟩
  | some tree =>
    let compiled := s.countCompilation.compileParsed load expected tree
    { compiled with issues := parsed.issues ++ compiled.issues }

/-- What loading a schema gives when compiling it gave a result. -/
def loaded (target : SchemaIdentifier) : Except Defect (Option Schema) → Except LoadError Schema
  | .error d => .error (.internal d)
  | .ok none => .error (.compilationFailed target)
  | .ok (some schema) => .ok schema

/-- Opens a schema, `level` import levels below the one that was asked for, and compiles it. -/
def fetchWith (env : Environment) (load : Loading) (target : SchemaIdentifier) (level : Nat)
    (s : Session) : Outcome Session (Except LoadError Schema) :=
  let s := s.recordOpening target level
  match env.source target with
  | .error e => ⟨s, .error (.source target e), []⟩
  | .ok opened =>
    let compiled := s.compileWith env.parser load opened (some target)
    ⟨compiled.state, loaded target compiled.value, compiled.issues⟩

/-- Loads `target` as an import of `requester` when `levels` more levels of imports are followed. -/
def load (env : Environment) : Nat → Loading
  | 0, _, target, s =>
    match s.cached? target with
    | some schema => ⟨s, .ok schema, []⟩
    | none => ⟨s, .error (.depthExceeded target env.maxImportDepth), []⟩
  | levels + 1, requester, target, s =>
    match s.cached? target with
    | some schema => ⟨s, .ok schema, []⟩
    | none =>
      match s.graph.addEdge? requester target with
      | .error path => ⟨s, .error (.cyclicImport requester target path), []⟩
      | .ok graph =>
        { s with graph }.fetchWith env (load env levels) target (env.maxImportDepth - levels)

/-- Loads `target` as an import of `requester`, itself at no level. -/
def loadImport (env : Environment) : Loading := load env (env.maxImportDepth + 1)

/-- Loads a schema that nothing imports. -/
def loadRoot (env : Environment) (target : SchemaIdentifier) (s : Session) :
    Outcome Session (Except LoadError Schema) :=
  match s.cached? target with
  | some schema => ⟨s, .ok schema, []⟩
  | none => (s.mention target).fetchWith env (load env env.maxImportDepth) target 0

/-- Compiles a document that the source does not provide. A defect is reported. -/
def compileDocument (env : Environment) (uri : String) (document : Text.Octets) (s : Session) :
    Outcome Session (Option Schema) :=
  let compiled := s.compileWith env.parser (load env env.maxImportDepth) ⟨uri, .ok document⟩ none
  match compiled.value with
  | .ok schema => ⟨compiled.state, schema, compiled.issues⟩
  | .error d => ⟨compiled.state, none, compiled.issues ++ [.defect d]⟩

/-- Types a bound tree on its own; its imports are at no level. -/
def typeTree (env : Environment) (t : Tree .bound) (s : Session) :
    Outcome Session (Except TypingFailure Schema) :=
  t.typeWith (loadImport env) s

end Session

/-- Compiles one document in a session of its own. -/
def compileSchema (env : Environment) (uri : String) (document : Text.Octets) :
    Reported (Option Schema) :=
  let outcome := Session.fresh.compileDocument env uri document
  ⟨outcome.value, outcome.issues⟩

end MetaSchema
