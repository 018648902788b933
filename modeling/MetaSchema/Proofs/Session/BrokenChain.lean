import MetaSchema.Proofs.Session.Chain

/-!
# Chains of imports that end at a broken schema

* `Environment.Broken`: a schema that its own document keeps from being compiled, or that is not served.
* `Broken.fetchWith`: fetching it fails in the same way in every session, and changes no schema and no mark.
* `Environment.BrokenChain`: schemas each of which imports the next one and nothing else, down to a broken
  one.
* `broken_chain_reported_once`: what is told of such a chain is what is told of the broken schema, and that
  its import failed.
-/

namespace MetaSchema

open Relation (TransGen)

open Session

namespace Environment

/-- A schema that its source does not serve, or whose document does not parse or does not bind. -/
inductive Broken (env : Environment) (id : SchemaIdentifier) : Prop
  | unserved {cause : SourceError} (hsource : env.source id = .error cause)
  | unparsed {opened : Opened} (hopened : env.source id = .ok opened)
      (hparse : (parseOpened env.parser opened).value = none)
  | unbound {tree : Tree .parsed} (hserved : env.served? id = some tree) (hbind : tree.bind.value = none)

/-- Why fetching a broken schema fails. -/
def failure (env : Environment) (id : SchemaIdentifier) : LoadError :=
  match env.source id with
  | .error cause => .source id cause
  | .ok _ => .compilationFailed id

/-- The schemas up to the `n`-th are distinct. Each before the `n`-th has a document that binds, and imports
the next one and nothing else; the `n`-th is broken. -/
structure BrokenChain (env : Environment) (n : Nat) (schema : Nat → SchemaIdentifier)
    (tree : Nat → Tree .bound) : Prop where
  distinct : ∀ i ≤ n, ∀ j ≤ n, schema i = schema j → i = j
  bound : ∀ i < n, env.bound? (schema i) = some (tree i)
  imports : ∀ i < n, (tree i).imports.map (·.data) = [schema (i + 1)]
  broken : env.Broken (schema n)

variable {env : Environment} {n : Nat} {schema : Nat → SchemaIdentifier} {tree : Nat → Tree .bound}
  {id : SchemaIdentifier}

/-! ## The broken schema -/

theorem Broken.bound?_eq_none (h : env.Broken id) : env.bound? id = none := by
  cases h with
  | unserved hsource => simp [bound?, served?, hsource]
  | unparsed hopened hparse => simp [bound?, served?, hopened, hparse]
  | unbound hserved hbind => simp [bound?, hserved, hbind]

/-- **Fetching a broken schema** reports what is wrong with its document, and does nothing else. -/
theorem Broken.fetchWith (h : env.Broken id) (load : Loading) (level : Nat) (s : Session) :
    let o := s.fetchWith env load id level
    o.value = .error (env.failure id) ∧ o.state.cache = s.cache ∧
      o.state.failedByImport = s.failedByImport ∧ o.issues = env.reports id := by
  cases h with
  | unserved hsource =>
    simp [Session.fetchWith, failure, reports, remarks, served?, hsource, recordOpening]
  | unparsed hopened hparse =>
    simp [Session.fetchWith, compileWith, failure, reports, remarks, served?, hopened, hparse, loaded,
      recordOpening, countCompilation]
  | unbound hserved hbind =>
    obtain ⟨-, opened, hopened, -⟩ := served?_eq_some hserved
    rw [fetchWith_of_served hserved]
    simp [compileTree, hbind, failure, hopened, reports, hserved, loaded, recordOpening,
      countCompilation]

theorem Broken.loadRoot (h : env.Broken id) :
    (fresh.loadRoot env id).value = .error (env.failure id) ∧
      (fresh.loadRoot env id).issues = env.reports id := by
  obtain ⟨hvalue, -, -, hissues⟩ := h.fetchWith (Session.load env env.maxImportDepth) 0 (fresh.mention id)
  exact ⟨hvalue, hissues⟩

theorem alreadyReported_of_unmarked {s : Session} (hs : s.failedByImport = []) (e : LoadError) :
    alreadyReported s e = false := by
  cases e <;> simp [alreadyReported, hs]

/-! ## The chain -/

theorem BrokenChain.imports_next (h : env.BrokenChain n schema tree) {i : Nat} (hi : i ≤ n)
    {id : SchemaIdentifier} (himports : env.Imports (schema i) id) : i < n ∧ id = schema (i + 1) := by
  obtain ⟨t, ht, hid⟩ := himports
  rcases Nat.lt_or_eq_of_le hi with hlt | rfl
  · rw [h.bound i hlt, Option.some.injEq] at ht
    rw [← ht, h.imports i hlt] at hid
    exact ⟨hlt, List.mem_singleton.mp hid⟩
  · rw [h.broken.bound?_eq_none] at ht
    cases ht

theorem BrokenChain.not_transGen (h : env.BrokenChain n schema tree) {i : Nat} (hi : i ≤ n) :
    ¬ TransGen env.Imports (schema i) (schema i) :=
  not_transGen_line h.distinct (fun _ hi _ => h.imports_next hi) hi

theorem BrokenChain.descent {l : Nat} (h : env.BrokenChain (l + 1) schema tree) :
    env.Descent l schema tree where
  bound := fun i hi => h.bound i (Nat.lt_succ_of_le hi)
  imports := fun i hi => h.imports i (Nat.lt_succ_of_le hi)
  acyclic := fun _ hi => h.not_transGen (Nat.le_succ_of_le hi)

/-- The import of the broken schema fails, and that is reported at the import. -/
theorem BrokenChain.failsFirst {l : Nat} (h : env.BrokenChain (l + 1) schema tree) (levels : Nat) :
    FailsFirst env (Session.load env (levels + 1)) (schema l) (schema (l + 1))
      (env.failure (schema (l + 1))) (env.reports (schema (l + 1))) := by
  intro s hs
  have hdescent := h.descent
  obtain ⟨graph, hs', hload⟩ := hs.load_eq (hdescent.imports_next (Nat.le_refl l))
    (hdescent.acyclic l (Nat.le_refl l)) levels
  obtain ⟨hvalue, hcache, hmarks, hissues⟩ := h.broken.fetchWith (Session.load env levels)
    (env.maxImportDepth - levels) { s with graph }
  rw [hload]
  exact ⟨hvalue, hcache.trans hs'.cache_eq, hissues,
    alreadyReported_of_unmarked (hmarks.trans hs'.marks_eq) _⟩

theorem BrokenChain.loadRoot (henv : env.parser.languages = [.version1])
    (h : env.BrokenChain n schema tree) (hpos : 1 ≤ n) (hn : n ≤ env.maxImportDepth) :
    let o := fresh.loadRoot env (schema 0)
    o.value = .error (.compilationFailed (schema 0)) ∧ o.state.cache = [] ∧
      ∃ node, (tree (n - 1)).imports = [node] ∧ node.data = schema n ∧
        o.issues = (List.range n).flatMap (fun i => env.remarks (schema i)) ++
          (env.reports (schema n) ++ [.load (env.failure (schema n)) node.position]) := by
  obtain ⟨l, rfl⟩ : ∃ l, n = l + 1 := ⟨n - 1, by omega⟩
  obtain ⟨levels, hlevels⟩ : ∃ levels, levels + 1 + l = env.maxImportDepth :=
    ⟨env.maxImportDepth - (l + 1), by omega⟩
  exact h.descent.loadRoot_failed henv hlevels (h.failsFirst levels)

end Environment

/-- **Reported once up the chain.** Take a chain of imports, no longer than the limit allows, down to a
schema that is not served, or whose document does not parse or bind. Loading the first schema in a fresh
session fails to compile it and caches nothing. What is reported is what loading the broken schema itself
reports, and then one failure of a load: that of the broken schema, at its import. No other schema is said
to have failed. Before that come the warnings about the documents on the way, if there are any. -/
theorem broken_chain_reported_once (source : Source) (nodesLimit maxImportDepth : Nat) :
    let env := source.environment nodesLimit maxImportDepth
    ∀ n schema tree, 1 ≤ n → n ≤ maxImportDepth → env.BrokenChain n schema tree →
      let o := fresh.loadRoot env (schema 0)
      let last := fresh.loadRoot env (schema n)
      o.value = .error (.compilationFailed (schema 0)) ∧ o.state.cache = [] ∧
      ∃ remarks e node, o.issues = remarks ++ last.issues ++ [.load e node.position] ∧
        remarks = (List.range n).flatMap (fun i => env.remarks (schema i)) ∧
        (∀ i ∈ remarks, i.isError = false) ∧
        ((∀ i < n, env.remarks (schema i) = []) → o.issues = last.issues ++ [.load e node.position]) ∧
        last.value = .error e ∧ e.diagnostic.details = [("schema", toString (schema n))] ∧
        (∀ cause, env.source (schema n) = .error cause →
          e = .source (schema n) cause ∧ last.issues = []) ∧
        (∀ opened, env.source (schema n) = .ok opened → e = .compilationFailed (schema n)) ∧
        (tree (n - 1)).imports = [node] ∧ node.data = schema n ∧
        o.issues.filter (fun i => !i.isOfDocument) = [.load e node.position] := by
  intro env n schema tree hpos hn h o last
  have henv : env.parser.languages = [.version1] := rfl
  obtain ⟨hvalue, hcache, node, hnode, hdata, hissues⟩ := h.loadRoot henv hpos hn
  obtain ⟨hlast, hreports⟩ := h.broken.loadRoot
  have hremarks : ∀ i ∈ (List.range n).flatMap (fun i => env.remarks (schema i)),
      i.isError = false ∧ i.isOfDocument = true := by
    intro i hi
    obtain ⟨k, hk, hi⟩ := List.mem_flatMap.mp hi
    exact ⟨Environment.remarks_quiet henv (h.bound k (List.mem_range.mp hk)) i hi,
      Environment.remarks_ofDocument henv (schema k) i hi⟩
  have hall : o.issues = (List.range n).flatMap (fun i => env.remarks (schema i)) ++ last.issues ++
      [.load (env.failure (schema n)) node.position] := by
    rw [show last.issues = _ from hreports, List.append_assoc]
    exact hissues
  refine ⟨hvalue, hcache, _, env.failure (schema n), node, hall, rfl, fun i hi => (hremarks i hi).1, ?_,
    hlast, ?_, ?_, ?_, hnode, hdata, ?_⟩
  · intro hquiet
    have hnone : (List.range n).flatMap (fun i => env.remarks (schema i)) = [] :=
      List.flatMap_eq_nil_iff.mpr fun i hi => hquiet i (List.mem_range.mp hi)
    rw [hall, hnone, List.nil_append]
  · unfold Environment.failure
    split <;> rfl
  · intro cause hsource
    refine ⟨by simp only [Environment.failure, hsource], ?_⟩
    rw [show last.issues = _ from hreports]
    simp [Environment.reports, Environment.remarks, Environment.served?, hsource]
  · intro opened hopened
    simp only [Environment.failure, hopened]
  · -- All other issues are about documents: the remarks on the way and the reports on the last.
    have hdocument : OfDocument ((List.range n).flatMap (fun i => env.remarks (schema i)) ++
        env.reports (schema n)) :=
      ofDocument_append.mpr ⟨fun i hi => (hremarks i hi).2, Environment.reports_ofDocument henv _⟩
    rw [show o.issues = _ from hissues, ← List.append_assoc, List.filter_append, hdocument.filter_not_eq]
    rfl

/-! ## A chain of three schemas -/

namespace Sample

/-- Serves the reader, Dublin, which the reader imports, and for Core, which Dublin imports, a document
that breaks off. -/
def brokenSource : Source := fun id =>
  if id = reader then .ok ⟨"memory:reader", .ok readerDocument⟩
  else if id = dublin then .ok ⟨"memory:dublin", .ok (octets dublinDocument)⟩
  else if id = core then .ok ⟨"memory:core", .ok (octets ["<Schema"])⟩
  else .error .notFound

/-- The reader, Dublin and Core. -/
def brokenChain (i : Nat) : SchemaIdentifier :=
  if i = 0 then reader else if i = 1 then dublin else core

theorem exists_brokenChain :
    ∃ tree, (brokenSource.environment 1000 2).BrokenChain 2 brokenChain tree := by
  have hbound : ((brokenSource.environment 1000 2).bound? reader).map (fun t => t.imports.map (·.data)) =
        some [dublin] ∧
      ((brokenSource.environment 1000 2).bound? dublin).map (fun t => t.imports.map (·.data)) =
        some [core] := by
    decide +kernel
  have hparse : (parseOpened (brokenSource.environment 1000 2).parser
      ⟨"memory:core", .ok (octets ["<Schema"])⟩).value.isNone = true := by
    decide +kernel
  obtain ⟨first, hfirst, hfirst_imports⟩ := Option.map_eq_some_iff.mp hbound.1
  obtain ⟨second, hsecond, hsecond_imports⟩ := Option.map_eq_some_iff.mp hbound.2
  refine ⟨fun i => if i = 0 then first else second, by decide, ?_, ?_,
    .unparsed rfl (Option.isNone_iff_eq_none.mp hparse)⟩
  · intro i hi
    obtain rfl | rfl : i = 0 ∨ i = 1 := by omega
    · exact hfirst
    · exact hsecond
  · intro i hi
    obtain rfl | rfl : i = 0 ∨ i = 1 := by omega
    · exact hfirst_imports
    · exact hsecond_imports

end Sample

theorem broken_chain_reported_once_core :
    let env := Sample.brokenSource.environment 1000 2
    ∃ tree, env.BrokenChain 2 Sample.brokenChain tree ∧
      (fresh.loadRoot env Sample.reader).value = .error (.compilationFailed Sample.reader) ∧
      ∃ node, (tree 1).imports = [node] ∧
        (fresh.loadRoot env Sample.reader).issues.filter (fun i => !i.isOfDocument) =
          [.load (.compilationFailed Sample.core) node.position] := by
  intro env
  obtain ⟨tree, hchain⟩ := Sample.exists_brokenChain
  obtain ⟨hvalue, -, -, e, node, -, -, -, -, -, -, -, hopened, hnode, -, honly⟩ :=
    broken_chain_reported_once Sample.brokenSource 1000 2 2 Sample.brokenChain tree (by decide)
      (Nat.le_refl 2) hchain
  rw [hopened _ rfl] at honly
  exact ⟨tree, hchain, hvalue, node, hnode, honly⟩

end MetaSchema
