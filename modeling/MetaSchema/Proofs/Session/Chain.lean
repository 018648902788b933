import MetaSchema.Proofs.Session.Compilable
import MetaSchema.Proofs.Session.Blame
import MetaSchema.Proofs.Session.Reports

/-!
# Chains of imports

* `Environment.Chain`: schemas each of which imports the next one and nothing else.
* `Chain.compilable`: all of them are compilable, and there are as many as the chain is long.
* `fetchWith_of_failed_import`: a schema whose only import fails is not compiled.
* `Descent.loadRoot_failed`: where schemas import one another down to an import that fails, only that import
  is reported.
* `Chain.loadRoot_isOk_iff`: the first schema of a chain can be loaded exactly if the chain is not
  longer than the limit allows.
* `Chain.loadRoot_too_long`: otherwise the only error is that of the import at the limit.
-/

namespace MetaSchema

open Relation (ReflTransGen TransGen)

namespace Environment

/-- The schemas up to the `n`-th are distinct, their documents are valid, and each imports the next
one and nothing else, but the last one nothing. -/
structure Chain (env : Environment) (n : Nat) (schema : Nat → SchemaIdentifier)
    (tree : Nat → Tree .bound) : Prop where
  distinct : ∀ i ≤ n, ∀ j ≤ n, schema i = schema j → i = j
  bound : ∀ i ≤ n, env.bound? (schema i) = some (tree i)
  imports : ∀ i ≤ n, (tree i).imports.map (·.data) = if i < n then [schema (i + 1)] else []
  declared : ∀ i ≤ n, ∀ id name, .imported id name ∈ (tree i).references →
    ∃ u, env.bound? id = some u ∧ name ∈ u.types.map TypeNode.name

variable {env : Environment} {n : Nat} {schema : Nat → SchemaIdentifier} {tree : Nat → Tree .bound}

theorem Chain.imports_iff (h : env.Chain n schema tree) {i : Nat} (hi : i ≤ n) {id : SchemaIdentifier} :
    env.Imports (schema i) id ↔ i < n ∧ id = schema (i + 1) := by
  have hmem : env.Imports (schema i) id ↔ id ∈ (tree i).imports.map (·.data) := by
    constructor
    · rintro ⟨t, ht, hid⟩
      rw [h.bound i hi, Option.some.injEq] at ht
      exact ht ▸ hid
    · exact fun hid => ⟨tree i, h.bound i hi, hid⟩
  rw [hmem, h.imports i hi]
  split <;> simp_all

/-- Imports lead down the chain. -/
theorem Chain.of_mem_closure (h : env.Chain n schema tree) {i : Nat} (hi : i ≤ n)
    {id : SchemaIdentifier} (hid : id ∈ env.closure (schema i)) : ∃ j, i ≤ j ∧ j ≤ n ∧ id = schema j :=
  reflTransGen_line (fun _ hi _ => (h.imports_iff hi).mp) hi hid

theorem Chain.not_transGen (h : env.Chain n schema tree) {i : Nat} (hi : i ≤ n) :
    ¬ TransGen env.Imports (schema i) (schema i) :=
  not_transGen_line h.distinct (fun _ hi _ => (h.imports_iff hi).mp) hi

theorem Chain.compilable (h : env.Chain n schema tree) : env.Compilable (schema 0) where
  bound := by
    intro id hid
    obtain ⟨i, -, hi, rfl⟩ := h.of_mem_closure (Nat.zero_le n) hid
    exact ⟨tree i, h.bound i hi⟩
  acyclic := by
    intro id hid
    obtain ⟨i, -, hi, rfl⟩ := h.of_mem_closure (Nat.zero_le n) hid
    exact h.not_transGen hi
  declared := by
    intro id hid t ht
    obtain ⟨i, -, hi, rfl⟩ := h.of_mem_closure (Nat.zero_le n) hid
    rw [h.bound i hi, Option.some.injEq] at ht
    exact ht ▸ h.declared i hi

theorem Chain.encard_closure_le (h : env.Chain n schema tree) :
    (env.closure (schema 0)).encard ≤ n + 1 := by
  have hle := env.encard_closure_le_length ((List.range (n + 1)).map schema)
    (List.mem_map.mpr ⟨0, by simp, rfl⟩) (by
      intro a ha b hb
      obtain ⟨i, hi, rfl⟩ := List.mem_map.mp ha
      obtain ⟨hlt, rfl⟩ := (h.imports_iff (Nat.le_of_lt_succ (List.mem_range.mp hi))).mp
        (mem_importsOf.mp hb)
      exact List.mem_map.mpr ⟨i + 1, List.mem_range.mpr (by omega), rfl⟩)
  simpa using hle

end Environment

open Session

variable {load : Loading} {env : Environment} {s : Session}

/-! ## A failed import -/

/-- Nothing but the imports fails where none of them is loaded. -/
theorem Tree.BoundTo.typeWith_of_unloaded {tree : Tree .parsed} {b : Tree .bound} (hb : tree.BoundTo b)
    (htokened : b.Tokened) (hnone : (loadImports load b.data b.imports s).schemas = [])
    (hfailed : (loadImports load b.data b.imports s).failed = true) :
    (b.typeWith load s).value = .error .imports ∧
      (b.typeWith load s).issues = (loadImports load b.data b.imports s).issues := by
  unfold Tree.typeWith
  dsimp only
  rw [hnone]
  cases hd : b.typedDeclarations? [] with
  | error d =>
    -- Nothing was loaded, so a defect would be of the tree alone; but it has been parsed and bound.
    exfalso
    rcases Tree.exists_defect hd with ⟨n, hn, htoken⟩ | ⟨n, hn, hreference⟩
    · obtain ⟨c, hc⟩ := htokened n hn
      rw [htoken] at hc
      cases hc
    · have hr := Tree.data_mem_references hn
      obtain ⟨-, ⟨name, hdata, hno⟩ | ⟨id, name, imported, -, hlookup, -⟩⟩ :=
        Tree.typedReference?_eq_error.mp hreference
      · rw [hdata] at hr
        rcases hb.mem_references hr with ⟨p, h⟩ | ⟨name', h, hname⟩ | ⟨n', -, name', h⟩
        · cases h
        · cases h
          exact hno hname
        · cases h
      · cases hlookup
  | ok declarations =>
    cases declarations with
    | none => exact ⟨rfl, rfl⟩
    | some declared =>
      simp only [hfailed, ↓reduceIte, and_self]

/-- Compiling a tree that only its imports keep from being typed. -/
theorem compileTree_of_imports {tree : Tree .parsed} {b : Tree .bound} (hbind : tree.bind.value = some b)
    (ht : (b.typeWith load s).value = .error .imports) :
    s.compileTree load tree =
      ⟨(b.typeWith load s).state.blame tree.identifier, .ok none, (b.typeWith load s).issues⟩ := by
  have hc := compilesTree load tree s
  generalize s.compileTree load tree = o at hc
  rcases hc with hb | @⟨b', _, hb, ht'⟩ | @⟨b', hb, ht'⟩ | @⟨b', hb, ht'⟩ <;> rw [hbind] at hb
  · cases hb
  all_goals obtain rfl := Option.some.inj hb
  · cases ht.symm.trans ht'
  · rfl
  · cases ht.symm.trans ht'

/-- Opening and compiling a schema that is served. -/
theorem fetchWith_of_served {target : SchemaIdentifier} {tree : Tree .parsed}
    (hserved : env.served? target = some tree) (level : Nat) :
    let o := (s.recordOpening target level).countCompilation.compileTree load tree
    s.fetchWith env load target level =
      ⟨o.state, loaded target o.value, env.remarks target ++ o.issues⟩ := by
  obtain ⟨hid, opened, hsource, hparse⟩ := Environment.served?_eq_some hserved
  simp only [fetchWith, hsource, compileWith, hparse, compileParsed, hid, ne_eq, not_true_eq_false,
    ↓reduceIte, Environment.remarks]

/-- **A schema whose only import fails** is not compiled. Its imports are blamed, and only if the
failure was not reported in full already it is reported at the import. -/
theorem fetchWith_of_failed_import (henv : env.parser.languages = [.version1])
    {target : SchemaIdentifier} {b : Tree .bound} (hb : env.bound? target = some b)
    {node : ImportNode .bound} (himports : b.imports = [node]) (level : Nat) {e : LoadError}
    (hfailed : (load target node.data (s.recordOpening target level).countCompilation).value = .error e) :
    let first := load target node.data (s.recordOpening target level).countCompilation
    s.fetchWith env load target level =
      ⟨first.state.blame target, .error (.compilationFailed target), env.remarks target ++
        (first.issues ++ if alreadyReported first.state e then [] else [.load e node.position])⟩ := by
  intro first
  have htokened := Environment.bound?_tokened henv hb
  obtain ⟨tree, hserved, hbind⟩ := Option.bind_eq_some_iff.mp hb
  have hbound := Tree.bind_eq_some hbind
  have hid := (Environment.served?_eq_some hserved).1
  -- The failed import is the only one, so nothing at all is loaded.
  have hloaded : loadImports load b.data b.imports (s.recordOpening target level).countCompilation =
      ⟨first.state, [], true,
        first.issues ++ if alreadyReported first.state e then [] else [.load e node.position]⟩ := by
    rw [himports, hbound.data_eq, hid]
    simp only [loadImports, hfailed, List.append_nil]
    rfl
  obtain ⟨hvalue, hissues⟩ :=
    hbound.typeWith_of_unloaded htokened (congrArg LoadedImports.schemas hloaded)
    (congrArg LoadedImports.failed hloaded)
  rw [fetchWith_of_served hserved, compileTree_of_imports hbind hvalue, hissues, Tree.state_typeWith,
    hloaded, hid]
  rfl

/-! ## Loading along a chain -/

namespace Session

/-- A session that has compiled nothing so far, and loads from its source only. -/
structure Untried (env : Environment) (s : Session) : Prop extends s.Rooted env where
  cache_eq : s.cache = []
  marks_eq : s.failedByImport = []

theorem untried_mention (id : SchemaIdentifier) : (fresh.mention id).Untried env :=
  ⟨rooted_fresh.mention id, rfl, rfl⟩

theorem Untried.opened (hs : s.Untried env) (target : SchemaIdentifier) (level : Nat) :
    ((s.recordOpening target level).countCompilation).Untried env :=
  ⟨hs.toRooted.of_eq rfl rfl, hs.cache_eq, hs.marks_eq⟩

theorem Untried.cached?_eq (hs : s.Untried env) (id : SchemaIdentifier) : s.cached? id = none := by
  rw [cached?, hs.cache_eq]
  rfl

/-- An import is followed, if it leads to no circle. -/
theorem Untried.load_eq (hs : s.Untried env) {requester target : SchemaIdentifier}
    (himports : env.Imports requester target) (hcircle : ¬ TransGen env.Imports requester requester)
    (levels : Nat) : ∃ graph, Untried env { s with graph } ∧
      Session.load env (levels + 1) requester target s =
        ({ s with graph } : Session).fetchWith env (Session.load env levels) target
          (env.maxImportDepth - levels) := by
  cases hg : s.graph.addEdge? requester target with
  | error path =>
    -- A refused import would close a circle of imports of served documents.
    have hback : ReflTransGen env.Imports target requester :=
      ReflTransGen.mono hs.edges _ _ (ImportGraph.reaches_of_addEdge? hs.valid.graph hg)
    exact (hcircle (.head' himports hback)).elim
  | ok graph =>
    refine ⟨graph, ⟨hs.toRooted.with_edge himports hg, hs.cache_eq, hs.marks_eq⟩, ?_⟩
    simp only [Session.load, hs.cached?_eq, hg]

/-- However a load is tried first, it fails with `e`, and only `issues` are reported of it. -/
def FailsFirst (env : Environment) (load : Loading) (requester target : SchemaIdentifier) (e : LoadError)
    (issues : List Issue) : Prop :=
  ∀ s, s.Untried env → let o := load requester target s
    o.value = .error e ∧ o.state.cache = [] ∧ o.issues = issues ∧ alreadyReported o.state e = false

end Session

namespace Environment

variable {l n : Nat} {schema : Nat → SchemaIdentifier} {tree : Nat → Tree .bound}

/-- The schemas up to the `l`-th have documents that bind, each of them imports the next one and nothing
else, and none leads back to itself. -/
structure Descent (env : Environment) (l : Nat) (schema : Nat → SchemaIdentifier)
    (tree : Nat → Tree .bound) : Prop where
  bound : ∀ i ≤ l, env.bound? (schema i) = some (tree i)
  imports : ∀ i ≤ l, (tree i).imports.map (·.data) = [schema (i + 1)]
  acyclic : ∀ i ≤ l, ¬ TransGen env.Imports (schema i) (schema i)

theorem Descent.exists_import (h : env.Descent l schema tree) {i : Nat} (hi : i ≤ l) :
    ∃ node, (tree i).imports = [node] ∧ node.data = schema (i + 1) := by
  obtain ⟨node, hnode, hdata⟩ := List.map_eq_singleton_iff.mp (h.imports i hi)
  exact ⟨node, hnode, hdata⟩

theorem Descent.imports_next (h : env.Descent l schema tree) {i : Nat} (hi : i ≤ l) :
    env.Imports (schema i) (schema (i + 1)) :=
  ⟨tree i, h.bound i hi, by rw [h.imports i hi]; exact List.mem_singleton_self _⟩

/-- **Fetching** the schema that is `m` imports above the `l`-th, if the import of that one fails. Each
schema on the way fails by its import alone, so only the last import is reported. -/
theorem Descent.fetchWith_failed (henv : env.parser.languages = [.version1])
    (h : env.Descent l schema tree) {levels : Nat} {e : LoadError} {issues : List Issue}
    (hlast : FailsFirst env (Session.load env levels) (schema l) (schema (l + 1)) e issues)
    {node : ImportNode .bound} (hnode : (tree l).imports = [node]) {m k : Nat} (hk : k + m = l)
    (level : Nat) (hs : s.Untried env) :
    let o := s.fetchWith env (Session.load env (levels + m)) (schema k) level
    o.value = .error (.compilationFailed (schema k)) ∧ o.state.cache = [] ∧
      schema k ∈ o.state.failedByImport ∧
      o.issues = (List.range' k (m + 1)).flatMap (fun i => env.remarks (schema i)) ++
        (issues ++ [.load e node.position]) := by
  induction m generalizing k s level with
  | zero =>
    obtain rfl : k = l := hk
    obtain ⟨node', hnode', hdata⟩ := h.exists_import (Nat.le_refl k)
    obtain rfl : node' = node := by simpa [hnode] using hnode'.symm
    -- The last import does not fail by an import of its own, so its failure is reported here.
    obtain ⟨hvalue, hcache, hissues, hunreported⟩ := hlast _ (hs.opened (schema k) level)
    rw [← hdata] at hvalue hcache hissues hunreported
    have hfetch := fetchWith_of_failed_import henv (h.bound k (Nat.le_refl k)) hnode level hvalue
    simp only [hissues, hunreported, Bool.false_eq_true, ↓reduceIte] at hfetch
    rw [Nat.add_zero, hfetch]
    refine ⟨rfl, (cache_blame ..).trans hcache, mem_failedByImport_blame.mpr (.inl rfl), ?_⟩
    simp
  | succ m ih =>
    have hkl : k ≤ l := by omega
    obtain ⟨node', hnode', hdata⟩ := h.exists_import hkl
    obtain ⟨graph, hs', hload⟩ :=
      (hs.opened (schema k) level).load_eq (h.imports_next hkl) (h.acyclic k hkl) (levels + m)
    -- The import is marked, as it failed by its own imports. So it is not reported again.
    obtain ⟨hvalue, hcache, hmarked, hissues⟩ :=
      ih (k := k + 1) (by omega) (env.maxImportDepth - (levels + m)) hs'
    rw [← hload] at hvalue hcache hmarked hissues
    have hfetch := fetchWith_of_failed_import henv (h.bound k hkl) hnode' level (hdata ▸ hvalue)
    simp only [alreadyReported, hdata, hmarked, decide_true, ↓reduceIte, List.append_nil] at hfetch
    rw [← Nat.add_assoc, hfetch]
    refine ⟨rfl, (cache_blame ..).trans hcache, mem_failedByImport_blame.mpr (.inl rfl), ?_⟩
    have hrange : List.range' k (m + 1 + 1) = k :: List.range' (k + 1) (m + 1) := List.range'_succ
    rw [hissues, hrange, List.flatMap_cons, List.append_assoc]

/-- **Loading** the first of these schemas, if the import of the last one fails. -/
theorem Descent.loadRoot_failed (henv : env.parser.languages = [.version1])
    (h : env.Descent l schema tree) {levels : Nat} (hlevels : levels + l = env.maxImportDepth)
    {e : LoadError} {issues : List Issue}
    (hlast : FailsFirst env (Session.load env levels) (schema l) (schema (l + 1)) e issues) :
    let o := fresh.loadRoot env (schema 0)
    o.value = .error (.compilationFailed (schema 0)) ∧ o.state.cache = [] ∧
      ∃ node, (tree l).imports = [node] ∧ node.data = schema (l + 1) ∧
        o.issues = (List.range (l + 1)).flatMap (fun i => env.remarks (schema i)) ++
          (issues ++ [.load e node.position]) := by
  obtain ⟨node, hnode, hdata⟩ := h.exists_import (Nat.le_refl l)
  obtain ⟨hvalue, hcache, -, hissues⟩ :=
    h.fetchWith_failed henv hlast hnode (Nat.zero_add l) 0 (untried_mention (schema 0))
  rw [hlevels] at hvalue hcache hissues
  rw [← List.range_eq_range'] at hissues
  exact ⟨hvalue, hcache, node, hnode, hdata, hissues⟩

/-! ## The limit -/

theorem Chain.descent (h : env.Chain n schema tree) (hl : l < n) : env.Descent l schema tree where
  bound := fun i hi => h.bound i (by omega)
  imports := by
    intro i hi
    rw [h.imports i (by omega), if_pos (by omega)]
  acyclic := fun i hi => h.not_transGen (by omega)

/-- An import at no level fails. -/
theorem failsFirst_load_zero (env : Environment) (requester target : SchemaIdentifier) :
    FailsFirst env (Session.load env 0) requester target (.depthExceeded target env.maxImportDepth) [] := by
  intro s hs
  simp [Session.load, hs.cached?_eq, hs.cache_eq, alreadyReported]

/-- **Exactly at the limit.** The first schema of a chain can be loaded in a fresh session if and
only if there are no more imports than the limit allows. -/
theorem Chain.loadRoot_isOk_iff (henv : env.parser.languages = [.version1])
    (h : env.Chain n schema tree) :
    (∃ c, (fresh.loadRoot env (schema 0)).value = .ok c) ↔ n ≤ env.maxImportDepth := by
  constructor
  · rintro ⟨c, hc⟩
    by_contra hlong
    rw [Nat.not_le] at hlong
    have hfailed := (h.descent hlong).loadRoot_failed henv (Nat.zero_add _)
      (failsFirst_load_zero env _ _)
    exact absurd (hfailed.1.symm.trans hc) (by simp)
  · intro hn
    refine (MetaSchema.loadRoot_isOk_iff henv ?_ rooted_fresh).mpr h.compilable
    refine h.encard_closure_le.trans ?_
    exact_mod_cast Nat.succ_le_succ hn

/-- **Beyond the limit** nothing is cached. The only error is that of the import at the limit, which
is reported there; it comes after what is reported while the documents are parsed. -/
theorem Chain.loadRoot_too_long (henv : env.parser.languages = [.version1])
    (h : env.Chain n schema tree) (hlong : env.maxImportDepth < n) :
    let o := fresh.loadRoot env (schema 0)
    o.value = .error (.compilationFailed (schema 0)) ∧ o.state.cache = [] ∧
      ∃ node, (tree env.maxImportDepth).imports = [node] ∧
        node.data = schema (env.maxImportDepth + 1) ∧
        o.issues = (List.range (env.maxImportDepth + 1)).flatMap (fun i => env.remarks (schema i)) ++
          [.load (.depthExceeded (schema (env.maxImportDepth + 1)) env.maxImportDepth) node.position] := by
  simpa using (h.descent hlong).loadRoot_failed henv (Nat.zero_add _) (failsFirst_load_zero env _ _)

end Environment

end MetaSchema
