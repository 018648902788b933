import MetaSchema.Proofs.Session.Faithful
import MetaSchema.Proofs.Session.Operation

/-!
# Sessions that only load from a source

* `Session.Rooted`: the graph has imports of served documents only, and each cached schema is what its
  document says.
* `Session.Gains`: from one such session to another in which only some schemas were added; what
  succeeds counts each of them and reports no error.
* `load_gains`: loading a schema adds schemas that imports lead to, by induction on the number of levels
  that are left.
* `Operation.FromRoot`, `run_rooted`: so it is with all operations that only load from the source.
-/

namespace MetaSchema

open Relation (ReflTransGen TransGen)

namespace Session

/-- What a session has that compiled nothing but what its source serves. -/
structure Rooted (env : Environment) (s : Session) : Prop where
  valid : s.Valid
  edges : ∀ a b, s.graph.Edge a b → env.Imports a b
  compiled : ∀ id schema, s.cached? id = some schema →
    ∃ t, env.bound? id = some t ∧ t.Compiled schema
  nodup : (s.cache.map Prod.fst).Nodup

/-- From one session to another: only schemas in `p` were added. If it was a success, each of them was
compiled once, and no error was reported. -/
structure Gains (env : Environment) (p : SchemaIdentifier → Prop) (success : Prop)
    (s s' : Session) (issues : List Issue) : Prop where
  rooted : s'.Rooted env
  only : ∀ id, (s'.cached? id).isSome → (s.cached? id).isSome ∨ p id
  count : success → s'.compilations + s.cache.length = s.compilations + s'.cache.length
  quiet : success → ∀ i ∈ issues, i.isError = false

variable {env : Environment} {p : SchemaIdentifier → Prop} {success : Prop} {s s' : Session}
  {issues : List Issue}

theorem rooted_fresh : fresh.Rooted env where
  valid := valid_fresh
  edges := by
    intro a b h
    cases h
  compiled := by
    intro id schema h
    cases h
  nodup := List.nodup_nil

theorem Rooted.faithful (hs : s.Rooted env) : s.Faithful env := ⟨hs.valid, hs.compiled⟩

/-- A change that touches neither the cache nor the graph. -/
theorem Rooted.of_eq (hs : s.Rooted env) (hc : s'.cache = s.cache) (hg : s'.graph = s.graph) :
    s'.Rooted env where
  valid := (hs.faithful.of_eq hc hg).valid
  edges := hg ▸ hs.edges
  compiled := (hs.faithful.of_eq hc hg).compiled
  nodup := hc ▸ hs.nodup

theorem Gains.refl (hs : s.Rooted env) : Gains env p success s s [] :=
  ⟨hs, fun _ h => .inl h, fun _ => rfl, fun _ _ h => by cases h⟩

theorem Gains.mono {q : SchemaIdentifier → Prop} (h : Gains env p success s s' issues)
    (hpq : ∀ id, p id → q id) : Gains env q success s s' issues :=
  ⟨h.rooted, fun id hid => (h.only id hid).imp_right (hpq id), h.count, h.quiet⟩

/-- A failure that left the cache and the graph alone. -/
theorem Gains.failure (hs : s.Rooted env) (hc : s'.cache = s.cache) (hg : s'.graph = s.graph)
    (hf : ¬ success) : Gains env p success s s' issues := by
  refine ⟨hs.of_eq hc hg, fun id h => .inl ?_, fun h => (hf h).elim, fun h => (hf h).elim⟩
  rwa [cached?, hc] at h

/-- Recording more of the graph, as far as served documents have those imports. -/
theorem Rooted.with_graph (hs : s.Rooted env) {g : ImportGraph} (hg : g.WellFormed)
    (he : ∀ a b, g.Edge a b → env.Imports a b) (hsub : ∀ a b, s.graph.Edge a b → g.Edge a b) :
    Rooted env { s with graph := g } :=
  ⟨(hs.faithful.with_graph hg hsub).valid, he, hs.compiled, hs.nodup⟩

theorem Rooted.mention (hs : s.Rooted env) (id : SchemaIdentifier) : (s.mention id).Rooted env := by
  refine hs.with_graph (hs.valid.graph.addVertex id) (fun a b he => ?_) (fun a b he => ?_)
  · rw [ImportGraph.edge_addVertex] at he
    exact hs.edges a b he
  · rwa [ImportGraph.edge_addVertex]

/-- Recording an import of a served document. -/
theorem Rooted.with_edge (hs : s.Rooted env) {requester target : SchemaIdentifier} {g : ImportGraph}
    (himports : env.Imports requester target) (hg : s.graph.addEdge? requester target = .ok g) :
    Rooted env { s with graph := g } := by
  obtain ⟨-, hi⟩ := ImportGraph.inserted_of_addEdge? hs.valid.graph hg
  refine hs.with_graph hi.wellFormed (fun a b he => ?_) fun a b he => (hi.edge_iff a b).mpr (.inl he)
  rcases (hi.edge_iff a b).mp he with he | ⟨rfl, rfl⟩
  · exact hs.edges a b he
  · exact himports

/-- Storing the schema of a served document. -/
theorem Rooted.store (hs : s.Rooted env) {id : SchemaIdentifier} {schema : Schema} {t : Tree .bound}
    (hvalid : (s.store id schema).Valid) (ht : env.bound? id = some t) (hc : t.Compiled schema) :
    (s.store id schema).Rooted env where
  valid := hvalid
  edges := hs.edges
  compiled := (hs.faithful.store hvalid ht hc).compiled
  nodup := by
    refine List.nodup_cons.mpr ⟨by simp, ?_⟩
    exact hs.nodup.sublist (List.filter_sublist.map _)

theorem length_cache_store {id : SchemaIdentifier} (schema : Schema) (h : s.cached? id = none) :
    (s.store id schema).cache.length = s.cache.length + 1 := by
  have hall : s.cache.filter (·.1 ≠ id) = s.cache := by
    refine List.filter_eq_self.mpr fun e he => ?_
    have hne := List.lookup_eq_none_iff.mp h e he
    exact decide_eq_true (bne_iff_ne.mp hne).symm
  simp only [store, List.length_cons, hall]

end Session

open Session

/-! ## Loading -/

/-- Loading an import of a served document adds only what the import leads to. -/
def Loading.Gains (env : Environment) (load : Loading) : Prop :=
  ∀ requester target (s : Session), s.Rooted env → env.Imports requester target →
    Session.Gains env (· ∈ env.closure target)
      (∃ schema, (load requester target s).value = .ok schema) s
      (load requester target s).state (load requester target s).issues

variable {env : Environment} {load : Loading}

/-- Loading the imports of a served document one by one. -/
theorem loadImports_gains (hl : load.Gains env) (owner : SchemaIdentifier)
    (ns : List (ImportNode .bound)) (hns : ∀ n ∈ ns, env.Imports owner n.data) {s : Session}
    (hs : s.Rooted env) :
    Gains env (fun id => ∃ n ∈ ns, id ∈ env.closure n.data)
      ((loadImports load owner ns s).failed = false) s
      (loadImports load owner ns s).session (loadImports load owner ns s).issues := by
  induction ns generalizing s with
  | nil => exact .refl hs
  | cons n ns ih =>
    have hfirst := hl owner n.data s hs (hns n List.mem_cons_self)
    have hrest := ih (fun n' hn' => hns n' (List.mem_cons_of_mem _ hn')) hfirst.rooted
    -- What is cached is accounted for however the imports end; the counts only if none failed.
    have honly : ∀ id, ((loadImports load owner ns (load owner n.data s).state).session.cached?
        id).isSome → (s.cached? id).isSome ∨ ∃ n' ∈ n :: ns, id ∈ env.closure n'.data := by
      intro id hid
      rcases hrest.only id hid with hid | ⟨n', hn', hid⟩
      · exact (hfirst.only id hid).imp_right fun h => ⟨n, List.mem_cons_self, h⟩
      · exact .inr ⟨n', List.mem_cons_of_mem _ hn', hid⟩
    unfold loadImports
    simp only
    split
    · rename_i schema hv
      refine ⟨hrest.rooted, honly, fun hf => ?_, fun hf i hi => ?_⟩
      · have h₁ := hfirst.count ⟨schema, hv⟩
        have h₂ := hrest.count hf
        simp only
        omega
      · rcases List.mem_append.mp hi with hi | hi
        · exact hfirst.quiet ⟨schema, hv⟩ i hi
        · exact hrest.quiet hf i hi
    · refine ⟨hrest.rooted, honly, ?_, ?_⟩ <;>
      · intro hf
        cases hf

/-- Typing a bound document loads its imports. -/
theorem typeWith_gains (hl : load.Gains env) {id : SchemaIdentifier} {b : Tree .bound}
    (hb : env.bound? id = some b) {s : Session} (hs : s.Rooted env) :
    Gains env (· ∈ env.closure id) ((loadImports load b.data b.imports s).failed = false) s
      (b.typeWith load s).state (loadImports load b.data b.imports s).issues := by
  have himports : ∀ n ∈ b.imports, env.Imports b.data n.data := by
    intro n hn
    rw [(Environment.bound?_eq_some hb).1]
    exact ⟨b, hb, List.mem_map_of_mem hn⟩
  rw [Tree.state_typeWith]
  refine (loadImports_gains hl b.data b.imports himports hs).mono fun x ⟨n, hn, hx⟩ => ?_
  rw [← (Environment.bound?_eq_some hb).1]
  exact Environment.closure_subset (himports n hn) hx

/-- Compiling the tree of a served document, which is not cached. `s` has not counted it yet. -/
theorem compileTree_gains (hk : load.Keeps) (hl : load.Gains env) {tree : Tree .parsed}
    (hserved : env.served? tree.identifier = some tree) {s c : Session} (hs : s.Rooted env)
    (hcache : c.cache = s.cache) (hgraph : c.graph = s.graph)
    (hcount : c.compilations = s.compilations + 1) (hnew : s.cached? tree.identifier = none) :
    Gains env (· ∈ env.closure tree.identifier)
      (∃ schema, (c.compileTree load tree).value = .ok (some schema)) s
      (c.compileTree load tree).state (c.compileTree load tree).issues := by
  have hcr : c.Rooted env := hs.of_eq hcache hgraph
  have hcached : ∀ id, c.cached? id = s.cached? id := fun id => by rw [cached?, cached?, hcache]
  rw [← hcached] at hnew
  have hvalid := (compileTree_advances hk tree hcr.valid hnew).1.valid
  have ho := compilesTree load tree c
  generalize c.compileTree load tree = o at ho hvalid
  rcases ho with hb | @⟨b, schema, hb, ht⟩ | @⟨b, hb, ht⟩ | @⟨b, hb, ht⟩
  · exact .failure hs hcache hgraph (by simp)
  · have hbound := Environment.bound?_of_served? hserved hb
    have hgains := typeWith_gains hl hbound hcr
    obtain ⟨hfailed, -, hcompiled⟩ := Tree.typeWith_eq_ok.mp ht
    have hstill : (b.typeWith load c).state.cached? tree.identifier = none := by
      rw [Tree.state_typeWith, (Tree.bind_eq_some hb).data_eq]
      exact (loadImports_advances hk _ b.imports _ hcr.valid).1.quiet _ .refl hnew
    refine ⟨hgains.rooted.store hvalid hbound hcompiled, fun id hid => ?_, fun _ => ?_, fun _ => ?_⟩
    · by_cases h : id = tree.identifier
      · exact .inr (h ▸ Environment.mem_closure_self)
      · rw [cached?_store_ne h] at hid
        exact hcached id ▸ hgains.only id hid
    · -- Of the compilations, the one for this schema was counted before its imports were loaded.
      have h₁ := hgains.count hfailed
      have h₂ := length_cache_store schema hstill
      rw [hcache, hcount] at h₁
      simp only [Session.store] at h₂ ⊢
      omega
    · rw [Tree.issues_typeWith_of_ok ht]
      exact hgains.quiet hfailed
  · have hgains := typeWith_gains hl (Environment.bound?_of_served? hserved hb) hcr
    refine ⟨hgains.rooted.of_eq cache_blame graph_blame, fun id hid => ?_, by simp, by simp⟩
    rw [cached?_blame] at hid
    exact hcached id ▸ hgains.only id hid
  · have hgains := typeWith_gains hl (Environment.bound?_of_served? hserved hb) hcr
    exact ⟨hgains.rooted, fun id hid => hcached id ▸ hgains.only id hid, by simp, by simp⟩

/-- Opening and compiling a schema that is not cached. -/
theorem fetchWith_gains (henv : env.parser.languages = [.version1]) (hk : load.Keeps)
    (hl : load.Gains env) (target : SchemaIdentifier) (level : Nat) {s : Session}
    (hs : s.Rooted env) (hnew : s.cached? target = none) :
    Gains env (· ∈ env.closure target)
      (∃ schema, (s.fetchWith env load target level).value = .ok schema) s
      (s.fetchWith env load target level).state (s.fetchWith env load target level).issues := by
  have hf := fetches env load target level s
  generalize s.fetchWith env load target level = o at hf
  rcases hf with ⟨-, hcache, hgraph⟩ | @⟨opened, tree, _, hserved, rfl, hparse, rfl⟩
  · exact .failure hs hcache hgraph (by simp)
  · have hgains := compileTree_gains (c := (s.recordOpening tree.identifier level).countCompilation)
      hk hl hserved hs rfl rfl rfl hnew
    simp only [loaded_eq_ok]
    refine ⟨hgains.rooted, hgains.only, hgains.count, fun h i hi => ?_⟩
    rcases List.mem_append.mp hi with hi | hi
    · exact (parseOpened_eq_some henv hparse).2 i hi
    · exact hgains.quiet h i hi

/-- **Loading** adds only what the import leads to, however many levels of imports are left. -/
theorem load_gains (henv : env.parser.languages = [.version1]) (levels : Nat) :
    (Session.load env levels).Gains env := by
  induction levels with
  | zero =>
    intro requester target s hs himports
    simp only [Session.load]
    split
    · exact .refl hs
    · exact .failure hs rfl rfl (by simp)
  | succ levels ih =>
    intro requester target s hs himports
    simp only [Session.load]
    split
    · exact .refl hs
    · rename_i hnew
      split
      · exact .failure hs rfl rfl (by simp)
      · rename_i g hg
        have hgains := fetchWith_gains henv (load_keeps env levels) ih target
          (env.maxImportDepth - levels) (hs.with_edge himports hg) hnew
        exact ⟨hgains.rooted, hgains.only, hgains.count, hgains.quiet⟩

/-- Loading a schema that nothing imports. -/
theorem loadRoot_gains (henv : env.parser.languages = [.version1]) (target : SchemaIdentifier)
    {s : Session} (hs : s.Rooted env) :
    Gains env (· ∈ env.closure target) (∃ schema, (s.loadRoot env target).value = .ok schema) s
      (s.loadRoot env target).state (s.loadRoot env target).issues := by
  unfold Session.loadRoot
  split
  · exact .refl hs
  · rename_i hnew
    have hgains := fetchWith_gains henv (load_keeps env env.maxImportDepth)
      (load_gains henv env.maxImportDepth) target 0 (hs.mention target) hnew
    exact ⟨hgains.rooted, hgains.only, hgains.count, hgains.quiet⟩

namespace Session

/-! ## Operations -/

/-- The operations that load schemas which nothing imports: directly, or in a resolution. -/
def Operation.FromRoot : Operation → Prop
  | .loadRoot _ | .find _ | .resolve _ => True
  | .load _ _ | .compileDocument _ _ | .typeTree _ => False

theorem after_rooted (henv : env.parser.languages = [.version1]) {op : Operation}
    (hop : op.FromRoot) {s : Session} (hs : s.Rooted env) : (s.after env op).Rooted env := by
  cases op with
  | loadRoot target => exact (loadRoot_gains henv target hs).rooted
  | find target => exact (loadRoot_gains henv target hs).rooted
  | resolve table =>
    exact Walk.resolve_keeps (p := Rooted env) (fun id s hs => (loadRoot_gains henv id hs).rooted) table hs
  | load _ _ => cases hop
  | compileDocument _ _ => cases hop
  | typeTree _ => cases hop

theorem run_rooted (henv : env.parser.languages = [.version1]) {ops : List Operation}
    (hops : ∀ op ∈ ops, op.FromRoot) : (run env ops).Rooted env := by
  have hfold : ∀ s : Session, s.Rooted env → (ops.foldl (after env) s).Rooted env := by
    induction ops with
    | nil => exact fun s hs => hs
    | cons op ops ih =>
      exact fun s hs => ih (fun o ho => hops o (List.mem_cons_of_mem _ ho)) _
        (after_rooted henv (hops op List.mem_cons_self) hs)
  exact hfold fresh rooted_fresh

end Session

end MetaSchema
