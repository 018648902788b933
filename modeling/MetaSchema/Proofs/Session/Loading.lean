import MetaSchema.Proofs.Session.Cache
import MetaSchema.Proofs.Session.Compiled
import MetaSchema.Proofs.Session.Served

/-!
# Loading keeps a session valid

* `Session.Advances`: a valid session grows, and schemas that are pending stay uncached.
* `Loading.Keeps`: a way of loading imports that only advances the session. The schemas whose
  compilation leads to a load reach its requester in the import graph, so they are the pending ones.
* `CompilesTree`: what compiling a tree can do.
* `compileTree_advances`, `fetchWith_advances`, `load_keeps`: every level of loading advances the
  session, by induction on the number of levels that are left.
* `loadRoot_advances`, `compileDocument_advances`, `typeTree_advances`: so do the operations that
  start with a schema that nothing imports.
-/

namespace MetaSchema

namespace Session

/-- From one valid session to another that has all of the first, without any of the `pending` schemas
becoming cached. -/
structure Advances (pending : SchemaIdentifier → Prop) (s s' : Session) : Prop where
  valid : s'.Valid
  grows : s.Extends s'
  quiet : ∀ x, pending x → s.cached? x = none → s'.cached? x = none

variable {pending : SchemaIdentifier → Prop} {s s' s'' : Session}

theorem Advances.refl (hs : s.Valid) : Advances pending s s := ⟨hs, .refl s, fun _ _ h => h⟩

theorem Advances.trans (h : Advances pending s s') (h' : Advances pending s' s'') :
    Advances pending s s'' :=
  ⟨h'.valid, h.grows.trans h'.grows, fun x hx hn => h'.quiet x hx (h.quiet x hx hn)⟩

theorem Advances.mono {fewer : SchemaIdentifier → Prop} (h : Advances pending s s')
    (hp : ∀ x, fewer x → pending x) : Advances fewer s s' :=
  ⟨h.valid, h.grows, fun x hx => h.quiet x (hp x hx)⟩

/-- A change that touches neither the cache nor the graph. -/
theorem Advances.of_eq (hs : s.Valid) (hc : s'.cache = s.cache) (hg : s'.graph = s.graph) :
    Advances pending s s' := by
  -- All that is said of a cache is said of `cached?` or `Imports`.
  have hcached : s'.cached? = s.cached? := by
    funext id
    rw [cached?, hc]
    rfl
  have himports : s'.Imports = s.Imports := by
    unfold Imports
    rw [hcached]
  refine ⟨⟨hg ▸ hs.graph, ?_, ?_, ?_, ?_, ?_⟩, ⟨?_, ?_⟩, ?_⟩
  · exact hcached ▸ hs.cache.identifier_eq
  · exact hcached ▸ hs.cache.wellFormed
  · exact hcached ▸ hs.cache.imports_cached
  · intro id schema h r hr
    rw [hcached] at h
    have hgrows : s.Extends s' := ⟨fun _ _ h => hcached ▸ h, fun _ _ h => hg ▸ h⟩
    exact hgrows.resolves (hs.cache.resolves id schema h r hr)
  · rw [himports]
    exact hs.cache.acyclic
  · exact fun _ _ h => hcached ▸ h
  · exact fun _ _ h => hg ▸ h
  · exact fun _ _ h => hcached ▸ h

/-- Recording more of the graph. -/
theorem Valid.with_graph (hs : s.Valid) {g : ImportGraph} (hg : g.WellFormed)
    (he : ∀ a b, s.graph.Edge a b → g.Edge a b) : Advances pending s { s with graph := g } :=
  ⟨⟨hg, hs.cache.identifier_eq, hs.cache.wellFormed, hs.cache.imports_cached, hs.cache.resolves,
    hs.cache.acyclic⟩, ⟨fun _ _ h => h, he⟩, fun _ _ h => h⟩

/-- Recording an import. -/
theorem Valid.advances_edge (hs : s.Valid) {requester target : SchemaIdentifier} {g : ImportGraph}
    (hg : s.graph.addEdge? requester target = .ok g) : Advances pending s { s with graph := g } := by
  obtain ⟨-, hi⟩ := ImportGraph.inserted_of_addEdge? hs.graph hg
  exact hs.with_graph hi.wellFormed fun a b he => (hi.edge_iff a b).mpr (.inl he)

end Session

open Session

/-! ## Loading imports -/

/-- Loading as an import of `requester` advances the session, with everything that reaches
`requester` pending; what it gives is cached. -/
def Loading.Keeps (load : Loading) : Prop :=
  ∀ requester target (s : Session), s.Valid →
    Advances (s.graph.Reaches · requester) s (load requester target s).state ∧
    ∀ schema, (load requester target s).value = .ok schema →
      (load requester target s).state.cached? target = some schema

variable {load : Loading}

/-- The last import is loaded in the session that the ones before it left. -/
theorem session_loadImports_concat (load : Loading) (owner : SchemaIdentifier)
    (ns : List (ImportNode .bound)) (n : ImportNode .bound) (s : Session) :
    (loadImports load owner (ns ++ [n]) s).session =
      (load owner n.data (loadImports load owner ns s).session).state := by
  have hcons : ∀ (n : ImportNode .bound) ns s, (loadImports load owner (n :: ns) s).session =
      (loadImports load owner ns (load owner n.data s).state).session := by
    intro n ns s
    rw [loadImports]
    split <;> rfl
  induction ns generalizing s with
  | nil => exact hcons n [] s
  | cons first ns ih => rw [List.cons_append, hcons, hcons, ih]

/-- Loading the imports of a schema one by one. -/
theorem loadImports_advances (hl : load.Keeps) (owner : SchemaIdentifier)
    (ns : List (ImportNode .bound)) (s : Session) (hs : s.Valid) :
    Advances (s.graph.Reaches · owner) s (loadImports load owner ns s).session ∧
    ((loadImports load owner ns s).failed = false →
      List.Forall₂ (fun n e => e.1 = n.data.name ∧
        (loadImports load owner ns s).session.cached? n.data = some e.2)
      ns (loadImports load owner ns s).schemas) := by
  induction ns generalizing s with
  | nil => exact ⟨.refl hs, fun _ => .nil⟩
  | cons n ns ih =>
    obtain ⟨hfirst, hcached⟩ := hl owner n.data s hs
    obtain ⟨hrest, hall⟩ := ih _ hfirst.valid
    have hadv := hfirst.trans (hrest.mono fun x hx => hfirst.grows.reaches hx)
    unfold loadImports
    simp only
    split
    · rename_i schema hv
      refine ⟨hadv, fun hf => .cons ⟨rfl, ?_⟩ (hall hf)⟩
      exact hrest.grows.cached _ _ (hcached schema hv)
    · exact ⟨hadv, fun hf => by cases hf⟩

/-! ## Compiling a tree -/

/-- What compiling a tree can do. -/
inductive CompilesTree (load : Loading) (tree : Tree .parsed) (s : Session) :
    Outcome Session (Except Defect (Option Schema)) → Prop
  | unbound (hb : tree.bind.value = none) :
      CompilesTree load tree s ⟨s, .ok none, tree.bind.issues⟩
  | stored {b : Tree .bound} {schema : Schema} (hb : tree.bind.value = some b)
      (ht : (b.typeWith load s).value = .ok schema) :
      CompilesTree load tree s
        ⟨(b.typeWith load s).state.store tree.identifier schema, .ok (some schema),
          (b.typeWith load s).issues⟩
  | imports {b : Tree .bound} (hb : tree.bind.value = some b)
      (ht : (b.typeWith load s).value = .error .imports) :
      CompilesTree load tree s
        ⟨(b.typeWith load s).state.blame tree.identifier, .ok none, (b.typeWith load s).issues⟩
  | schema {b : Tree .bound} (hb : tree.bind.value = some b)
      (ht : (b.typeWith load s).value = .error .schema) :
      CompilesTree load tree s ⟨(b.typeWith load s).state, .ok none, (b.typeWith load s).issues⟩

/-- Binding never changes the number of declarations, so compiling a tree has no defect. -/
theorem compilesTree (load : Loading) (tree : Tree .parsed) (s : Session) :
    CompilesTree load tree s (s.compileTree load tree) := by
  unfold Session.compileTree
  cases hb : tree.bind.value with
  | none =>
    simp only [hb]
    exact .unbound hb
  | some b =>
    have hcounts := (Tree.bind_eq_some hb).counts_eq
    have hissues := Tree.issues_of_bind_eq_some hb
    simp only [hb, hissues, hcounts, ne_eq, not_true_eq_false, ↓reduceIte, List.nil_append]
    split
    · rename_i schema ht
      exact .stored hb ht
    · rename_i ht
      exact .imports hb ht
    · rename_i ht
      exact .schema hb ht

/-- A schema that was typed can be stored: its imports are cached, and it is not. -/
theorem store_advances (hl : load.Keeps) {tree : Tree .parsed} {b : Tree .bound} {schema : Schema}
    {s : Session} (hs : s.Valid) (hnew : s.cached? tree.identifier = none)
    (hb : tree.BoundTo b) (ht : (b.typeWith load s).value = .ok schema) :
    Advances (fun x => x ≠ tree.identifier ∧ s.graph.Reaches x tree.identifier) s
      ((b.typeWith load s).state.store tree.identifier schema) := by
  obtain ⟨hadv, hloaded⟩ := loadImports_advances hl b.data b.imports s hs
  obtain ⟨hfailed, hdeclared, hc⟩ := Tree.typeWith_eq_ok.mp ht
  rw [Tree.state_typeWith]
  generalize loadImports load b.data b.imports s = loaded at *
  have hloaded := hloaded hfailed
  rw [hb.data_eq] at hadv
  -- Loading the imports has not cached the schema, as it stands above them.
  have hnew' : loaded.session.cached? tree.identifier = none := hadv.quiet _ .refl hnew
  have himported : ∀ n ∈ b.imports, ∃ e ∈ loaded.schemas, e.1 = n.data.name ∧
      loaded.session.cached? n.data = some e.2 := fun n hn => forall₂_exists_right hloaded hn
  have hmem : ∀ n ∈ b.imports, n.data ∈ schema.imports := by
    intro n hn
    rw [hc.imports_eq]
    exact List.mem_map.mpr ⟨n, hn, rfl⟩
  have hvalid : (loaded.session.store tree.identifier schema).Valid := by
    refine hadv.valid.store hnew' (hc.identifier_eq.trans hb.data_eq) (hc.wellFormed hb) ?_ ?_
    · intro i hi
      rw [hc.imports_eq] at hi
      obtain ⟨n, hn, rfl⟩ := List.mem_map.mp hi
      obtain ⟨e, -, -, hcached⟩ := himported n hn
      exact ⟨e.2, hcached⟩
    · intro r hr
      obtain ⟨br, hbr, rfl⟩ := hc.mem_references hr
      have hd := hdeclared br hbr
      rcases hb.mem_references hbr with ⟨p, rfl⟩ | ⟨name, rfl, hn⟩ | ⟨n, hn, name, rfl⟩
      · trivial
      · exact .inl ⟨(hc.name_eq hb).symm, hc.declares.mpr hn⟩
      · -- The schema that was looked up is the one that the import names.
        obtain ⟨imported, hlookup, hd⟩ := hd
        obtain ⟨n', hn', hname, hcached⟩ := forall₂_exists_left hloaded (mem_of_lookup hlookup)
        exact .inr ⟨n'.data, hmem n' hn', hname.symm, imported, hcached, hd⟩
  refine ⟨hvalid, hadv.grows.trans (extends_store hnew'), ?_⟩
  rintro x ⟨hne, hx⟩ hn
  rw [cached?_store_ne hne]
  exact hadv.quiet x hx hn

/-- Compiling a tree whose schema is not cached. -/
theorem compileTree_advances (hl : load.Keeps) (tree : Tree .parsed) {s : Session} (hs : s.Valid)
    (hnew : s.cached? tree.identifier = none) :
    Advances (fun x => x ≠ tree.identifier ∧ s.graph.Reaches x tree.identifier) s
      (s.compileTree load tree).state ∧
    ∀ schema, (s.compileTree load tree).value = .ok (some schema) →
      (s.compileTree load tree).state.cached? tree.identifier = some schema := by
  have hc := compilesTree load tree s
  generalize s.compileTree load tree = o at hc
  -- What happens before the tree is stored or given up is the loading of its imports.
  have hloads : ∀ {b : Tree .bound}, tree.bind.value = some b →
      Advances (fun x => x ≠ tree.identifier ∧ s.graph.Reaches x tree.identifier) s
        (b.typeWith load s).state := by
    intro b hb
    rw [Tree.state_typeWith, (Tree.bind_eq_some hb).data_eq]
    exact (loadImports_advances hl _ _ s hs).1.mono fun x hx => hx.2
  rcases hc with hb | ⟨hb, ht⟩ | ⟨hb, ht⟩ | ⟨hb, ht⟩
  · exact ⟨.refl hs, fun _ h => by cases h⟩
  · refine ⟨store_advances hl hs hnew (Tree.bind_eq_some hb) ht, fun schema h => ?_⟩
    cases h
    exact cached?_store_self
  · exact ⟨(hloads hb).trans (.of_eq (hloads hb).valid cache_blame graph_blame),
      fun _ h => by cases h⟩
  · exact ⟨hloads hb, fun _ h => by cases h⟩

/-! ## Loading a schema -/

/-- Opening and compiling a schema that is not cached. -/
theorem fetchWith_advances (hl : load.Keeps) (env : Environment) (target : SchemaIdentifier)
    (level : Nat) {s : Session} (hs : s.Valid) (hnew : s.cached? target = none) :
    Advances (fun x => x ≠ target ∧ s.graph.Reaches x target) s
      (s.fetchWith env load target level).state ∧
    ∀ schema, (s.fetchWith env load target level).value = .ok schema →
      (s.fetchWith env load target level).state.cached? target = some schema := by
  have hf := fetches env load target level s
  generalize s.fetchWith env load target level = o at hf
  rcases hf with ⟨-, hcache, hgraph⟩ | ⟨-, rfl, -, rfl⟩
  · exact ⟨.of_eq hs hcache hgraph, fun _ h => by cases h⟩
  · rename_i tree
    have hopened : Advances (fun x => x ≠ tree.identifier ∧ s.graph.Reaches x tree.identifier) s
        (s.recordOpening tree.identifier level).countCompilation := .of_eq hs rfl rfl
    obtain ⟨hadv, hcached⟩ := compileTree_advances hl tree hopened.valid hnew
    exact ⟨hopened.trans hadv, fun schema h => hcached schema (loaded_eq_ok.mp h)⟩

/-- **Loading.** However many levels of imports are left, loading an import advances the session. -/
theorem load_keeps (env : Environment) (levels : Nat) : (Session.load env levels).Keeps := by
  induction levels with
  | zero =>
    intro requester target s hs
    simp only [Session.load]
    split
    · rename_i schema hc
      refine ⟨.refl hs, fun _ h => ?_⟩
      cases h
      exact hc
    · exact ⟨.refl hs, fun _ h => by cases h⟩
  | succ levels ih =>
    intro requester target s hs
    simp only [Session.load]
    split
    · rename_i schema hc
      refine ⟨.refl hs, fun _ h => ?_⟩
      cases h
      exact hc
    · rename_i hnew
      split
      · exact ⟨.refl hs, fun _ h => by cases h⟩
      · rename_i g hg
        obtain ⟨hback, hi⟩ := ImportGraph.inserted_of_addEdge? hs.graph hg
        have hrecorded : Advances (s.graph.Reaches · requester) s { s with graph := g } :=
          hs.advances_edge hg
        obtain ⟨hadv, hcached⟩ :=
          fetchWith_advances ih env target (env.maxImportDepth - levels) hrecorded.valid hnew
        refine ⟨hrecorded.trans (hadv.mono fun x hx => ⟨?_, ?_⟩), hcached⟩
        · -- The target does not reach the requester, or the edge would have been refused.
          rintro rfl
          exact hback hx
        · exact (hi.reaches hx).tail hi.edge

/-- Recording a schema. -/
theorem mention_advances {s : Session} (hs : s.Valid) (id : SchemaIdentifier) :
    Advances (fun _ => False) s (s.mention id) :=
  hs.with_graph (hs.graph.addVertex id) fun a b he => by rwa [ImportGraph.edge_addVertex]

/-- Loading a schema that nothing imports. -/
theorem loadRoot_advances (env : Environment) (target : SchemaIdentifier) {s : Session}
    (hs : s.Valid) : Advances (fun _ => False) s (s.loadRoot env target).state := by
  unfold Session.loadRoot
  split
  · exact .refl hs
  · rename_i hnew
    have hmention := mention_advances hs target
    have hf := fetchWith_advances (load_keeps env env.maxImportDepth) env target 0 hmention.valid hnew
    exact hmention.trans (hf.1.mono fun _ h => h.elim)

theorem loadRoot_of_cached {env : Environment} {target : SchemaIdentifier} {s : Session}
    {schema : Schema} (h : s.cached? target = some schema) :
    s.loadRoot env target = ⟨s, .ok schema, []⟩ := by
  simp [Session.loadRoot, h]

/-- A schema that was loaded is cached. -/
theorem cached?_loadRoot {env : Environment} {target : SchemaIdentifier} {s : Session}
    (hs : s.Valid) {schema : Schema} (h : (s.loadRoot env target).value = .ok schema) :
    (s.loadRoot env target).state.cached? target = some schema := by
  cases hc : s.cached? target with
  | some old =>
    rw [loadRoot_of_cached hc] at h ⊢
    cases h
    exact hc
  | none =>
    have hmention := mention_advances hs target
    have hf := fetchWith_advances (load_keeps env env.maxImportDepth) env target 0 hmention.valid hc
    unfold Session.loadRoot at h ⊢
    simp only [hc] at h ⊢
    exact hf.2 schema h

/-- Compiling a document that the source does not provide. -/
theorem compileDocument_advances (env : Environment) (uri : String) (document : Text.Octets)
    {s : Session} (hs : s.Valid) :
    Advances (fun _ => False) s (s.compileDocument env uri document).state := by
  have hcounted : Advances (fun _ => False) s s.countCompilation := .of_eq hs rfl rfl
  have hcompiled : Advances (fun _ => False) s (s.compileWith env.parser
      (Session.load env env.maxImportDepth) ⟨uri, .ok document⟩ none).state := by
    unfold Session.compileWith
    simp only
    split
    · exact hcounted
    · rename_i tree _
      unfold Session.compileParsed
      simp only
      split
      · exact hcounted
      · rename_i hnew
        have hmention := mention_advances hcounted.valid tree.identifier
        have hadv := compileTree_advances (load_keeps env env.maxImportDepth) tree hmention.valid hnew
        exact hcounted.trans (hmention.trans (hadv.1.mono fun _ h => h.elim))
  unfold Session.compileDocument
  simp only
  split <;> exact hcompiled

/-- Typing a tree on its own. -/
theorem typeTree_advances (env : Environment) (t : Tree .bound) {s : Session} (hs : s.Valid) :
    Advances (fun _ => False) s (s.typeTree env t).state := by
  unfold Session.typeTree
  rw [Tree.state_typeWith]
  have hl := loadImports_advances (load_keeps env (env.maxImportDepth + 1)) t.data t.imports s hs
  exact hl.1.mono fun _ h => h.elim

end MetaSchema
