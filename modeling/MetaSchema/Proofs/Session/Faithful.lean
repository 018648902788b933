import MetaSchema.Proofs.Session.Loading
import Mathlib.Data.List.Induction
import Mathlib.Data.List.Nodup

/-!
# Sessions that agree with their source

* `Session.Faithful`: each cached schema is what the document that is served for it says. The graph may
  have any edges.
* `Faithful.cached_closure`, `Faithful.compilable`: what is cached is compilable, with all that imports
  lead to, and all of it is cached.
* `Session.Explores`: from one such session to another in which only some schemas were added, and edges
  only to these.
* `load_explores`: loading a schema explores what imports lead to, by induction on the number of levels
  that are left.
* `compileDocument_faithful`: a document that the source does not provide leaves nothing behind in the
  cache if it fails.
-/

namespace MetaSchema

open Relation (ReflTransGen TransGen)

/-- The imports of a schema, and of all that they lead to. -/
def Environment.ImportsFrom (env : Environment) (id a b : SchemaIdentifier) : Prop :=
  a ∈ env.closure id ∧ env.Imports a b

namespace Session

/-- What is cached is what the source serves. -/
structure Faithful (env : Environment) (s : Session) : Prop where
  valid : s.Valid
  compiled : ∀ id schema, s.cached? id = some schema →
    ∃ t, env.bound? id = some t ∧ t.Compiled schema

/-- From one session that agrees with its source to another, in which only schemas in `p` and edges in `q`
were added. -/
structure Explores (env : Environment) (p : SchemaIdentifier → Prop)
    (q : SchemaIdentifier → SchemaIdentifier → Prop) (s s' : Session) : Prop where
  faithful : s'.Faithful env
  grows : s.Extends s'
  cached : ∀ id, (s'.cached? id).isSome → (s.cached? id).isSome ∨ p id
  edges : ∀ a b, s'.graph.Edge a b → s.graph.Edge a b ∨ q a b

variable {env : Environment} {p : SchemaIdentifier → Prop} {s s' s'' : Session}

theorem faithful_fresh : fresh.Faithful env := ⟨valid_fresh, fun _ _ h => by cases h⟩

namespace Faithful

/-- A cached schema is what the document that binds for it says. -/
theorem compiled_of_bound? (hs : s.Faithful env) {id : SchemaIdentifier} {schema : Schema}
    (hc : s.cached? id = some schema) {b : Tree .bound} (hb : env.bound? id = some b) :
    b.Compiled schema := by
  obtain ⟨t, ht, hcompiled⟩ := hs.compiled id schema hc
  rw [hb, Option.some.injEq] at ht
  exact ht ▸ hcompiled

/-- No two sessions disagree on a schema. -/
theorem cached_unique (hs : s.Faithful env) (hs' : s'.Faithful env) {id : SchemaIdentifier}
    {schema schema' : Schema} (hc : s.cached? id = some schema) (hc' : s'.cached? id = some schema') :
    schema = schema' := by
  obtain ⟨t, ht, hcompiled⟩ := hs.compiled id schema hc
  exact hcompiled.unique (hs'.compiled_of_bound? hc' ht)

/-- A change that touches neither the cache nor the graph. -/
theorem of_eq (hs : s.Faithful env) (hc : s'.cache = s.cache) (hg : s'.graph = s.graph) :
    s'.Faithful env where
  valid := (Advances.of_eq hs.valid hc hg : Advances (fun _ => False) s s').valid
  compiled := by
    intro id schema h
    rw [cached?, hc] at h
    exact hs.compiled id schema h

/-- The imports of the document of a cached schema are those of the schema, and cached. -/
theorem imports (hs : s.Faithful env) {a b : SchemaIdentifier} (ha : (s.cached? a).isSome)
    (h : env.Imports a b) : s.Imports a b ∧ (s.cached? b).isSome := by
  obtain ⟨schema, hc⟩ := Option.isSome_iff_exists.mp ha
  obtain ⟨t, ht, hb⟩ := h
  rw [← (hs.compiled_of_bound? hc ht).imports_eq] at hb
  exact ⟨⟨schema, hc, hb⟩, Option.isSome_iff_exists.mpr (hs.valid.cache.imports_cached a schema hc b hb)⟩

/-- All that imports lead to from a cached schema is cached. -/
theorem cached_closure (hs : s.Faithful env) {a : SchemaIdentifier} (ha : (s.cached? a).isSome)
    {id : SchemaIdentifier} (hid : id ∈ env.closure a) : (s.cached? id).isSome :=
  reflTransGen_mem (p := fun x => (s.cached? x).isSome) (fun _ _ hx h => (hs.imports hx h).2) ha hid

theorem transGen_imports (hs : s.Faithful env) {a b : SchemaIdentifier} (ha : (s.cached? a).isSome)
    (h : TransGen env.Imports a b) : TransGen s.Imports a b := by
  induction h with
  | single h => exact .single (hs.imports ha h).1
  | tail hab h ih => exact ih.tail (hs.imports (hs.cached_closure ha hab.to_reflTransGen) h).1

/-- What the document of a cached schema refers to in an import is declared by the document of that
import. -/
theorem declared (hs : s.Faithful env) {a : SchemaIdentifier} (ha : (s.cached? a).isSome)
    {t : Tree .bound} (ht : env.bound? a = some t) {i : SchemaIdentifier} {name : TypeName}
    (hr : .imported i name ∈ t.references) :
    ∃ u, env.bound? i = some u ∧ name ∈ u.types.map TypeNode.name := by
  obtain ⟨schema, hc⟩ := Option.isSome_iff_exists.mp ha
  have hcompiled := hs.compiled_of_bound? hc ht
  obtain ⟨-, tree, -, hb⟩ := Environment.bound?_eq_some ht
  have hwf := hs.valid.cache.wellFormed a schema hc
  have hi : i ∈ schema.imports := by
    rcases hb.mem_references hr with ⟨_, h⟩ | ⟨_, h, -⟩ | ⟨n, hn, _, h⟩
    · cases h
    · cases h
    · cases h
      rw [hcompiled.imports_eq]
      exact List.mem_map_of_mem hn
  rcases hs.valid.cache.resolves a schema hc _ (hcompiled.type_mem_references hr) with
    ⟨hname, -⟩ | ⟨j, hj, hname, imported, hcached, hd⟩
  · exact (hwf.imports_ne i hi hname).elim
  · -- No two imports have one name.
    obtain rfl : j = i := List.inj_on_of_nodup_map hwf.imports_nodup hj hi hname
    obtain ⟨u, hu, hcu⟩ := hs.compiled j imported hcached
    exact ⟨u, hu, hcu.declares.mp hd⟩

/-- **A cached schema is compilable.** -/
theorem compilable (hs : s.Faithful env) {target : SchemaIdentifier}
    (h : (s.cached? target).isSome) : env.Compilable target where
  bound := by
    intro id hid
    obtain ⟨schema, hc⟩ := Option.isSome_iff_exists.mp (hs.cached_closure h hid)
    obtain ⟨t, ht, -⟩ := hs.compiled id schema hc
    exact ⟨t, ht⟩
  acyclic := fun id hid hcycle =>
    hs.valid.cache.acyclic id (hs.transGen_imports (hs.cached_closure h hid) hcycle)
  declared := fun _ hid _ ht _ _ hr => hs.declared (hs.cached_closure h hid) ht hr

/-- Recording more of the graph. -/
theorem with_graph (hs : s.Faithful env) {g : ImportGraph} (hg : g.WellFormed)
    (hsub : ∀ a b, s.graph.Edge a b → g.Edge a b) : Faithful env { s with graph := g } := by
  have hadv : Advances (fun _ => False) s { s with graph := g } := hs.valid.with_graph hg hsub
  exact ⟨hadv.valid, hs.compiled⟩

theorem mention (hs : s.Faithful env) (id : SchemaIdentifier) : (s.mention id).Faithful env := by
  refine hs.with_graph (hs.valid.graph.addVertex id) fun a b he => ?_
  rwa [ImportGraph.edge_addVertex]

/-- Storing the schema of a served document. -/
theorem store (hs : s.Faithful env) {id : SchemaIdentifier} {schema : Schema} {t : Tree .bound}
    (hvalid : (s.store id schema).Valid) (ht : env.bound? id = some t) (hc : t.Compiled schema) :
    (s.store id schema).Faithful env where
  valid := hvalid
  compiled := by
    intro other old h
    by_cases ho : other = id
    · subst ho
      rw [cached?_store_self] at h
      cases h
      exact ⟨t, ht, hc⟩
    · rw [cached?_store_ne ho] at h
      exact hs.compiled other old h

end Faithful

variable {q : SchemaIdentifier → SchemaIdentifier → Prop}

theorem Explores.refl (hs : s.Faithful env) : Explores env p q s s :=
  ⟨hs, .refl s, fun _ h => .inl h, fun _ _ h => .inl h⟩

theorem Explores.trans (h : Explores env p q s s') (h' : Explores env p q s' s'') :
    Explores env p q s s'' where
  faithful := h'.faithful
  grows := h.grows.trans h'.grows
  cached := fun id hid => (h'.cached id hid).elim (h.cached id) .inr
  edges := fun a b he => (h'.edges a b he).elim (h.edges a b) .inr

theorem Explores.mono {p' : SchemaIdentifier → Prop} {q' : SchemaIdentifier → SchemaIdentifier → Prop}
    (h : Explores env p q s s') (hp : ∀ id, p id → p' id) (hq : ∀ a b, q a b → q' a b) :
    Explores env p' q' s s' :=
  ⟨h.faithful, h.grows, fun id hid => (h.cached id hid).imp_right (hp id),
    fun a b he => (h.edges a b he).imp_right (hq a b)⟩

/-- A change that touches neither the cache nor the graph. -/
theorem Explores.of_eq (hs : s.Faithful env) (hc : s'.cache = s.cache) (hg : s'.graph = s.graph) :
    Explores env p q s s' := by
  have hcached : ∀ id, s'.cached? id = s.cached? id := fun id => by rw [cached?, cached?, hc]
  refine ⟨hs.of_eq hc hg, ⟨fun id schema h => ?_, fun a b he => hg ▸ he⟩, fun id h => .inl ?_,
    fun a b he => .inl (hg ▸ he)⟩
  · rwa [hcached]
  · rwa [hcached] at h

/-- Recording more of the graph. -/
theorem Faithful.explores_graph (hs : s.Faithful env) {g : ImportGraph} (hg : g.WellFormed)
    (hsub : ∀ a b, s.graph.Edge a b → g.Edge a b)
    (hnew : ∀ a b, g.Edge a b → s.graph.Edge a b ∨ q a b) :
    Explores env p q s { s with graph := g } :=
  ⟨hs.with_graph hg hsub, ⟨fun _ _ h => h, hsub⟩, fun _ h => .inl h, hnew⟩

theorem Faithful.explores_mention (hs : s.Faithful env) (id : SchemaIdentifier) :
    Explores env p q s (s.mention id) := by
  refine hs.explores_graph (hs.valid.graph.addVertex id) (fun a b he => ?_) (fun a b he => .inl ?_)
  · rwa [ImportGraph.edge_addVertex]
  · rwa [ImportGraph.edge_addVertex] at he

end Session

open Session

/-! ## Loading -/

/-- Loading an import records its edge and explores what the import leads to. -/
def Loading.Explores (env : Environment) (load : Loading) : Prop :=
  ∀ requester target (s : Session), s.Faithful env →
    Session.Explores env (· ∈ env.closure target)
      (fun a b => a = requester ∧ b = target ∨ env.ImportsFrom target a b) s
      (load requester target s).state

variable {env : Environment} {load : Loading} {s : Session}

/-- Loading the imports of a schema one by one. -/
theorem loadImports_explores (hl : load.Explores env) (owner : SchemaIdentifier)
    (ns : List (ImportNode .bound)) (hs : s.Faithful env) :
    Explores env (fun id => ∃ n ∈ ns, id ∈ env.closure n.data)
      (fun a b => ∃ n ∈ ns, a = owner ∧ b = n.data ∨ env.ImportsFrom n.data a b) s
      (loadImports load owner ns s).session := by
  induction ns using List.reverseRecOn with
  | nil => exact .refl hs
  | append_singleton ns n ih =>
    rw [session_loadImports_concat]
    have hlast := hl owner n.data _ ih.faithful
    refine (ih.mono ?_ ?_).trans (hlast.mono (fun id hid => ⟨n, by simp, hid⟩)
      fun a b he => ⟨n, by simp, he⟩)
    · rintro id ⟨n', hn', hid⟩
      exact ⟨n', List.mem_append_left _ hn', hid⟩
    · rintro a b ⟨n', hn', he⟩
      exact ⟨n', List.mem_append_left _ hn', he⟩

/-- Typing a served document loads its imports. -/
theorem typeWith_explores (hl : load.Explores env) {id : SchemaIdentifier} {b : Tree .bound}
    (hb : env.bound? id = some b) (hs : s.Faithful env) :
    Explores env (· ∈ env.closure id) (env.ImportsFrom id) s (b.typeWith load s).state := by
  have himports : ∀ n ∈ b.imports, env.Imports id n.data :=
    fun n hn => ⟨b, hb, List.mem_map_of_mem hn⟩
  rw [Tree.state_typeWith]
  refine (loadImports_explores hl b.data b.imports hs).mono ?_ ?_
  · rintro x ⟨n, hn, hx⟩
    exact Environment.closure_subset (himports n hn) hx
  · rintro x y ⟨n, hn, ⟨rfl, rfl⟩ | ⟨hx, hy⟩⟩
    · rw [(Environment.bound?_eq_some hb).1]
      exact ⟨Environment.mem_closure_self, himports n hn⟩
    · exact ⟨Environment.closure_subset (himports n hn) hx, hy⟩

/-- Compiling the tree of a served document, which is not cached. -/
theorem compileTree_explores (hk : load.Keeps) (hl : load.Explores env) {tree : Tree .parsed}
    (hserved : env.served? tree.identifier = some tree) (hs : s.Faithful env)
    (hnew : s.cached? tree.identifier = none) :
    Explores env (· ∈ env.closure tree.identifier) (env.ImportsFrom tree.identifier) s
      (s.compileTree load tree).state := by
  have hadv := (compileTree_advances hk tree hs.valid hnew).1
  have ho := compilesTree load tree s
  generalize s.compileTree load tree = o at ho hadv
  rcases ho with hb | @⟨b, schema, hb, ht⟩ | @⟨b, hb, ht⟩ | @⟨b, hb, ht⟩
  · exact .refl hs
  · have hbound := Environment.bound?_of_served? hserved hb
    -- The schema is stored: it is the only one that is cached besides what its imports lead to.
    have htyped := typeWith_explores hl hbound hs
    obtain ⟨-, -, hcompiled⟩ := Tree.typeWith_eq_ok.mp ht
    refine ⟨htyped.faithful.store hadv.valid hbound hcompiled, hadv.grows, fun id hid => ?_,
      htyped.edges⟩
    by_cases h : id = tree.identifier
    · exact .inr (h ▸ Environment.mem_closure_self)
    · rw [cached?_store_ne h] at hid
      exact htyped.cached id hid
  · have htyped := typeWith_explores hl (Environment.bound?_of_served? hserved hb) hs
    exact htyped.trans (.of_eq htyped.faithful cache_blame graph_blame)
  · exact typeWith_explores hl (Environment.bound?_of_served? hserved hb) hs

/-- Any tree that fails to compile leaves nothing in the cache but what it imports, and no edges but its
own and those of the source. -/
theorem compileTree_failed (hl : load.Explores env) (tree : Tree .parsed) (hs : s.Faithful env)
    (hfailed : ∀ schema, (s.compileTree load tree).value ≠ .ok (some schema)) :
    Explores env (fun _ => True) (fun a b => a = tree.identifier ∨ env.Imports a b) s
      (s.compileTree load tree).state := by
  have hloads : ∀ {b : Tree .bound}, tree.bind.value = some b →
      Explores env (fun _ => True) (fun a b => a = tree.identifier ∨ env.Imports a b) s
        (b.typeWith load s).state := by
    intro b hb
    rw [Tree.state_typeWith, (Tree.bind_eq_some hb).data_eq]
    refine (loadImports_explores hl _ b.imports hs).mono (fun _ _ => trivial) ?_
    rintro x y ⟨n, -, ⟨hx, -⟩ | ⟨-, hy⟩⟩
    · exact .inl hx
    · exact .inr hy
  have ho := compilesTree load tree s
  generalize s.compileTree load tree = o at ho hfailed
  rcases ho with - | - | ⟨hb, -⟩ | ⟨hb, -⟩
  · exact .refl hs
  · exact absurd rfl (hfailed _)
  · exact (hloads hb).trans (.of_eq (hloads hb).faithful cache_blame graph_blame)
  · exact hloads hb

/-- Opening and compiling a schema that is not cached. -/
theorem fetchWith_explores (hk : load.Keeps) (hl : load.Explores env) (target : SchemaIdentifier)
    (level : Nat) (hs : s.Faithful env) (hnew : s.cached? target = none) :
    Explores env (· ∈ env.closure target) (env.ImportsFrom target) s
      (s.fetchWith env load target level).state := by
  have hf := fetches env load target level s
  generalize s.fetchWith env load target level = o at hf
  rcases hf with ⟨-, hcache, hgraph⟩ | @⟨opened, tree, _, hserved, rfl, -, rfl⟩
  · exact .of_eq hs hcache hgraph
  · have hopened : Explores env (· ∈ env.closure tree.identifier) (env.ImportsFrom tree.identifier) s
        (s.recordOpening tree.identifier level).countCompilation := .of_eq hs rfl rfl
    exact hopened.trans (compileTree_explores hk hl hserved hopened.faithful hnew)

/-- **Loading** explores what the import leads to, however many levels of imports are left. -/
theorem load_explores (env : Environment) (levels : Nat) : (Session.load env levels).Explores env := by
  induction levels with
  | zero =>
    intro requester target s hs
    simp only [Session.load]
    split <;> exact .refl hs
  | succ levels ih =>
    intro requester target s hs
    simp only [Session.load]
    split
    · exact .refl hs
    · rename_i hnew
      split
      · exact .refl hs
      · rename_i g hg
        obtain ⟨-, hi⟩ := ImportGraph.inserted_of_addEdge? hs.valid.graph hg
        have hrecorded : Explores env (· ∈ env.closure target)
            (fun a b => a = requester ∧ b = target ∨ env.ImportsFrom target a b) s
            { s with graph := g } :=
          hs.explores_graph hi.wellFormed (fun a b he => (hi.edge_iff a b).mpr (.inl he))
            fun a b he => ((hi.edge_iff a b).mp he).imp_right .inl
        have hfetched := fetchWith_explores (load_keeps env levels) ih target
          (env.maxImportDepth - levels) hrecorded.faithful hnew
        exact hrecorded.trans (hfetched.mono (fun _ h => h) fun _ _ => .inr)

/-- Loading a schema that nothing imports. -/
theorem loadRoot_explores (env : Environment) (target : SchemaIdentifier) (hs : s.Faithful env) :
    Explores env (· ∈ env.closure target) (env.ImportsFrom target) s (s.loadRoot env target).state := by
  unfold Session.loadRoot
  split
  · exact .refl hs
  · rename_i hnew
    have hfetched := fetchWith_explores (load_keeps env env.maxImportDepth)
      (load_explores env env.maxImportDepth) target 0 (hs.mention target) hnew
    exact (hs.explores_mention target).trans hfetched

/-- **A failed document** that the source does not provide. -/
theorem compileDocument_failed (env : Environment) {uri : String} {document : Text.Octets}
    (hs : s.Faithful env) (hfailed : (s.compileDocument env uri document).value = none) :
    Explores env (fun _ => True) (fun a b =>
        (∃ tree, (env.parser.parse uri document).value = some tree ∧ a = tree.identifier) ∨
        env.Imports a b) s
      (s.compileDocument env uri document).state := by
  have hstate : (s.compileDocument env uri document).state =
      (s.compileWith env.parser (Session.load env env.maxImportDepth) ⟨uri, .ok document⟩ none).state := by
    unfold Session.compileDocument
    simp only
    split <;> rfl
  -- The schema was not cached either, or the operation would have succeeded.
  have hvalue : ∀ schema, (s.compileWith env.parser (Session.load env env.maxImportDepth)
      ⟨uri, .ok document⟩ none).value ≠ .ok (some schema) := by
    intro schema h
    simp [Session.compileDocument, h] at hfailed
  rw [hstate]
  unfold Session.compileWith at hvalue ⊢
  simp only [parseOpened] at hvalue ⊢
  split
  · exact .of_eq hs rfl rfl
  · rename_i tree hparse
    simp only [hparse, Session.compileParsed] at hvalue ⊢
    cases hc : s.countCompilation.cached? tree.identifier with
    | some schema =>
      simp only [hc] at hvalue
      exact absurd rfl (hvalue schema)
    | none =>
      simp only [hc] at hvalue ⊢
      have hcounted : ∀ {p q}, Explores env p q s s.countCompilation := .of_eq hs rfl rfl
      have hfaithful : s.countCompilation.Faithful env := hs.of_eq rfl rfl
      have hmention := hfaithful.mention tree.identifier
      have hcompiled := compileTree_failed (load_explores env env.maxImportDepth) tree
        hmention hvalue
      refine hcounted.trans ((hfaithful.explores_mention tree.identifier).trans
        (hcompiled.mono (fun _ h => h) ?_))
      rintro a b (ha | he)
      · exact .inl ⟨tree, rfl, ha⟩
      · exact .inr he

end MetaSchema
