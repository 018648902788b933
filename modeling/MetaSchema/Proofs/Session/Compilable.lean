import MetaSchema.Proofs.Session.Rooted
import Mathlib.Data.Set.Card

/-!
# What a session can load from its source

* `typeWith_complete`: a bound document can be typed if its imports can be loaded and what it refers to
  in them is declared.
* `load_complete`: an import that is compilable can be loaded if there are as many levels left as it
  leads to schemas. Every import leads to fewer schemas than what imports it, since none leads back.
* `loadRoot_exact`: a schema can be loaded exactly if it is compilable, whatever the session did before.
-/

namespace MetaSchema

open Relation (ReflTransGen TransGen)

variable {env : Environment} {s s' : Session}

namespace Session

/-! ## What is cached -/

theorem cached?_isSome {id : SchemaIdentifier} :
    (s.cached? id).isSome ↔ id ∈ s.cache.map Prod.fst := by
  simp only [cached?, List.lookup_isSome_iff, beq_iff_eq, List.mem_map]
  exact exists_congr fun _ => and_congr_right fun _ => eq_comm

/-- All that imports lead to from a cached schema is cached. -/
theorem Rooted.cached_closure (hs : s.Rooted env) {a : SchemaIdentifier} (ha : (s.cached? a).isSome)
    {id : SchemaIdentifier} (hid : id ∈ env.closure a) : (s.cached? id).isSome :=
  hs.faithful.cached_closure ha hid

/-- A success compiled each schema that was added once. -/
theorem Gains.compilations_eq {p : SchemaIdentifier → Prop} {success : Prop} {issues : List Issue}
    (h : Gains env p success s s' issues) (hsuccess : success) (hs : s.Rooted env)
    (hext : s.Extends s') (hp : ∀ id, p id → (s'.cached? id).isSome) :
    s'.compilations = s.compilations + {id | p id ∧ s.cached? id = none}.ncard := by
  have hsub : s.cache.map Prod.fst ⊆ s'.cache.map Prod.fst := by
    intro id hid
    obtain ⟨schema, hc⟩ := Option.isSome_iff_exists.mp (cached?_isSome.mpr hid)
    exact cached?_isSome.mp (Option.isSome_iff_exists.mpr ⟨schema, hext.cached id schema hc⟩)
  -- The cache is a list without duplicates, so what was added can be counted by its length.
  have hset : {id | p id ∧ s.cached? id = none} =
      ↑((s'.cache.map Prod.fst).toFinset \ (s.cache.map Prod.fst).toFinset) := by
    ext id
    simp only [Set.mem_ofPred_eq, Finset.coe_sdiff, Set.mem_sdiff, Finset.mem_coe, List.mem_toFinset,
      ← cached?_isSome]
    constructor
    · rintro ⟨hid, hnone⟩
      exact ⟨hp id hid, by simp [hnone]⟩
    · rintro ⟨hcached, hnone⟩
      exact ⟨(h.only id hcached).resolve_left hnone, by simpa using hnone⟩
  have hfinset : (s.cache.map Prod.fst).toFinset ⊆ (s'.cache.map Prod.fst).toFinset :=
    fun id hid => List.mem_toFinset.mpr (hsub (List.mem_toFinset.mp hid))
  have hcount := h.count hsuccess
  have hcard := hs.nodup.length_le_of_subset hsub
  rw [hset, Set.ncard_coe_finset, Finset.card_sdiff_of_subset hfinset,
    List.toFinset_card_of_nodup h.rooted.nodup, List.toFinset_card_of_nodup hs.nodup]
  simp only [List.length_map] at hcard ⊢
  omega

end Session

open Session

/-! ## What can be loaded -/

namespace Environment

/-- An import leads to fewer schemas than what imports it. -/
theorem encard_closure_le {a b : SchemaIdentifier} (h : env.Imports a b)
    (ha : ¬ TransGen env.Imports a a) {n : ℕ} (hn : (env.closure a).encard ≤ n + 1) :
    (env.closure b).encard ≤ n := by
  have hlt : (env.closure b).encard < (env.closure a).encard := by
    have hfinite : (env.closure a).Finite :=
      Set.encard_lt_top_iff.mp (lt_of_le_of_lt hn (ENat.natCast_lt_top (n + 1)))
    refine (hfinite.subset (closure_subset h)).encard_lt_encard ⟨closure_subset h, fun hsub => ?_⟩
    exact notMem_closure h ha (hsub mem_closure_self)
  exact (ENat.lt_add_one_iff (ENat.natCast_ne_top n)).mp (lt_of_lt_of_le hlt hn)

/-- A schema leads to no more schemas than a list has that no import leaves. -/
theorem encard_closure_le_length (env : Environment) {id : SchemaIdentifier} (ids : List SchemaIdentifier)
    (hid : id ∈ ids) (hids : ∀ a ∈ ids, ∀ b ∈ env.importsOf a, b ∈ ids) :
    (env.closure id).encard ≤ ids.length := by
  have hsub : env.closure id ⊆ (ids.toFinset : Set SchemaIdentifier) := by
    intro x hx
    rw [Finset.mem_coe, List.mem_toFinset]
    exact reflTransGen_mem (fun a b ha hab => hids a ha b (mem_importsOf.mpr hab)) hid hx
  refine (Set.encard_le_encard hsub).trans ?_
  rw [Set.encard_coe_eq_coe_finsetCard]
  exact_mod_cast List.toFinset_card_le ids

end Environment

variable {load : Loading}

/-- If every import can be loaded, whatever was loaded before it, then all are. -/
theorem failed_loadImports (hl : load.Gains env) {owner : SchemaIdentifier}
    {ns : List (ImportNode .bound)} (hns : ∀ n ∈ ns, env.Imports owner n.data)
    (hloads : ∀ n ∈ ns, ∀ s : Session, s.Rooted env →
      ∃ schema, (load owner n.data s).value = .ok schema) {s : Session} (hs : s.Rooted env) :
    (loadImports load owner ns s).failed = false := by
  induction ns generalizing s with
  | nil => rfl
  | cons n ns ih =>
    obtain ⟨schema, hv⟩ := hloads n List.mem_cons_self s hs
    have hfirst := hl owner n.data s hs (hns n List.mem_cons_self)
    have hrest := ih (fun n' hn' => hns n' (List.mem_cons_of_mem _ hn'))
      (fun n' hn' => hloads n' (List.mem_cons_of_mem _ hn')) hfirst.rooted
    unfold loadImports
    simp only [hv]
    exact hrest

/-- A tree with known cardinalities has a schema. -/
theorem Tree.Tokened.exists_compiled {b : Tree .bound} (hb : b.Tokened) :
    ∃ schema, b.Compiled schema := by
  obtain ⟨attributes, hattributes⟩ := exists_forall₂ (l := b.attributes)
    (r := fun n (d : AttributeDeclaration) => d.name = n.name ∧ d.type = n.reference.data.type ∧
      Cardinality.ofToken? n.cardinality = some d.cardinality) fun n hn => by
        obtain ⟨c, hc⟩ := hb n hn
        exact ⟨⟨n.name, n.reference.data.type, c⟩, rfl, rfl, hc⟩
  exact ⟨⟨_, _, _, attributes⟩, rfl, rfl, rfl, hattributes⟩

/-- The bound document of a schema has known cardinalities. -/
theorem Environment.bound?_tokened (henv : env.parser.languages = [.version1])
    {id : SchemaIdentifier} {b : Tree .bound} (hb : env.bound? id = some b) : b.Tokened := by
  obtain ⟨-, tree, hserved, hbound⟩ := Environment.bound?_eq_some hb
  obtain ⟨-, opened, -, hparse⟩ := Environment.served?_eq_some hserved
  exact hbound.tokened (parseOpened_eq_some henv hparse).1

/-- Typing a served document whose imports can be loaded and declare what it refers to. -/
theorem typeWith_complete (henv : env.parser.languages = [.version1]) (hk : load.Keeps)
    (hl : load.Gains env) {id : SchemaIdentifier} {b : Tree .bound} (hb : env.bound? id = some b)
    (hloads : ∀ n ∈ b.imports, ∀ s : Session, s.Rooted env →
      ∃ schema, (load id n.data s).value = .ok schema)
    (hdeclared : ∀ i name, .imported i name ∈ b.references →
      ∃ u, env.bound? i = some u ∧ name ∈ u.types.map TypeNode.name)
    {s : Session} (hs : s.Rooted env) : ∃ schema, (b.typeWith load s).value = .ok schema := by
  obtain ⟨rfl, tree, -, hbound⟩ := Environment.bound?_eq_some hb
  have himports : ∀ n ∈ b.imports, env.Imports b.data n.data :=
    fun n hn => ⟨b, hb, List.mem_map_of_mem hn⟩
  have hfailed := failed_loadImports hl himports hloads hs
  have hrooted := (loadImports_gains hl b.data b.imports himports hs).rooted
  have hloaded := (loadImports_advances hk b.data b.imports s hs.valid).2 hfailed
  obtain ⟨schema, hcompiled⟩ := (Environment.bound?_tokened henv hb).exists_compiled
  refine ⟨schema, Tree.typeWith_eq_ok.mpr ⟨hfailed, fun r hr => ?_, hcompiled⟩⟩
  generalize loadImports load b.data b.imports s = loaded at *
  -- No two imports have one name, so that looking up a name finds the import that has it.
  have hnodup : (loaded.schemas.map Prod.fst).Nodup := by
    have hkeys : loaded.schemas.map Prod.fst = b.imports.map ImportNode.target :=
      map_eq_of_forall₂ hloaded fun n hn e h => h.1.trans (hbound.mem_import hn).1
    rw [hkeys]
    exact b.declarations.imports_nodup
  rcases hbound.mem_references hr with ⟨p, rfl⟩ | ⟨name, rfl, hn⟩ | ⟨n, hn, name, rfl⟩
  · trivial
  · exact hn
  · obtain ⟨⟨key, imported⟩, he, hkey, hcached⟩ := forall₂_exists_right hloaded hn
    obtain rfl : key = n.data.name := hkey
    obtain ⟨u, hu, hname⟩ := hdeclared _ _ hr
    have hcu := hrooted.faithful.compiled_of_bound? hcached hu
    exact ⟨imported, lookup_of_nodup hnodup he, hcu.declares.mpr hname⟩

/-- Opening and compiling a schema whose served document can be typed. -/
theorem fetchWith_complete {target : SchemaIdentifier} {b : Tree .bound}
    (hb : env.bound? target = some b) (level : Nat) {s : Session} (hs : s.Rooted env)
    (htyped : ∀ s : Session, s.Rooted env → ∃ schema, (b.typeWith load s).value = .ok schema) :
    ∃ schema, (s.fetchWith env load target level).value = .ok schema := by
  obtain ⟨tree, hserved, hbind⟩ := Option.bind_eq_some_iff.mp hb
  have hf := fetches env load target level s
  generalize s.fetchWith env load target level = o at hf
  rcases hf with ⟨hnone, -, -⟩ | @⟨opened, tree', _, hserved', rfl, -, rfl⟩
  · rw [hserved] at hnone
    cases hnone
  · rw [hserved, Option.some.injEq] at hserved'
    subst hserved'
    obtain ⟨schema, ht⟩ := htyped (s.recordOpening tree.identifier level).countCompilation
      (hs.of_eq rfl rfl)
    have hc := compilesTree load tree (s.recordOpening tree.identifier level).countCompilation
    generalize ((s.recordOpening tree.identifier level).countCompilation).compileTree load tree = o
      at hc
    rcases hc with hb' | @⟨b', schema', hb', ht'⟩ | @⟨b', hb', ht'⟩ | @⟨b', hb', ht'⟩
    · rw [hbind] at hb'
      cases hb'
    · exact ⟨schema', rfl⟩
    -- Every other ending contradicts that the tree of the schema can be bound and typed.
    all_goals
      rw [hbind, Option.some.injEq] at hb'
      subst hb'
      rw [ht] at ht'
      cases ht'

/-- What a compilable schema imports can be loaded, if loading has levels for it. -/
theorem fetchWith_compilable (henv : env.parser.languages = [.version1]) {levels : Nat}
    {target : SchemaIdentifier} (hc : env.Compilable target)
    (hcard : (env.closure target).encard ≤ levels + 1)
    (ih : ∀ (requester target : SchemaIdentifier) (s : Session), s.Rooted env →
      env.Imports requester target → env.Compilable target → (env.closure target).encard ≤ levels →
      ∃ schema, (Session.load env levels requester target s).value = .ok schema)
    (level : Nat) {s : Session} (hs : s.Rooted env) :
    ∃ schema, (s.fetchWith env (Session.load env levels) target level).value = .ok schema := by
  obtain ⟨b, hb⟩ := hc.bound target Environment.mem_closure_self
  refine fetchWith_complete hb level hs fun s hs => ?_
  refine typeWith_complete henv (load_keeps env levels) (load_gains henv levels) hb
    (fun n hn s hs => ?_) (fun i name => hc.declared target Environment.mem_closure_self b hb i name) hs
  have himports : env.Imports target n.data := ⟨b, hb, List.mem_map_of_mem hn⟩
  have hacyclic := hc.acyclic target Environment.mem_closure_self
  exact ih target n.data s hs himports (hc.imports himports)
    (Environment.encard_closure_le himports hacyclic hcard)

/-- **Loading a compilable import** gives a schema. -/
theorem load_complete (henv : env.parser.languages = [.version1]) (levels : Nat)
    (requester target : SchemaIdentifier) (s : Session) (hs : s.Rooted env)
    (himports : env.Imports requester target) (hc : env.Compilable target)
    (hcard : (env.closure target).encard ≤ levels) :
    ∃ schema, (Session.load env levels requester target s).value = .ok schema := by
  induction levels generalizing requester target s with
  | zero =>
    -- Imports lead at least to the schema itself, so that one level has to be left.
    have hempty : env.closure target = ∅ := Set.encard_eq_zero.mp (by simpa using hcard)
    have hmem : target ∈ env.closure target := Environment.mem_closure_self
    rw [hempty] at hmem
    cases hmem
  | succ levels ih =>
    simp only [Session.load]
    split
    · exact ⟨_, rfl⟩
    · split
      · -- A refused import would close a circle of imports of served documents.
        rename_i path hpath
        have hback := ImportGraph.reaches_of_addEdge? hs.valid.graph hpath
        have hcircle : ReflTransGen env.Imports target requester :=
          ReflTransGen.mono hs.edges _ _ hback
        exact (hc.acyclic target Environment.mem_closure_self (.tail' hcircle himports)).elim
      · rename_i g hg
        exact fetchWith_compilable henv hc (by exact_mod_cast hcard) ih _
          (hs.with_edge himports hg)

/-! ## Loading a schema that nothing imports -/

/-- Why a served document cannot be compiled is told in the issues only. -/
theorem fetchWith_eq_error {target : SchemaIdentifier} {tree : Tree .parsed}
    (hserved : env.served? target = some tree) {level : Nat} {e : LoadError}
    (h : (s.fetchWith env load target level).value = .error e) : e = .compilationFailed target := by
  have hf := fetches env load target level s
  generalize s.fetchWith env load target level = o at hf h
  rcases hf with ⟨hnone, -, -⟩ | @⟨opened, tree', _, -, rfl, -, rfl⟩
  · rw [hserved] at hnone
    cases hnone
  · have hc := compilesTree load tree' (s.recordOpening tree'.identifier level).countCompilation
    generalize ((s.recordOpening tree'.identifier level).countCompilation).compileTree load tree' = o
      at hc h
    rcases hc with _ | _ | _ | _ <;> cases h
    all_goals rfl

/-- The reason for a failure does not depend on the session. -/
theorem loadRoot_error_unique {target : SchemaIdentifier} {e e' : LoadError}
    (h : (s.loadRoot env target).value = .error e) (h' : (s'.loadRoot env target).value = .error e') :
    e = e' := by
  have hfetch : ∀ {s : Session} {e : LoadError}, (s.loadRoot env target).value = .error e →
      ((s.mention target).fetchWith env (Session.load env env.maxImportDepth) target 0).value =
        .error e := by
    intro s e h
    unfold Session.loadRoot at h
    split at h
    · cases h
    · exact h
  have h := hfetch h
  have h' := hfetch h'
  cases hserved : env.served? target with
  | none =>
    rw [value_fetchWith_unserved hserved, h', Except.error.injEq] at h
    exact h.symm
  | some tree => rw [fetchWith_eq_error hserved h, fetchWith_eq_error hserved h']

theorem loadRoot_isOk_iff (henv : env.parser.languages = [.version1]) {target : SchemaIdentifier}
    (hcard : (env.closure target).encard ≤ env.maxImportDepth + 1) {s : Session}
    (hs : s.Rooted env) :
    (∃ schema, (s.loadRoot env target).value = .ok schema) ↔ env.Compilable target := by
  constructor
  · rintro ⟨schema, h⟩
    have hcached := cached?_loadRoot hs.valid h
    exact (loadRoot_gains henv target hs).rooted.faithful.compilable (by rw [hcached]; rfl)
  · intro hc
    unfold Session.loadRoot
    split
    · exact ⟨_, rfl⟩
    · exact fetchWith_compilable henv hc hcard (load_complete henv env.maxImportDepth) 0
        (hs.mention target)

/-- What is loaded, or why it cannot be, does not depend on the session. -/
theorem value_loadRoot_eq (henv : env.parser.languages = [.version1]) {target : SchemaIdentifier}
    (hcard : (env.closure target).encard ≤ env.maxImportDepth + 1) {s s' : Session}
    (hs : s.Rooted env) (hs' : s'.Rooted env) :
    (s.loadRoot env target).value = (s'.loadRoot env target).value := by
  have hiff := (loadRoot_isOk_iff henv hcard hs).trans (loadRoot_isOk_iff henv hcard hs').symm
  cases h : (s.loadRoot env target).value with
  | ok schema =>
    obtain ⟨schema', h'⟩ := hiff.mp ⟨schema, h⟩
    obtain ⟨t, ht, hc⟩ := (loadRoot_gains henv target hs).rooted.compiled _ _
      (cached?_loadRoot hs.valid h)
    have hc' := (loadRoot_gains henv target hs').rooted.faithful.compiled_of_bound?
      (cached?_loadRoot hs'.valid h') ht
    rw [h', hc.unique hc']
  | error e =>
    cases h' : (s'.loadRoot env target).value with
    | ok schema =>
      obtain ⟨_, hok⟩ := hiff.mpr ⟨schema, h'⟩
      rw [h] at hok
      cases hok
    | error e' => rw [loadRoot_error_unique h h']

/-- **Loading a schema** that imports lead from to no more schemas than levels are followed. In a session
that only loaded from its source, whatever came of that, it succeeds exactly if the schema is compilable,
and gives what a fresh session gives. A success caches all that imports lead to, compiles what was not
cached before, each schema once, and reports no error. -/
theorem Session.loadRoot_exact (source : Source) (nodesLimit maxImportDepth : Nat) (ops : List Operation)
    (hops : ∀ op ∈ ops, op.FromRoot) (target : SchemaIdentifier)
    (hsize : ((source.environment nodesLimit maxImportDepth).closure target).encard ≤
      maxImportDepth + 1) :
    let env := source.environment nodesLimit maxImportDepth
    let s := run env ops
    ((∃ schema, (s.loadRoot env target).value = .ok schema) ↔ env.Compilable target) ∧
    (s.loadRoot env target).value = (fresh.loadRoot env target).value ∧
    ∀ schema, (s.loadRoot env target).value = .ok schema →
      (∀ id ∈ env.closure target, ((s.loadRoot env target).state.cached? id).isSome) ∧
      (s.loadRoot env target).state.compilations =
        s.compilations + {id | id ∈ env.closure target ∧ s.cached? id = none}.ncard ∧
      ∀ i ∈ (s.loadRoot env target).issues, i.isError = false := by
  intro env s
  have henv : env.parser.languages = [.version1] := rfl
  have hs : s.Rooted env := run_rooted henv hops
  refine ⟨loadRoot_isOk_iff henv hsize hs, value_loadRoot_eq henv hsize hs rooted_fresh,
    fun schema h => ?_⟩
  have hgains := loadRoot_gains henv target hs
  have hcached : ∀ id ∈ env.closure target, ((s.loadRoot env target).state.cached? id).isSome := by
    intro id hid
    refine hgains.rooted.cached_closure ?_ hid
    rw [cached?_loadRoot hs.valid h]
    rfl
  have hgrows := (loadRoot_advances env target hs.valid).grows
  exact ⟨hcached, hgains.compilations_eq ⟨schema, h⟩ hs hgrows hcached, hgains.quiet ⟨schema, h⟩⟩

/-! ## A schema that imports another -/

namespace Sample

/-- The one document imports the other, which imports nothing. -/
theorem imports_bound? :
    ((source.environment 1000 1).bound? dublin).map (fun t => t.imports.map (·.data)) = some [core] ∧
    ((source.environment 1000 1).bound? core).map (fun t => t.imports.map (·.data)) = some [] := by
  decide +kernel

theorem encard_closure_le : ((source.environment 1000 1).closure dublin).encard ≤ (1 : ℕ) + 1 := by
  have hclosed : ∀ a ∈ [dublin, core], ∀ b ∈ (source.environment 1000 1).importsOf a,
      b ∈ [dublin, core] := by
    decide +kernel
  have hle := (source.environment 1000 1).encard_closure_le_length _ List.mem_cons_self hclosed
  exact_mod_cast hle

end Sample

theorem Session.loadRoot_exact_dublin :
    (∀ op ∈ [Operation.loadRoot Sample.core], op.FromRoot) ∧
    ((Sample.source.environment 1000 1).closure Sample.dublin).encard ≤ (1 : ℕ) + 1 ∧
    (Sample.source.environment 1000 1).Compilable Sample.dublin := by
  have hops : ∀ op ∈ [Operation.loadRoot Sample.core], op.FromRoot := by
    simp [Operation.FromRoot]
  have h := loadRoot_exact Sample.source 1000 1 [.loadRoot Sample.core] hops Sample.dublin
    Sample.encard_closure_le
  refine ⟨hops, Sample.encard_closure_le, h.1.mp ?_⟩
  have hok : ((run (Sample.source.environment 1000 1) [.loadRoot Sample.core]).loadRoot
      (Sample.source.environment 1000 1) Sample.dublin).value.toOption.isSome = true := by
    decide +kernel
  cases hv : ((run (Sample.source.environment 1000 1) [.loadRoot Sample.core]).loadRoot
      (Sample.source.environment 1000 1) Sample.dublin).value with
  | ok schema => exact ⟨schema, rfl⟩
  | error e =>
    rw [hv] at hok
    cases hok

end MetaSchema
