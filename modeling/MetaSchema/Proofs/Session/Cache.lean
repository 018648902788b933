import MetaSchema.Proofs.Graph.Growth
import MetaSchema.Proofs.Lists
import MetaSchema.Proofs.Schema.WellFormed
import MetaSchema.Session.Basic

/-!
# What a session keeps

* `Session.Imports`: the imports of the cached schemas.
* `Session.Resolves`: what a reference of a schema names is declared by a cached schema.
* `Session.Sound`: each cached schema is well formed and stands under its own identifier, all that it
  imports is cached and all that it refers to is declared, and no cached schema imports itself.
* `Session.Valid`: a sound cache beside a well-formed import graph.
* `Session.Extends`: nothing that was cached or recorded is lost.
* `Valid.store`: storing a schema that is not cached yet keeps a session valid, if its imports are
  cached and its references declared.
-/

namespace MetaSchema.Session

open Relation (ReflTransGen TransGen)

/-! ## Looking at a session after a change -/

variable {s : Session} {id : SchemaIdentifier} {schema : Schema}

@[simp] theorem cached?_store_self : (s.store id schema).cached? id = some schema := by
  simp [cached?, store]

theorem cached?_store_ne {other : SchemaIdentifier} (h : other ≠ id) :
    (s.store id schema).cached? other = s.cached? other := by
  rw [cached?, store, List.lookup_cons, beq_eq_false_iff_ne.mpr h]
  exact lookup_filter_ne h

@[simp] theorem cache_blame : (s.blame id).cache = s.cache := by
  unfold blame
  split <;> rfl

@[simp] theorem cached?_blame {other : SchemaIdentifier} :
    (s.blame id).cached? other = s.cached? other := by
  rw [cached?, cache_blame]
  rfl

@[simp] theorem graph_blame : (s.blame id).graph = s.graph := by
  unfold blame
  split <;> rfl

/-! ## The cache -/

/-- A cached schema imports another. -/
def Imports (s : Session) (a b : SchemaIdentifier) : Prop :=
  ∃ schema, s.cached? a = some schema ∧ b ∈ schema.imports

/-- What a reference of `schema` names is declared: by the schema itself, or by the cached schema of
exactly the imported identifier whose name qualifies the reference. -/
def Resolves (s : Session) (schema : Schema) : TypeReference → Prop
  | .primitive _ => True
  | .named q =>
    (q.schema = schema.identifier.name ∧ schema.Declares q.name) ∨
    ∃ i ∈ schema.imports, i.name = q.schema ∧
      ∃ imported, s.cached? i = some imported ∧ imported.Declares q.name

/-- What holds of the cache of a session. -/
structure Sound (s : Session) : Prop where
  identifier_eq : ∀ id schema, s.cached? id = some schema → schema.identifier = id
  wellFormed : ∀ id schema, s.cached? id = some schema → schema.WellFormed
  imports_cached : ∀ id schema, s.cached? id = some schema →
    ∀ i ∈ schema.imports, ∃ imported, s.cached? i = some imported
  resolves : ∀ id schema, s.cached? id = some schema → ∀ r ∈ schema.references, s.Resolves schema r
  acyclic : ∀ id, ¬ TransGen s.Imports id id

/-- A sound cache beside a well-formed graph. -/
structure Valid (s : Session) : Prop where
  graph : s.graph.WellFormed
  cache : s.Sound

/-- What one session has cached and recorded, another has too. -/
structure Extends (s s' : Session) : Prop where
  cached : ∀ id schema, s.cached? id = some schema → s'.cached? id = some schema
  edges : ∀ a b, s.graph.Edge a b → s'.graph.Edge a b

theorem Extends.refl (s : Session) : s.Extends s := ⟨fun _ _ h => h, fun _ _ h => h⟩

theorem Extends.trans {s' s'' : Session} (h : s.Extends s') (h' : s'.Extends s'') :
    s.Extends s'' :=
  ⟨fun id schema hc => h'.cached id schema (h.cached id schema hc),
    fun a b he => h'.edges a b (h.edges a b he)⟩

theorem Extends.reaches {s' : Session} (h : s.Extends s') {a b : SchemaIdentifier}
    (hr : s.graph.Reaches a b) : s'.graph.Reaches a b :=
  hr.mono h.edges

theorem Extends.resolves {s' : Session} (h : s.Extends s') {r : TypeReference}
    (hr : s.Resolves schema r) : s'.Resolves schema r := by
  cases r with
  | primitive p => trivial
  | named q =>
    refine Or.imp id ?_ hr
    rintro ⟨i, hi, hname, imported, hc, hd⟩
    exact ⟨i, hi, hname, imported, h.cached i imported hc, hd⟩

theorem valid_fresh : fresh.Valid where
  graph := ImportGraph.wellFormed_empty
  cache := by
    refine ⟨?_, ?_, ?_, ?_, ?_⟩
    iterate 4
      intro id schema h
      cases h
    intro id h
    obtain ⟨_, ⟨schema, hc, -⟩, -⟩ := TransGen.head'_iff.mp h
    cases hc

/-! ## Storing a schema -/

theorem extends_store (h : s.cached? id = none) : s.Extends (s.store id schema) where
  cached := by
    intro other old ho
    have hne : other ≠ id := by
      rintro rfl
      rw [h] at ho
      cases ho
    rw [cached?_store_ne hne, ho]
  edges := fun _ _ he => he

/-- The imports of the other cached schemas stay as they are. -/
theorem imports_store_ne {a b : SchemaIdentifier} (h : a ≠ id) :
    (s.store id schema).Imports a b ↔ s.Imports a b := by
  unfold Imports
  rw [cached?_store_ne h]

/-- Nothing that was cached leads to a schema that was not: a new schema closes no cycle. -/
theorem Sound.acyclic_store (hs : s.Sound) (hnew : s.cached? id = none)
    (himports : ∀ i ∈ schema.imports, ∃ imported, s.cached? i = some imported)
    (a : SchemaIdentifier) : ¬ TransGen (s.store id schema).Imports a a := by
  have hne : ∀ i imported, s.cached? i = some imported → i ≠ id := by
    rintro i imported hi rfl
    rw [hnew] at hi
    cases hi
  have hcached : ∀ x y, (s.store id schema).Imports x y → ∃ imported, s.cached? y = some imported := by
    rintro x y ⟨importing, hx, hy⟩
    by_cases h : x = id
    · subst h
      rw [cached?_store_self] at hx
      cases hx
      exact himports y hy
    · rw [cached?_store_ne h] at hx
      exact hs.imports_cached x importing hx y hy
  intro ha
  obtain ⟨before, -, hlast⟩ := TransGen.tail'_iff.mp ha
  obtain ⟨old, hold⟩ := hcached before a hlast
  -- A path from `a` stays among the old schemas, so it was there before.
  have hpath : ∀ y, TransGen (s.store id schema).Imports a y → TransGen s.Imports a y := by
    intro y hy
    induction hy with
    | single h => exact .single ((imports_store_ne (hne a old hold)).mp h)
    | tail hxy hyz ih =>
      obtain ⟨w, -, hw⟩ := TransGen.tail'_iff.mp hxy
      obtain ⟨imported, hi⟩ := hcached w _ hw
      exact ih.tail ((imports_store_ne (hne _ imported hi)).mp hyz)
  exact hs.acyclic a (hpath a ha)

/-- **Storing a new schema.** -/
theorem Valid.store (hs : s.Valid) (hnew : s.cached? id = none) (hid : schema.identifier = id)
    (hwf : schema.WellFormed)
    (himports : ∀ i ∈ schema.imports, ∃ imported, s.cached? i = some imported)
    (hreferences : ∀ r ∈ schema.references, s.Resolves schema r) : (s.store id schema).Valid := by
  have hext : s.Extends (s.store id schema) := extends_store hnew
  -- A cached schema is the new one or an old one.
  have hcases : ∀ other old, (s.store id schema).cached? other = some old →
      (other = id ∧ old = schema) ∨ s.cached? other = some old := by
    intro other old h
    by_cases ho : other = id
    · subst ho
      rw [cached?_store_self] at h
      exact .inl ⟨rfl, (Option.some.inj h).symm⟩
    · exact .inr (cached?_store_ne ho ▸ h)
  refine ⟨hs.graph, ?_, ?_, ?_, ?_, hs.cache.acyclic_store hnew himports⟩
  all_goals
    intro other old h
    rcases hcases other old h with ⟨rfl, rfl⟩ | h
  · exact hid
  · exact hs.cache.identifier_eq other old h
  · exact hwf
  · exact hs.cache.wellFormed other old h
  · intro i hi
    obtain ⟨imported, hc⟩ := himports i hi
    exact ⟨imported, hext.cached i imported hc⟩
  · intro i hi
    obtain ⟨imported, hc⟩ := hs.cache.imports_cached other old h i hi
    exact ⟨imported, hext.cached i imported hc⟩
  · exact fun r hr => hext.resolves (hreferences r hr)
  · exact fun r hr => hext.resolves (hs.cache.resolves other old h r hr)

end MetaSchema.Session
