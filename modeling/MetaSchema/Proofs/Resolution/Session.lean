import MetaSchema.Proofs.Resolution.Primitive
import MetaSchema.Proofs.Resolution.ResolvedSet
import MetaSchema.Proofs.Resolution.Traversal
import MetaSchema.Proofs.Session.Operation
import MetaSchema.Proofs.Validation

/-!
# Resolving over a session

* `Session.lawful`: a session is a lawful directory of its cached schemas.
* `Session.Backs`: a set has cached schemas and everything that they import.
* `Backs.not_transGen_next`: no chain of bases of such a set comes back, within a schema or across
  schemas.
* `Backs.isSome_primitiveOf?`: every reference in it leads to a primitive type.
* `resolve_typed`: so it is with every set that is resolved over a session, and validation against it
  never meets a schema or a type that is not there.
-/

namespace MetaSchema.Session

open Relation (TransGen)

variable {s : Session} {set : ResolvedSet} {env : Environment}

/-- What a session has cached it finds without a change, and so it finds all imports of that. -/
theorem lawful (env : Environment) : (directory env).Lawful Valid cached? where
  keeps := fun id _ hs => (find_advances env id hs).valid
  grows := fun id _ hs => (find_advances env id hs).grows.cached
  finds := by
    intro id s hs schema h
    simp only [directory, find] at h
    cases hv : (s.loadRoot env id).value with
    | error e =>
      rw [hv] at h
      cases h
    | ok loaded =>
      rw [hv] at h
      cases h
      exact cached?_loadRoot hs hv
  identifier_eq := fun id _ hs => hs.cache.identifier_eq id
  imports := by
    intro id s hs schema h i hi
    obtain ⟨imported, hc⟩ := hs.cache.imports_cached id schema h i hi
    simp [directory, find, loadRoot_of_cached hc]
  size := by
    intro s _ ids hids h
    have hsub : ids ⊆ s.cache.map Prod.fst := by
      intro id hid
      obtain ⟨schema, hc⟩ := h id hid
      exact List.mem_map.mpr ⟨_, mem_of_lookup hc, rfl⟩
    simpa [directory] using hids.length_le_of_subset hsub

/-! ## Sets of cached schemas -/

/-- The schemas of the set are cached, and all that they import is in it. -/
structure Backs (s : Session) (set : ResolvedSet) : Prop where
  valid : s.Valid
  cached : ∀ a ∈ set.schemas, s.cached? a.identifier = some a
  imports : ∀ a ∈ set.schemas, ∀ i ∈ a.imports, ∃ b ∈ set.schemas, b.identifier = i
  named : ∀ a ∈ set.schemas, set.schemaNamed? a.identifier.name = some a
  bases : ∀ q b, set.base? q = some b ↔
    ∃ a ∈ set.schemas, a.identifier.name = q.schema ∧ ⟨q.name, b⟩ ∈ a.types

/-- A set that was resolved over a session has what the table asks for, all of it cached. -/
theorem backs_of_resolve (hs : s.Valid) {table : ImportTable}
    (h : ((directory env).resolve table s).value = some set) :
    ((directory env).resolve table s).state.Backs set ∧
      ∀ e ∈ table.entries, ∃ a ∈ set.schemas, a.identifier = e.2 := by
  obtain ⟨hf, hset⟩ := Walk.resolve_eq_some.mp h
  have hw := Walk.walk_invariant (lawful env) table hs
  obtain ⟨hexplored, hroots⟩ := Walk.walk_explored (lawful env) hs hf
  rw [Walk.state_resolve]
  generalize (directory env).walk table s = w at *
  have hschemas : set.schemas = w.found.map Prod.snd := by
    obtain ⟨-, -, rfl⟩ := ResolvedSet.ofSchemas?_eq_ok.mp hset
    rfl
  have hmem : ∀ a ∈ set.schemas, (a.identifier, a) ∈ w.found := by
    intro a ha
    rw [hschemas] at ha
    obtain ⟨e, he, rfl⟩ := List.mem_map.mp ha
    rwa [(lawful env).identifier_eq _ _ hw.valid _ (hw.held e he)]
  -- The walk did not fail, so whatever it visited it found.
  have hvisited : ∀ id ∈ w.visited, ∃ a ∈ set.schemas, a.identifier = id := by
    intro id hid
    obtain ⟨a, ha⟩ := hw.found hf id hid
    refine ⟨a, ?_, (lawful env).identifier_eq _ _ hw.valid _ (hw.held _ ha)⟩
    rw [hschemas]
    exact List.mem_map.mpr ⟨_, ha, rfl⟩
  refine ⟨⟨hw.valid, fun a ha => hw.held _ (hmem a ha), fun a ha i hi => ?_, fun a ha => ?_,
    fun q b => ResolvedSet.base?_ofSchemas? hset⟩, fun e he => hvisited _ (hroots e he)⟩
  · exact hvisited i (hexplored _ (hmem a ha) i hi).1
  · exact ResolvedSet.schemaNamed?_ofSchemas? hset ha

namespace Backs

/-- A set has one schema of each name. -/
theorem eq_of_name (hb : s.Backs set) {a b : Schema} (ha : a ∈ set.schemas) (hb' : b ∈ set.schemas)
    (h : a.identifier.name = b.identifier.name) : a = b := by
  have hsame := hb.named a ha
  rw [h, hb.named b hb'] at hsame
  exact (Option.some.inj hsame).symm

/-- What a schema of the set refers to is declared in the set: by the schema itself or by one that it
imports. -/
theorem declared (hb : s.Backs set) {a : Schema} (ha : a ∈ set.schemas) {q : QualifiedTypeName}
    (hr : .named q ∈ a.references) :
    ∃ b ∈ set.schemas, b.identifier.name = q.schema ∧ b.Declares q.name ∧
      (b = a ∨ s.Imports a.identifier b.identifier) := by
  have hcached := hb.cached a ha
  rcases hb.valid.cache.resolves _ a hcached _ hr with ⟨hname, hd⟩ | ⟨i, hi, hname, c, hc, hd⟩
  · exact ⟨a, ha, hname.symm, hd, .inl rfl⟩
  · obtain ⟨b, hbs, rfl⟩ := hb.imports a ha i hi
    have hsame := hb.cached b hbs
    rw [hc] at hsame
    cases hsame
    exact ⟨_, hbs, hname, hd, .inr ⟨a, hcached, hi⟩⟩

theorem base?_of_declares (hb : s.Backs set) {a : Schema} (ha : a ∈ set.schemas)
    {q : QualifiedTypeName} (hname : a.identifier.name = q.schema) (hd : a.Declares q.name) :
    ∃ base, set.base? q = some base := by
  obtain ⟨⟨name, base⟩, hmem, rfl⟩ := hd
  exact ⟨base, (hb.bases q base).mpr ⟨a, ha, hname, hmem⟩⟩

/-- A base stays in its schema or goes to one that the schema imports. -/
theorem next (hb : s.Backs set) {q q' : QualifiedTypeName} (h : set.Next q q') :
    ∃ a ∈ set.schemas, ∃ b ∈ set.schemas, a.identifier.name = q.schema ∧
      b.identifier.name = q'.schema ∧ b.Declares q'.name ∧
      (a = b ∧ a.OwnBase q.name q'.name ∨ s.Imports a.identifier b.identifier) := by
  obtain ⟨a, ha, hname, hmem⟩ := (hb.bases q _).mp h
  have hr : TypeReference.named q' ∈ a.references :=
    List.mem_append_left _ (List.mem_map.mpr ⟨_, hmem, rfl⟩)
  obtain ⟨b, hbs, hname', hd, hb'⟩ := hb.declared ha hr
  refine ⟨a, ha, b, hbs, hname, hname', hd, ?_⟩
  rcases hb' with rfl | himports
  · refine .inl ⟨rfl, _, hmem, rfl, ?_⟩
    rw [hname']
  · exact .inr himports

/-- So does a chain of bases. -/
theorem transGen_next (hb : s.Backs set) {q q' : QualifiedTypeName} (h : TransGen set.Next q q') :
    ∃ a ∈ set.schemas, ∃ b ∈ set.schemas, a.identifier.name = q.schema ∧
      b.identifier.name = q'.schema ∧
      (a = b ∧ TransGen a.OwnBase q.name q'.name ∨ TransGen s.Imports a.identifier b.identifier) := by
  induction h with
  | single h =>
    obtain ⟨a, ha, b, hbs, hname, hname', -, h⟩ := hb.next h
    exact ⟨a, ha, b, hbs, hname, hname', h.imp (fun h => ⟨h.1, .single h.2⟩) .single⟩
  | tail _ h ih =>
    obtain ⟨a, ha, b, hbs, hname, hmiddle, hab⟩ := ih
    obtain ⟨b', hb', c, hcs, hmiddle', hname', -, hbc⟩ := hb.next h
    obtain rfl := hb.eq_of_name hb' hbs (hmiddle'.trans hmiddle.symm)
    refine ⟨a, ha, c, hcs, hname, hname', ?_⟩
    rcases hab with ⟨rfl, hab⟩ | hab
    · exact hbc.imp (fun h => ⟨h.1, hab.tail h.2⟩) .single
    · rcases hbc with ⟨rfl, -⟩ | hbc
      · exact .inr hab
      · exact .inr (hab.tail hbc)

/-- No chain of bases comes back: neither within one schema nor over imports. -/
theorem not_transGen_next (hb : s.Backs set) (q : QualifiedTypeName) : ¬ TransGen set.Next q q := by
  intro h
  obtain ⟨a, ha, b, hbs, hname, hname', hab⟩ := hb.transGen_next h
  obtain rfl := hb.eq_of_name ha hbs (hname.trans hname'.symm)
  rcases hab with ⟨-, hown⟩ | himports
  · exact (hb.valid.cache.wellFormed _ a (hb.cached a ha)).bases_acyclic _ hown
  · exact hb.valid.cache.acyclic _ himports

/-- **Every reference leads to a primitive type.** -/
theorem isSome_primitiveOf? (hb : s.Backs set) {a : Schema} (ha : a ∈ set.schemas)
    {r : TypeReference} (hr : r ∈ a.references) : (set.primitiveOf? r).isSome := by
  have hleads : ∃ p, set.Leads r p := by
    cases r with
    | primitive p => exact ⟨p, .primitive p⟩
    | named q =>
      obtain ⟨b, hbs, hname, hd, -⟩ := hb.declared ha hr
      obtain ⟨base, hbase⟩ := hb.base?_of_declares hbs hname hd
      refine ResolvedSet.exists_leads (fun q q' h => ?_) hb.not_transGen_next hbase
      obtain ⟨-, -, c, hcs, -, hname', hd', -⟩ := hb.next h
      exact hb.base?_of_declares hcs hname' hd'
  obtain ⟨p, hp⟩ := hleads
  rw [ResolvedSet.primitiveOf?_of_leads hp]
  rfl

/-- Every schema of the set is found by its identifier. -/
theorem schema?_eq (hb : s.Backs set) {a : Schema} (ha : a ∈ set.schemas) :
    set.schema? a.identifier = some a := by
  simp [ResolvedSet.schema?, hb.named a ha]

theorem mem_of_schema? {id : SchemaIdentifier} {a : Schema} (h : set.schema? id = some a) :
    a ∈ set.schemas :=
  List.mem_of_find?_eq_some (Option.filter_eq_some_iff.mp h).1

/-- Validation against the set never meets a schema or a type that is not there. -/
theorem validate (hb : s.Backs set) {table : ImportTable}
    (htable : ∀ e ∈ table.entries, ∃ a ∈ set.schemas, a.identifier = e.2)
    (as : List UntypedAttribute) {e : ValidationError}
    (he : .validate e ∈ (MetaSchema.validate ⟨set, table⟩ as).issues) :
    (∀ id reference, e ≠ .internal (.unresolvedReference id reference)) ∧
      ∀ name id, e ≠ .schemaMissing name id := by
  rcases mem_issues_validate.mp he with ⟨a, -, ha⟩ | ⟨x, hx, rfl⟩
  · rcases Validation.typed?_eq_error.mp ha with ha | ⟨id, d, hd, ha⟩
    · -- A schema that the table names is in the set, and its types end in primitive ones.
      rcases Validation.declarationOf?_eq_error.mp ha with
        ⟨-, rfl⟩ | ⟨id, hid, ⟨hnone, rfl⟩ | ⟨-, -, -, rfl⟩⟩
      · simp
      · obtain ⟨b, hbs, rfl⟩ := htable _ (mem_of_lookup hid)
        rw [hb.schema?_eq hbs] at hnone
        cases hnone
      · simp
    · rcases Validation.value?_eq_error.mp ha with ⟨hnone, rfl⟩ | ⟨p, -, -, rfl⟩
      · obtain ⟨-, b, hschema, hnamed⟩ := Validation.declarationOf?_eq_ok.mp hd
        have hr : d.type ∈ b.references :=
          List.mem_append_right _ (List.mem_map_of_mem (List.mem_of_find?_eq_some hnamed))
        have hsome := hb.isSome_primitiveOf? (mem_of_schema? hschema) hr
        rw [hnone] at hsome
        cases hsome
      · simp
  · obtain ⟨name, allowed, count, hcard⟩ := Validation.error_of_mem_violations hx
    rw [hcard]
    simp

end Backs

/-- **Resolved sets are typed.** In a set that is resolved over a session, whatever was asked of the
session before, every base and every type of an attribute leads to a primitive type. Validation against
it finds each schema of the table and each type. -/
theorem resolve_typed (env : Environment) (ops : List Operation) (table : ImportTable)
    (set : ResolvedSet) (h : ((directory env).resolve table (run env ops)).value = some set) :
    (∀ schema ∈ set.schemas, ∀ r ∈ schema.references, (set.primitiveOf? r).isSome) ∧
    ∀ as e, .validate e ∈ (validate ⟨set, table⟩ as).issues →
      (∀ id reference, e ≠ .internal (.unresolvedReference id reference)) ∧
        ∀ name id, e ≠ .schemaMissing name id := by
  obtain ⟨hb, htable⟩ := backs_of_resolve (run_valid env ops) h
  exact ⟨fun _ hs _ hr => hb.isSome_primitiveOf? hs hr, fun as _ he => hb.validate htable as he⟩

theorem resolve_typed_dublin : ∃ set,
    ((directory (Sample.source.environment 1000 1)).resolve ⟨[(Sample.dublin.name, Sample.dublin)]⟩
      (run (Sample.source.environment 1000 1) [.loadRoot Sample.core])).value = some set ∧
    (∀ schema ∈ set.schemas, ∀ r ∈ schema.references, (set.primitiveOf? r).isSome) ∧
    ∀ as e, .validate e ∈ (validate ⟨set, ⟨[(Sample.dublin.name, Sample.dublin)]⟩⟩ as).issues →
      (∀ id reference, e ≠ .internal (.unresolvedReference id reference)) ∧
        ∀ name id, e ≠ .schemaMissing name id := by
  have hset : ((directory (Sample.source.environment 1000 1)).resolve
      ⟨[(Sample.dublin.name, Sample.dublin)]⟩
      (run (Sample.source.environment 1000 1) [.loadRoot Sample.core])).value.isSome = true := by
    decide +kernel
  obtain ⟨set, hset⟩ := Option.isSome_iff_exists.mp hset
  exact ⟨set, hset, resolve_typed _ _ _ set hset⟩

end MetaSchema.Session
