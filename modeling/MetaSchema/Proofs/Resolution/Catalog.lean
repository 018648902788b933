import MetaSchema.Proofs.Resolution.ResolvedSet
import MetaSchema.Proofs.Resolution.Traversal

/-!
# Resolving over a catalog

* `Catalog.Needs`: a schema that a table leads to through the imports of the schemas of a catalog.
* `Catalog.Resolvable`: the catalog has all that a table needs, in one version of each name, without a
  circle of imports and without a type that is declared twice.
* `Catalog.Resolves`: a set has the needed schemas and their imports, and nothing else.
* `resolve_exact`: a table has a resolved set exactly if it is resolvable, and that is its set.
-/

namespace MetaSchema

open Relation (ReflTransGen TransGen)

namespace Catalog

variable {c : Catalog} {table : ImportTable}

/-- A schema of the catalog imports another. -/
def Imports (c : Catalog) (a b : SchemaIdentifier) : Prop :=
  ∃ schema, c.get? a = some schema ∧ b ∈ schema.imports

/-- The table leads to a schema through the imports of schemas of the catalog. -/
def Needs (c : Catalog) (table : ImportTable) (id : SchemaIdentifier) : Prop :=
  ∃ e ∈ table.entries, ReflTransGen c.Imports e.2 id

/-- What a table needs to be resolved. -/
structure Resolvable (c : Catalog) (table : ImportTable) : Prop where
  held : ∀ id, c.Needs table id → ∃ schema, c.get? id = some schema
  named : ∀ a b, c.Needs table a → c.Needs table b → a.name = b.name → a = b
  acyclic : ∀ id, c.Needs table id → ¬ TransGen c.Imports id id
  types : ∀ id schema, c.Needs table id → c.get? id = some schema →
    (schema.types.map TypeDeclaration.name).Nodup

/-- A set has what the table needs, each schema and each import once. -/
structure Resolves (c : Catalog) (table : ImportTable) (set : ResolvedSet) : Prop where
  schemas : ∀ schema, schema ∈ set.schemas ↔ ∃ id, c.Needs table id ∧ c.get? id = some schema
  schemas_nodup : set.schemas.Nodup
  vertices : ∀ id, id ∈ set.graph.vertices ↔ c.Needs table id
  vertices_nodup : set.graph.vertices.Nodup
  edges : ∀ a b, (a, b) ∈ set.graph.edges ↔ c.Needs table a ∧ c.Imports a b
  edges_nodup : set.graph.edges.Nodup

theorem Needs.imports {a b : SchemaIdentifier} (h : c.Needs table a) (hab : c.Imports a b) :
    c.Needs table b := by
  obtain ⟨e, he, hr⟩ := h
  exact ⟨e, he, hr.tail hab⟩

theorem identifier_of_get? {id : SchemaIdentifier} {schema : Schema} (h : c.get? id = some schema) :
    schema.identifier = id := by
  simpa using List.find?_some h

/-- Finding a schema changes nothing in a catalog, and reports nothing. -/
theorem find_eq (c : Catalog) (id : SchemaIdentifier) :
    (∃ schema, c.get? id = some schema ∧ c.find id = ⟨c, .ok schema, []⟩) ∨
    (c.get? id = none ∧ c.find id = ⟨c, .error (.schemaNotFound id), []⟩) := by
  unfold find
  cases h : c.get? id with
  | some schema => exact .inl ⟨schema, rfl, rfl⟩
  | none => exact .inr ⟨rfl, rfl⟩

theorem state_find (c : Catalog) (id : SchemaIdentifier) : (c.find id).state = c := by
  rcases c.find_eq id with ⟨schema, -, h⟩ | ⟨-, h⟩ <;> rw [h]

/-- A catalog is lawful: it holds what it can find. -/
theorem lawful (c : Catalog) : directory.Lawful (· = c) get? where
  keeps := by
    rintro id s rfl
    exact s.state_find id
  grows := by
    rintro id s rfl i schema h
    exact (s.state_find id).symm ▸ h
  finds := by
    rintro id s rfl schema h
    rcases s.find_eq id with ⟨found, hget, hfind⟩ | ⟨-, hfind⟩
    · simp only [directory, hfind] at h ⊢
      cases h
      exact hget
    · simp only [directory, hfind] at h
      cases h
  identifier_eq := fun _ _ _ _ h => identifier_of_get? h
  imports := fun _ _ _ _ _ i _ => state_find _ i
  size := by
    rintro s rfl ids hids h
    have hsub : ids ⊆ s.schemas.map Schema.identifier := by
      intro id hid
      obtain ⟨schema, hget⟩ := h id hid
      exact List.mem_map.mpr ⟨schema, List.mem_of_find?_eq_some hget, identifier_of_get? hget⟩
    simpa [directory] using hids.length_le_of_subset hsub

end Catalog

namespace Walk

variable {c : Catalog} {table : ImportTable} {w w' : Walk Catalog}

/-- Looking in a catalog reports nothing but that it lacks the schema. -/
theorem look_catalog (w : Walk Catalog) (id : SchemaIdentifier) :
    (∃ schema, w.directory.get? id = some schema ∧ (w.look Catalog.directory id).1 =
      { w with visited := id :: w.visited, found := insertFound id schema w.found }) ∨
    (w.directory.get? id = none ∧ (w.look Catalog.directory id).1 =
      ({ w with visited := id :: w.visited } : Walk Catalog).fail (.schemaNotFound id)) := by
  rcases w.directory.find_eq id with ⟨schema, hget, hfind⟩ | ⟨hget, hfind⟩
  · refine .inl ⟨schema, hget, ?_⟩
    simp only [look, Catalog.directory, hfind, List.append_nil]
  · refine .inr ⟨hget, ?_⟩
    simp only [look, Catalog.directory, hfind, List.append_nil]

/-- What holds of a walk over a catalog after every step: it visits what is needed and reports only
failures, and there are none in a resolvable table. -/
structure Follows (c : Catalog) (table : ImportTable) (w : Walk Catalog) : Prop where
  invariant : w.Invariant (· = c) Catalog.get?
  needed : ∀ id ∈ w.visited, c.Needs table id
  issues : w.failed = false → w.issues = []
  failed : c.Resolvable table → w.failed = false

namespace Follows

theorem get?_of_found (hw : w.Follows c table) {e : SchemaIdentifier × Schema} (he : e ∈ w.found) :
    c.get? e.1 = some e.2 :=
  hw.invariant.valid ▸ hw.invariant.held e he

/-- What is required is needed, and what requires it imports it. -/
theorem of_requires (hw : w.Follows c table) {requiredBy : Option SchemaIdentifier}
    {id : SchemaIdentifier} (hr : w.Requires (table.entries.map Prod.snd) requiredBy id) :
    c.Needs table id ∧ ∀ requester, requiredBy = some requester →
      c.Needs table requester ∧ c.Imports requester id := by
  cases requiredBy with
  | none =>
    obtain ⟨e, he, rfl⟩ := List.mem_map.mp hr
    exact ⟨⟨e, he, .refl⟩, fun _ h => by cases h⟩
  | some requester =>
    obtain ⟨schema, hs, hi⟩ := hr
    have hn := hw.needed _ (hw.invariant.listed _ hs)
    have himports : c.Imports requester id := ⟨schema, hw.get?_of_found hs, hi⟩
    refine ⟨hn.imports himports, fun _ h => ?_⟩
    cases h
    exact ⟨hn, himports⟩

/-- The graph has edges of the catalog only. -/
theorem imports_of_edge (hw : w.Follows c table) {a b : SchemaIdentifier} (h : w.graph.Edge a b) :
    c.Imports a b := by
  obtain ⟨schema, hs, hb⟩ := hw.invariant.edges a b h
  exact ⟨schema, hw.get?_of_found hs, hb⟩

/-- Nothing that a resolvable table needs is refused. -/
theorem enter_ne_error (hw : w.Follows c table) (hc : c.Resolvable table)
    {requiredBy : Option SchemaIdentifier} {id : SchemaIdentifier} {e : ResolveError}
    (hr : w.Requires (table.entries.map Prod.snd) requiredBy id) :
    w.enter requiredBy id ≠ .error e := by
  intro he
  obtain ⟨hneeds, hrequester⟩ := hw.of_requires hr
  rcases enter_eq_error he with ⟨existing, hexisting, hne, -⟩ | ⟨requester, path, rfl, hpath, -⟩
  · -- Another version of it was visited, and that is needed too.
    have hvisited := List.mem_of_find?_eq_some hexisting
    have hname : existing.name = id.name := by simpa using List.find?_some hexisting
    exact hne (hc.named _ _ (hw.needed _ hvisited) hneeds hname)
  · -- It leads back to the schema that imports it.
    obtain ⟨-, himports⟩ := hrequester requester rfl
    have hback := ImportGraph.reaches_of_addEdge? hw.invariant.graph hpath
    have hpath : ReflTransGen c.Imports id requester :=
      ReflTransGen.mono (fun _ _ h => hw.imports_of_edge h) _ _ hback
    exact hc.acyclic id hneeds (.tail' hpath himports)

/-- One step. -/
theorem step (hw : w.Follows c table)
    (h : Step Catalog.directory (table.entries.map Prod.snd) w w') : w'.Follows c table := by
  have hinvariant := (h.invariant c.lawful hw.invariant).1
  rcases h with ⟨hr, he⟩ | ⟨hr, he, hv⟩ | ⟨hr, he, hv⟩
  · refine ⟨hinvariant, hw.needed, fun h => ?_, fun hc => (hw.enter_ne_error hc hr he).elim⟩
    cases h
  · obtain ⟨g, rfl, -⟩ := hw.invariant.entered hr he
    exact ⟨hinvariant, hw.needed, hw.issues, hw.failed⟩
  · rename_i requiredBy id _
    obtain ⟨g, rfl, -⟩ := hw.invariant.entered hr he
    have hneeds := (hw.of_requires hr).1
    have hneeded : ∀ v ∈ id :: w.visited, c.Needs table v := by
      intro v hv
      rcases List.mem_cons.mp hv with rfl | hv
      · exact hneeds
      · exact hw.needed v hv
    rcases look_catalog { w with graph := g } id with ⟨schema, hget, hlook⟩ | ⟨hget, hlook⟩
    · rw [hlook] at hinvariant ⊢
      exact ⟨hinvariant, hneeded, hw.issues, hw.failed⟩
    · rw [hlook] at hinvariant ⊢
      refine ⟨hinvariant, hneeded, nofun, fun hc => ?_⟩
      -- A resolvable table needs no schema that the catalog lacks.
      obtain ⟨schema, hheld⟩ := hc.held id hneeds
      rw [← hw.invariant.valid, hget] at hheld
      cases hheld

theorem walk (c : Catalog) (table : ImportTable) :
    (Catalog.directory.walk table c).Follows c table := by
  refine (walk_steps Catalog.directory table c).keeps (fun w w' h hw => hw.step h) ?_
  exact ⟨invariant_start rfl, by simp [start], fun _ => rfl, fun _ => rfl⟩

/-- A walk that explored all that it found has visited all that is needed. -/
theorem mem_visited (hw : w.Follows c table) (hf : w.failed = false)
    (hroots : ∀ e ∈ table.entries, e.2 ∈ w.visited) (hexplored : ∀ e ∈ w.found, w.Explored e)
    {id : SchemaIdentifier} : id ∈ w.visited ↔ c.Needs table id := by
  constructor
  · exact hw.needed id
  · rintro ⟨e, he, hr⟩
    refine reflTransGen_mem (p := (· ∈ w.visited)) ?_ (hroots e he) hr
    rintro a b ha ⟨schema, hget, hb⟩
    obtain ⟨found, hfound⟩ := hw.invariant.found hf a ha
    have hsame := hw.get?_of_found hfound
    rw [hget] at hsame
    cases hsame
    exact (hexplored _ hfound b hb).1

end Follows

end Walk

namespace Catalog

open Walk

variable {c : Catalog} {table : ImportTable} {w : Walk Catalog}

/-- What a walk has found when it has visited all that is needed. -/
theorem mem_found (hw : w.Follows c table) (hf : w.failed = false)
    (hvisited : ∀ id, id ∈ w.visited ↔ c.Needs table id) {schema : Schema} :
    schema ∈ w.found.map Prod.snd ↔ ∃ id, c.Needs table id ∧ c.get? id = some schema := by
  constructor
  · intro h
    obtain ⟨e, he, rfl⟩ := List.mem_map.mp h
    exact ⟨e.1, (hvisited _).mp (hw.invariant.listed e he), hw.get?_of_found he⟩
  · rintro ⟨id, hneeds, hget⟩
    obtain ⟨found, hfound⟩ := hw.invariant.found hf id ((hvisited id).mpr hneeds)
    have hsame := hw.get?_of_found hfound
    rw [hget] at hsame
    cases hsame
    exact List.mem_map.mpr ⟨_, hfound, rfl⟩

/-- The edges of the graph are the imports of what is needed. -/
theorem edge_iff (hw : w.Follows c table) (hf : w.failed = false)
    (hvisited : ∀ id, id ∈ w.visited ↔ c.Needs table id) (hexplored : ∀ e ∈ w.found, w.Explored e)
    {a b : SchemaIdentifier} : w.graph.Edge a b ↔ c.Needs table a ∧ c.Imports a b := by
  constructor
  · intro h
    have ha := (hw.invariant.graph.ends a b h).1
    exact ⟨(hvisited a).mp ((hw.invariant.vertices a).mp ha), hw.imports_of_edge h⟩
  · rintro ⟨hneeds, schema, hget, hb⟩
    obtain ⟨found, hfound⟩ := hw.invariant.found hf a ((hvisited a).mpr hneeds)
    have hsame := hw.get?_of_found hfound
    rw [hget] at hsame
    cases hsame
    exact (hexplored _ hfound b hb).2

/-- What imports lead to stays among what is needed, so a graph of the imports of that leads to it
too. -/
theorem transGen_edge {g : ImportGraph} (hedge : ∀ a b, c.Needs table a → c.Imports a b → g.Edge a b)
    {a b : SchemaIdentifier} (ha : c.Needs table a) (h : TransGen c.Imports a b) :
    c.Needs table b ∧ TransGen g.Edge a b := by
  induction h with
  | single h => exact ⟨ha.imports h, .single (hedge _ _ ha h)⟩
  | tail _ h ih => exact ⟨ih.1.imports h, ih.2.tail (hedge _ _ ih.1 h)⟩

/-- The set of a walk that did not fail. -/
theorem resolves_of_walk {set : ResolvedSet} (hf : (directory.walk table c).failed = false)
    (hset : ResolvedSet.ofSchemas? (directory.walk table c).graph
      ((directory.walk table c).found.map Prod.snd) = .ok set) :
    c.Resolvable table ∧ c.Resolves table set ∧ (directory.walk table c).issues = [] := by
  have hw := Follows.walk c table
  obtain ⟨hexplored, hroots⟩ := walk_explored c.lawful rfl hf
  generalize directory.walk table c = w at *
  have hvisited : ∀ id, id ∈ w.visited ↔ c.Needs table id := fun id =>
    hw.mem_visited hf hroots hexplored
  have hedge : ∀ a b, w.graph.Edge a b ↔ c.Needs table a ∧ c.Imports a b := fun a b =>
    edge_iff hw hf hvisited hexplored
  obtain ⟨hnames, htypes, rfl⟩ := ResolvedSet.ofSchemas?_eq_ok.mp hset
  refine ⟨⟨?_, ?_, ?_, ?_⟩, ⟨?_, hnames.of_map _, ?_, hw.invariant.graph.vertices_nodup, hedge,
    hw.invariant.graph.edges_nodup⟩, hw.issues hf⟩
  · intro id hneeds
    obtain ⟨schema, hs⟩ := hw.invariant.found hf id ((hvisited id).mpr hneeds)
    exact ⟨schema, hw.get?_of_found hs⟩
  · intro a b ha hb
    exact List.inj_on_of_nodup_map hw.invariant.names ((hvisited a).mpr ha) ((hvisited b).mpr hb)
  · intro id hneeds hcycle
    -- A circle among what the table needs would be one of edges, and those are acyclic.
    have hgraph := transGen_edge (fun a b ha hab => (hedge a b).mpr ⟨ha, hab⟩) hneeds hcycle
    exact hw.invariant.graph.acyclic id hgraph.2
  · intro id schema hneeds hget
    exact htypes schema ((mem_found hw hf hvisited).mpr ⟨id, hneeds, hget⟩)
  · exact fun schema => mem_found hw hf hvisited
  · exact fun id => (hw.invariant.vertices id).trans (hvisited id)

/-- **Resolving over a catalog.** A table has a resolved set exactly if it is resolvable. The set is
then made of the schemas that the table needs and of their imports, and nothing is reported. -/
theorem resolve_exact (c : Catalog) (table : ImportTable) :
    ((directory.resolve table c).value.isSome ↔ c.Resolvable table) ∧
    ∀ set, (directory.resolve table c).value = some set →
      c.Resolves table set ∧ (directory.resolve table c).issues = [] := by
  refine ⟨⟨fun h => ?_, fun hc => ?_⟩, fun set h => ?_⟩
  · obtain ⟨set, h⟩ := Option.isSome_iff_exists.mp h
    obtain ⟨hf, hset⟩ := resolve_eq_some.mp h
    exact (resolves_of_walk hf hset).1
  · have hw := Follows.walk c table
    have hnames := hw.invariant.found_names c.lawful
    have htypes : ∀ schema ∈ (directory.walk table c).found.map Prod.snd,
        (schema.types.map TypeDeclaration.name).Nodup := by
      intro schema hs
      obtain ⟨e, he, rfl⟩ := List.mem_map.mp hs
      exact hc.types e.1 e.2 (hw.needed _ (hw.invariant.listed e he)) (hw.get?_of_found he)
    have hset := ResolvedSet.ofSchemas?_eq_ok (g := (directory.walk table c).graph).mpr
      ⟨hnames, htypes, rfl⟩
    exact Option.isSome_iff_exists.mpr ⟨_, resolve_eq_some.mpr ⟨hw.failed hc, hset⟩⟩
  · obtain ⟨hf, hset⟩ := resolve_eq_some.mp h
    obtain ⟨-, hresolves, hissues⟩ := resolves_of_walk hf hset
    refine ⟨hresolves, ?_⟩
    unfold Directory.resolve
    simp only [hf, hset, hissues, Bool.false_eq_true, ↓reduceIte]

end Catalog

end MetaSchema
