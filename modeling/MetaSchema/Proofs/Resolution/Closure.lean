import MetaSchema.Proofs.Resolution.Walk
import Mathlib.Data.List.Nodup

/-!
# What a walk finds

* `Directory.Lawful`: what a walk relies on in a directory.
* `Walk.Invariant`: what holds of a walk after every step.
* `Walk.Grows`: no step loses anything.
* `Steps.size_lt`: the schemas that a directory holds and that were not found are a measure of the
  levels that a visit may still need.
-/

namespace MetaSchema

/-- What a walk relies on: valid states hold schemas under their identifiers, and what is found is held
from then on. Finding an import of a schema that is held changes nothing. -/
structure Directory.Lawful {σ : Type} (d : Directory σ) (valid : σ → Prop)
    (held : σ → SchemaIdentifier → Option Schema) : Prop where
  keeps : ∀ id s, valid s → valid (d.find id s).state
  grows : ∀ id s, valid s → ∀ i schema, held s i = some schema →
    held (d.find id s).state i = some schema
  finds : ∀ id s, valid s → ∀ schema, (d.find id s).value = .ok schema →
    held (d.find id s).state id = some schema
  identifier_eq : ∀ id s, valid s → ∀ schema, held s id = some schema → schema.identifier = id
  imports : ∀ id s, valid s → ∀ schema, held s id = some schema →
    ∀ i ∈ schema.imports, (d.find i s).state = s
  size : ∀ s, valid s → ∀ ids : List SchemaIdentifier, ids.Nodup →
    (∀ id ∈ ids, ∃ schema, held s id = some schema) → ids.length ≤ d.size s

namespace Walk

variable {σ : Type} {d : Directory σ} {valid : σ → Prop}
  {held : σ → SchemaIdentifier → Option Schema} {roots : List SchemaIdentifier} {w w' w'' : Walk σ}

/-! ## The invariant -/

/-- What holds of a walk after every step. -/
structure Invariant (valid : σ → Prop) (held : σ → SchemaIdentifier → Option Schema) (w : Walk σ) :
    Prop where
  valid : valid w.directory
  held : ∀ e ∈ w.found, held w.directory e.1 = some e.2
  listed : w.Listed
  found : w.failed = false → ∀ v ∈ w.visited, ∃ schema, (v, schema) ∈ w.found
  nodup : (w.found.map Prod.fst).Nodup
  names : (w.visited.map SchemaIdentifier.name).Nodup
  graph : w.graph.WellFormed
  vertices : ∀ v, v ∈ w.graph.vertices ↔ v ∈ w.visited
  edges : ∀ a b, w.graph.Edge a b → ∃ schema, (a, schema) ∈ w.found ∧ b ∈ schema.imports

theorem invariant_start {s : σ} (hs : valid s) : (start s).Invariant valid held where
  valid := hs
  held := by simp [start]
  listed := by simp [Listed, start]
  found := by simp [start]
  nodup := by simp [start]
  names := by simp [start]
  graph := ImportGraph.wellFormed_empty
  vertices := by simp [start, ImportGraph.empty]
  edges := by simp [start, ImportGraph.empty, ImportGraph.Edge]

/-- What one walk has, another has too. -/
structure Grows (w w' : Walk σ) : Prop where
  failed : w'.failed = false → w.failed = false
  visited : w.visited ⊆ w'.visited
  found : w.found ⊆ w'.found
  edges : ∀ a b, w.graph.Edge a b → w'.graph.Edge a b

theorem Grows.refl (w : Walk σ) : Grows w w :=
  ⟨id, List.Subset.refl _, List.Subset.refl _, fun _ _ h => h⟩

theorem Grows.trans (h : Grows w w') (h' : Grows w' w'') : Grows w w'' :=
  ⟨fun hf => h.failed (h'.failed hf), List.Subset.trans h.visited h'.visited,
    List.Subset.trans h.found h'.found, fun a b he => h'.edges a b (h.edges a b he)⟩

/-- The graph after a required schema was entered. -/
structure Entered (w : Walk σ) (requiredBy : Option SchemaIdentifier) (id : SchemaIdentifier)
    (g : ImportGraph) : Prop where
  wellFormed : g.WellFormed
  mem_vertices : ∀ v, v ∈ g.vertices ↔ v ∈ w.visited ∨ v = id
  edge_iff : ∀ a b, g.Edge a b ↔ w.graph.Edge a b ∨ requiredBy = some a ∧ b = id
  named : ∀ v ∈ w.visited, v.name = id.name → id ∈ w.visited

theorem Invariant.entered (hw : w.Invariant valid held) {requiredBy : Option SchemaIdentifier}
    {id : SchemaIdentifier} (hr : w.Requires roots requiredBy id)
    (he : w.enter requiredBy id = .ok w') :
    ∃ g, w' = { w with graph := g } ∧ Entered w requiredBy id g := by
  obtain ⟨hnamed, g, rfl, h⟩ := enter_eq_ok he
  refine ⟨g, rfl, ?_⟩
  rcases h with ⟨rfl, rfl⟩ | ⟨requester, rfl, hg⟩
  · exact ⟨hw.graph.addVertex id, by simp [hw.vertices], by simp, hnamed⟩
  · obtain ⟨-, hi⟩ := ImportGraph.inserted_of_addEdge? hw.graph hg
    obtain ⟨schema, hs, -⟩ := hr
    have hrequester : requester ∈ w.visited := hw.listed _ hs
    refine ⟨hi.wellFormed, fun v => ?_, fun a b => ?_, hnamed⟩
    · rw [hi.mem_vertices, hw.vertices]
      refine ⟨?_, fun h => h.imp_right .inr⟩
      rintro (hv | rfl | rfl)
      · exact .inl hv
      · exact .inl hrequester
      · exact .inr rfl
    · simp [hi.edge_iff, eq_comm]

variable {requiredBy : Option SchemaIdentifier} {id : SchemaIdentifier} {g : ImportGraph}

/-- What is entered is imported by what requires it. -/
theorem Entered.edges (hg : Entered w requiredBy id g) (hw : w.Invariant valid held)
    (hr : w.Requires roots requiredBy id) {a b : SchemaIdentifier} (h : g.Edge a b) :
    ∃ schema, (a, schema) ∈ w.found ∧ b ∈ schema.imports := by
  rcases (hg.edge_iff a b).mp h with h | ⟨rfl, rfl⟩
  · exact hw.edges a b h
  · exact hr

/-- What is entered for the first time has a name of its own. -/
theorem Entered.names (hg : Entered w requiredBy id g) (hw : w.Invariant valid held)
    (hv : id ∉ w.visited) : ((id :: w.visited).map SchemaIdentifier.name).Nodup := by
  rw [List.map_cons, List.nodup_cons]
  refine ⟨fun hmem => ?_, hw.names⟩
  obtain ⟨v, hvisited, hname⟩ := List.mem_map.mp hmem
  exact hv (hg.named v hvisited hname)

namespace Invariant

theorem fail (hw : w.Invariant valid held) (e : ResolveError) :
    (w.fail e).Invariant valid held ∧ Grows w (w.fail e) := by
  refine ⟨⟨hw.valid, hw.held, hw.listed, ?_, hw.nodup, hw.names, hw.graph, hw.vertices, hw.edges⟩,
    ⟨?_, List.Subset.refl _, List.Subset.refl _, fun _ _ h => h⟩⟩ <;>
  · intro h
    cases h

/-- Entering a schema that was visited. -/
theorem seen (hw : w.Invariant valid held) (hr : w.Requires roots requiredBy id)
    (hg : Entered w requiredBy id g) (hv : id ∈ w.visited) :
    ({ w with graph := g } : Walk σ).Invariant valid held ∧ Grows w { w with graph := g } := by
  refine ⟨⟨hw.valid, hw.held, hw.listed, hw.found, hw.nodup, hw.names, hg.wellFormed, fun v => ?_,
    fun a b => hg.edges hw hr⟩,
    ⟨fun h => h, List.Subset.refl _, List.Subset.refl _, fun a b h => (hg.edge_iff a b).mpr (.inl h)⟩⟩
  rw [hg.mem_vertices]
  exact ⟨fun h => h.elim (fun h => h) (· ▸ hv), .inl⟩

/-- Entering a schema that was not visited, and looking it up. -/
theorem looked (hd : d.Lawful valid held) (hw : w.Invariant valid held)
    (hr : w.Requires roots requiredBy id) (hg : Entered w requiredBy id g) (hv : id ∉ w.visited) :
    (look d { w with graph := g } id).1.Invariant valid held ∧
      Grows w (look d { w with graph := g } id).1 := by
  have hl := looks d { w with graph := g } id
  generalize look d { w with graph := g } id = o at hl
  have hvertices : ∀ v, v ∈ g.vertices ↔ v ∈ id :: w.visited := fun v => by
    rw [hg.mem_vertices, List.mem_cons, or_comm]
  have hgrows : ∀ a b, w.graph.Edge a b → g.Edge a b := fun a b h => (hg.edge_iff a b).mpr (.inl h)
  -- Looking for one schema takes none away, so what was found is held still.
  have hheld : ∀ e ∈ w.found, held (d.find id w.directory).state e.1 = some e.2 :=
    fun e he => hd.grows id _ hw.valid _ _ (hw.held e he)
  cases hl with
  | missing hf =>
    refine ⟨⟨hd.keeps id _ hw.valid, hheld, ?_, ?_, hw.nodup, hg.names hw hv, hg.wellFormed,
      hvertices, fun a b => hg.edges hw hr⟩, ⟨?_, List.subset_cons_self .., List.Subset.refl _, hgrows⟩⟩
    · exact fun e he => List.mem_cons_of_mem _ (hw.listed e he)
    · exact fun h => by cases h
    · exact fun h => by cases h
  | @found schema hf =>
    have hperm := hw.listed.insertFound_perm hv schema
    have hmem : ∀ e, e ∈ insertFound id schema w.found ↔ e = (id, schema) ∨ e ∈ w.found := by
      intro e
      rw [hperm.mem_iff, List.mem_cons]
    refine ⟨⟨hd.keeps id _ hw.valid, ?_, ?_, ?_, ?_, hg.names hw hv, hg.wellFormed, hvertices, ?_⟩,
      ⟨fun h => h, List.subset_cons_self .., fun e he => (hmem e).mpr (.inr he), hgrows⟩⟩
    · intro e he
      rcases (hmem e).mp he with rfl | he
      · exact hd.finds _ _ hw.valid _ hf
      · exact hheld e he
    · intro e he
      rcases (hmem e).mp he with rfl | he
      · exact List.mem_cons_self
      · exact List.mem_cons_of_mem _ (hw.listed e he)
    · intro hfailed v hvisited
      rcases List.mem_cons.mp hvisited with rfl | hvisited
      · exact ⟨schema, (hmem _).mpr (.inl rfl)⟩
      · obtain ⟨other, ho⟩ := hw.found hfailed v hvisited
        exact ⟨other, (hmem _).mpr (.inr ho)⟩
    · rw [(hperm.map Prod.fst).nodup_iff, List.map_cons, List.nodup_cons]
      refine ⟨fun h => ?_, hw.nodup⟩
      obtain ⟨e, hfound, rfl⟩ := List.mem_map.mp h
      exact hv (hw.listed e hfound)
    · intro a b hab
      obtain ⟨other, ho, hi⟩ := hg.edges hw hr hab
      exact ⟨other, (hmem _).mpr (.inr ho), hi⟩

end Invariant

/-- **One step** keeps the invariant and loses nothing. -/
theorem Step.invariant (hd : d.Lawful valid held) (h : Step d roots w w')
    (hw : w.Invariant valid held) : w'.Invariant valid held ∧ Grows w w' := by
  cases h with
  | refused hr he => exact hw.fail _
  | seen hr he hv =>
    obtain ⟨g, rfl, hg⟩ := hw.entered hr he
    exact hw.seen hr hg hv
  | looked hr he hv =>
    obtain ⟨g, rfl, hg⟩ := hw.entered hr he
    exact hw.looked hd hr hg hv

theorem Steps.invariant (hd : d.Lawful valid held) (h : Steps d roots w w')
    (hw : w.Invariant valid held) : w'.Invariant valid held ∧ Grows w w' := by
  induction h with
  | refl => exact ⟨hw, .refl w⟩
  | tail _ hstep ih =>
    obtain ⟨hinvariant, hgrows⟩ := hstep.invariant hd ih.1
    exact ⟨hinvariant, ih.2.trans hgrows⟩

/-- Nothing but what the document requires changes the directory: the imports of a schema that is held
are found without a change. -/
theorem Steps.directory_eq (hd : d.Lawful valid held) (h : Steps d [] w w')
    (hw : w.Invariant valid held) : w'.directory = w.directory := by
  induction h with
  | refl => rfl
  | @tail x y hsteps hstep ih =>
    rw [← ih]
    have hx := (Steps.invariant hd hsteps hw).1
    rcases hstep with ⟨-, -⟩ | ⟨hr, he, -⟩ | ⟨hr, he, -⟩
    · rfl
    · obtain ⟨g, rfl, -⟩ := hx.entered hr he
      rfl
    · rename_i requiredBy id _
      obtain ⟨g, rfl, -⟩ := hx.entered hr he
      -- With no roots, the step is for an import of a schema that was found.
      have hfind : (d.find id x.directory).state = x.directory := by
        cases requiredBy with
        | none => cases hr
        | some requester =>
          obtain ⟨schema, hs, hi⟩ := hr
          exact hd.imports _ _ hx.valid schema (hx.held _ hs) id hi
      have hl := looks d { x with graph := g } id
      generalize look d { x with graph := g } id = o at hl
      cases hl <;> exact hfind

/-- Everything that was found is held, so there is no more of it than the directory holds. -/
theorem Invariant.length_found_le (hd : d.Lawful valid held) (hw : w.Invariant valid held) :
    w.found.length ≤ d.size w.directory := by
  have h := hd.size w.directory hw.valid (w.found.map Prod.fst) hw.nodup fun id hid => by
    obtain ⟨e, he, rfl⟩ := List.mem_map.mp hid
    exact ⟨e.2, hw.held e he⟩
  rwa [List.length_map] at h

/-- Schemas that were found have different names. -/
theorem Invariant.found_names (hd : d.Lawful valid held) (hw : w.Invariant valid held) :
    ((w.found.map Prod.snd).map (·.identifier.name)).Nodup := by
  have hkeys : (w.found.map Prod.snd).map (·.identifier.name) =
      (w.found.map Prod.fst).map SchemaIdentifier.name := by
    rw [List.map_map, List.map_map]
    refine List.map_congr_left fun e he => ?_
    exact congrArg _ (hd.identifier_eq _ _ hw.valid _ (hw.held e he))
  have hvisited : ∀ id ∈ w.found.map Prod.fst, id ∈ w.visited := by
    intro id hid
    obtain ⟨e, he, rfl⟩ := List.mem_map.mp hid
    exact hw.listed e he
  rw [hkeys]
  refine hw.nodup.map_on fun a ha b hb hname => ?_
  exact List.inj_on_of_nodup_map hw.names (hvisited a ha) (hvisited b hb) hname

/-! ## What a step adds -/

/-- A schema that is looked for and found is found besides the others. -/
theorem found_of_enter {schema : Schema} (hw : w.Listed) (he : w.enter requiredBy id = .ok w')
    (hv : id ∉ w.visited) (hl : (w'.look d id).2 = some schema) :
    (w'.look d id).1.found.Perm ((id, schema) :: w.found) := by
  obtain ⟨-, g, rfl, -⟩ := enter_eq_ok he
  exact Listed.found_look (w := { w with graph := g }) hw hv hl

/-- So it requires what it imports. -/
theorem requires_of_enter {schema : Schema} (hw : w.Listed) (he : w.enter requiredBy id = .ok w')
    (hv : id ∉ w.visited) (hl : (w'.look d id).2 = some schema) (roots : List SchemaIdentifier) :
    ∀ i ∈ schema.imports, (w'.look d id).1.Requires roots (some id) i :=
  fun _ hi => ⟨schema, (found_of_enter hw he hv hl).mem_iff.mpr List.mem_cons_self, hi⟩

/-- Steps that the document does not require keep the directory and only add to what was found. -/
theorem Steps.size_lt (hd : d.Lawful valid held) {n : Nat} (hw : w.Invariant valid held)
    (h : Steps d [] w w') (hn : d.size w.directory < n + w.found.length) :
    d.size w'.directory < n + w'.found.length := by
  obtain ⟨-, hg⟩ := h.invariant hd hw
  have hle : w.found.length ≤ w'.found.length :=
    (List.Nodup.of_map _ hw.nodup).length_le_of_subset hg.found
  rw [h.directory_eq hd hw]
  omega

/-! ## Walking a table -/

variable {table : ImportTable} {s : σ}

theorem walk_invariant (hd : d.Lawful valid held) (table : ImportTable) (hs : valid s) :
    (d.walk table s).Invariant valid held :=
  ((walk_steps d table s).invariant hd (invariant_start hs)).1

/-- The document requires the schemas of the table. -/
theorem requires_start (table : ImportTable) (s : σ) : ∀ id ∈ table.entries.map Prod.snd,
    (start s).Requires (table.entries.map Prod.snd) none id :=
  fun _ hid => hid

end Walk

end MetaSchema
