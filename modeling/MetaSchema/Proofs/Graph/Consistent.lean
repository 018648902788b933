import MetaSchema.Graph.Slots
import MetaSchema.Proofs.Graph.Reachability
import MetaSchema.Proofs.Lists
import MetaSchema.Proofs.Name.Order
import Mathlib.Data.Finset.Card
import Mathlib.Data.List.Nodup

/-!
# What is read of the import graph

A stored graph can be read in several ways: by the index of its vertices, by its slots, or by the edges
between them. They agree if its parts do.

* `SlotGraph.Consistent`: the index and the slots have the same vertices in the same places, just the other
  slots are vacant, and the edges lead between vertices and are listed once.
* `Consistent.mem_vertices`, `Consistent.edge_iff`, `Consistent.importsOf_eq`: what is read by the index is
  what is in the slots.
* `SlotGraph.Describes`: all that can be read of a graph is what some vertices and some edges say.
* `Consistent.describes`: of a consistent graph, they are what is in the slots.
* `Describes.same_iff`: graphs are the same just if the same vertices and edges describe them.
-/

namespace MetaSchema

/-- Edges by their starts and then by their targets. -/
def edgeOrder : SchemaIdentifier × SchemaIdentifier → SchemaIdentifier × SchemaIdentifier → Ordering :=
  compareLex (compareOn Prod.fst) (compareOn Prod.snd)

instance : Std.TransCmp edgeOrder :=
  inferInstanceAs (Std.TransCmp (compareLex (compareOn Prod.fst) (compareOn Prod.snd)))

instance : Std.LawfulEqCmp edgeOrder where
  compare_self {a} := Ordering.then_eq_eq.mpr
    ⟨Std.ReflOrd.compare_self (a := a.1), Std.ReflOrd.compare_self (a := a.2)⟩
  eq_of_compare h := by
    obtain ⟨hstart, htarget⟩ := Ordering.then_eq_eq.mp h
    exact Prod.ext (Std.LawfulEqOrd.eq_of_compare hstart) (Std.LawfulEqOrd.eq_of_compare htarget)

namespace ImportGraph

variable {g h : ImportGraph}

theorem same_eq_true : g.same h = true ↔
    g.vertices.toFinset = h.vertices.toFinset ∧ g.edges.toFinset = h.edges.toFinset := by
  simp only [same, Bool.and_eq_true, List.all_eq_true, decide_eq_true_eq, Finset.ext_iff, List.mem_toFinset]
  constructor
  · rintro ⟨⟨⟨hv, hv'⟩, he⟩, he'⟩
    exact ⟨fun v => ⟨hv v, hv' v⟩, fun e => ⟨he e, he' e⟩⟩
  · rintro ⟨hv, he⟩
    exact ⟨⟨⟨fun v => (hv v).mp, fun v => (hv v).mpr⟩, fun e => (he e).mp⟩, fun e => (he e).mpr⟩

theorem sortedEdges_enumerates (hg : g.edges.Nodup) : Enumerates edgeOrder g.sortedEdges {e | e ∈ g.edges} :=
  enumerates_mergeSort hg fun _ => Iff.rfl

theorem nodup_successors (hg : g.edges.Nodup) (v : SchemaIdentifier) : (g.successors v).Nodup := by
  refine List.Nodup.map_on (fun x hx y hy heq => ?_) (hg.filter _)
  have hxv : x.1 = v := by simpa using (List.mem_filter.mp hx).2
  have hyv : y.1 = v := by simpa using (List.mem_filter.mp hy).2
  exact Prod.ext (hxv.trans hyv.symm) heq

theorem importsOf_enumerates (hg : g.edges.Nodup) (v : SchemaIdentifier) :
    Enumerates compare (g.importsOf v) {w | g.Edge v w} :=
  enumerates_mergeSort (nodup_successors hg v) fun _ => mem_successors

end ImportGraph

namespace SlotGraph

/-- The parts of a graph agree. -/
structure Consistent (g : SlotGraph) : Prop where
  index_nodup : (g.index.map Prod.fst).Nodup
  /-- A vertex is in the slot that it has, and has the slot that it is in. -/
  slotOf?_eq_some : ∀ v i, g.slotOf? v = some i ↔ g.vertexAt? i = some v
  vacant_nodup : g.vacant.Nodup
  mem_vacant : ∀ i, i ∈ g.vacant ↔ g.slots[i]? = some none
  edges_nodup : g.edges.Nodup
  ends : ∀ e ∈ g.edges, (∃ v, g.vertexAt? e.1 = some v) ∧ ∃ v, g.vertexAt? e.2 = some v

variable {g h : SlotGraph} {v a b : SchemaIdentifier}

/-! ## Vertices and edges -/

theorem mem_index : v ∈ g.index.map Prod.fst ↔ g.contains v = true := by
  simp [contains, slotOf?, List.lookup_isSome_iff]

theorem mem_contents_vertices : v ∈ g.contents.vertices ↔ ∃ i, g.vertexAt? i = some v := by
  have hslot : v ∈ g.contents.vertices ↔ some v ∈ g.slots := by
    simp only [contents, List.mem_filterMap, exists_eq_right]
  simp only [hslot, List.mem_iff_getElem?, vertexAt?, Option.join_eq_some_iff]

/-- The vertices at the ends of an edge. -/
def ends? (g : SlotGraph) (e : Nat × Nat) : Option (SchemaIdentifier × SchemaIdentifier) := do
  return (← g.vertexAt? e.1, ← g.vertexAt? e.2)

theorem ends?_eq_some {e : Nat × Nat} :
    g.ends? e = some (a, b) ↔ g.vertexAt? e.1 = some a ∧ g.vertexAt? e.2 = some b := by
  simp [ends?, Option.bind_eq_some_iff]

theorem contents_edges : g.contents.edges = g.edges.filterMap g.ends? := rfl

theorem edge_contents : g.contents.Edge a b ↔
    ∃ e ∈ g.edges, g.vertexAt? e.1 = some a ∧ g.vertexAt? e.2 = some b := by
  simp only [ImportGraph.Edge, contents_edges, List.mem_filterMap, ends?_eq_some]

namespace Consistent

variable (hg : g.Consistent)
include hg

/-- Just the vertices in the slots are in the index. -/
theorem mem_vertices : v ∈ g.contents.vertices ↔ g.contains v = true := by
  rw [mem_contents_vertices, contains, Option.isSome_iff_exists]
  exact exists_congr fun i => (hg.slotOf?_eq_some v i).symm

/-- Just the edges between the vertices in the slots are found by the index. -/
theorem edge_iff : g.contents.Edge a b ↔ g.containsEdge a b = true := by
  rw [edge_contents]
  constructor
  · rintro ⟨e, he, ha, hb⟩
    rw [← hg.slotOf?_eq_some] at ha hb
    simpa [containsEdge, ha, hb] using he
  · intro hedge
    unfold containsEdge at hedge
    split at hedge
    · rename_i i j hi hj
      rw [hg.slotOf?_eq_some] at hi hj
      exact ⟨(i, j), by simpa using hedge, hi, hj⟩
    · cases hedge

/-- Slots of the same vertex are the same. -/
theorem slot_unique {i j : Nat} (hi : g.vertexAt? i = some v) (hj : g.vertexAt? j = some v) : i = j := by
  rw [← hg.slotOf?_eq_some] at hi hj
  exact Option.some.inj (hi.symm.trans hj)

theorem nodup_contents_edges : g.contents.edges.Nodup := by
  refine List.Nodup.filterMap (fun e e' x he he' => ?_) hg.edges_nodup
  obtain ⟨hstart, htarget⟩ := ends?_eq_some.mp he
  obtain ⟨hstart', htarget'⟩ := ends?_eq_some.mp he'
  exact Prod.ext (hg.slot_unique hstart hstart') (hg.slot_unique htarget htarget')

theorem length_contents_edges : g.contents.edges.length = g.edges.length := by
  refine List.filterMap_length_eq_length.mpr fun e he => ?_
  obtain ⟨⟨x, hx⟩, y, hy⟩ := hg.ends e he
  exact Option.isSome_of_eq_some (ends?_eq_some.mpr ⟨hx, hy⟩)

/-- What edges lead to from a slot is what edges lead to from the vertex in it. -/
theorem importsOf_eq (v : SchemaIdentifier) : g.importsOf v = g.contents.importsOf v := by
  unfold importsOf
  cases hv : g.slotOf? v with
  | none =>
    have hnone : g.contents.successors v = [] := by
      refine List.eq_nil_iff_forall_not_mem.mpr fun w hw => ?_
      obtain ⟨e, -, hstart, -⟩ := edge_contents.mp (ImportGraph.mem_successors.mp hw)
      cases hv.symm.trans ((hg.slotOf?_eq_some v e.1).mpr hstart)
    rw [ImportGraph.importsOf, hnone, List.mergeSort_nil]
  | some i =>
    refine congrArg ImportGraph.sorted ?_
    rw [ImportGraph.successors, contents_edges, List.filterMap_filter, List.filter_filterMap,
      List.map_filterMap]
    -- Both sides go through the same edges now, and each keeps those that lead away from `v`.
    refine List.filterMap_congr fun e he => ?_
    obtain ⟨⟨x, hx⟩, y, hy⟩ := hg.ends e he
    have hends : g.ends? e = some (x, y) := ends?_eq_some.mpr ⟨hx, hy⟩
    have hi := (hg.slotOf?_eq_some v i).mp hv
    have hstart : e.1 = i ↔ x = v := by
      constructor
      · rintro rfl
        exact Option.some.inj (hx.symm.trans hi)
      · rintro rfl
        exact hg.slot_unique hx hi
    by_cases h : x = v <;> simp [hends, hy, hstart, h]

end Consistent

/-! ## Descriptions -/

/-- All that can be read of a graph is that it has these vertices and these edges. -/
structure Describes (g : SlotGraph) (V : Finset SchemaIdentifier)
    (E : Finset (SchemaIdentifier × SchemaIdentifier)) : Prop where
  ends : ∀ a b, (a, b) ∈ E → a ∈ V ∧ b ∈ V
  contains_iff : ∀ v, g.contains v = true ↔ v ∈ V
  containsEdge_iff : ∀ a b, g.containsEdge a b = true ↔ (a, b) ∈ E
  vertices : Enumerates compare g.sortedVertices V
  edges : Enumerates edgeOrder g.sortedEdges E
  imports : ∀ v, Enumerates compare (g.importsOf v) {w | (v, w) ∈ E}
  vertexCount_eq : g.vertexCount = V.card
  edgeCount_eq : g.edgeCount = E.card

/-- **A consistent graph** is described by what is in its slots. -/
theorem Consistent.describes (hg : g.Consistent) :
    g.Describes g.contents.vertices.toFinset g.contents.edges.toFinset where
  ends a b hab := by
    obtain ⟨e, he, ha, hb⟩ := edge_contents.mp (List.mem_toFinset.mp hab)
    simp only [List.mem_toFinset, mem_contents_vertices]
    exact ⟨⟨_, ha⟩, _, hb⟩
  contains_iff v := by rw [List.mem_toFinset, hg.mem_vertices]
  containsEdge_iff a b := by
    rw [List.mem_toFinset]
    exact hg.edge_iff.symm
  vertices := enumerates_mergeSort hg.index_nodup fun v => by
    rw [Finset.mem_coe, List.mem_toFinset, mem_index, hg.mem_vertices]
  edges := by
    have hsorted := ImportGraph.sortedEdges_enumerates hg.nodup_contents_edges
    rw [sortedEdges, eraseDups_of_nodup hsorted.nodup]
    simpa using hsorted
  imports v := by
    have hsorted := ImportGraph.importsOf_enumerates hg.nodup_contents_edges v
    rw [hg.importsOf_eq]
    simpa [ImportGraph.Edge] using hsorted
  vertexCount_eq := by
    have hvertices : g.contents.vertices.toFinset = (g.index.map Prod.fst).toFinset := by
      ext v
      rw [List.mem_toFinset, List.mem_toFinset, mem_index, hg.mem_vertices]
    rw [hvertices, List.toFinset_card_of_nodup hg.index_nodup, List.length_map, vertexCount]
  edgeCount_eq := by
    rw [List.toFinset_card_of_nodup hg.nodup_contents_edges, hg.length_contents_edges, edgeCount]

/-- Graphs are the same just if they have the same vertices and edges. -/
theorem Describes.same_iff {V V' : Finset SchemaIdentifier}
    {E E' : Finset (SchemaIdentifier × SchemaIdentifier)} (hg : g.Describes V E)
    (hh : h.Describes V' E') : g.same h = true ↔ V = V' ∧ E = E' := by
  rw [same, Bool.and_eq_true, decide_eq_true_eq, decide_eq_true_eq, hg.vertices.eq_iff hh.vertices,
    hg.edges.eq_iff hh.edges, Finset.coe_inj, Finset.coe_inj]

end SlotGraph

end MetaSchema
