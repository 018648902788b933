import MetaSchema.Graph.Slots
import MetaSchema.Proofs.Graph.Consistent
import MetaSchema.Proofs.Graph.Order
import MetaSchema.Proofs.Lists
import Mathlib.Data.List.Nodup

/-!
# What is stored in slots

A refused edge may have taken a slot and left it again. That slot is the last one, so the vertices are
in the slots that they would be in without it, and the next vertex gets the slot that it would get.

* `ImportGraph.stored`: how a graph is stored, with or without a vacant slot behind its vertices.
* `contents_stored`, `slotOf?_stored`: what is stored can be read again.
* `consistent_stored`: its parts agree.
* `addVertex_stored`, `addEdge_stored`: changing what is stored stores the changed graph. A refused
  edge changes the graph in nothing.
* `Request.answer`, `Request.next`: what a request says about a graph and its copy, and what it makes of
  them.
* `Workspace.Holds.perform`: that is what it says about a stored graph and a stored copy.
* `Workspace.run_accepted`: without the refused edges, requests have the same answers and lead to the
  same graph.
* `Workspace.run_ordered`: whatever was asked of a graph, it has a dependency order.
* `Workspace.run_consistent`: and all that can be read of it tells of the same vertices and edges.
-/

namespace MetaSchema

open Relation (ReflTransGen)

/-- A graph in slots: its vertices in their order, and then perhaps a vacant slot. -/
def ImportGraph.stored (h : ImportGraph) (spare : Bool) : SlotGraph where
  slots := h.vertices.map some ++ if spare then [none] else []
  vacant := if spare then [h.vertices.length] else []
  edges := h.edges.map fun e => (h.vertices.idxOf e.1, h.vertices.idxOf e.2)
  index := h.vertices.zipIdx.reverse

variable {h : ImportGraph} {spare : Bool} {v a b : SchemaIdentifier}

namespace ImportGraph

/-! ## Reading -/

theorem map_fst_index_stored : (h.stored spare).index.map Prod.fst = h.vertices.reverse := by
  rw [stored, List.map_reverse, List.zipIdx_map_fst]

/-- Each vertex is in the slot of its place in the list of vertices. -/
theorem slotOf?_stored (hnodup : h.vertices.Nodup) (v : SchemaIdentifier) :
    (h.stored spare).slotOf? v = if v ∈ h.vertices then some (h.vertices.idxOf v) else none := by
  change h.vertices.zipIdx.reverse.lookup v = _
  have hkeys : h.vertices.zipIdx.reverse.map Prod.fst = h.vertices.reverse :=
    @map_fst_index_stored h spare
  split
  · rename_i hv
    refine lookup_of_nodup (by rw [hkeys]; exact List.nodup_reverse.mpr hnodup) ?_
    exact List.mem_reverse.mpr (List.mem_zipIdx_iff_getElem?.mpr (List.getElem?_idxOf hv))
  · rename_i hv
    refine List.lookup_eq_none_iff.mpr fun e he => ?_
    have hmem : e.1 ∈ h.vertices.reverse := hkeys ▸ List.mem_map_of_mem he
    exact bne_iff_ne.mpr fun heq => hv (heq ▸ List.mem_reverse.mp hmem)

theorem contains_stored (hnodup : h.vertices.Nodup) (v : SchemaIdentifier) :
    (h.stored spare).contains v = h.contains v := by
  rw [SlotGraph.contains, slotOf?_stored hnodup, contains]
  split <;> simp_all

theorem slots_stored (i : Nat) : (h.stored spare).slots[i]? =
    (h.vertices[i]?.map some).or (if spare ∧ i = h.vertices.length then some none else none) := by
  simp only [stored]
  rcases Nat.lt_trichotomy i h.vertices.length with hi | rfl | hi
  · rw [List.getElem?_append_left (by simpa using hi), List.getElem?_map, List.getElem?_eq_getElem hi]
    rfl
  · cases spare <;> simp
  · have hlength : (h.vertices.map some ++ if spare then [none] else []).length ≤ i := by
      cases spare <;> simp <;> omega
    rw [List.getElem?_eq_none hlength, List.getElem?_eq_none (Nat.le_of_lt hi),
      if_neg fun hend => Nat.ne_of_gt hi hend.2]
    rfl

theorem vertexAt?_stored (i : Nat) : (h.stored spare).vertexAt? i = h.vertices[i]? := by
  rw [SlotGraph.vertexAt?, slots_stored]
  cases h.vertices[i]? with
  | some v => rfl
  | none =>
    simp only [Option.map_none, Option.none_or]
    split <;> rfl

/-- **What is stored** can be read again. -/
theorem contents_stored (hg : h.WellFormed) : (h.stored spare).contents = h := by
  have hvertices : (h.stored spare).slots.filterMap (fun slot => slot) = h.vertices := by
    have htail : (if spare then [none] else []).filterMap (fun slot : Option SchemaIdentifier => slot) =
        [] := by
      cases spare <;> rfl
    simp only [stored, List.filterMap_append, htail, List.append_nil, List.filterMap_map]
    exact List.filterMap_some
  have hread : ∀ e ∈ h.edges,
      (h.stored spare).ends? (h.vertices.idxOf e.1, h.vertices.idxOf e.2) = some e := by
    rintro ⟨x, y⟩ he
    obtain ⟨hx, hy⟩ := hg.ends x y he
    rw [SlotGraph.ends?_eq_some, vertexAt?_stored, vertexAt?_stored]
    exact ⟨List.getElem?_idxOf hx, List.getElem?_idxOf hy⟩
  have hedges : (h.stored spare).edges.filterMap (h.stored spare).ends? = h.edges := by
    rw [stored, List.filterMap_map]
    exact (List.filterMap_congr hread).trans List.filterMap_some
  exact congrArg₂ mk hvertices hedges

/-- **The parts of what is stored** agree. -/
theorem consistent_stored (hg : h.WellFormed) : (h.stored spare).Consistent where
  index_nodup := by
    rw [map_fst_index_stored]
    exact List.nodup_reverse.mpr hg.vertices_nodup
  slotOf?_eq_some v i := by
    rw [slotOf?_stored hg.vertices_nodup, vertexAt?_stored]
    constructor
    · intro hslot
      split at hslot
      · rename_i hv
        cases hslot
        exact List.getElem?_idxOf hv
      · cases hslot
    · intro hvertex
      obtain ⟨hi, rfl⟩ := List.getElem?_eq_some_iff.mp hvertex
      rw [if_pos (List.getElem_mem hi), hg.vertices_nodup.idxOf_getElem]
  vacant_nodup := by
    cases spare <;> simp [stored]
  mem_vacant i := by
    have hvacant : i ∈ (h.stored spare).vacant ↔ spare = true ∧ i = h.vertices.length := by
      cases spare <;> simp [stored]
    rw [hvacant, slots_stored]
    cases hi : h.vertices[i]? with
    | some v =>
      have hne : i ≠ h.vertices.length := Nat.ne_of_lt (List.getElem?_eq_some_iff.mp hi).1
      simp [hne]
    | none => simp
  edges_nodup := by
    refine List.Nodup.map_on (fun e he e' he' heq => ?_) hg.edges_nodup
    obtain ⟨hstart, htarget⟩ := Prod.mk.inj heq
    exact Prod.ext ((List.idxOf_inj (hg.ends _ _ he).1).mp hstart)
      ((List.idxOf_inj (hg.ends _ _ he).2).mp htarget)
  ends e he := by
    obtain ⟨⟨x, y⟩, hxy, rfl⟩ := List.mem_map.mp he
    obtain ⟨hx, hy⟩ := hg.ends x y hxy
    simp only [vertexAt?_stored]
    exact ⟨⟨x, List.getElem?_idxOf hx⟩, y, List.getElem?_idxOf hy⟩

theorem containsEdge_stored (hg : h.WellFormed) (a b : SchemaIdentifier) :
    (h.stored spare).containsEdge a b = h.containsEdge a b := by
  have hedge : (h.stored spare).contents.Edge a b ↔ (h.stored spare).containsEdge a b = true :=
    (consistent_stored hg).edge_iff
  rw [contents_stored hg] at hedge
  rw [Bool.eq_iff_iff, ← hedge, containsEdge, decide_eq_true_eq, Edge]

/-- Comparing what is stored compares the graphs. -/
theorem same_stored {g : ImportGraph} {spare' : Bool} (hg : g.WellFormed) (hh : h.WellFormed) :
    (g.stored spare).same (h.stored spare') = g.same h := by
  have hdescribed :=
    (@consistent_stored g spare hg).describes.same_iff (@consistent_stored h spare' hh).describes
  rw [contents_stored hg, contents_stored hh] at hdescribed
  rw [Bool.eq_iff_iff, hdescribed, same_eq_true]

/-! ## Changing -/

/-- The slots of the ends of edges do not depend on vertices that come later. -/
theorem slots_of_edges (hg : h.WellFormed) (v : SchemaIdentifier) :
    h.edges.map (fun e => ((h.vertices ++ [v]).idxOf e.1, (h.vertices ++ [v]).idxOf e.2)) =
      h.edges.map fun e => (h.vertices.idxOf e.1, h.vertices.idxOf e.2) := by
  refine List.map_congr_left fun e he => ?_
  obtain ⟨hx, hy⟩ := hg.ends e.1 e.2 he
  rw [List.idxOf_append_of_mem hx, List.idxOf_append_of_mem hy]

/-- A vertex that is not in the graph is put into the slot behind the others, vacant or new. -/
theorem place_stored (hg : h.WellFormed) (hv : v ∉ h.vertices) :
    (h.stored spare).place v = (h.addVertex v).stored false := by
  have hadd : h.addVertex v = ⟨h.vertices ++ [v], h.edges⟩ := by simp [addVertex, hv]
  rw [hadd]
  cases spare <;>
    simp [stored, SlotGraph.place, slots_of_edges hg, List.zipIdx_append, List.set_append_right]

theorem addVertex_stored (hg : h.WellFormed) (v : SchemaIdentifier) :
    (h.stored spare).addVertex v = (h.addVertex v).stored (spare && h.contains v) := by
  rw [SlotGraph.addVertex, contains_stored hg.vertices_nodup]
  by_cases hv : v ∈ h.vertices
  · simp [contains, addVertex, hv]
  · simp [contains, hv, place_stored hg hv]

/-- A vertex that was just added is removed without a trace but its slot, which is vacant then. -/
theorem removeVertex_stored (hg : h.WellFormed) (hv : v ∉ h.vertices) :
    ((h.addVertex v).stored false).removeVertex v = h.stored true := by
  have hadd : h.addVertex v = ⟨h.vertices ++ [v], h.edges⟩ := by simp [addVertex, hv]
  have hslot : ((h.addVertex v).stored false).slotOf? v = some h.vertices.length := by
    rw [slotOf?_stored (hg.addVertex v).vertices_nodup, hadd, if_pos (by simp),
      List.idxOf_append_of_notMem hv]
    simp
  have hslots : ((h.vertices ++ [v]).map some ++ []).set h.vertices.length none =
      h.vertices.map some ++ [none] := by
    simp [List.set_append_right]
  -- The slot of `v` lies behind those of all the ends of edges, so no edge goes with it.
  have hedges : (h.edges.map fun e => (h.vertices.idxOf e.1, h.vertices.idxOf e.2)).filter
      (fun e => e.1 ≠ h.vertices.length ∧ e.2 ≠ h.vertices.length) =
        h.edges.map fun e => (h.vertices.idxOf e.1, h.vertices.idxOf e.2) := by
    refine List.filter_eq_self.mpr fun e he => ?_
    obtain ⟨⟨x, y⟩, hxy, rfl⟩ := List.mem_map.mp he
    obtain ⟨hx, hy⟩ := hg.ends x y hxy
    have hx := List.idxOf_lt_length_iff.mpr hx
    have hy := List.idxOf_lt_length_iff.mpr hy
    simp only [decide_eq_true_eq]
    omega
  have hindex : (h.vertices ++ [v]).zipIdx.reverse.filter (fun e => e.1 ≠ v) =
      h.vertices.zipIdx.reverse := by
    rw [List.zipIdx_append, List.reverse_append, List.filter_append]
    refine (congrArg₂ (· ++ ·) (by simp) (List.filter_eq_self.mpr fun e he => ?_)).trans
      (List.nil_append _)
    refine decide_eq_true fun heq => hv ?_
    have hmem := List.mem_map_of_mem (f := Prod.fst) (List.mem_reverse.mp he)
    rwa [List.zipIdx_map_fst, heq] at hmem
  rw [SlotGraph.removeVertex, hslot, hadd]
  simp only [stored, Bool.false_eq_true, ↓reduceIte, slots_of_edges hg, hslots, hedges, hindex]

/-- Connecting two vertices. -/
theorem connect_stored (hg : h.WellFormed) (ha : a ∈ h.vertices) (hb : b ∈ h.vertices) :
    (h.stored spare).connect a b =
      ImportGraph.stored (if (a, b) ∈ h.edges then h else { h with edges := (a, b) :: h.edges })
        spare := by
  have hedge : (h.stored spare).containsEdge a b = h.containsEdge a b := containsEdge_stored hg a b
  rw [SlotGraph.containsEdge] at hedge
  rw [SlotGraph.connect]
  rw [slotOf?_stored hg.vertices_nodup, slotOf?_stored hg.vertices_nodup, if_pos ha, if_pos hb]
    at hedge ⊢
  simp only [containsEdge, decide_eq_decide] at hedge
  simp only [hedge]
  split <;> rfl

/-- **Adding an edge** to a stored graph. A refused edge leaves the graph as it was. -/
theorem addEdge_stored (hg : h.WellFormed) (a b : SchemaIdentifier) : ∃ spare',
    (h.stored spare).addEdge a b =
      match h.addEdge? a b with
      | .ok h' => (h'.stored spare', none)
      | .error path => (h.stored spare', some path) := by
  have hga := hg.addVertex a
  have hgb := hga.addVertex b
  have hrefused : ∀ path, h.addEdge? a b = .error path → a = b ∨ a ∈ h.vertices ∧ b ∈ h.vertices := by
    intro path hpath
    -- A path from `b` to `a` has no edge, or its ends are in the graph.
    rcases ReflTransGen.cases_head (reaches_of_addEdge? hg hpath) with rfl | ⟨x, hbx, hxa⟩
    · exact .inl rfl
    · refine .inr ⟨?_, (hg.ends b x hbx).1⟩
      exact reflTransGen_mem (p := (· ∈ h.vertices)) (fun _ _ _ he => (hg.ends _ _ he).2)
        (hg.ends b x hbx).2 hxa
  unfold SlotGraph.addEdge
  simp only [addVertex_stored hg, addVertex_stored hga, contains_stored hga.vertices_nodup,
    contains_stored hg.vertices_nodup, SlotGraph.path?, contents_stored hgb]
  unfold addEdge? at hrefused ⊢
  simp only at hrefused ⊢
  cases hpath : ((h.addVertex a).addVertex b).path? b a with
  | none =>
    refine ⟨(spare && h.contains a) && (h.addVertex a).contains b, ?_⟩
    simp only
    rw [connect_stored hgb (by simp) (by simp)]
    split <;> rfl
  | some path =>
    simp only [hpath] at hrefused ⊢
    -- An end was added and has to be taken back only for an edge from a new vertex to itself.
    rcases hrefused path rfl with rfl | ⟨ha, hb⟩
    · by_cases ha : a ∈ h.vertices
      · exact ⟨spare, by simp [contains, addVertex, ha]⟩
      · refine ⟨true, ?_⟩
        have hremove := removeVertex_stored hg ha
        have htwice : (h.addVertex a).addVertex a = h.addVertex a := if_pos (by simp)
        simp [contains, ha, htwice, hremove]
    · exact ⟨spare, by simp [contains, addVertex, ha, hb]⟩

end ImportGraph

/-! ## Requests -/

namespace Workspace

/-- What a request says about a graph and a copy. -/
def Request.answer (g copy : ImportGraph) : Request → Answer
  | .addVertex v => .truth (!g.contains v)
  | .addEdge a b =>
    match g.addEdge? a b with
    | .ok _ => .accepted
    | .error circle => .refused circle
  | .contains v => .truth (g.contains v)
  | .containsEdge a b => .truth (g.containsEdge a b)
  | .path a b => .path (g.path? a b)
  | .imports v => .schemas (g.importsOf v)
  | .order => .schemas g.dependencyOrder
  | .counts => .counts g.vertices.length g.edges.length
  | .snapshot => .taken
  | .same => .truth (g.same copy)

/-- What a request makes of a graph and a copy. -/
def Request.next (g copy : ImportGraph) : Request → ImportGraph × ImportGraph
  | .addVertex v => (g.addVertex v, copy)
  | .addEdge a b =>
    match g.addEdge? a b with
    | .ok wider => (wider, copy)
    | .error _ => (g, copy)
  | .snapshot => (g, g)
  | _ => (g, copy)

theorem Request.next_of_refusal {g copy : ImportGraph} {r : Request}
    (h : (r.answer g copy).isRefusal = true) : r.next g copy = (g, copy) := by
  cases r with
  | addEdge a b =>
    simp only [Request.answer, Request.next] at h ⊢
    split at h
    · cases h
    · rfl
  | _ => cases h

/-- A well-formed graph and a well-formed copy are stored. -/
structure Holds (w : Workspace) (g copy : ImportGraph) : Prop where
  graph_wellFormed : g.WellFormed
  copy_wellFormed : copy.WellFormed
  graph_eq : ∃ spare, w.graph = g.stored spare
  copy_eq : ∃ spare, w.copy = copy.stored spare

variable {w w' : Workspace} {g copy : ImportGraph}

theorem holds_empty : empty.Holds .empty .empty :=
  ⟨ImportGraph.wellFormed_empty, ImportGraph.wellFormed_empty, ⟨false, rfl⟩, ⟨false, rfl⟩⟩

/-- Only where the vertices are kept does one stored graph look different from another of the same
contents, and no vertex is kept elsewhere. -/
theorem Holds.slotOf?_eq (hw : w.Holds g copy) (hw' : w'.Holds g copy) (v : SchemaIdentifier) :
    w.graph.slotOf? v = w'.graph.slotOf? v := by
  obtain ⟨spare, hgraph⟩ := hw.graph_eq
  obtain ⟨spare', hgraph'⟩ := hw'.graph_eq
  rw [hgraph, hgraph', ImportGraph.slotOf?_stored hw.graph_wellFormed.vertices_nodup,
    ImportGraph.slotOf?_stored hw.graph_wellFormed.vertices_nodup]

theorem Holds.contents_eq (hw : w.Holds g copy) : w.graph.contents = g := by
  obtain ⟨spare, hgraph⟩ := hw.graph_eq
  rw [hgraph, ImportGraph.contents_stored hw.graph_wellFormed]

theorem Holds.copy_contents_eq (hw : w.Holds g copy) : w.copy.contents = copy := by
  obtain ⟨spare, hcopy⟩ := hw.copy_eq
  rw [hcopy, ImportGraph.contents_stored hw.copy_wellFormed]

theorem Holds.consistent (hw : w.Holds g copy) : w.graph.Consistent := by
  obtain ⟨spare, hgraph⟩ := hw.graph_eq
  rw [hgraph]
  exact ImportGraph.consistent_stored hw.graph_wellFormed

/-- **One request** says what it says about the graphs that are stored, and makes of them what it makes
of these graphs. -/
theorem Holds.perform (hw : w.Holds g copy) (r : Request) :
    (w.perform r).2 = r.answer g copy ∧
    (w.perform r).1.Holds (r.next g copy).1 (r.next g copy).2 := by
  obtain ⟨hg, hcopy, ⟨spare, hgraph⟩, ⟨spareCopy, hcopied⟩⟩ := id hw
  obtain ⟨graph, copied⟩ := w
  subst hgraph hcopied
  have hcontents : (g.stored spare).contents = g := ImportGraph.contents_stored hg
  have himports := hw.consistent.importsOf_eq
  cases r with
  | addVertex v =>
    refine ⟨by simp [Workspace.perform, Request.answer, ImportGraph.contains_stored hg.vertices_nodup],
      hg.addVertex v, hcopy, ⟨_, ImportGraph.addVertex_stored hg v⟩, ⟨spareCopy, rfl⟩⟩
  | addEdge a b =>
    obtain ⟨spare', hadd⟩ := @ImportGraph.addEdge_stored g spare hg a b
    cases hedge : g.addEdge? a b with
    | ok wider =>
      rw [hedge] at hadd
      simp only [Workspace.perform, hadd, Request.answer, Request.next, hedge]
      obtain ⟨-, hinserted⟩ := ImportGraph.inserted_of_addEdge? hg hedge
      exact ⟨rfl, hinserted.wellFormed, hcopy, ⟨spare', rfl⟩, ⟨spareCopy, rfl⟩⟩
    | error path =>
      rw [hedge] at hadd
      simp only [Workspace.perform, hadd, Request.answer, Request.next, hedge]
      exact ⟨rfl, hg, hcopy, ⟨spare', rfl⟩, ⟨spareCopy, rfl⟩⟩
  | contains v =>
    exact ⟨by simp [Workspace.perform, Request.answer, ImportGraph.contains_stored hg.vertices_nodup], hw⟩
  | containsEdge a b =>
    exact ⟨by simp [Workspace.perform, Request.answer, ImportGraph.containsEdge_stored hg], hw⟩
  | path a b =>
    exact ⟨by simp [Workspace.perform, Request.answer, SlotGraph.path?, hcontents], hw⟩
  | imports v =>
    exact ⟨by simp [Workspace.perform, Request.answer, himports, hcontents], hw⟩
  | order => exact ⟨by simp [Workspace.perform, Request.answer, hcontents], hw⟩
  | counts =>
    exact ⟨by simp [Workspace.perform, Request.answer, SlotGraph.vertexCount, SlotGraph.edgeCount,
      ImportGraph.stored], hw⟩
  | snapshot => exact ⟨rfl, hg, hg, ⟨spare, rfl⟩, ⟨spare, rfl⟩⟩
  | same =>
    exact ⟨by simp [Workspace.perform, Request.answer, ImportGraph.same_stored hg hcopy], hw⟩

/-- Requests keep a well-formed graph stored. -/
theorem Holds.run (hw : w.Holds g copy) (rs : List Request) :
    ∃ g' copy', (w.run rs).1.Holds g' copy' := by
  induction rs generalizing w g copy with
  | nil => exact ⟨g, copy, hw⟩
  | cons r rs ih => exact ih (hw.perform r).2

/-- **Whatever was asked of a graph**, it has no cycle, and its dependency order has every vertex once and
after all that it imports. The order is empty only without vertices. -/
theorem run_ordered (rs : List Request) :
    let g := (empty.run rs).1.graph.contents
    g.Acyclic ∧ g.IsDependencyOrder g.dependencyOrder ∧ (g.dependencyOrder = [] ↔ g.vertices = []) := by
  intro g
  obtain ⟨stored, copy, hstored⟩ := holds_empty.run rs
  have hg : g.WellFormed := by
    rw [show g = stored from hstored.contents_eq]
    exact hstored.graph_wellFormed
  have horder := hg.isDependencyOrder
  refine ⟨hg.acyclic, horder, ?_⟩
  rw [List.eq_nil_iff_forall_not_mem, List.eq_nil_iff_forall_not_mem]
  exact forall_congr' fun v => not_congr (horder.mem_iff v)

/-- **Whatever was asked of a graph**, its parts agree: the index and the slots have the same vertices, and no
edge is stored twice. So all that can be read of it tells of the same vertices and the same edges. -/
theorem run_consistent (rs : List Request) :
    let g := (empty.run rs).1.graph
    g.Consistent ∧ ∃ V E, g.Describes V E := by
  intro g
  obtain ⟨stored, copy, hstored⟩ := holds_empty.run rs
  have hg : g.Consistent := hstored.consistent
  exact ⟨hg, _, _, hg.describes⟩

/-! ## Refused edges -/

/-- Requests with their answers, without the edges that were refused. -/
def accepted (w : Workspace) (rs : List Request) : List (Request × Answer) :=
  (rs.zip (w.run rs).2).filter fun x => !x.2.isRefusal

/-- **Without the refused edges** requests have the same answers, and lead to the same graph. -/
theorem run_accepted (rs : List Request) (hw : w.Holds g copy) (hw' : w'.Holds g copy) :
    (w'.run ((w.accepted rs).map Prod.fst)).2 = (w.accepted rs).map Prod.snd ∧
    ∃ g' copy', (w.run rs).1.Holds g' copy' ∧
      (w'.run ((w.accepted rs).map Prod.fst)).1.Holds g' copy' := by
  induction rs generalizing w w' g copy with
  | nil => exact ⟨rfl, g, copy, hw, hw'⟩
  | cons r rs ih =>
    obtain ⟨hanswer, hnext⟩ := hw.perform r
    obtain ⟨hanswer', hnext'⟩ := hw'.perform r
    cases hrefused : (w.perform r).2.isRefusal with
    | true =>
      -- The refused edge changed nothing: `w` and `w'` still hold the same graph.
      have haccepted : w.accepted (r :: rs) = (w.perform r).1.accepted rs := by
        simp [accepted, Workspace.run, hrefused]
      rw [Request.next_of_refusal (hanswer ▸ hrefused)] at hnext
      rw [haccepted]
      exact ih hnext hw'
    | false =>
      have haccepted : w.accepted (r :: rs) = (r, (w.perform r).2) :: (w.perform r).1.accepted rs := by
        simp [accepted, Workspace.run, hrefused]
      obtain ⟨hanswers, hholds⟩ := ih hnext hnext'
      rw [haccepted]
      refine ⟨?_, hholds⟩
      simp only [List.map_cons, Workspace.run, hanswers, hanswer, hanswer']

end Workspace

end MetaSchema
