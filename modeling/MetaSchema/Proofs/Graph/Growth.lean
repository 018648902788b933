import MetaSchema.Proofs.Graph.Search

/-!
# How the import graph grows

* `ImportGraph.WellFormed`: the vertices and the edges are each listed once, the graph holds the ends
  of its edges, and it has no cycle.
* `WellFormed.addVertex`: adding a vertex changes no edge.
* `addEdge?_cases`: an edge is refused exactly if its end reaches its start already. Otherwise the
  new graph has that edge and its ends besides the old ones, and it is well formed again.
-/

namespace MetaSchema.ImportGraph

open Relation (ReflTransGen TransGen)

/-- What every sequence of insertions keeps. -/
structure WellFormed (g : ImportGraph) : Prop where
  vertices_nodup : g.vertices.Nodup
  edges_nodup : g.edges.Nodup
  ends : ∀ a b, g.Edge a b → a ∈ g.vertices ∧ b ∈ g.vertices
  acyclic : g.Acyclic

variable {g : ImportGraph}

theorem wellFormed_empty : empty.WellFormed where
  vertices_nodup := by simp [empty]
  edges_nodup := by simp [empty]
  ends := by simp [Edge, empty]
  acyclic := by
    intro v h
    obtain ⟨w, he, -⟩ := TransGen.head'_iff.mp h
    simp [Edge, empty] at he

/-! ## Vertices -/

@[simp] theorem edges_addVertex (v : SchemaIdentifier) : (g.addVertex v).edges = g.edges := by
  unfold addVertex
  split <;> rfl

@[simp] theorem edge_addVertex (v : SchemaIdentifier) : (g.addVertex v).Edge = g.Edge := by
  unfold Edge
  rw [edges_addVertex]

@[simp] theorem reaches_addVertex (v : SchemaIdentifier) : (g.addVertex v).Reaches = g.Reaches := by
  unfold Reaches
  rw [edge_addVertex]

@[simp] theorem mem_addVertex {v w : SchemaIdentifier} :
    w ∈ (g.addVertex v).vertices ↔ w ∈ g.vertices ∨ w = v := by
  unfold addVertex
  split
  · rename_i h
    exact ⟨.inl, fun hw => hw.elim id (· ▸ h)⟩
  · simp

theorem WellFormed.addVertex (hg : g.WellFormed) (v : SchemaIdentifier) :
    (g.addVertex v).WellFormed where
  vertices_nodup := by
    unfold ImportGraph.addVertex
    split
    · exact hg.vertices_nodup
    · rename_i h
      exact List.nodup_append.mpr ⟨hg.vertices_nodup, by simp, by grind⟩
  edges_nodup := by
    rw [edges_addVertex]
    exact hg.edges_nodup
  ends := by
    intro a b he
    rw [edge_addVertex] at he
    obtain ⟨ha, hb⟩ := hg.ends a b he
    exact ⟨mem_addVertex.mpr (.inl ha), mem_addVertex.mpr (.inl hb)⟩
  acyclic := by
    unfold Acyclic
    rw [edge_addVertex]
    exact hg.acyclic

/-! ## Edges -/

/-- What a graph with one more edge reaches was reached before, or is reached over the new edge. -/
theorem transGen_insert {h : ImportGraph} {a b : SchemaIdentifier} (hab : ¬ g.Reaches b a)
    (he : ∀ x y, h.Edge x y ↔ g.Edge x y ∨ x = a ∧ y = b) {x y : SchemaIdentifier}
    (hxy : TransGen h.Edge x y) :
    TransGen g.Edge x y ∨ g.Reaches x a ∧ g.Reaches b y := by
  induction hxy with
  | single hxy =>
    rcases (he _ _).mp hxy with hxy | ⟨rfl, rfl⟩
    · exact .inl (.single hxy)
    · exact .inr ⟨.refl, .refl⟩
  | tail _ hyz ih =>
    rcases (he _ _).mp hyz with hyz | ⟨rfl, rfl⟩
    · exact ih.imp (·.tail hyz) fun ⟨hx, hy⟩ => ⟨hx, hy.tail hyz⟩
    · rcases ih with hx | ⟨-, hy⟩
      · exact .inr ⟨hx.to_reflTransGen, .refl⟩
      · exact (hab hy).elim

theorem Acyclic.insert {h : ImportGraph} (hg : g.Acyclic) {a b : SchemaIdentifier}
    (hab : ¬ g.Reaches b a) (he : ∀ x y, h.Edge x y ↔ g.Edge x y ∨ x = a ∧ y = b) :
    h.Acyclic := by
  intro v hv
  rcases transGen_insert hab he hv with hv | ⟨hva, hbv⟩
  · exact hg v hv
  · exact hab (ReflTransGen.trans hbv hva)

/-- The graph after an edge was accepted. -/
structure Inserted (g : ImportGraph) (a b : SchemaIdentifier) (h : ImportGraph) : Prop where
  wellFormed : h.WellFormed
  mem_vertices : ∀ v, v ∈ h.vertices ↔ v ∈ g.vertices ∨ v = a ∨ v = b
  edge_iff : ∀ x y, h.Edge x y ↔ g.Edge x y ∨ x = a ∧ y = b

theorem Inserted.edge {h : ImportGraph} {a b : SchemaIdentifier} (hi : Inserted g a b h) :
    h.Edge a b := (hi.edge_iff a b).mpr (.inr ⟨rfl, rfl⟩)

theorem Inserted.reaches {h : ImportGraph} {a b : SchemaIdentifier} (hi : Inserted g a b h)
    {x y : SchemaIdentifier} (hr : g.Reaches x y) : h.Reaches x y :=
  hr.mono fun x y he => (hi.edge_iff x y).mpr (.inl he)

/-- **Inserting an edge.** Either the end of the edge reaches its start, and the edge is refused; or
it does not, and the graph grows by just that edge. -/
theorem addEdge?_cases (hg : g.WellFormed) (a b : SchemaIdentifier) :
    (g.Reaches b a ∧ ∃ path, g.addEdge? a b = .error path) ∨
    (¬ g.Reaches b a ∧ ∃ h, g.addEdge? a b = .ok h ∧ Inserted g a b h) := by
  have hw := (hg.addVertex a).addVertex b
  -- The path is sought with both ends added, which changes nothing that is reached.
  have hpath := path?_isSome (fun x y he => (hw.ends x y he).2) b a
  simp only [mem_addVertex, reaches_addVertex, or_true, true_or, true_and] at hpath
  unfold addEdge?
  simp only
  split
  · rename_i path hp
    rw [hp] at hpath
    exact .inl ⟨by simpa using hpath, path, rfl⟩
  · rename_i hp
    rw [hp] at hpath
    have hab : ¬ g.Reaches b a := by simpa using hpath
    refine .inr ⟨hab, ?_⟩
    split
    · rename_i hmem
      -- The edge was there already, so the graph stays as it is.
      refine ⟨_, rfl, hw, by simp [or_assoc], fun x y => ?_⟩
      simp only [edge_addVertex]
      refine ⟨.inl, fun h => h.elim id ?_⟩
      rintro ⟨rfl, rfl⟩
      simpa [Edge] using hmem
    · rename_i hmem
      have he : ∀ x y, Edge ⟨((g.addVertex a).addVertex b).vertices,
          (a, b) :: ((g.addVertex a).addVertex b).edges⟩ x y ↔ g.Edge x y ∨ x = a ∧ y = b := by
        intro x y
        simp [Edge, or_comm]
      refine ⟨_, rfl, ⟨hw.vertices_nodup, List.nodup_cons.mpr ⟨hmem, hw.edges_nodup⟩, ?_,
        hg.acyclic.insert hab he⟩, by simp [or_assoc], he⟩
      intro x y hxy
      rcases (he x y).mp hxy with h | ⟨rfl, rfl⟩
      · exact hw.ends x y (by simpa using h)
      · simp

/-- An accepted edge. -/
theorem inserted_of_addEdge? (hg : g.WellFormed) {a b : SchemaIdentifier} {h : ImportGraph}
    (hok : g.addEdge? a b = .ok h) : ¬ g.Reaches b a ∧ Inserted g a b h := by
  rcases addEdge?_cases hg a b with ⟨-, path, he⟩ | ⟨hab, h', he, hi⟩
  · rw [he] at hok
    cases hok
  · rw [he] at hok
    cases hok
    exact ⟨hab, hi⟩

/-- A refused edge. -/
theorem reaches_of_addEdge? (hg : g.WellFormed) {a b : SchemaIdentifier}
    {path : List SchemaIdentifier} (herr : g.addEdge? a b = .error path) : g.Reaches b a := by
  rcases addEdge?_cases hg a b with ⟨hr, -⟩ | ⟨-, h, he, -⟩
  · exact hr
  · rw [he] at herr
    cases herr

end MetaSchema.ImportGraph
