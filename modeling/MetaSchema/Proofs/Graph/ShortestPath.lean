import MetaSchema.Proofs.Graph.Priority
import MetaSchema.Proofs.Graph.Slots
import Mathlib.Data.List.Chain

/-!
# The path search finds a shortest path

A search leaves its vertices in the order of their distances from the start. So when it leaves its goal,
there is no path that it has not followed and that could be shorter.

* `IsPath`, `IsShortestPath`: the paths from one vertex to another, and the shortest ones.
* `Measured`: the invariant. The entries of the frontier have the distances of their vertices, a vertex
  is one step farther than the one that it was reached from, and none that was left is farther than one
  that waits.
* `Measured.step`: leaving a vertex keeps the invariant.
* `Measured.trace`: the vertices that a vertex was reached over are a path of the length of its distance.
* `Measured.lt_length`: no path to the vertex that is nearest is shorter than its distance.
* `isShortestPath_of_path?`, `isShortestPath_of_addEdge?`: the path that is found or that refuses an edge is
  a shortest one.
* `Workspace.run_paths`: what a graph says about paths, and which edges it takes, whatever was asked of
  it.
-/

namespace MetaSchema

open Relation (ReflTransGen TransGen)

namespace ImportGraph

/-- A path from `a` to `b` starts at `a`, ends at `b`, and steps along edges. -/
structure IsPath (g : ImportGraph) (a b : SchemaIdentifier) (p : List SchemaIdentifier) : Prop where
  head_eq : p.head? = some a
  last_eq : p.getLast? = some b
  steps : p.IsChain g.Edge

/-- A path such that no other path between its ends has fewer vertices. -/
structure IsShortestPath (g : ImportGraph) (a b : SchemaIdentifier) (p : List SchemaIdentifier) :
    Prop extends g.IsPath a b p where
  length_le : ∀ q, g.IsPath a b q → p.length ≤ q.length

variable {g : ImportGraph} {start goal : SchemaIdentifier} {d : SchemaIdentifier → Nat} {s : Search}

theorem isPath_singleton (g : ImportGraph) (a : SchemaIdentifier) : g.IsPath a a [a] :=
  ⟨rfl, rfl, .singleton a⟩

theorem IsPath.concat {a b c : SchemaIdentifier} {p : List SchemaIdentifier} (hp : g.IsPath a b p)
    (hbc : g.Edge b c) : g.IsPath a c (p ++ [c]) := by
  refine ⟨?_, by simp, ?_⟩
  · rw [List.head?_append, hp.head_eq]
    rfl
  · refine List.isChain_append.mpr ⟨hp.steps, .singleton c, ?_⟩
    simp only [hp.last_eq, Option.mem_def, Option.some.injEq, List.head?_cons]
    rintro _ rfl _ rfl
    exact hbc

/-! ## The invariant -/

/-- The invariant of a search that leaves vertices by their distances `d` from `start`. -/
structure Measured (g : ImportGraph) (start : SchemaIdentifier) (d : SchemaIdentifier → Nat)
    (s : Search) : Prop where
  ordered : s.frontier.Ordered
  entries : ∀ e ∈ s.frontier.toList, e.1 = d e.2
  start_eq : d start = 0
  reached_eq : s.reached = s.origins.map Prod.fst ++ [start]
  origin : ∀ w u, (w, u) ∈ s.origins →
    u ∈ s.reached ∧ u ∉ s.waiting ∧ g.Edge u w ∧ d w = d u + 1
  le_origins : ∀ v ∈ s.reached, d v ≤ s.origins.length
  nearer : ∀ v ∈ s.reached, v ∉ s.waiting → ∀ w ∈ s.waiting, d v ≤ d w
  expanded : ∀ v ∈ s.reached, v ∉ s.waiting → ∀ w, g.Edge v w → d w ≤ d v + 1

theorem Measured.init (g : ImportGraph) (start : SchemaIdentifier) :
    Measured g start (fun _ => 0) ⟨#[(0, start)], [start], []⟩ where
  ordered := by
    intro j hj hsize
    simp only [List.size_toArray, List.length_singleton] at hsize
    omega
  entries := by simp
  start_eq := rfl
  reached_eq := rfl
  origin := by simp
  le_origins := by simp
  nearer := by simp
  expanded := by simp

/-- A vertex that was reached is the start, or was reached from another. -/
theorem Measured.eq_start_or (hm : Measured g start d s) {w : SchemaIdentifier} (hw : w ∈ s.reached) :
    w = start ∨ ∃ u, (w, u) ∈ s.origins := by
  rw [hm.reached_eq, List.mem_append] at hw
  rcases hw with hw | hw
  · obtain ⟨⟨_, u⟩, hu, rfl⟩ := List.mem_map.mp hw
    exact .inr ⟨u, hu⟩
  · exact .inl (List.mem_singleton.mp hw)

theorem Measured.mem_reached (hm : Measured g start d s) {w u : SchemaIdentifier}
    (hwu : (w, u) ∈ s.origins) : w ∈ s.reached := by
  rw [hm.reached_eq]
  exact List.mem_append_left _ (List.mem_map_of_mem (f := Prod.fst) hwu)

/-! ## Leaving the nearest vertex -/

theorem foldl_reach_ordered (distance : Nat) (v : SchemaIdentifier) (ns : List SchemaIdentifier)
    (hs : s.frontier.Ordered) : (ns.foldl (Search.reach distance v) s).frontier.Ordered := by
  induction ns generalizing s with
  | nil => exact hs
  | cons n ns ih =>
    refine ih ?_
    unfold Search.reach
    split
    · exact hs
    · exact Frontier.push_ordered hs _

section leave

variable {distance : Nat} {v : SchemaIdentifier} {rest : Frontier SchemaIdentifier}
  {new : List SchemaIdentifier} {next : Search}

/-- The vertex that a search leaves is as far as its entry says, and none that waits is nearer. -/
theorem Measured.left_nearest (hm : Measured g start d s)
    (h : Leaves g s distance v rest new next) :
    distance = d v ∧ ∀ w ∈ s.waiting, d v ≤ d w := by
  have hv : distance = d v :=
    hm.entries _ ((Frontier.pop?_perm h.popped).mem_iff.mpr List.mem_cons_self)
  refine ⟨hv, fun w hw => ?_⟩
  obtain ⟨e, he, rfl⟩ := List.mem_map.mp hw
  rw [← hv, ← hm.entries e he]
  exact Frontier.pop?_le hm.ordered h.popped e he

/-- What was reached before a vertex is left is at most one step farther than that vertex. -/
theorem Measured.le_succ (hm : Measured g start d s) (h : Leaves g s distance v rest new next)
    {w : SchemaIdentifier} (hw : w ∈ s.reached) : d w ≤ d v + 1 := by
  rcases hm.eq_start_or hw with rfl | ⟨u, hwu⟩
  · rw [hm.start_eq]
    exact Nat.zero_le _
  · obtain ⟨hu, hleft, -, hdistance⟩ := hm.origin w u hwu
    have hle := hm.nearer u hu hleft v h.mem_waiting
    omega

/-- **Leaving the nearest vertex** keeps the invariant. What is reached from it for the first time is one
step farther. -/
theorem Measured.step (hs : Searching g start goal s) (hm : Measured g start d s)
    (h : Leaves g s distance v rest new next) (hordered : next.frontier.Ordered) :
    Measured g start (fun w => if w ∈ new then d v + 1 else d w) next := by
  obtain ⟨rfl, hnearest⟩ := hm.left_nearest h
  have hvr : v ∈ s.reached := hs.waiting_subset h.mem_waiting
  have hmono : s.reached ⊆ next.reached := by
    rw [h.reached_eq]
    exact List.subset_append_right _ _
  have hold : ∀ w ∈ s.reached, w ∉ new := fun w hw hn => (h.new_mem w hn).2 hw
  -- A vertex that was left does not come back into the frontier.
  have hstays : ∀ u ∈ s.reached, u ∉ s.waiting → u ∉ next.waiting := fun u hu hleft hwait =>
    (h.new_or_waiting hwait).elim (hold u hu) hleft
  have hv : v ∉ next.waiting := by
    rw [h.waiting_after.mem_iff, List.mem_append, not_or]
    exact ⟨hold v hvr, (List.nodup_cons.mp (h.waiting_before.nodup_iff.mp hs.waiting_nodup)).1⟩
  refine ⟨hordered, ?_, ?_, ?_, ?_, ?_, ?_, ?_⟩
  · intro e he
    rcases List.mem_append.mp (h.frontier_perm.mem_iff.mp he) with he | he
    · obtain ⟨w, hw, rfl⟩ := List.mem_map.mp he
      exact (if_pos hw).symm
    · have hwait := h.mem_waiting_of_rest (List.mem_map_of_mem he)
      rw [if_neg (hold _ (hs.waiting_subset hwait))]
      exact hm.entries e ((Frontier.pop?_perm h.popped).mem_iff.mpr (.tail _ he))
  · rw [if_neg (hold _ hs.start_mem), hm.start_eq]
  · rw [h.reached_eq, h.origins_eq, hm.reached_eq, List.map_append, List.map_map, List.append_assoc]
    simp [Function.comp_def]
  · intro w u hwu
    rw [h.origins_eq] at hwu
    rcases List.mem_append.mp hwu with hwu | hwu
    · obtain ⟨w', hw, heq⟩ := List.mem_map.mp hwu
      cases heq
      rw [if_pos hw, if_neg (hold v hvr)]
      exact ⟨hmono hvr, hv, (h.new_mem w hw).1, rfl⟩
    · obtain ⟨hu, hleft, hedge, hdistance⟩ := hm.origin w u hwu
      rw [if_neg (hold w (hm.mem_reached hwu)), if_neg (hold u hu)]
      exact ⟨hmono hu, hstays u hu hleft, hedge, hdistance⟩
  · intro w hw
    rw [h.reached_eq] at hw
    have hlength : next.origins.length = new.length + s.origins.length := by simp [h.origins_eq]
    rcases List.mem_append.mp hw with hw | hw
    · have hpos := List.length_pos_of_mem hw
      have hle := hm.le_origins v hvr
      rw [if_pos hw]
      omega
    · have hle := hm.le_origins w hw
      rw [if_neg (hold w hw)]
      omega
  · intro w hw hnot x hx
    obtain ⟨hwr, hcase⟩ := h.eq_or_left hw hnot
    -- `v` is the farthest vertex left so far, and the nearest of those that wait.
    have hle : d w ≤ d v := by
      rcases hcase with rfl | hleft
      · exact Nat.le_refl _
      · exact hm.nearer w hwr hleft v h.mem_waiting
    rw [if_neg (hold w hwr)]
    split
    · omega
    · rename_i hnew
      exact Nat.le_trans hle (hnearest x ((h.new_or_waiting hx).resolve_left hnew))
  · intro w hw hnot x hx
    obtain ⟨hwr, rfl | hleft⟩ := h.eq_or_left hw hnot
    · rw [if_neg (hold w hwr)]
      split
      · exact Nat.le_refl _
      · rename_i hnew
        have hxr := h.edge_mem x hx
        rw [h.reached_eq] at hxr
        exact hm.le_succ h ((List.mem_append.mp hxr).resolve_left hnew)
    · rw [if_neg (hold w hwr), if_neg (hold x (hs.expanded w hwr hleft x hx))]
      exact hm.expanded w hwr hleft x hx

end leave

/-! ## The path that is found -/

/-- The vertices that `v` was reached over are a path from the start, one vertex longer than `v` is far. -/
theorem Measured.trace (hm : Measured g start d s) (fuel : Nat) {v : SchemaIdentifier}
    (hv : v ∈ s.reached) (hfuel : d v ≤ fuel) (after : List SchemaIdentifier) :
    ∃ p, Search.trace s.origins fuel v after = p ++ after ∧ g.IsPath start v p ∧
      p.length = d v + 1 := by
  induction fuel generalizing v after with
  | zero =>
    -- A vertex with an origin is one step farther than that, so only the start is at distance 0.
    have hstart : v = start := by
      refine (hm.eq_start_or hv).resolve_right fun ⟨u, hvu⟩ => ?_
      have hdistance := (hm.origin v u hvu).2.2.2
      omega
    subst hstart
    exact ⟨[v], rfl, isPath_singleton g v, by rw [hm.start_eq]; rfl⟩
  | succ fuel ih =>
    rw [Search.trace]
    cases hlookup : s.origins.lookup v with
    | none =>
      have hstart : v = start := by
        refine (hm.eq_start_or hv).resolve_right fun ⟨u, hvu⟩ => ?_
        exact absurd rfl (bne_iff_ne.mp (List.lookup_eq_none_iff.mp hlookup _ hvu))
      subst hstart
      exact ⟨[v], rfl, isPath_singleton g v, by rw [hm.start_eq]; rfl⟩
    | some u =>
      obtain ⟨hu, -, hedge, hdistance⟩ := hm.origin v u (mem_of_lookup hlookup)
      obtain ⟨p, htrace, hpath, hlength⟩ := ih hu (by omega) (v :: after)
      refine ⟨p ++ [v], ?_, hpath.concat hedge, ?_⟩
      · simp only [htrace, List.append_assoc, List.singleton_append]
      · rw [List.length_append, hlength, hdistance]
        rfl

/-- No path to a vertex that waits and is nearest is shorter than its distance. `n` is how far the start of
the path may be. -/
theorem Measured.lt_length (hs : Searching g start goal s) (hm : Measured g start d s)
    {v : SchemaIdentifier} (hwait : v ∈ s.waiting) (hnearest : ∀ w ∈ s.waiting, d v ≤ d w)
    (p : List SchemaIdentifier) {x : SchemaIdentifier} {n : Nat} (hp : g.IsPath x v p)
    (hx : x ∈ s.reached) (hn : d x ≤ n) : d v < n + p.length := by
  induction p generalizing x n with
  | nil => cases hp.head_eq
  | cons y p ih =>
    obtain rfl : x = y := (Option.some.inj hp.head_eq).symm
    by_cases hxw : x ∈ s.waiting
    · have hle := hnearest x hxw
      simp only [List.length_cons]
      omega
    · -- `x` was left and is not the end of the path, so the path goes on to a vertex that was reached.
      cases p with
      | nil =>
        cases hp.last_eq
        exact absurd hwait hxw
      | cons z p =>
        obtain ⟨hxz, hsteps⟩ := List.isChain_cons_cons.mp hp.steps
        have hdistance := hm.expanded x hx hxw z hxz
        have hlt := ih (n := n + 1) ⟨rfl, by simpa using hp.last_eq, hsteps⟩
          (hs.expanded x hx hxw z hxz) (by omega)
        simp only [List.length_cons] at hlt ⊢
        omega

theorem isShortestPath_of_run (fuel : Nat) (hs : Searching g start goal s)
    (hm : Measured g start d s) {p : List SchemaIdentifier}
    (hrun : Search.run g goal fuel s = some p) : g.IsShortestPath start goal p := by
  induction fuel generalizing s d with
  | zero => cases hrun
  | succ fuel ih =>
    rw [Search.run] at hrun
    cases hp : s.frontier.pop? with
    | none => simp [hp] at hrun
    | some popped =>
      obtain ⟨⟨distance, v⟩, rest⟩ := popped
      obtain ⟨new, hleaves⟩ := leaves_of_pop? (g := g) hp
      simp only [hp] at hrun
      split at hrun
      · rename_i hv
        subst hv
        -- The goal is left while it is the nearest that waits, so no path to it is shorter.
        have hvr := hs.waiting_subset hleaves.mem_waiting
        obtain ⟨q, htrace, hpath, hlength⟩ := hm.trace s.origins.length hvr (hm.le_origins v hvr) []
        rw [htrace, List.append_nil] at hrun
        cases hrun
        refine ⟨hpath, fun q hq => ?_⟩
        have hlt := hm.lt_length hs hleaves.mem_waiting (hm.left_nearest hleaves).2 q (n := 0) hq
          hs.start_mem (Nat.le_of_eq hm.start_eq)
        omega
      · rename_i hv
        exact ih (hs.step hleaves hv) (hm.step hs hleaves
          (foldl_reach_ordered _ _ _ (Frontier.pop?_ordered hm.ordered hp))) hrun

/-- The path that is found is a shortest one. -/
theorem isShortestPath_of_path? {a b : SchemaIdentifier} {p : List SchemaIdentifier}
    (hp : g.path? a b = some p) : g.IsShortestPath a b p := by
  unfold path? at hp
  split at hp
  · exact isShortestPath_of_run _ (.init g a b) (.init g a) hp
  · cases hp

/-- The path that refuses an edge is a shortest one from its end back to its start. -/
theorem isShortestPath_of_addEdge? {a b : SchemaIdentifier} {p : List SchemaIdentifier}
    (hp : g.addEdge? a b = .error p) : g.IsShortestPath b a p := by
  have hedge : ((g.addVertex a).addVertex b).Edge = g.Edge := by
    rw [edge_addVertex, edge_addVertex]
  unfold addEdge? at hp
  simp only at hp
  split at hp
  · rename_i path hpath
    cases hp
    obtain ⟨⟨hhead, hlast, hsteps⟩, hle⟩ := isShortestPath_of_path? hpath
    rw [hedge] at hsteps
    exact ⟨⟨hhead, hlast, hsteps⟩, fun q hq => hle q ⟨hq.head_eq, hq.last_eq, hedge ▸ hq.steps⟩⟩
  · split at hp <;> cases hp

/-- Adding an edge that is there changes nothing in what is stored. -/
theorem addEdge_stored_of_edge (spare : Bool) {a b : SchemaIdentifier} (hg : g.WellFormed)
    (hedge : g.Edge a b) : (g.stored spare).addEdge a b = (g.stored spare, none) := by
  obtain ⟨ha, hb⟩ := hg.ends a b hedge
  have hkeep : ∀ v ∈ g.vertices, (g.stored spare).addVertex v = g.stored spare := by
    intro v hv
    rw [addVertex_stored hg]
    simp [addVertex, contains, hv]
  have hnone : (g.stored spare).path? b a = none := by
    rw [SlotGraph.path?, contents_stored hg, ← Option.not_isSome_iff_eq_none,
      path?_isSome fun x y he => (hg.ends x y he).2]
    rintro ⟨-, -, hba⟩
    exact hg.acyclic a (TransGen.head' hedge hba)
  simp only [SlotGraph.addEdge, hkeep a ha, hkeep b hb, hnone]
  rw [connect_stored hg ha hb, if_pos (show (a, b) ∈ g.edges from hedge)]

end ImportGraph

/-- **Paths and edges**, whatever was asked of a graph. An edge is refused exactly if it leads from a
vertex to itself or its end reaches its start already, and with a shortest path from its end back to its
start. Otherwise the graph has the edge and its ends besides the old ones, each once; nothing changes if
it had the edge. A path is found exactly between vertices of which the first reaches the second, and it is
a shortest one. -/
theorem Workspace.run_paths (rs : List Request) (a b : SchemaIdentifier) :
    let slots := (empty.run rs).1.graph
    let g := slots.contents
    let tried := slots.addEdge a b
    (tried.2.isSome = true ↔ a = b ∨ TransGen g.Edge b a) ∧
    (∀ path, tried.2 = some path → g.IsShortestPath b a path) ∧
    (tried.2 = none → g.Inserted a b tried.1.contents) ∧
    (g.Edge a b → tried = (slots, none)) ∧
    ((slots.path? a b).isSome = true ↔ a ∈ g.vertices ∧ b ∈ g.vertices ∧ g.Reaches a b) ∧
    ∀ path, slots.path? a b = some path → g.IsShortestPath a b path := by
  intro slots g tried
  obtain ⟨stored, copy, hstored⟩ := holds_empty.run rs
  have hg : g.WellFormed := by
    rw [show g = stored from hstored.contents_eq]
    exact hstored.graph_wellFormed
  obtain ⟨spare, hslots⟩ : ∃ spare, slots = g.stored spare := by
    rw [show g = stored from hstored.contents_eq]
    exact hstored.graph_eq
  obtain ⟨spare', htried⟩ := @ImportGraph.addEdge_stored g spare hg a b
  rw [← hslots] at htried
  have hreaches : g.Reaches b a ↔ a = b ∨ TransGen g.Edge b a :=
    Relation.reflTransGen_iff_eq_or_transGen
  refine ⟨?_, ?_, ?_, ?_, ImportGraph.path?_isSome (fun x y he => (hg.ends x y he).2) a b,
    fun path => ImportGraph.isShortestPath_of_path?⟩
  · rw [← hreaches, show tried = _ from htried]
    rcases ImportGraph.addEdge?_cases hg a b with ⟨hba, path, he⟩ | ⟨hba, h, he, -⟩ <;> simp [he, hba]
  · intro path hpath
    rw [show tried = _ from htried] at hpath
    split at hpath
    · cases hpath
    · rename_i refused hrefused
      cases hpath
      exact ImportGraph.isShortestPath_of_addEdge? hrefused
  · intro hnone
    rw [show tried = _ from htried] at hnone ⊢
    split at hnone
    · rename_i h haccepted
      obtain ⟨-, hinserted⟩ := ImportGraph.inserted_of_addEdge? hg haccepted
      rwa [ImportGraph.contents_stored hinserted.wellFormed]
    · cases hnone
  · intro hedge
    have hsame := ImportGraph.addEdge_stored_of_edge spare hg hedge
    rwa [← hslots] at hsame

end MetaSchema
