import MetaSchema.Proofs.Graph.Growth
import Mathlib.Data.List.Nodup

/-!
# The dependency order

The vertices are sorted by a depth-first search with a stack of its own.

* `IsDependencyOrder`: a list of the vertices, each once, with every schema after those that it imports.
* `Sweeping`: the invariant of the search. What is found and not finished waits on the stack for what
  stands above it, and so for all that it imports and that is not finished.
* `Sweeping.look`: looking at the top of the stack keeps the invariant, if there is no cycle.
* `Sweeping.run`: the stack is worked off, since every look leaves fewer looks to be made.
* `WellFormed.isDependencyOrder`: a well-formed graph has a dependency order, and it is the one given.
-/

namespace MetaSchema.ImportGraph

open Relation (TransGen)

variable {g : ImportGraph} {s : Sweep} {v : SchemaIdentifier} {rest : List SchemaIdentifier}

/-- A list has the vertices, each once, and every schema after those that it imports. -/
structure IsDependencyOrder (g : ImportGraph) (l : List SchemaIdentifier) : Prop where
  nodup : l.Nodup
  mem_iff : ∀ v, v ∈ l ↔ v ∈ g.vertices
  imports_before : ∀ a b, g.Edge a b → l.idxOf b < l.idxOf a

/-- All that a member of a list imports stands behind it. -/
def ImportsBehind (g : ImportGraph) (l : List SchemaIdentifier) : Prop :=
  ∀ front v back, l = front ++ v :: back → ∀ w, g.Edge v w → w ∈ back

theorem ImportsBehind.cons {l : List SchemaIdentifier} (h : g.ImportsBehind l)
    (hv : ∀ w, g.Edge v w → w ∈ l) : g.ImportsBehind (v :: l) := by
  intro front u back hl
  rcases List.cons_eq_append_iff.mp hl with ⟨rfl, hback⟩ | ⟨front', rfl, hfront⟩
  · cases hback
    exact hv
  · exact h front' u back hfront

/-! ## Looking at the top of the stack -/

/-- A vertex that was found and is not finished: it is on the stack, and what stands above it there
leads from it and has all that it imports and that is not finished. -/
def Sweep.Opened (g : ImportGraph) (s : Sweep) (v : SchemaIdentifier) : Prop :=
  ∃ above below, s.stack = above ++ v :: below ∧ v ∉ above ∧ (∀ x ∈ above, g.Reaches v x) ∧
    ∀ w, g.Edge v w → w ∈ s.finished ∨ w ∈ above

/-- The invariant of the search. -/
structure Sweeping (g : ImportGraph) (s : Sweep) : Prop where
  stack_subset : s.stack ⊆ g.vertices
  finished_subset : s.finished ⊆ s.found
  found_subset : s.found ⊆ g.vertices
  nodup : s.finished.Nodup
  ordered : g.ImportsBehind s.finished
  opened : ∀ v ∈ s.found, v ∉ s.finished → s.Opened g v

/-- What stands on top of the stack stands above every other vertex that was found. -/
theorem Sweep.Opened.head_mem (hs : s.stack = v :: rest) {u : SchemaIdentifier} (hu : s.Opened g u)
    (huv : u ≠ v) : ∃ above below, rest = above ++ u :: below ∧ u ∉ above ∧ g.Reaches u v ∧
      (∀ x ∈ above, g.Reaches u x) ∧ ∀ w, g.Edge u w → w ∈ s.finished ∨ w = v ∨ w ∈ above := by
  obtain ⟨above, below, hstack, hnot, hreaches, hedges⟩ := hu
  rw [hs] at hstack
  rcases List.cons_eq_append_iff.mp hstack with ⟨rfl, h⟩ | ⟨above', rfl, h⟩
  · cases h
    exact (huv rfl).elim
  · refine ⟨above', below, h, fun hm => hnot (.tail _ hm), hreaches v List.mem_cons_self,
      fun x hx => hreaches x (.tail _ hx), fun w hw => (hedges w hw).imp_right List.mem_cons.mp⟩

/-- When a vertex is seen for the second time, all that it imports is finished. -/
theorem Sweep.Opened.imports_finished (hs : s.stack = v :: rest) (hv : s.Opened g v)
    {w : SchemaIdentifier} (hw : g.Edge v w) : w ∈ s.finished := by
  obtain ⟨above, below, hstack, hnot, -, hedges⟩ := hv
  rw [hs] at hstack
  rcases List.cons_eq_append_iff.mp hstack with ⟨rfl, -⟩ | ⟨above', rfl, -⟩
  · exact (hedges w hw).resolve_right List.not_mem_nil
  · exact (hnot List.mem_cons_self).elim

namespace Sweeping

/-- A vertex that is seen again and is finished already leaves the stack. -/
theorem look_finished (hs : Sweeping g s) (hstack : s.stack = v :: rest) (hv : v ∈ s.finished) :
    Sweeping g { s with stack := rest } where
  stack_subset := fun x hx => hs.stack_subset (hstack ▸ List.mem_cons_of_mem v hx)
  finished_subset := hs.finished_subset
  found_subset := hs.found_subset
  nodup := hs.nodup
  ordered := hs.ordered
  opened := by
    intro u hu hnot
    obtain ⟨above, below, hrest, hno, -, hreaches, hedges⟩ :=
      (hs.opened u hu hnot).head_mem hstack (fun h => hnot (h ▸ hv))
    refine ⟨above, below, hrest, hno, hreaches, fun w hw => ?_⟩
    rcases hedges w hw with h | rfl | h
    · exact .inl h
    · exact .inl hv
    · exact .inr h

/-- A vertex that is seen again is finished. -/
theorem look_opened (hs : Sweeping g s) (hstack : s.stack = v :: rest) (hfound : v ∈ s.found)
    (hv : v ∉ s.finished) : Sweeping g { s with stack := rest, finished := v :: s.finished } where
  stack_subset := fun x hx => hs.stack_subset (hstack ▸ List.mem_cons_of_mem v hx)
  finished_subset := List.cons_subset.mpr ⟨hfound, hs.finished_subset⟩
  found_subset := hs.found_subset
  nodup := List.nodup_cons.mpr ⟨hv, hs.nodup⟩
  ordered := hs.ordered.cons fun _ hw => (hs.opened v hfound hv).imports_finished hstack hw
  opened := by
    intro u hu hnot
    have hne : u ≠ v := fun h => hnot (h ▸ List.mem_cons_self)
    obtain ⟨above, below, hrest, hno, -, hreaches, hedges⟩ :=
      (hs.opened u hu fun h => hnot (.tail _ h)).head_mem hstack hne
    refine ⟨above, below, hrest, hno, hreaches, fun w hw => ?_⟩
    rcases hedges w hw with h | rfl | h
    · exact .inl (.tail _ h)
    · exact .inl List.mem_cons_self
    · exact .inr h

/-- A vertex that is seen for the first time waits for what it imports. Nothing of that is waiting
already below it, or it would lead back to itself. -/
theorem look_new (hs : Sweeping g s) (hg : g.Acyclic) (hends : ∀ a b, g.Edge a b → b ∈ g.vertices)
    (hstack : s.stack = v :: rest) (hnew : v ∉ s.found) :
    Sweeping g { s with
      stack := ((g.successors v).filter (· ∉ v :: s.found)).reverse ++ v :: rest
      found := v :: s.found } := by
  have hpushed : ∀ {w}, w ∈ ((g.successors v).filter (· ∉ v :: s.found)).reverse ↔
      g.Edge v w ∧ w ∉ v :: s.found := by
    intro w
    simp [mem_successors]
  have hself : ¬ g.Edge v v := fun h => hg v (.single h)
  refine ⟨?_, fun x hx => .tail _ (hs.finished_subset hx), ?_, hs.nodup, hs.ordered, ?_⟩
  · intro x hx
    rcases List.mem_append.mp hx with hx | hx
    · exact hends v x (hpushed.mp hx).1
    · exact hs.stack_subset (hstack ▸ hx)
  · exact List.cons_subset.mpr ⟨hs.stack_subset (hstack ▸ List.mem_cons_self), hs.found_subset⟩
  · intro u hu hnot
    rcases List.mem_cons.mp hu with rfl | hu
    · refine ⟨_, rest, rfl, fun h => (hpushed.mp h).2 List.mem_cons_self,
        fun x hx => .single (hpushed.mp hx).1, fun w hw => ?_⟩
      -- What `v` imports is pushed, or was found. If that is still open, it leads back to `v`.
      by_cases hwf : w ∈ u :: s.found
      · left
        rcases List.mem_cons.mp hwf with rfl | hwf
        · exact (hself hw).elim
        · by_cases hopen : w ∈ s.finished
          · exact hopen
          · have hne : w ≠ u := fun h => hnew (h ▸ hwf)
            obtain ⟨-, -, -, -, hback, -⟩ := (hs.opened w hwf hopen).head_mem hstack hne
            exact (hg u (.head' hw hback)).elim
      · exact .inr (hpushed.mpr ⟨hw, hwf⟩)
    · -- Above a vertex that was open before, there is now also `v` and what was pushed.
      have hne : u ≠ v := fun h => hnew (h ▸ hu)
      obtain ⟨above, below, hrest, hno, hreach, hreaches, hedges⟩ :=
        (hs.opened u hu hnot).head_mem hstack hne
      refine ⟨((g.successors v).filter (· ∉ v :: s.found)).reverse ++ v :: above, below,
        by simp [hrest], ?_, ?_, fun w hw => ?_⟩
      · rw [List.mem_append, List.mem_cons]
        rintro (h | h | h)
        · exact (hpushed.mp h).2 (.tail _ hu)
        · exact hne h
        · exact hno h
      · intro x hx
        rcases List.mem_append.mp hx with hx | hx
        · exact hreach.tail (hpushed.mp hx).1
        · rcases List.mem_cons.mp hx with rfl | hx
          · exact hreach
          · exact hreaches x hx
      · refine (hedges w hw).imp_right fun h => List.mem_append_right _ ?_
        exact h.elim (fun h => h ▸ List.mem_cons_self) fun h => .tail _ h

/-- **Looking at the top of the stack** keeps the invariant. -/
theorem look (hs : Sweeping g s) (hg : g.Acyclic) (hends : ∀ a b, g.Edge a b → b ∈ g.vertices)
    (hstack : s.stack = v :: rest) : Sweeping g (Sweep.look g s v rest) := by
  unfold Sweep.look
  split
  · rename_i hfound
    by_cases hv : v ∈ s.finished
    · simpa [hv] using hs.look_finished hstack hv
    · simpa [hv] using hs.look_opened hstack hfound hv
  · rename_i hnew
    exact hs.look_new hg hends hstack hnew

end Sweeping

/-! ## Working off the stack -/

/-- How many looks there are at most before the stack is empty. -/
def Sweep.looks (g : ImportGraph) (s : Sweep) : Nat :=
  s.stack.length + (g.vertices.filter (· ∉ s.found)).length * (g.edges.length + 1)

theorem length_successors_le (v : SchemaIdentifier) : (g.successors v).length ≤ g.edges.length := by
  rw [successors, List.length_map]
  exact List.length_filter_le _ _

/-- A vertex that is found is one vertex less to be found. -/
theorem length_filter_found_lt {found : List SchemaIdentifier} (hv : v ∈ g.vertices)
    (hnew : v ∉ found) : (g.vertices.filter (· ∉ v :: found)).length <
      (g.vertices.filter (· ∉ found)).length := by
  have hfilter : g.vertices.filter (· ∉ v :: found) =
      (g.vertices.filter (· ∉ found)).filter (· ≠ v) := by
    rw [List.filter_filter]
    refine List.filter_congr fun x _ => ?_
    simp [not_or]
  rw [hfilter]
  refine List.length_filter_lt_length_iff_exists.mpr ⟨v, ?_, by simp⟩
  exact List.mem_filter.mpr ⟨hv, by simpa using hnew⟩

/-- Every look leaves fewer looks to be made. -/
theorem looks_look_lt (hs : Sweeping g s) (hstack : s.stack = v :: rest) :
    (Sweep.look g s v rest).looks g < s.looks g := by
  unfold Sweep.look
  split
  · simp [Sweep.looks, hstack]
  · rename_i hnew
    have hv : v ∈ g.vertices := hs.stack_subset (hstack ▸ List.mem_cons_self)
    have hfewer := length_filter_found_lt hv hnew
    have hpushed : ((g.successors v).filter (· ∉ v :: s.found)).length ≤ g.edges.length :=
      Nat.le_trans (List.length_filter_le _ _) (length_successors_le v)
    have hround := Nat.mul_le_mul_right (g.edges.length + 1) (Nat.succ_le_of_lt hfewer)
    rw [Nat.succ_mul] at hround
    simp only [Sweep.looks, hstack, List.length_append, List.length_reverse, List.length_cons]
    omega

/-- What a search leads to: it is over, and has found all that was found or waiting. -/
structure Swept (g : ImportGraph) (s s' : Sweep) : Prop where
  sweeping : Sweeping g s'
  stack_eq : s'.stack = []
  found_subset : s.found ⊆ s'.found
  stack_subset : s.stack ⊆ s'.found

theorem found_subset_look : s.found ⊆ (Sweep.look g s v rest).found := by
  unfold Sweep.look
  split
  · exact List.Subset.refl _
  · exact List.subset_cons_self _ _

theorem stack_subset_look : v :: rest ⊆
    (Sweep.look g s v rest).found ++ (Sweep.look g s v rest).stack := by
  unfold Sweep.look
  split
  · rename_i hfound
    exact List.cons_subset.mpr
      ⟨List.mem_append_left _ hfound, fun x hx => List.mem_append_right _ hx⟩
  · refine List.cons_subset.mpr ⟨by simp, fun x hx => ?_⟩
    exact List.mem_append_right _ (List.mem_append_right _ (List.mem_cons_of_mem _ hx))

/-- **The stack is worked off**, if there is fuel for every look. -/
theorem Sweeping.run (hg : g.Acyclic) (hends : ∀ a b, g.Edge a b → b ∈ g.vertices) (fuel : Nat)
    (hs : Sweeping g s) (hfuel : s.looks g < fuel) :
    ∃ s', Sweep.run g fuel s = some s' ∧ Swept g s s' := by
  induction fuel generalizing s with
  | zero => omega
  | succ fuel ih =>
    unfold Sweep.run
    cases hstack : s.stack with
    | nil =>
      exact ⟨s, rfl, hs, hstack, List.Subset.refl _, by simp [hstack]⟩
    | cons v rest =>
      have hself : v ∉ g.successors v := fun h => hg v (.single (mem_successors.mp h))
      -- A look leaves fewer looks to be done, so that one unit of fuel pays for it.
      have hless := looks_look_lt hs hstack
      obtain ⟨s', hrun, hswept⟩ := ih (hs.look hg hends hstack) (by omega)
      simp only [hself, ↓reduceIte]
      refine ⟨s', hrun, hswept.sweeping, hswept.stack_eq,
        fun x hx => hswept.found_subset (found_subset_look hx), fun x hx => ?_⟩
      rcases List.mem_append.mp (stack_subset_look (hstack ▸ hx)) with hx | hx
      · exact hswept.found_subset hx
      · exact hswept.stack_subset hx

/-- Nothing that was found is open while the stack is empty. -/
theorem Sweeping.found_subset_finished (hs : Sweeping g s) (hstack : s.stack = []) :
    s.found ⊆ s.finished := by
  intro v hv
  by_cases hopen : v ∈ s.finished
  · exact hopen
  · obtain ⟨above, below, h, -⟩ := hs.opened v hv hopen
    simp [hstack] at h

theorem Sweeping.start (hg : g.Acyclic) (hends : ∀ a b, g.Edge a b → b ∈ g.vertices)
    (hs : Sweeping g s) (hstack : s.stack = []) (hv : v ∈ g.vertices) :
    ∃ s', Sweep.start g s v = some s' ∧ Swept g s s' ∧ v ∈ s'.found := by
  unfold Sweep.start
  split
  · rename_i hfound
    exact ⟨s, rfl, ⟨hs, hstack, List.Subset.refl _, by simp [hstack]⟩, hfound⟩
  · have hfinished := hs.found_subset_finished hstack
    have hs' : Sweeping g { s with stack := [v] } :=
      ⟨by simpa using hv, hs.finished_subset, hs.found_subset, hs.nodup, hs.ordered,
        fun u hu hnot => (hnot (hfinished hu)).elim⟩
    -- The fuel allows a round of looks for each vertex, and nothing but `v` is on the stack.
    have hlooks : Sweep.looks g { s with stack := [v] } <
        g.vertices.length * (g.edges.length + 1) + 2 := by
      have hle := Nat.mul_le_mul_right (g.edges.length + 1)
        (List.length_filter_le (· ∉ s.found) g.vertices)
      simp only [Sweep.looks, List.length_singleton]
      omega
    obtain ⟨s', hrun, hswept⟩ := hs'.run hg hends _ hlooks
    refine ⟨s', hrun, ⟨hswept.sweeping, hswept.stack_eq, hswept.found_subset, by simp [hstack]⟩, ?_⟩
    exact hswept.stack_subset List.mem_cons_self

/-- Starting from several vertices one after the other. -/
theorem Sweeping.foldlM_start (hg : g.Acyclic) (hends : ∀ a b, g.Edge a b → b ∈ g.vertices)
    (vs : List SchemaIdentifier) (hvs : vs ⊆ g.vertices) (hs : Sweeping g s) (hstack : s.stack = []) :
    ∃ s', vs.foldlM (Sweep.start g) s = some s' ∧ Swept g s s' ∧ vs ⊆ s'.found := by
  induction vs generalizing s with
  | nil => exact ⟨s, rfl, ⟨hs, hstack, List.Subset.refl _, by simp [hstack]⟩, List.nil_subset _⟩
  | cons v vs ih =>
    obtain ⟨hv, hvs⟩ := List.cons_subset.mp hvs
    obtain ⟨s₁, hstart, hswept, hfound⟩ := hs.start hg hends hstack hv
    obtain ⟨s₂, hfold, hswept', hfound'⟩ := ih hvs hswept.sweeping hswept.stack_eq
    refine ⟨s₂, ?_, ⟨hswept'.sweeping, hswept'.stack_eq,
      fun x hx => hswept'.found_subset (hswept.found_subset hx), by simp [hstack]⟩,
      List.cons_subset.mpr ⟨hswept'.found_subset hfound, hfound'⟩⟩
    rw [List.foldlM_cons, hstart]
    exact hfold

/-! ## The order -/

theorem importersFirst_eq_true {l before : List SchemaIdentifier}
    (h : ∀ front v back, l = front ++ v :: back → ∀ u, g.Edge u v → u = v ∨ u ∈ before ∨ u ∈ front) :
    g.importersFirst before l = true := by
  induction l generalizing before with
  | nil => rfl
  | cons v vs ih =>
    rw [importersFirst, Bool.and_eq_true]
    refine ⟨List.all_eq_true.mpr fun e he => ?_, ih fun front u back hl x hx => ?_⟩
    · refine decide_eq_true fun hev => ?_
      rcases h [] v vs rfl e.1 (hev ▸ he) with h | h | h
      · exact h ▸ List.mem_cons_self
      · exact .tail _ h
      · cases h
    · rcases h (v :: front) u back (by rw [hl, List.cons_append]) x hx with h | h | h
      · exact .inl h
      · exact .inr (.inl (.tail _ h))
      · rcases List.mem_cons.mp h with rfl | h
        · exact .inr (.inl List.mem_cons_self)
        · exact .inr (.inr h)

/-- What imports a member of the list stands before it. -/
theorem ImportsBehind.importer_mem {l front back : List SchemaIdentifier} (h : g.ImportsBehind l)
    (hl : l = front ++ v :: back) (hnodup : l.Nodup) {u : SchemaIdentifier} (hu : u ∈ l)
    (huv : g.Edge u v) : u = v ∨ u ∈ front := by
  subst hl
  rcases List.mem_append.mp hu with hu | hu
  · exact .inr hu
  · rcases List.mem_cons.mp hu with rfl | hu
    · exact .inl rfl
    · obtain ⟨between, last, rfl⟩ := List.append_of_mem hu
      have hv : v ∈ last := h (front ++ v :: between) u last (by simp) v huv
      have htwice := (List.nodup_append.mp hnodup).2.1
      exact ((List.nodup_cons.mp htwice).1 (by simp [hv])).elim

/-- A well-formed graph is sorted by the search, and the sorted list passes the check. -/
theorem WellFormed.sort?_eq_some (hg : g.WellFormed) :
    ∃ l, g.sort? = some l ∧ l.Nodup ∧ (∀ v, v ∈ l ↔ v ∈ g.vertices) ∧ g.ImportsBehind l := by
  have hends : ∀ a b, g.Edge a b → b ∈ g.vertices := fun a b h => (hg.ends a b h).2
  have hinit : Sweeping g ⟨[], [], []⟩ :=
    ⟨by simp, by simp, by simp, by simp, fun front v back h => by simp at h, by simp⟩
  obtain ⟨s, hfold, hswept, hfound⟩ :=
    hinit.foldlM_start hg.acyclic hends g.vertices (List.Subset.refl _) rfl
  have hs := hswept.sweeping
  have hmem : ∀ v, v ∈ s.finished ↔ v ∈ g.vertices := fun v =>
    ⟨fun h => hs.found_subset (hs.finished_subset h),
      fun h => hs.found_subset_finished hswept.stack_eq (hfound h)⟩
  refine ⟨s.finished, ?_, hs.nodup, hmem, hs.ordered⟩
  have hcheck : g.importersFirst [] s.finished = true := by
    refine importersFirst_eq_true fun front v back hl u huv => ?_
    have hu : u ∈ s.finished := (hmem u).mpr (hg.ends u v huv).1
    exact (hs.ordered.importer_mem hl hs.nodup hu huv).imp_right .inr
  simp [sort?, hfold, hcheck]

/-- **The dependency order** of a well-formed graph. -/
theorem WellFormed.isDependencyOrder (hg : g.WellFormed) : g.IsDependencyOrder g.dependencyOrder := by
  obtain ⟨l, hsort, hnodup, hmem, hbehind⟩ := hg.sort?_eq_some
  have horder : g.dependencyOrder = l.reverse := by simp [dependencyOrder, hsort]
  rw [horder]
  refine ⟨List.nodup_reverse.mpr hnodup, fun v => by rw [List.mem_reverse, hmem], fun a b hab => ?_⟩
  obtain ⟨front, back, rfl⟩ := List.append_of_mem ((hmem a).mpr (hg.ends a b hab).1)
  have hb : b ∈ back := hbehind front a back rfl b hab
  have ha : a ∉ back := (List.nodup_cons.mp (List.nodup_append.mp hnodup).2.1).1
  have hreverse : (front ++ a :: back).reverse = back.reverse ++ a :: front.reverse := by simp
  rw [hreverse, List.idxOf_append_of_mem (List.mem_reverse.mpr hb),
    List.idxOf_append_of_notMem (by simpa using ha)]
  have hlt := List.idxOf_lt_length_iff.mpr (List.mem_reverse.mpr hb)
  simp only [List.length_reverse] at hlt ⊢
  omega

end MetaSchema.ImportGraph
