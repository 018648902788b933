import MetaSchema.Proofs.Graph.Frontier
import MetaSchema.Proofs.Graph.Reachability

/-!
# The path search finds every path

A search leaves vertices one after the other until it leaves its goal. What it has reached and not
left yet waits in the frontier.

* `Searching`: the invariant. The search has reached only what can be reached, each vertex once;
  what it has left is not the goal, and all that this imports has been reached.
* `Leaves`: what a search becomes when it leaves a vertex.
* `Searching.step`: leaving a vertex and reaching what it imports keeps the invariant.
* `path?_isSome`: in a graph that holds the ends of its edges there is a path between two vertices
  exactly if edges lead from one to the other. The number of vertices is fuel enough.
-/

namespace MetaSchema.ImportGraph

open Relation (ReflTransGen)

variable {g : ImportGraph} {start goal : SchemaIdentifier} {s : Search}

/-- The vertices in the frontier of a search. -/
def Search.waiting (s : Search) : List SchemaIdentifier := s.frontier.toList.map Prod.snd

/-- The invariant of a search from `start` to `goal`. -/
structure Searching (g : ImportGraph) (start goal : SchemaIdentifier) (s : Search) : Prop where
  start_mem : start ∈ s.reached
  sound : ∀ v ∈ s.reached, g.Reaches start v
  nodup : s.reached.Nodup
  waiting_nodup : s.waiting.Nodup
  waiting_subset : s.waiting ⊆ s.reached
  left_ne : ∀ v ∈ s.reached, v ∉ s.waiting → v ≠ goal
  expanded : ∀ v ∈ s.reached, v ∉ s.waiting → ∀ w, g.Edge v w → w ∈ s.reached

theorem Searching.init (g : ImportGraph) (start goal : SchemaIdentifier) :
    Searching g start goal ⟨#[(0, start)], [start], []⟩ where
  start_mem := by simp
  sound := by
    intro v hv
    rw [List.mem_singleton.mp hv]
    exact .refl
  nodup := by simp
  waiting_nodup := by simp [Search.waiting]
  waiting_subset := by simp [Search.waiting]
  left_ne := by simp [Search.waiting]
  expanded := by simp [Search.waiting]

/-! ## Leaving a vertex -/

/-- Reaching vertices from `v` puts the new ones, and only those, one step behind `v` into the frontier,
and notes that they were reached from `v`. -/
theorem foldl_reach (distance : Nat) (v : SchemaIdentifier) (ns : List SchemaIdentifier)
    (s : Search) : ∃ new : List SchemaIdentifier,
      (ns.foldl (Search.reach distance v) s).reached = new ++ s.reached ∧
      (ns.foldl (Search.reach distance v) s).frontier.toList.Perm
        (new.map (distance + 1, ·) ++ s.frontier.toList) ∧
      (ns.foldl (Search.reach distance v) s).origins = new.map (·, v) ++ s.origins ∧
      new.Nodup ∧ (∀ w ∈ new, w ∈ ns ∧ w ∉ s.reached) ∧ ∀ w ∈ ns, w ∈ new ++ s.reached := by
  induction ns generalizing s with
  | nil => exact ⟨[], by simp⟩
  | cons n ns ih =>
    rw [List.foldl_cons]
    obtain ⟨new, hr, hf, ho, hn, hnew, hall⟩ := ih (Search.reach distance v s n)
    -- A vertex that was reached before is passed over. Another is the first of the new ones.
    by_cases h : n ∈ s.reached
    · have hs : Search.reach distance v s n = s := by simp [Search.reach, h]
      rw [hs] at hr hf ho hnew hall ⊢
      refine ⟨new, hr, hf, ho, hn, fun w hm => ⟨.tail _ (hnew w hm).1, (hnew w hm).2⟩, ?_⟩
      rintro w (_ | ⟨_, hm⟩)
      · exact List.mem_append_right _ h
      · exact hall w hm
    · have hreached : (Search.reach distance v s n).reached = n :: s.reached := by
        simp [Search.reach, h]
      have hfrontier : (Search.reach distance v s n).frontier.toList.Perm
          ((distance + 1, n) :: s.frontier.toList) := by
        simp only [Search.reach, h, ↓reduceIte]
        exact Frontier.push_perm _ _
      have horigins : (Search.reach distance v s n).origins = (n, v) :: s.origins := by
        simp [Search.reach, h]
      rw [hreached] at hr hnew hall
      refine ⟨new ++ [n], by simp [hr], ?_, by simp [ho, horigins], ?_, ?_, ?_⟩
      · refine hf.trans ((hfrontier.append_left _).trans ?_)
        simp
      · refine List.nodup_append.mpr ⟨hn, by simp, fun a ha b hb => ?_⟩
        rw [List.mem_singleton.mp hb]
        rintro rfl
        exact (hnew a ha).2 List.mem_cons_self
      · intro w hm
        rcases List.mem_append.mp hm with hm | hm
        · exact ⟨.tail _ (hnew w hm).1, fun hw => (hnew w hm).2 (.tail _ hw)⟩
        · rw [List.mem_singleton.mp hm]
          exact ⟨List.mem_cons_self, h⟩
      · rintro w (_ | ⟨_, hm⟩)
        · simp
        · simpa using hall w hm

/-- The search `s` becomes `next` when it leaves `v` and reaches `new` from it. Besides `v`, what waits in
`s` is `rest`. -/
structure Leaves (g : ImportGraph) (s : Search) (distance : Nat) (v : SchemaIdentifier)
    (rest : Frontier SchemaIdentifier) (new : List SchemaIdentifier) (next : Search) : Prop where
  popped : s.frontier.pop? = some ((distance, v), rest)
  reached_eq : next.reached = new ++ s.reached
  frontier_perm : next.frontier.toList.Perm (new.map (distance + 1, ·) ++ rest.toList)
  origins_eq : next.origins = new.map (·, v) ++ s.origins
  nodup : new.Nodup
  new_mem : ∀ w ∈ new, g.Edge v w ∧ w ∉ s.reached
  edge_mem : ∀ w, g.Edge v w → w ∈ next.reached

theorem leaves_of_pop? {distance : Nat} {v : SchemaIdentifier} {rest : Frontier SchemaIdentifier}
    (hp : s.frontier.pop? = some ((distance, v), rest)) : ∃ new, Leaves g s distance v rest new
      ((g.successors v).foldl (Search.reach distance v) { s with frontier := rest }) := by
  obtain ⟨new, hr, hf, ho, hn, hnew, hall⟩ :=
    foldl_reach distance v (g.successors v) { s with frontier := rest }
  refine ⟨new, hp, hr, hf, ho, hn, fun w hw => ?_, fun w hw => ?_⟩
  · exact ⟨mem_successors.mp (hnew w hw).1, (hnew w hw).2⟩
  · rw [hr]
    exact hall w (mem_successors.mpr hw)

namespace Leaves

variable {distance : Nat} {v w : SchemaIdentifier} {rest : Frontier SchemaIdentifier}
  {new : List SchemaIdentifier} {next : Search}

theorem waiting_before (h : Leaves g s distance v rest new next) :
    s.waiting.Perm (v :: rest.toList.map Prod.snd) :=
  (Frontier.pop?_perm h.popped).map Prod.snd

theorem waiting_after (h : Leaves g s distance v rest new next) :
    next.waiting.Perm (new ++ rest.toList.map Prod.snd) := by
  simpa [Search.waiting, Function.comp_def] using h.frontier_perm.map Prod.snd

theorem mem_waiting (h : Leaves g s distance v rest new next) : v ∈ s.waiting :=
  h.waiting_before.mem_iff.mpr List.mem_cons_self

theorem mem_waiting_of_rest (h : Leaves g s distance v rest new next)
    (hw : w ∈ rest.toList.map Prod.snd) : w ∈ s.waiting :=
  h.waiting_before.mem_iff.mpr (.tail _ hw)

/-- What waits was reached just now, or waited before. -/
theorem new_or_waiting (h : Leaves g s distance v rest new next) (hw : w ∈ next.waiting) :
    w ∈ new ∨ w ∈ s.waiting :=
  (List.mem_append.mp (h.waiting_after.mem_iff.mp hw)).imp_right h.mem_waiting_of_rest

/-- What was reached and waits no longer is `v`, or was left before. -/
theorem eq_or_left (h : Leaves g s distance v rest new next) (hw : w ∈ next.reached)
    (hnot : w ∉ next.waiting) : w ∈ s.reached ∧ (w = v ∨ w ∉ s.waiting) := by
  rw [h.waiting_after.mem_iff, List.mem_append, not_or] at hnot
  rw [h.reached_eq] at hw
  refine ⟨(List.mem_append.mp hw).resolve_left hnot.1, ?_⟩
  by_cases hwv : w = v
  · exact .inl hwv
  · exact .inr fun hwait =>
      hnot.2 ((List.mem_cons.mp (h.waiting_before.mem_iff.mp hwait)).resolve_left hwv)

/-- The vertices left are one more than before. -/
theorem length_reached (h : Leaves g s distance v rest new next) :
    next.reached.length + s.waiting.length = s.reached.length + next.waiting.length + 1 := by
  rw [h.reached_eq, h.waiting_before.length_eq, h.waiting_after.length_eq]
  simp only [List.length_append, List.length_cons]
  omega

end Leaves

/-- Leaving a vertex that is not the goal, and reaching what it imports, keeps the invariant. -/
theorem Searching.step (hs : Searching g start goal s) {distance : Nat} {v : SchemaIdentifier}
    {rest : Frontier SchemaIdentifier} {new : List SchemaIdentifier} {next : Search}
    (h : Leaves g s distance v rest new next) (hv : v ≠ goal) : Searching g start goal next := by
  have hvr : v ∈ s.reached := hs.waiting_subset h.mem_waiting
  have hnd := h.waiting_before.nodup_iff.mp hs.waiting_nodup
  have hmono : s.reached ⊆ next.reached := by
    rw [h.reached_eq]
    exact List.subset_append_right _ _
  refine ⟨hmono hs.start_mem, ?_, ?_, ?_, ?_, ?_, ?_⟩
  · intro w hm
    rw [h.reached_eq] at hm
    rcases List.mem_append.mp hm with hm | hm
    · exact (hs.sound v hvr).tail (h.new_mem w hm).1
    · exact hs.sound w hm
  · rw [h.reached_eq]
    refine List.nodup_append.mpr ⟨h.nodup, hs.nodup, ?_⟩
    rintro a ha b hb rfl
    exact (h.new_mem a ha).2 hb
  · refine h.waiting_after.nodup_iff.mpr
      (List.nodup_append.mpr ⟨h.nodup, (List.nodup_cons.mp hnd).2, ?_⟩)
    rintro a ha b hb rfl
    exact (h.new_mem a ha).2 (hs.waiting_subset (h.mem_waiting_of_rest hb))
  · intro w hm
    rcases h.new_or_waiting hm with hm | hm
    · rw [h.reached_eq]
      exact List.mem_append_left _ hm
    · exact hmono (hs.waiting_subset hm)
  · -- What has been left is `v`, or was left before.
    intro w hm hnot
    obtain ⟨hold, rfl | hleft⟩ := h.eq_or_left hm hnot
    · exact hv
    · exact hs.left_ne w hold hleft
  · intro w hm hnot x hx
    obtain ⟨hold, rfl | hleft⟩ := h.eq_or_left hm hnot
    · exact h.edge_mem x hx
    · exact hmono (hs.expanded w hold hleft x hx)

/-! ## The whole search -/

/-- A search that has nothing waiting has reached everything that can be reached, and its goal is
not among it. -/
theorem Searching.not_reaches (hs : Searching g start goal s)
    (hw : s.waiting = []) : ¬ g.Reaches start goal := by
  have hnot : ∀ v, v ∉ s.waiting := by simp [hw]
  intro hr
  have hmem : goal ∈ s.reached :=
    reflTransGen_mem (p := (· ∈ s.reached)) (fun a b ha he => hs.expanded a ha (hnot a) b he)
      hs.start_mem hr
  exact hs.left_ne goal hmem (hnot goal) rfl

/-- What a search has reached is no more than the vertices. -/
theorem Searching.length_reached_le (hs : Searching g start goal s)
    (hg : ∀ a b, g.Edge a b → b ∈ g.vertices) (hstart : start ∈ g.vertices) :
    s.reached.length ≤ g.vertices.length := by
  refine hs.nodup.length_le_of_subset fun v hv => ?_
  exact reflTransGen_mem (p := (· ∈ g.vertices)) (fun a b _ he => hg a b he) hstart (hs.sound v hv)

/-- A search with fuel for every vertex that it has not left finds a path exactly if there is one. -/
theorem Searching.run_isSome (hg : ∀ a b, g.Edge a b → b ∈ g.vertices)
    (hstart : start ∈ g.vertices) (fuel : Nat) (hs : Searching g start goal s)
    (hf : g.vertices.length + s.waiting.length ≤ fuel + s.reached.length) :
    (Search.run g goal fuel s).isSome = true ↔ g.Reaches start goal := by
  induction fuel generalizing s with
  | zero =>
    -- The fuel runs out only when all vertices are reached and none of them waits.
    have hle := hs.length_reached_le hg hstart
    have hw : s.waiting = [] := List.eq_nil_of_length_eq_zero (by omega)
    simpa [Search.run] using hs.not_reaches hw
  | succ fuel ih =>
    unfold Search.run
    cases hp : s.frontier.pop? with
    | none =>
      have hw : s.waiting = [] := by
        rw [Search.waiting, Frontier.pop?_eq_none.mp hp]
        rfl
      simpa using hs.not_reaches hw
    | some popped =>
      obtain ⟨⟨distance, v⟩, rest⟩ := popped
      obtain ⟨new, hleaves⟩ := leaves_of_pop? (g := g) hp
      simp only
      split
      · rename_i hv
        subst hv
        simpa using hs.sound v (hs.waiting_subset hleaves.mem_waiting)
      · rename_i hv
        have hlength := hleaves.length_reached
        exact ih (hs.step hleaves hv) (by omega)

/-- **The path search is complete.** There is a path between two vertices exactly if edges lead from
one to the other. -/
theorem path?_isSome (hg : ∀ a b, g.Edge a b → b ∈ g.vertices) (a b : SchemaIdentifier) :
    (g.path? a b).isSome = true ↔ a ∈ g.vertices ∧ b ∈ g.vertices ∧ g.Reaches a b := by
  unfold path?
  split
  · rename_i h
    rw [Searching.run_isSome hg h.1 _ (Searching.init g a b) (by simp [Search.waiting])]
    simp [h]
  · rename_i h
    simp only [Option.isSome_none, Bool.false_eq_true, false_iff]
    exact fun hab => h ⟨hab.1, hab.2.1⟩

end MetaSchema.ImportGraph
