import MetaSchema.Proofs.Graph.Growth
import MetaSchema.Proofs.Name.Order
import MetaSchema.Resolution.Walk

/-!
# The steps of a walk

A walk is a sequence of small steps, each for one schema that is required: it is refused, it was
seen before, or it is looked for.

* `Walk.Requires`: a schema is required by the document or by a schema that was found.
* `Walk.Step`: the three kinds of steps.
* `Walk.Listed`: a schema that was found was visited.
* `walk_steps`: walking a table is a sequence of steps, so it keeps what every step keeps.
-/

namespace MetaSchema.Walk

open Relation (ReflTransGen)

variable {σ : Type} {d : Directory σ} {roots : List SchemaIdentifier} {w w' : Walk σ}

/-! ## Required schemas -/

/-- The document requires the `roots`; a schema that was found requires what it imports. -/
def Requires (roots : List SchemaIdentifier) (w : Walk σ) :
    Option SchemaIdentifier → SchemaIdentifier → Prop
  | none, id => id ∈ roots
  | some requester, id => ∃ schema, (requester, schema) ∈ w.found ∧ id ∈ schema.imports

/-- A schema that was found was visited. -/
def Listed (w : Walk σ) : Prop := ∀ e ∈ w.found, e.1 ∈ w.visited

/-- One step of a walk. -/
inductive Step (d : Directory σ) (roots : List SchemaIdentifier) (w : Walk σ) : Walk σ → Prop
  | refused {requiredBy : Option SchemaIdentifier} {id : SchemaIdentifier} {e : ResolveError}
      (hr : w.Requires roots requiredBy id) (he : w.enter requiredBy id = .error e) :
      Step d roots w (w.fail e)
  | seen {requiredBy : Option SchemaIdentifier} {id : SchemaIdentifier} {w' : Walk σ}
      (hr : w.Requires roots requiredBy id) (he : w.enter requiredBy id = .ok w')
      (hv : id ∈ w.visited) : Step d roots w w'
  | looked {requiredBy : Option SchemaIdentifier} {id : SchemaIdentifier} {w' : Walk σ}
      (hr : w.Requires roots requiredBy id) (he : w.enter requiredBy id = .ok w')
      (hv : id ∉ w.visited) : Step d roots w (w'.look d id).1

abbrev Steps (d : Directory σ) (roots : List SchemaIdentifier) : Walk σ → Walk σ → Prop :=
  ReflTransGen (Step d roots)

/-- What every step keeps, a sequence of steps keeps. -/
theorem Steps.keeps {p : Walk σ → Prop} (hp : ∀ w w', Step d roots w w' → p w → p w')
    (h : Steps d roots w w') (hw : p w) : p w' :=
  reflTransGen_mem (fun w w' hw h => hp w w' h hw) hw h

/-! ## Entering -/

/-- Entering a schema looks at the graph and at what was visited, and changes the graph alone. -/
theorem enter_map {τ : Type} (f : Walk σ → Walk τ) (w : Walk σ) (hgraph : (f w).graph = w.graph)
    (hvisited : (f w).visited = w.visited)
    (hchange : ∀ graph, f { w with graph } = { f w with graph })
    (requiredBy : Option SchemaIdentifier) (id : SchemaIdentifier) :
    (f w).enter requiredBy id = (w.enter requiredBy id).map f := by
  have hlink : (f w).link requiredBy id = (w.link requiredBy id).map f := by
    unfold link
    cases requiredBy with
    | none =>
      rw [hgraph]
      exact congrArg Except.ok (hchange _).symm
    | some requester =>
      dsimp only
      rw [hgraph]
      cases w.graph.addEdge? requester id with
      | error path => rfl
      | ok graph => exact congrArg Except.ok (hchange graph).symm
  unfold enter visitedAs?
  rw [hvisited, hlink]
  split
  · split <;> rfl
  · rfl

/-- Entering a schema only changes the graph: it gets the schema, or the edge to it. -/
theorem enter_eq_ok {requiredBy : Option SchemaIdentifier} {id : SchemaIdentifier}
    (h : w.enter requiredBy id = .ok w') :
    (∀ v ∈ w.visited, v.name = id.name → id ∈ w.visited) ∧
    ∃ g, w' = { w with graph := g } ∧
      ((requiredBy = none ∧ g = w.graph.addVertex id) ∨
        ∃ requester, requiredBy = some requester ∧ w.graph.addEdge? requester id = .ok g) := by
  have hlink : w.link requiredBy id = .ok w' ∧
      ∀ v ∈ w.visited, v.name = id.name → id ∈ w.visited := by
    unfold enter at h
    split at h
    · rename_i existing hexisting
      split at h
      · -- The name was visited at this very version, which is then `existing`.
        rename_i heq
        subst heq
        exact ⟨h, fun _ _ _ => List.mem_of_find?_eq_some hexisting⟩
      · cases h
    · rename_i hnone
      refine ⟨h, fun v hv hname => ?_⟩
      exact (List.find?_eq_none.mp hnone v hv (by simpa using hname)).elim
  refine ⟨hlink.2, ?_⟩
  have h := hlink.1
  unfold link at h
  split at h
  · cases h
    exact ⟨_, rfl, .inl ⟨rfl, rfl⟩⟩
  · split at h
    · rename_i g hg
      cases h
      exact ⟨g, rfl, .inr ⟨_, rfl, hg⟩⟩
    · cases h

/-- A schema is refused if its name was visited at another version, or if it reaches the schema that
requires it. -/
theorem enter_eq_error {requiredBy : Option SchemaIdentifier} {id : SchemaIdentifier}
    {e : ResolveError} (h : w.enter requiredBy id = .error e) :
    (∃ existing, w.visitedAs? id.name = some existing ∧ existing ≠ id ∧
      e = .versionConflict existing id requiredBy) ∨
    ∃ requester path, requiredBy = some requester ∧ w.graph.addEdge? requester id = .error path ∧
      e = .circularImport (requester :: path) := by
  have hlink : ∀ h : w.link requiredBy id = .error e, ∃ requester path, requiredBy = some requester ∧
      w.graph.addEdge? requester id = .error path ∧ e = .circularImport (requester :: path) := by
    intro h
    unfold link at h
    split at h
    · cases h
    · split at h
      · cases h
      · rename_i path hpath
        cases h
        exact ⟨_, path, rfl, hpath, rfl⟩
  unfold enter at h
  split at h
  · rename_i existing hexisting
    split at h
    · exact .inr (hlink h)
    · rename_i hne
      cases h
      exact .inl ⟨existing, hexisting, hne, rfl⟩
  · exact .inr (hlink h)

/-! ## Looking -/

private theorem insertFound_perm_of_ne {id : SchemaIdentifier} {schema : Schema}
    {es : List (SchemaIdentifier × Schema)} (h : ∀ e ∈ es, e.1 ≠ id) :
    (insertFound id schema es).Perm ((id, schema) :: es) := by
  induction es with
  | nil => exact .refl _
  | cons e es ih =>
    unfold insertFound
    split
    · exact .refl _
    · rename_i heq
      exact (h e (by simp) (Std.LawfulEqOrd.eq_of_compare heq).symm).elim
    · exact ((ih fun e he => h e (by simp [he])).cons e).trans (.swap ..)

/-- A schema that was not visited is found once. -/
theorem Listed.insertFound_perm (hw : w.Listed) {id : SchemaIdentifier} (hv : id ∉ w.visited)
    (schema : Schema) : (insertFound id schema w.found).Perm ((id, schema) :: w.found) := by
  refine insertFound_perm_of_ne ?_
  rintro e he rfl
  exact hv (hw e he)

/-- What looking for a schema changes. -/
inductive Looks (d : Directory σ) (w : Walk σ) (id : SchemaIdentifier) :
    Walk σ × Option Schema → Prop
  | missing {e : ResolveError} (hf : (d.find id w.directory).value = .error e) :
      Looks d w id (({ w with
        directory := (d.find id w.directory).state
        visited := id :: w.visited
        issues := w.issues ++ (d.find id w.directory).issues } : Walk σ).fail e, none)
  | found {schema : Schema} (hf : (d.find id w.directory).value = .ok schema) :
      Looks d w id ({ w with
        directory := (d.find id w.directory).state
        visited := id :: w.visited
        found := insertFound id schema w.found
        issues := w.issues ++ (d.find id w.directory).issues }, some schema)

theorem looks (d : Directory σ) (w : Walk σ) (id : SchemaIdentifier) : Looks d w id (w.look d id) := by
  unfold look
  simp only
  split
  · rename_i hf
    exact .missing hf
  · rename_i hf
    exact .found hf

@[simp] theorem graph_look (d : Directory σ) (w : Walk σ) (id : SchemaIdentifier) :
    (w.look d id).1.graph = w.graph := by
  have hl := looks d w id
  generalize w.look d id = o at hl
  cases hl <;> rfl

theorem directory_look (d : Directory σ) (w : Walk σ) (id : SchemaIdentifier) :
    (w.look d id).1.directory = (d.find id w.directory).state := by
  have hl := looks d w id
  generalize w.look d id = o at hl
  cases hl <;> rfl

@[simp] theorem visited_look (d : Directory σ) (w : Walk σ) (id : SchemaIdentifier) :
    (w.look d id).1.visited = id :: w.visited := by
  have hl := looks d w id
  generalize w.look d id = o at hl
  cases hl <;> rfl

theorem mem_visited_look (d : Directory σ) (w : Walk σ) (id : SchemaIdentifier) :
    id ∈ (w.look d id).1.visited := by
  rw [visited_look]
  exact List.mem_cons_self

theorem failed_of_look {id : SchemaIdentifier} (h : (w.look d id).2 = none) :
    (w.look d id).1.failed = true := by
  have hl := looks d w id
  generalize w.look d id = o at hl h
  cases hl with
  | missing _ => rfl
  | found _ => cases h

/-- A schema that was looked for and not visited before is found besides the others. -/
theorem Listed.found_look (hw : w.Listed) {id : SchemaIdentifier} (hv : id ∉ w.visited) {schema : Schema}
    (h : (w.look d id).2 = some schema) : (w.look d id).1.found.Perm ((id, schema) :: w.found) := by
  have hl := looks d w id
  generalize w.look d id = o at hl h
  cases hl with
  | missing _ => cases h
  | found _ =>
    cases h
    exact hw.insertFound_perm hv schema

/-! ## Steps -/

theorem Requires.mono {requiredBy : Option SchemaIdentifier} {id : SchemaIdentifier}
    (h : w.Requires roots requiredBy id) (hf : w.found ⊆ w'.found) :
    w'.Requires roots requiredBy id := by
  cases requiredBy with
  | none => exact h
  | some requester =>
    obtain ⟨schema, hs, hi⟩ := h
    exact ⟨schema, hf hs, hi⟩

/-- What was found stays found. -/
theorem Step.listed (h : Step d roots w w') (hw : w.Listed) : w'.Listed ∧ w.found ⊆ w'.found := by
  rcases h with ⟨-, -⟩ | ⟨-, he, -⟩ | ⟨-, he, hv⟩
  · exact ⟨hw, List.Subset.refl _⟩
  · obtain ⟨-, g, rfl, -⟩ := enter_eq_ok he
    exact ⟨hw, List.Subset.refl _⟩
  · rename_i id _
    obtain ⟨-, g, rfl, -⟩ := enter_eq_ok he
    have hl := looks d { w with graph := g } id
    generalize look d { w with graph := g } id = o at hl
    cases hl with
    | missing hf => exact ⟨fun e he => List.mem_cons_of_mem _ (hw e he), List.Subset.refl _⟩
    | @found schema hf =>
      have hperm := hw.insertFound_perm hv schema
      refine ⟨fun e he => ?_, fun e he => hperm.mem_iff.mpr (List.mem_cons_of_mem _ he)⟩
      rcases List.mem_cons.mp (hperm.mem_iff.mp he) with rfl | he
      · exact List.mem_cons_self
      · exact List.mem_cons_of_mem _ (hw e he)

theorem Steps.listed (h : Steps d roots w w') (hw : w.Listed) : w'.Listed ∧ w.found ⊆ w'.found := by
  induction h with
  | refl => exact ⟨hw, List.Subset.refl _⟩
  | tail _ hstep ih =>
    obtain ⟨hlisted, hfound⟩ := hstep.listed ih.1
    exact ⟨hlisted, List.Subset.trans ih.2 hfound⟩

/-- Visiting the imports of a schema one after the other. -/
theorem foldl_steps {below : Walk σ → SchemaIdentifier → Walk σ}
    {requiredBy : Option SchemaIdentifier} {ids : List SchemaIdentifier}
    (hb : ∀ (w : Walk σ) id, w.Listed → w.Requires roots requiredBy id →
      Steps d roots w (below w id))
    (hw : w.Listed) (hr : ∀ id ∈ ids, w.Requires roots requiredBy id) :
    Steps d roots w (ids.foldl below w) := by
  induction ids generalizing w with
  | nil => exact .refl
  | cons id ids ih =>
    have hfirst := hb w id hw (hr id (by simp))
    obtain ⟨hlisted, hfound⟩ := hfirst.listed hw
    exact hfirst.trans (ih hlisted fun id hid => (hr id (by simp [hid])).mono hfound)

/-- What a visit can do. -/
inductive Visits (d : Directory σ) (below : SchemaIdentifier → Walk σ → SchemaIdentifier → Walk σ)
    (requiredBy : Option SchemaIdentifier) (w : Walk σ) (id : SchemaIdentifier) : Walk σ → Prop
  | refused {e : ResolveError} (he : w.enter requiredBy id = .error e) :
      Visits d below requiredBy w id (w.fail e)
  | seen {w' : Walk σ} (he : w.enter requiredBy id = .ok w') (hv : id ∈ w.visited) :
      Visits d below requiredBy w id w'
  | missing {w' : Walk σ} (he : w.enter requiredBy id = .ok w') (hv : id ∉ w.visited)
      (hl : (w'.look d id).2 = none) : Visits d below requiredBy w id (w'.look d id).1
  | found {w' : Walk σ} {schema : Schema} (he : w.enter requiredBy id = .ok w')
      (hv : id ∉ w.visited) (hl : (w'.look d id).2 = some schema) :
      Visits d below requiredBy w id (schema.imports.foldl (below id) (w'.look d id).1)

theorem visits (d : Directory σ) (below : SchemaIdentifier → Walk σ → SchemaIdentifier → Walk σ)
    (requiredBy : Option SchemaIdentifier) (w : Walk σ) (id : SchemaIdentifier) :
    Visits d below requiredBy w id (visitWith d below requiredBy w id) := by
  unfold visitWith
  split
  · rename_i e he
    exact .refused he
  · rename_i w' he
    obtain ⟨-, g, rfl, -⟩ := enter_eq_ok he
    split
    · rename_i hv
      exact .seen he hv
    · rename_i hv
      split
      · rename_i hl
        -- `hl` takes the pair that `look` gave apart; the constructor speaks of its parts.
        have h : Visits d below requiredBy w id _ := .missing he hv (congrArg Prod.snd hl)
        rwa [hl] at h
      · rename_i hl
        have h : Visits d below requiredBy w id _ := .found he hv (congrArg Prod.snd hl)
        rwa [hl] at h

theorem visitWith_steps {below : SchemaIdentifier → Walk σ → SchemaIdentifier → Walk σ}
    {requiredBy : Option SchemaIdentifier} {id : SchemaIdentifier}
    (hb : ∀ requester (w : Walk σ) id, w.Listed → w.Requires roots (some requester) id →
      Steps d roots w (below requester w id))
    (hw : w.Listed) (hr : w.Requires roots requiredBy id) :
    Steps d roots w (visitWith d below requiredBy w id) := by
  have hv := visits d below requiredBy w id
  generalize visitWith d below requiredBy w id = o at hv
  rcases hv with he | ⟨he, hv⟩ | ⟨he, hv, hl⟩ | ⟨he, hv, hl⟩
  · exact .single (.refused hr he)
  · exact .single (.seen hr he hv)
  · exact .single (.looked hr he hv)
  · obtain ⟨-, g, rfl, -⟩ := enter_eq_ok he
    have hstep := Step.looked (d := d) hr he hv
    have hfound := Listed.found_look (w := { w with graph := g }) hw hv hl
    refine .head hstep (foldl_steps (hb id) (hstep.listed hw).1 fun i hi => ⟨_, ?_, hi⟩)
    exact hfound.mem_iff.mpr List.mem_cons_self

theorem visit_steps (fuel : Nat) {requiredBy : Option SchemaIdentifier} {id : SchemaIdentifier}
    (hw : w.Listed) (hr : w.Requires roots requiredBy id) :
    Steps d roots w (visit d fuel requiredBy w id) := by
  induction fuel generalizing w requiredBy id with
  | zero => exact visitWith_steps (fun _ _ _ _ _ => .refl) hw hr
  | succ fuel ih => exact visitWith_steps (fun _ _ _ hw hr => ih hw hr) hw hr

/-- **Walking a table** is a sequence of steps. -/
theorem walk_steps (d : Directory σ) (table : ImportTable) (state : σ) :
    Steps d (table.entries.map Prod.snd) (start state) (d.walk table state) := by
  have hroots : ∀ id ∈ table.entries.map Prod.snd,
      (start state).Requires (table.entries.map Prod.snd) none id := fun id hid => hid
  refine foldl_steps (fun w id hw hr => ?_) ?_ hroots
  · exact visitWith_steps (fun _ w _ hw hr => visit_steps _ hw hr) hw hr
  · intro e he
    cases he

/-! ## The directory -/

/-- A step either leaves the directory alone or finds one schema in it. -/
theorem Step.directory (h : Step d roots w w') :
    w'.directory = w.directory ∨ ∃ id, w'.directory = (d.find id w.directory).state := by
  rcases h with ⟨-, -⟩ | ⟨-, he, -⟩ | ⟨-, he, hv⟩
  · exact .inl rfl
  · obtain ⟨-, g, rfl, -⟩ := enter_eq_ok he
    exact .inl rfl
  · rename_i id _
    obtain ⟨-, g, rfl, -⟩ := enter_eq_ok he
    exact .inr ⟨id, directory_look d _ id⟩

theorem state_resolve (d : Directory σ) (table : ImportTable) (s : σ) :
    (d.resolve table s).state = (d.walk table s).directory := by
  unfold Directory.resolve
  simp only
  split
  · rfl
  · split <;> rfl

/-- A set was made of what a walk without a failure found. -/
theorem resolve_eq_some {table : ImportTable} {s : σ} {set : ResolvedSet} :
    (d.resolve table s).value = some set ↔ (d.walk table s).failed = false ∧
      ResolvedSet.ofSchemas? (d.walk table s).graph ((d.walk table s).found.map Prod.snd) = .ok set := by
  unfold Directory.resolve
  simp only
  split
  · rename_i hf
    simp [hf]
  · rename_i hf
    split
    · rename_i hset
      simp [hf, hset]
    · rename_i hset
      simp [hset]

/-- What finding keeps, resolving keeps. -/
theorem resolve_keeps {p : σ → Prop} (hp : ∀ id s, p s → p (d.find id s).state)
    (table : ImportTable) {s : σ} (hs : p s) : p (d.resolve table s).state := by
  rw [state_resolve]
  refine (walk_steps d table s).keeps (p := fun w => p w.directory) (fun w w' h hw => ?_) hs
  rcases h.directory with h | ⟨id, h⟩
  · rwa [h]
  · rw [h]
    exact hp id _ hw

end MetaSchema.Walk
