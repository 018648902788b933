import MetaSchema.Proofs.Graph.ShortestPath
import MetaSchema.Proofs.Resolution.Closure

/-!
# What a walk leaves behind

A walk goes on after a failure. Whatever becomes of a required schema, the others are dealt with.

* `Walk.Met`, `Walk.Explored`: a required schema was visited and recorded; all that a schema imports
  was.
* `Walk.Answered`, `Walk.Settled`: it was met, or the reason for which it was refused was reported.
* `Walk.Traverses`: required schemas are dealt with one after the other, each that is found with all
  that it imports after it.
* `Traverses.answers`: all of them are answered then, and all that is found in between is settled.
* `visit_traverses`: a visit does that, because it has levels enough.
* `walk_settled`: a walk has answered all that the document requires and settled all that it found.
* `Walk.Descends`: the same without a failure.
* `walk_explored`: a walk that did not fail has explored all that it found.
-/

namespace MetaSchema.Walk

variable {σ : Type} {d : Directory σ} {valid : σ → Prop}
  {held : σ → SchemaIdentifier → Option Schema} {roots : List SchemaIdentifier} {w w' w'' : Walk σ}
  {requiredBy : Option SchemaIdentifier} {id : SchemaIdentifier} {ids more : List SchemaIdentifier}

/-! ## Answers -/

/-- What one walk has and has reported, another has too. -/
structure Adds (w w' : Walk σ) : Prop extends Grows w w' where
  issues : w.issues ⊆ w'.issues

theorem Step.issues_subset (h : Step d roots w w') : w.issues ⊆ w'.issues := by
  rcases h with ⟨-, -⟩ | ⟨-, he, -⟩ | ⟨-, he, -⟩
  · exact List.subset_append_left ..
  · obtain ⟨-, g, rfl, -⟩ := enter_eq_ok he
    exact List.Subset.refl _
  · rename_i id _
    obtain ⟨-, g, rfl, -⟩ := enter_eq_ok he
    have hl := looks d { w with graph := g } id
    generalize look d { w with graph := g } id = o at hl
    cases hl with
    | missing _ => exact List.Subset.trans (List.subset_append_left ..) (List.subset_append_left ..)
    | found _ => exact List.subset_append_left ..

theorem Steps.adds (hd : d.Lawful valid held) (h : Steps d roots w w') (hw : w.Invariant valid held) :
    w'.Invariant valid held ∧ Adds w w' := by
  obtain ⟨hinvariant, hgrows⟩ := h.invariant hd hw
  refine ⟨hinvariant, hgrows, h.keeps (p := (w.issues ⊆ ·.issues)) ?_ (List.Subset.refl _)⟩
  exact fun _ _ hstep hsub => List.Subset.trans hsub hstep.issues_subset

/-- A required schema was visited, and recorded as an import of the schema that requires it. -/
def Met (w : Walk σ) (requiredBy : Option SchemaIdentifier) (id : SchemaIdentifier) : Prop :=
  id ∈ w.visited ∧ ∀ requester, requiredBy = some requester → w.graph.Edge requester id

/-- All imports of a schema that was found were visited and recorded. -/
def Explored (w : Walk σ) (e : SchemaIdentifier × Schema) : Prop :=
  ∀ i ∈ e.2.imports, i ∈ w.visited ∧ w.graph.Edge e.1 i

/-- What became of a required schema: it was met, or it was refused and the reason was reported. One
that leads back to the schema that requires it was visited before. -/
inductive Answered (w : Walk σ) (requiredBy : Option SchemaIdentifier) (id : SchemaIdentifier) : Prop
  | met (hm : w.Met requiredBy id)
  | conflict {existing : SchemaIdentifier} (hf : w.failed = true)
      (hi : .resolve (.versionConflict existing id requiredBy) ∈ w.issues)
  | circular {requester : SchemaIdentifier} {path : List SchemaIdentifier} (hf : w.failed = true)
      (hr : requiredBy = some requester) (hv : id ∈ w.visited)
      (hi : .resolve (.circularImport (requester :: id :: path)) ∈ w.issues)

theorem Answered.mono (h : w.Answered requiredBy id) (ha : Adds w w') : w'.Answered requiredBy id := by
  have hfailed : w.failed = true → w'.failed = true := by
    intro hf
    cases hf' : w'.failed with
    | true => rfl
    | false => exact (ha.failed hf').symm.trans hf
  cases h with
  | met hm => exact .met ⟨ha.visited hm.1, fun requester hr => ha.edges _ _ (hm.2 requester hr)⟩
  | conflict hf hi => exact .conflict (hfailed hf) (ha.issues hi)
  | circular hf hr hv hi => exact .circular (hfailed hf) hr (ha.visited hv) (ha.issues hi)

/-- In a walk that did not fail, an answer is that the schema was met. -/
theorem Answered.met_of_failed (h : w.Answered requiredBy id) (hf : w.failed = false) :
    w.Met requiredBy id := by
  cases h with
  | met hm => exact hm
  | conflict hf' => exact absurd (hf.symm.trans hf') nofun
  | circular hf' => exact absurd (hf.symm.trans hf') nofun

/-- All imports of a schema that was found were answered. -/
def Settled (w : Walk σ) (e : SchemaIdentifier × Schema) : Prop :=
  ∀ i ∈ e.2.imports, w.Answered (some e.1) i

/-- What was found in between was settled. -/
def Completes (w w' : Walk σ) : Prop := ∀ e ∈ w'.found, e ∈ w.found ∨ w'.Settled e

theorem Completes.trans (h : Completes w w') (h' : Completes w' w'') (ha : Adds w' w'') :
    Completes w w'' := by
  intro e he
  rcases h' e he with he | he
  · exact (h e he).imp_right fun hs i hi => (hs i hi).mono ha
  · exact .inr he

/-- A schema that is refused is answered. -/
theorem Invariant.answered_of_error (hw : w.Invariant valid held)
    (hr : w.Requires roots requiredBy id) {e : ResolveError} (he : w.enter requiredBy id = .error e) :
    (w.fail e).Answered requiredBy id := by
  rcases enter_eq_error he with ⟨existing, -, -, rfl⟩ | ⟨requester, path, rfl, hpath, rfl⟩
  · exact .conflict rfl (List.mem_append_right _ List.mem_cons_self)
  · have hvisited : id ∈ w.visited := by
      rcases (ImportGraph.reaches_of_addEdge? hw.graph hpath).cases_head with rfl | ⟨next, hedge, -⟩
      · obtain ⟨schema, hs, -⟩ := hr
        exact hw.listed _ hs
      · exact (hw.vertices id).mp (hw.graph.ends _ _ hedge).1
    have hhead := (ImportGraph.isShortestPath_of_addEdge? hpath).head_eq
    obtain ⟨rest, rfl⟩ := List.head?_eq_some_iff.mp hhead
    exact .circular rfl rfl hvisited (List.mem_append_right _ List.mem_cons_self)

/-- A schema that is let pass is met, if it was visited or is looked for then. -/
theorem Entered.met {g : ImportGraph} (hg : Entered w requiredBy id g) (hv : id ∈ w'.visited)
    (hgraph : w'.graph = g) : w'.Met requiredBy id :=
  ⟨hv, fun _ hr => hgraph ▸ (hg.edge_iff _ _).mpr (.inr ⟨hr, rfl⟩)⟩

theorem failed_of_failed_look (h : (w.look d id).1.failed = false) : w.failed = false := by
  have hl := looks d w id
  generalize w.look d id = o at hl h
  cases hl with
  | missing _ => cases h
  | found _ => exact h

/-! ## Traversals -/

/-- The schemas `ids`, all of them required by the same, are dealt with one after the other. What a
schema imports is dealt with after it, if it is found. -/
inductive Traverses (d : Directory σ) :
    Option SchemaIdentifier → Walk σ → List SchemaIdentifier → Walk σ → Prop
  | done {requiredBy : Option SchemaIdentifier} {w : Walk σ} : Traverses d requiredBy w [] w
  | refused {requiredBy : Option SchemaIdentifier} {w w' : Walk σ} {id : SchemaIdentifier}
      {ids : List SchemaIdentifier} {e : ResolveError} (he : w.enter requiredBy id = .error e)
      (hrest : Traverses d requiredBy (w.fail e) ids w') : Traverses d requiredBy w (id :: ids) w'
  | seen {requiredBy : Option SchemaIdentifier} {w w₁ w' : Walk σ} {id : SchemaIdentifier}
      {ids : List SchemaIdentifier} (he : w.enter requiredBy id = .ok w₁) (hv : id ∈ w.visited)
      (hrest : Traverses d requiredBy w₁ ids w') : Traverses d requiredBy w (id :: ids) w'
  | missing {requiredBy : Option SchemaIdentifier} {w w₁ w' : Walk σ} {id : SchemaIdentifier}
      {ids : List SchemaIdentifier} (he : w.enter requiredBy id = .ok w₁) (hv : id ∉ w.visited)
      (hl : (w₁.look d id).2 = none) (hrest : Traverses d requiredBy (w₁.look d id).1 ids w') :
      Traverses d requiredBy w (id :: ids) w'
  | found {requiredBy : Option SchemaIdentifier} {w w₁ w₂ w' : Walk σ} {id : SchemaIdentifier}
      {ids : List SchemaIdentifier} {schema : Schema} (he : w.enter requiredBy id = .ok w₁)
      (hv : id ∉ w.visited) (hl : (w₁.look d id).2 = some schema)
      (hbelow : Traverses d (some id) (w₁.look d id).1 schema.imports w₂)
      (hrest : Traverses d requiredBy w₂ ids w') : Traverses d requiredBy w (id :: ids) w'

namespace Traverses

theorem append (h : Traverses d requiredBy w ids w') (h' : Traverses d requiredBy w' more w'') :
    Traverses d requiredBy w (ids ++ more) w'' := by
  induction h with
  | done => exact h'
  | refused he _ ih => exact .refused he (ih h')
  | seen he hv _ ih => exact .seen he hv (ih h')
  | missing he hv hl _ ih => exact .missing he hv hl (ih h')
  | found he hv hl hbelow _ _ ih => exact .found he hv hl hbelow (ih h')

theorem steps (h : Traverses d requiredBy w ids w') (hw : w.Listed)
    (hr : ∀ id ∈ ids, w.Requires roots requiredBy id) : Steps d roots w w' := by
  -- One step, and then the steps of the rest.
  have hhead : ∀ {requiredBy} {w w₁ w' : Walk σ} {id} {ids}, Step d roots w w₁ → w.Listed →
      (∀ i ∈ id :: ids, w.Requires roots requiredBy i) →
      (w₁.Listed → (∀ i ∈ ids, w₁.Requires roots requiredBy i) → Steps d roots w₁ w') →
      Steps d roots w w' := by
    intro requiredBy w w₁ w' id ids hstep hw hr hrest
    obtain ⟨hlisted, hfound⟩ := hstep.listed hw
    exact .head hstep (hrest hlisted fun i hi => (hr i (List.mem_cons_of_mem _ hi)).mono hfound)
  induction h with
  | done => exact .refl
  | refused he _ ih => exact hhead (.refused (hr _ List.mem_cons_self) he) hw hr ih
  | seen he hv _ ih => exact hhead (.seen (hr _ List.mem_cons_self) he hv) hw hr ih
  | missing he hv _ _ ih => exact hhead (.looked (hr _ List.mem_cons_self) he hv) hw hr ih
  | found he hv hl _ _ ihbelow ihrest =>
    refine hhead (.looked (hr _ List.mem_cons_self) he hv) hw hr fun hlisted hr₁ => ?_
    have hbelow := ihbelow hlisted (requires_of_enter hw he hv hl roots)
    obtain ⟨hlisted', hfound'⟩ := hbelow.listed hlisted
    exact hbelow.trans (ihrest hlisted' fun i hi => (hr₁ i hi).mono hfound')

/-- If the first of some schemas was answered and the rest is dealt with, all are answered. -/
private theorem answers_cons {w₁ : Walk σ} (hd : d.Lawful valid held)
    (h : Traverses d requiredBy w₁ ids w') (hw : w₁.Invariant valid held)
    (hr : ∀ i ∈ ids, w₁.Requires roots requiredBy i) (hfirst : w₁.Answered requiredBy id)
    (hc : Completes w w₁)
    (hrest : Completes w₁ w' ∧ ∀ i ∈ ids, w'.Answered requiredBy i) :
    Completes w w' ∧ ∀ i ∈ id :: ids, w'.Answered requiredBy i := by
  obtain ⟨-, hadds⟩ := (h.steps hw.listed hr).adds hd hw
  refine ⟨hc.trans hrest.1 hadds, fun i hi => ?_⟩
  rcases List.mem_cons.mp hi with rfl | hi
  · exact hfirst.mono hadds
  · exact hrest.2 i hi

/-- **What is dealt with is answered**, and all that is found on the way is settled. -/
theorem answers (hd : d.Lawful valid held) (h : Traverses d requiredBy w ids w')
    (hw : w.Invariant valid held) (hr : ∀ id ∈ ids, w.Requires roots requiredBy id) :
    Completes w w' ∧ ∀ id ∈ ids, w'.Answered requiredBy id := by
  induction h with
  | done => exact ⟨fun e he => .inl he, fun _ h => by cases h⟩
  | @refused requiredBy w w' id ids e he hrest ih =>
    -- The reason is reported, which answers `id`; nothing is found.
    obtain ⟨hw₁, hg₁⟩ := hw.fail e
    have hr₁ : ∀ i ∈ ids, (w.fail e).Requires roots requiredBy i :=
      fun i hi => (hr i (by simp [hi])).mono hg₁.found
    have hfirst := hw.answered_of_error (hr id (by simp)) he
    exact hrest.answers_cons hd hw₁ hr₁ hfirst (fun e he => .inl he) (ih hw₁ hr₁)
  | @seen requiredBy w w₁ w' id ids he hv hrest ih =>
    obtain ⟨hw₁, hg₁⟩ := (Step.seen (d := d) (hr id (by simp)) he hv).invariant hd hw
    have hr₁ : ∀ i ∈ ids, w₁.Requires roots requiredBy i :=
      fun i hi => (hr i (by simp [hi])).mono hg₁.found
    obtain ⟨g, rfl, hg⟩ := hw.entered (hr id (by simp)) he
    exact hrest.answers_cons hd hw₁ hr₁ (.met (hg.met hv rfl)) (fun e he => .inl he) (ih hw₁ hr₁)
  | @missing requiredBy w w₁ w' id ids he hv hl hrest ih =>
    obtain ⟨hw₁, hg₁⟩ := (Step.looked (d := d) (hr id (by simp)) he hv).invariant hd hw
    have hr₁ : ∀ i ∈ ids, (w₁.look d id).1.Requires roots requiredBy i :=
      fun i hi => (hr i (by simp [hi])).mono hg₁.found
    obtain ⟨g, rfl, hg⟩ := hw.entered (hr id (by simp)) he
    have hmet := hg.met (mem_visited_look d { w with graph := g } id) (graph_look d _ id)
    have hc : Completes w (look d { w with graph := g } id).1 := by
      have hlooks := looks d { w with graph := g } id
      generalize look d { w with graph := g } id = o at hlooks hl
      cases hlooks with
      | missing _ => exact fun e he => .inl he
      | found _ => cases hl
    exact hrest.answers_cons hd hw₁ hr₁ (.met hmet) hc (ih hw₁ hr₁)
  | @found requiredBy w w₁ w₂ w' id ids schema he hv hl hbelow hrest ihbelow ihrest =>
    obtain ⟨hw₁, hg₁⟩ := (Step.looked (d := d) (hr id (by simp)) he hv).invariant hd hw
    have hr₁ := requires_of_enter hw.listed he hv hl roots
    obtain ⟨hw₂, hadds⟩ := (hbelow.steps hw₁.listed hr₁).adds hd hw₁
    have hr₂ : ∀ i ∈ ids, w₂.Requires roots requiredBy i :=
      fun i hi => (hr i (by simp [hi])).mono (hg₁.trans hadds.toGrows).found
    obtain ⟨hcompletes, hanswered⟩ := ihbelow hw₁ hr₁
    have hperm := found_of_enter hw.listed he hv hl
    obtain ⟨g, rfl, hg⟩ := hw.entered (hr id (by simp)) he
    have hmet := hg.met (mem_visited_look d { w with graph := g } id) (graph_look d _ id)
    -- What was found before, or below, is settled; `id` is, as all that it imports was answered.
    have hc : Completes w w₂ := by
      intro e he
      rcases hcompletes e he with he | he
      · rcases List.mem_cons.mp (hperm.mem_iff.mp he) with rfl | he
        · exact .inr hanswered
        · exact .inl he
      · exact .inr he
    exact hrest.answers_cons hd hw₂ hr₂ (.mono (.met hmet) hadds) hc (ihrest hw₂ hr₂)

end Traverses

/-! ## Levels enough -/

/-- Schemas are dealt with one after the other, if each is. -/
theorem foldl_traverses (hd : d.Lawful valid held) (ready : Walk σ → Prop)
    {below : Walk σ → SchemaIdentifier → Walk σ}
    (hready : ∀ w w', w.Invariant valid held → Steps d roots w w' → ready w → ready w')
    (hb : ∀ (w : Walk σ) id, w.Invariant valid held → ready w → w.Requires roots requiredBy id →
      Traverses d requiredBy w [id] (below w id))
    (hw : w.Invariant valid held) (hwr : ready w)
    (hr : ∀ id ∈ ids, w.Requires roots requiredBy id) :
    Traverses d requiredBy w ids (ids.foldl below w) := by
  induction ids generalizing w with
  | nil => exact .done
  | cons id ids ih =>
    have hone := hb w id hw hwr (hr id (by simp))
    have hsteps := hone.steps hw.listed fun i hi => by
      obtain rfl := List.mem_singleton.mp hi
      exact hr i (by simp)
    obtain ⟨hw₁, hg₁⟩ := hsteps.invariant hd hw
    exact hone.append (ih hw₁ (hready _ _ hw hsteps hwr) fun i hi =>
      (hr i (by simp [hi])).mono hg₁.found)

/-- A schema is dealt with, if its imports are. -/
theorem visitWith_traverses (hd : d.Lawful valid held) (ready : Walk σ → Prop)
    {below : SchemaIdentifier → Walk σ → SchemaIdentifier → Walk σ}
    (hready : ∀ w w', w.Invariant valid held → Steps d [] w w' → ready w → ready w')
    (hb : ∀ (w : Walk σ) i, w.Invariant valid held → ready w → w.Requires [] (some id) i →
      Traverses d (some id) w [i] (below id w i))
    (hw : w.Invariant valid held) (hr : w.Requires roots requiredBy id)
    (hfound : ∀ w', Step d roots w w' → w'.found.length = w.found.length + 1 → ready w') :
    Traverses d requiredBy w [id] (visitWith d below requiredBy w id) := by
  have hvisits := visits d below requiredBy w id
  generalize visitWith d below requiredBy w id = o at hvisits
  rcases hvisits with he | ⟨he, hv⟩ | ⟨he, hv, hl⟩ | ⟨he, hv, hl⟩
  · exact .refused he .done
  · exact .seen he hv .done
  · exact .missing he hv hl .done
  · have hstep := Step.looked (d := d) hr he hv
    have hready₁ := hfound _ hstep (found_of_enter hw.listed he hv hl).length_eq
    refine .found he hv hl ?_ .done
    exact foldl_traverses hd ready hready hb (hstep.invariant hd hw).1 hready₁
      (requires_of_enter hw.listed he hv hl [])

/-- A visit has levels enough: every level finds one more schema, so the levels that are left and the
schemas that were found are together always more than the schemas of the directory. -/
theorem visit_traverses (hd : d.Lawful valid held) (fuel : Nat) {requester : SchemaIdentifier}
    (hw : w.Invariant valid held) (hfuel : d.size w.directory < fuel + w.found.length)
    (hr : w.Requires [] (some requester) id) :
    Traverses d (some requester) w [id] (visit d fuel (some requester) w id) := by
  induction fuel generalizing w requester id with
  | zero =>
    have := hw.length_found_le hd
    omega
  | succ fuel ih =>
    refine visitWith_traverses hd (fun w => d.size w.directory < fuel + w.found.length)
      (fun w w' hw h hn => h.size_lt hd hw hn) (fun w i hw hn hr => ih hw hn hr) hw hr
      fun w' h hlen => ?_
    rw [Steps.directory_eq hd (.single h) hw]
    omega

theorem visitRoot_traverses (hd : d.Lawful valid held) (hw : w.Invariant valid held)
    (hr : w.Requires roots none id) : Traverses d none w [id] (visitRoot d w id) := by
  refine visitWith_traverses hd (fun _ => True) (fun _ _ _ _ _ => trivial)
    (fun w i hw _ hr => visit_traverses hd _ hw ?_ hr) hw hr fun _ _ _ => trivial
  obtain ⟨schema, hs, -⟩ := hr
  have := List.length_pos_of_mem hs
  omega

variable {table : ImportTable} {s : σ}

theorem walk_traverses (hd : d.Lawful valid held) (hs : valid s) :
    Traverses d none (start s) (table.entries.map Prod.snd) (d.walk table s) :=
  foldl_traverses hd (fun _ => True) (fun _ _ _ _ _ => trivial)
    (fun _ _ hw _ hr => visitRoot_traverses hd hw hr) (invariant_start hs) trivial
    (requires_start table s)

/-- **A walk** has answered everything that the document requires and settled everything that it found,
whether it failed or not. -/
theorem walk_settled (hd : d.Lawful valid held) (hs : valid s) :
    (∀ e ∈ (d.walk table s).found, (d.walk table s).Settled e) ∧
      ∀ e ∈ table.entries, (d.walk table s).Answered none e.2 := by
  obtain ⟨hc, ha⟩ := (walk_traverses hd hs).answers hd (invariant_start hs) (requires_start table s)
  refine ⟨fun e he => ?_, fun e he => ha e.2 (List.mem_map_of_mem he)⟩
  rcases hc e he with he | he
  · cases he
  · exact he

/-! ## Walks without a failure -/

/-- Without a failure, the schemas `ids` are visited, all of them required by the same, and what each of
them imports after it. -/
inductive Descends (d : Directory σ) :
    Option SchemaIdentifier → Walk σ → List SchemaIdentifier → Walk σ → Prop
  | done {requiredBy : Option SchemaIdentifier} {w : Walk σ} : Descends d requiredBy w [] w
  | seen {requiredBy : Option SchemaIdentifier} {w w₁ w' : Walk σ} {id : SchemaIdentifier}
      {ids : List SchemaIdentifier} (he : w.enter requiredBy id = .ok w₁) (hv : id ∈ w.visited)
      (hrest : Descends d requiredBy w₁ ids w') : Descends d requiredBy w (id :: ids) w'
  | found {requiredBy : Option SchemaIdentifier} {w w₁ w₂ w' : Walk σ} {id : SchemaIdentifier}
      {ids : List SchemaIdentifier} {schema : Schema} (he : w.enter requiredBy id = .ok w₁)
      (hv : id ∉ w.visited) (hl : (w₁.look d id).2 = some schema)
      (hbelow : Descends d (some id) (w₁.look d id).1 schema.imports w₂)
      (hrest : Descends d requiredBy w₂ ids w') : Descends d requiredBy w (id :: ids) w'

theorem Descends.traverses (h : Descends d requiredBy w ids w') : Traverses d requiredBy w ids w' := by
  induction h with
  | done => exact .done
  | seen he hv _ ih => exact .seen he hv ih
  | found he hv hl _ _ ihbelow ihrest => exact .found he hv hl ihbelow ihrest

/-- If there was no failure in the end, there was none on the way. -/
theorem Traverses.descends (h : Traverses d requiredBy w ids w') (hf : w'.failed = false) :
    w.failed = false ∧ Descends d requiredBy w ids w' := by
  induction h with
  | done => exact ⟨hf, .done⟩
  | refused _ _ ih => cases (ih hf).1
  | seen he hv _ ih =>
    obtain ⟨hfailed, hrest⟩ := ih hf
    obtain ⟨-, g, rfl, -⟩ := enter_eq_ok he
    exact ⟨hfailed, .seen he hv hrest⟩
  | missing _ _ hl _ ih => exact absurd ((ih hf).1.symm.trans (failed_of_look hl)) nofun
  | found he hv hl _ _ ihbelow ihrest =>
    obtain ⟨hfailed, hrest⟩ := ihrest hf
    obtain ⟨hfailed, hbelow⟩ := ihbelow hfailed
    have hentered := failed_of_failed_look hfailed
    refine ⟨?_, .found he hv hl hbelow hrest⟩
    obtain ⟨-, g, rfl, -⟩ := enter_eq_ok he
    exact hentered

theorem walk_descends (hd : d.Lawful valid held) (hs : valid s)
    (hf : (d.walk table s).failed = false) :
    Descends d none (start s) (table.entries.map Prod.snd) (d.walk table s) :=
  ((walk_traverses hd hs).descends hf).2

/-- **A walk that did not fail** has visited everything that the document requires, and explored
everything that it found. -/
theorem walk_explored (hd : d.Lawful valid held) (hs : valid s)
    (hf : (d.walk table s).failed = false) :
    (∀ e ∈ (d.walk table s).found, (d.walk table s).Explored e) ∧
      ∀ e ∈ table.entries, e.2 ∈ (d.walk table s).visited := by
  obtain ⟨hsettled, hanswered⟩ := walk_settled hd hs
  refine ⟨fun e he i hi => ?_, fun e he => ((hanswered e he).met_of_failed hf).1⟩
  obtain ⟨hvisited, hedge⟩ := (hsettled e he i hi).met_of_failed hf
  exact ⟨hvisited, hedge e.1 rfl⟩

end MetaSchema.Walk
