import MetaSchema.Proofs.Resolution.Catalog
import MetaSchema.Proofs.Resolution.Session

/-!
# Resolving over a session and over its cache

A session loads during a resolution, and a catalog does not. Still they agree: what a session resolves
without a failure, a catalog of the schemas that it has cached then resolves to the same set.

* `Walk.Alike`: two walks that have seen the same, over different directories.
* `Descends.on_catalog`: what is visited over one directory without a failure is visited over a catalog that
  has what the directory holds.
* `Descends.walk_eq`: such a visit is the one that the walk makes, however many levels it is given.
* `Catalog.Mirrors`: a catalog has just the schemas that a session has cached.
* `resolve_agrees`: the two resolutions agree, and only what the document requires is ever compiled.
-/

namespace MetaSchema

namespace Walk

variable {σ τ : Type} {d : Directory σ} {valid : σ → Prop}
  {held : σ → SchemaIdentifier → Option Schema} {roots ids : List SchemaIdentifier}
  {requiredBy : Option SchemaIdentifier} {id : SchemaIdentifier} {w w₁ w' : Walk σ} {v : Walk τ}

/-! ## Walks over different directories -/

/-- Two walks have seen the same, whatever their directories are and what was reported. -/
structure Alike (w : Walk σ) (v : Walk τ) : Prop where
  graph : v.graph = w.graph
  visited : v.visited = w.visited
  found : v.found = w.found
  failed : v.failed = w.failed

/-- What one walk lets pass, a walk like it does. -/
theorem Alike.enter (h : Alike w v) (he : w.enter requiredBy id = .ok w₁) :
    ∃ g, w₁ = { w with graph := g } ∧ v.enter requiredBy id = .ok { v with graph := g } := by
  -- Recording the import looks at the graph alone, which is the same for both.
  have hlink : ∀ {w₁}, w.link requiredBy id = .ok w₁ →
      ∃ g, w₁ = { w with graph := g } ∧ v.link requiredBy id = .ok { v with graph := g } := by
    intro w₁ hlink
    cases requiredBy with
    | none =>
      cases hlink
      exact ⟨w.graph.addVertex id, rfl, by rw [link, h.graph]⟩
    | some requester =>
      simp only [link, h.graph] at hlink ⊢
      cases hg : w.graph.addEdge? requester id with
      | error path => simp [hg] at hlink
      | ok g =>
        simp only [hg, Except.ok.injEq] at hlink
        exact ⟨g, hlink.symm, by simp only⟩
  have hvisited : v.visitedAs? id.name = w.visitedAs? id.name := by
    rw [visitedAs?, h.visited]
    rfl
  unfold Walk.enter at he ⊢
  rw [hvisited]
  split at he
  · split at he
    · rename_i heq
      simpa only [heq, if_true] using hlink he
    · cases he
  · exact hlink he

theorem Alike.with_graph (h : Alike w v) (g : ImportGraph) :
    Alike { w with graph := g } { v with graph := g } :=
  ⟨rfl, h.visited, h.found, h.failed⟩

/-- A walk over a catalog finds what the other walk finds, and reports nothing. -/
theorem Alike.look {c : Catalog} {v : Walk Catalog} {schema : Schema} (h : Alike w v)
    (hc : v.directory = c) (hl : (w.look d id).2 = some schema) (hget : c.get? id = some schema) :
    (v.look Catalog.directory id).2 = some schema ∧
      Alike (w.look d id).1 (v.look Catalog.directory id).1 ∧
      (v.look Catalog.directory id).1.directory = c ∧
      (v.look Catalog.directory id).1.issues = v.issues := by
  have hfind : c.find id = ⟨c, .ok schema, []⟩ := by simp [Catalog.find, hget]
  have hlooks := looks d w id
  generalize Walk.look d w id = o at hlooks hl
  cases hlooks with
  | missing _ => cases hl
  | found hf =>
    cases hl
    have hlook : v.look Catalog.directory id = ({ v with
        directory := c
        visited := id :: v.visited
        found := insertFound id schema v.found
        issues := v.issues ++ [] }, some schema) := by
      simp [Walk.look, Catalog.directory, hc, hfind]
    rw [hlook]
    exact ⟨rfl, ⟨h.graph, by simp [h.visited], by simp [h.found], h.failed⟩, rfl,
      List.append_nil _⟩

namespace Descends

/-- What was found is held from then on. -/
theorem grows (hd : d.Lawful valid held) (h : Descends d requiredBy w ids w')
    (hw : valid w.directory) : valid w'.directory ∧
      ∀ i schema, held w.directory i = some schema → held w'.directory i = some schema := by
  induction h with
  | done => exact ⟨hw, fun _ _ h => h⟩
  | seen he _ _ ih =>
    obtain ⟨-, g, rfl, -⟩ := enter_eq_ok he
    exact ih hw
  | @found _ w _ _ _ id _ _ he _ _ _ _ ihbelow ihrest =>
    obtain ⟨-, g, rfl, -⟩ := enter_eq_ok he
    rw [directory_look] at ihbelow
    obtain ⟨hbelow, hgrows⟩ := ihbelow (hd.keeps id _ hw)
    obtain ⟨hrest, hgrows'⟩ := ihrest hbelow
    exact ⟨hrest, fun i schema hi => hgrows' i schema (hgrows i schema (hd.grows id _ hw i schema hi))⟩

/-- A schema that is found is held. -/
theorem held_look (hd : d.Lawful valid held) {schema : Schema} (hl : (w.look d id).2 = some schema)
    (hw : valid w.directory) : valid (w.look d id).1.directory ∧
      held (w.look d id).1.directory id = some schema := by
  have hlooks := looks d w id
  generalize Walk.look d w id = o at hlooks hl
  cases hlooks with
  | missing _ => cases hl
  | found hf =>
    cases hl
    exact ⟨hd.keeps id _ hw, hd.finds id _ hw _ hf⟩

/-- **Over a catalog** that has all that is held in the end, the same is visited. -/
theorem on_catalog (hd : d.Lawful valid held) {c : Catalog} (h : Descends d requiredBy w ids w')
    (hw : valid w.directory)
    (hc : ∀ i schema, held w'.directory i = some schema → c.get? i = some schema)
    {v : Walk Catalog} (hv : Alike w v) (hvc : v.directory = c) :
    ∃ v', Descends Catalog.directory requiredBy v ids v' ∧ Alike w' v' ∧ v'.directory = c ∧
      v'.issues = v.issues := by
  induction h generalizing v with
  | done => exact ⟨v, .done, hv, hvc, rfl⟩
  | seen he hvisited _ ih =>
    obtain ⟨g, rfl, henter⟩ := hv.enter he
    obtain ⟨v', hrest, halike, hdirectory, hissues⟩ := ih hw hc (hv.with_graph g) hvc
    exact ⟨v', .seen henter (hv.visited ▸ hvisited) hrest, halike, hdirectory, hissues⟩
  | found he hvisited hl hbelow hrest ihbelow ihrest =>
    obtain ⟨g, rfl, henter⟩ := hv.enter he
    obtain ⟨hvalid, hheld⟩ := held_look hd hl hw
    obtain ⟨hvalid', hgrows⟩ := hbelow.grows hd hvalid
    obtain ⟨-, hgrows'⟩ := hrest.grows hd hvalid'
    -- What was found here is held to the end, so the catalog has it.
    have hget := hc _ _ (hgrows' _ _ (hgrows _ _ hheld))
    obtain ⟨hfound, hv₁, hvc₁, hi₁⟩ := (hv.with_graph g).look hvc hl hget
    obtain ⟨v₂, hbelow', hv₂, hvc₂, hi₂⟩ :=
      ihbelow hvalid (fun i schema h => hc i schema (hgrows' i schema h)) hv₁ hvc₁
    obtain ⟨v', hrest', hv', hvc', hi'⟩ := ihrest hvalid' hc hv₂ hvc₂
    exact ⟨v', .found henter (hv.visited ▸ hvisited) hfound hbelow' hrest', hv', hvc',
      hi'.trans (hi₂.trans hi₁)⟩

/-! ## Any number of levels that is high enough -/

theorem split (h : Descends d requiredBy w (id :: ids) w') :
    ∃ w₁, Descends d requiredBy w [id] w₁ ∧ Descends d requiredBy w₁ ids w' := by
  cases h with
  | seen he hv hrest => exact ⟨_, .seen he hv .done, hrest⟩
  | found he hv hl hbelow hrest => exact ⟨_, .found he hv hl hbelow .done, hrest⟩

/-- What visits each schema as it should visits all of them one after the other. -/
theorem foldl_eq (hd : d.Lawful valid held) {visitor : Walk σ → SchemaIdentifier → Walk σ}
    (h : Descends d requiredBy w ids w') (hw : w.Invariant valid held)
    (hr : ∀ id ∈ ids, w.Requires roots requiredBy id)
    (hone : ∀ w₁ id w₂, Steps d roots w w₁ → w₁.Invariant valid held →
      w₁.Requires roots requiredBy id → Descends d requiredBy w₁ [id] w₂ → visitor w₁ id = w₂) :
    ids.foldl visitor w = w' := by
  induction ids generalizing w with
  | nil =>
    cases h
    rfl
  | cons id ids ih =>
    obtain ⟨w₁, hfirst, hrest⟩ := h.split
    have hsteps := hfirst.traverses.steps hw.listed fun i hi =>
      hr i (List.mem_cons.mpr (.inl (List.mem_singleton.mp hi)))
    obtain ⟨hw₁, hg₁⟩ := hsteps.invariant hd hw
    rw [List.foldl_cons, hone w id w₁ .refl hw (hr id (by simp)) hfirst]
    exact ih hrest hw₁ (fun i hi => (hr i (by simp [hi])).mono hg₁.found)
      fun w₂ i w₃ hs => hone w₂ i w₃ (hsteps.trans hs)

/-- A visit gives what is visited without a failure, if what it calls for the imports does. -/
theorem visitWith_eq (hd : d.Lawful valid held)
    {below : SchemaIdentifier → Walk σ → SchemaIdentifier → Walk σ}
    (h : Descends d requiredBy w [id] w') (hw : w.Invariant valid held)
    (hr : w.Requires roots requiredBy id)
    (hbelow : ∀ w₁ imports, Step d roots w w₁ → w₁.Invariant valid held →
      w₁.found.length = w.found.length + 1 → (∀ i ∈ imports, w₁.Requires [] (some id) i) →
      Descends d (some id) w₁ imports w' → imports.foldl (below id) w₁ = w') :
    visitWith d below requiredBy w id = w' := by
  cases h with
  | seen he hv hrest =>
    cases hrest
    obtain ⟨-, g, rfl, -⟩ := enter_eq_ok he
    rw [visitWith, he]
    exact if_pos hv
  | @found _ _ w₁ _ _ _ _ schema he hv hl hdescends hrest =>
    cases hrest
    have hstep := Step.looked (d := d) hr he hv
    -- `enter` has changed the graph only.
    have hnew : id ∉ w₁.visited := by
      obtain ⟨-, g, rfl, -⟩ := enter_eq_ok he
      exact hv
    have hlook : w₁.look d id = ((w₁.look d id).1, some schema) := Prod.ext rfl hl
    rw [visitWith, he]
    simp only [if_neg hnew]
    rw [hlook]
    exact hbelow _ _ hstep (hstep.invariant hd hw).1 (found_of_enter hw.listed he hv hl).length_eq
      (requires_of_enter hw.listed he hv hl []) hdescends

theorem visit_eq (hd : d.Lawful valid held) (fuel : Nat) (h : Descends d requiredBy w [id] w')
    (hw : w.Invariant valid held) (hr : w.Requires [] requiredBy id)
    (hfuel : d.size w.directory < fuel + w.found.length) : visit d fuel requiredBy w id = w' := by
  induction fuel generalizing requiredBy w id w' with
  | zero =>
    have := hw.length_found_le hd
    omega
  | succ fuel ih =>
    refine h.visitWith_eq hd hw hr fun w₁ imports hstep hw₁ hlength hr₁ hdescends => ?_
    have hsize : d.size w₁.directory < fuel + w₁.found.length := by
      rw [Steps.directory_eq hd (.single hstep) hw]
      omega
    exact hdescends.foldl_eq hd hw₁ hr₁ fun w₂ i w₃ hs hw₂ hr₂ h₂ =>
      ih h₂ hw₂ hr₂ (hs.size_lt hd hw₁ hsize)

theorem visitRoot_eq (hd : d.Lawful valid held) (h : Descends d none w [id] w')
    (hw : w.Invariant valid held) (hr : w.Requires roots none id) : visitRoot d w id = w' := by
  refine h.visitWith_eq hd hw hr fun w₁ imports hstep hw₁ hlength hr₁ hdescends => ?_
  refine hdescends.foldl_eq hd hw₁ hr₁ fun w₂ i w₃ hs hw₂ hr₂ h₂ => h₂.visit_eq hd _ hw₂ hr₂ ?_
  obtain ⟨schema, hs, -⟩ := hr₂
  have := List.length_pos_of_mem hs
  omega

theorem walk_eq (hd : d.Lawful valid held) {table : ImportTable} {s : σ} (hs : valid s)
    (h : Descends d none (start s) (table.entries.map Prod.snd) w) : d.walk table s = w :=
  h.foldl_eq hd (invariant_start hs) (requires_start table s)
    fun _ _ _ _ hw hr hone => hone.visitRoot_eq hd hw hr

end Descends

end Walk

/-! ## The cache as a catalog -/

/-- The catalog holds just the schemas that the session has cached, each under its identifier. -/
def Catalog.Mirrors (c : Catalog) (s : Session) : Prop := ∀ id, c.get? id = s.cached? id

namespace Session

variable {env : Environment} {s : Session} {table : ImportTable} {set : ResolvedSet}

/-- There is a catalog of just the schemas that are cached. -/
theorem exists_mirror (hs : s.Valid) : ∃ c : Catalog, c.Mirrors s := by
  let c : Catalog := ⟨s.cache.filterMap fun e => s.cached? e.1⟩
  have hcached : ∀ schema ∈ c.schemas, s.cached? schema.identifier = some schema := by
    intro schema hmem
    obtain ⟨e, -, he⟩ := List.mem_filterMap.mp hmem
    rwa [hs.cache.identifier_eq _ _ he]
  refine ⟨c, fun id => ?_⟩
  cases hget : c.get? id with
  | some schema =>
    have hid := Catalog.identifier_of_get? hget
    rw [← hid, hcached schema (List.mem_of_find?_eq_some hget)]
  | none =>
    cases hc : s.cached? id with
    | none => rfl
    | some schema =>
      have hmem : schema ∈ c.schemas := List.mem_filterMap.mpr ⟨_, mem_of_lookup hc, hc⟩
      have hno := List.find?_eq_none.mp hget schema hmem
      simp [hs.cache.identifier_eq _ _ hc] at hno

/-- **A catalog of what is cached** resolves to the same. -/
theorem resolve_mirror (hs : s.Valid) (h : ((directory env).resolve table s).value = some set)
    {c : Catalog} (hc : c.Mirrors ((directory env).resolve table s).state) :
    Catalog.directory.resolve table c = ⟨c, some set, []⟩ := by
  obtain ⟨hf, hset⟩ := Walk.resolve_eq_some.mp h
  rw [Walk.state_resolve] at hc
  have hstart : Walk.Alike (Walk.start s) (Walk.start c) := ⟨rfl, rfl, rfl, rfl⟩
  obtain ⟨v, hdescends, halike, hdirectory, hissues⟩ :=
    (Walk.walk_descends (lawful env) hs hf).on_catalog (lawful env) hs (fun i _ h => (hc i).trans h) hstart rfl
  have hwalk : Catalog.directory.walk table c = v := hdescends.walk_eq c.lawful rfl
  have hissues : v.issues = [] := hissues
  unfold Directory.resolve
  simp only [hwalk, halike.failed, hf, halike.graph, halike.found, hset, hdirectory, hissues,
    Bool.false_eq_true, if_false]

/-! ## What leads to a compilation -/

variable {ids : List SchemaIdentifier} {w : Walk Session}

/-- Whatever is found for an import of a schema that was found is a hit in the cache. -/
theorem find_of_requires (hs : s.Valid) (hw : Walk.Steps (directory env) ids (Walk.start s) w)
    {requester id : SchemaIdentifier} (hr : w.Requires ids (some requester) id) :
    ∃ schema, w.directory.cached? id = some schema ∧
      (directory env).find id w.directory = ⟨w.directory, .ok schema, []⟩ := by
  obtain ⟨hinvariant, -⟩ := hw.invariant (lawful env) (Walk.invariant_start hs)
  obtain ⟨importing, hfound, hi⟩ := hr
  have hheld := hinvariant.held _ hfound
  obtain ⟨schema, hc⟩ := hinvariant.valid.cache.imports_cached requester importing hheld id hi
  refine ⟨schema, hc, ?_⟩
  simp only [directory, find, loadRoot_of_cached hc]
  rfl

/-- Only what the document requires is loaded. -/
theorem exists_loadRoots (hs : s.Valid) (hw : Walk.Steps (directory env) ids (Walk.start s) w) :
    ∃ loaded, loaded ⊆ ids ∧ w.directory = loaded.foldl (fun s id => (s.loadRoot env id).state) s := by
  induction hw with
  | refl => exact ⟨[], by simp, rfl⟩
  | @tail x y hsteps hstep ih =>
    obtain ⟨loaded, hsub, hx⟩ := ih
    rcases hstep with ⟨-, -⟩ | ⟨-, he, -⟩ | ⟨hr, he, -⟩
    · exact ⟨loaded, hsub, hx⟩
    · obtain ⟨-, g, rfl, -⟩ := Walk.enter_eq_ok he
      exact ⟨loaded, hsub, hx⟩
    · rename_i requiredBy id _
      obtain ⟨-, g, rfl, -⟩ := Walk.enter_eq_ok he
      rw [Walk.directory_look]
      cases requiredBy with
      | none =>
        refine ⟨loaded ++ [id], ?_, ?_⟩
        · exact List.append_subset.mpr ⟨hsub, List.cons_subset.mpr ⟨hr, List.nil_subset _⟩⟩
        · rw [List.foldl_append, ← hx]
          rfl
      | some requester =>
        -- An import of what was found is cached, and finding it changes nothing.
        obtain ⟨schema, -, hfind⟩ := find_of_requires hs hsteps hr
        rw [hfind]
        exact ⟨loaded, hsub, hx⟩

/-- **Resolving over a session agrees with resolving over its cache.** If a set is resolved, after any
operations before, its schemas are those that are cached in the end, and a catalog of the cached schemas
resolves the table to the same set without reporting anything. A resolution, failed or not, loads nothing
but schemas of the table: in each of its steps, what a schema that was found imports is in the cache. -/
theorem resolve_agrees (env : Environment) (ops : List Operation) (table : ImportTable) :
    let s := run env ops
    let ids := table.entries.map Prod.snd
    let resolved := (directory env).resolve table s
    (∀ set, resolved.value = some set →
      (∀ schema ∈ set.schemas, resolved.state.cached? schema.identifier = some schema) ∧
      (∃ c : Catalog, c.Mirrors resolved.state) ∧
      ∀ c : Catalog, c.Mirrors resolved.state →
        Catalog.directory.resolve table c = ⟨c, some set, []⟩) ∧
    (∃ loaded, loaded ⊆ ids ∧
      resolved.state = loaded.foldl (fun s id => (s.loadRoot env id).state) s) ∧
    Walk.Steps (directory env) ids (Walk.start s) ((directory env).walk table s) ∧
    ∀ w, Walk.Steps (directory env) ids (Walk.start s) w →
      ∀ requester id, w.Requires ids (some requester) id →
        ∃ schema, w.directory.cached? id = some schema ∧
          (directory env).find id w.directory = ⟨w.directory, .ok schema, []⟩ := by
  intro s ids resolved
  have hs : s.Valid := run_valid env ops
  have hwalk : Walk.Steps (directory env) ids (Walk.start s) ((directory env).walk table s) :=
    Walk.walk_steps _ table s
  have hstate : resolved.state = ((directory env).walk table s).directory :=
    Walk.state_resolve _ table s
  refine ⟨fun set hset => ?_, ?_, hwalk, fun w hw requester id hr => find_of_requires hs hw hr⟩
  · obtain ⟨hbacks, -⟩ := backs_of_resolve hs hset
    exact ⟨hbacks.cached, exists_mirror hbacks.valid, fun c hc => resolve_mirror hs hset hc⟩
  · rw [hstate]
    exact exists_loadRoots hs hwalk

/-- A resolution that loads a schema and the one that it imports. -/
theorem resolve_agrees_dublin :
    let env := Sample.source.environment 1000 1
    let table : ImportTable := ⟨[(Sample.dublin.name, Sample.dublin)]⟩
    let resolved := (directory env).resolve table (run env [])
    ∃ set c, resolved.value = some set ∧ c.Mirrors resolved.state ∧ set.schemas.length = 2 ∧
      (∀ schema ∈ set.schemas, resolved.state.cached? schema.identifier = some schema) ∧
      Catalog.directory.resolve table c = ⟨c, some set, []⟩ := by
  intro env table resolved
  have hresolved : resolved.value.map (·.schemas.length) = some 2 := by
    decide +kernel
  obtain ⟨set, hset, hlength⟩ := Option.map_eq_some_iff.mp hresolved
  obtain ⟨hsets, -⟩ := resolve_agrees env [] table
  obtain ⟨hcached, ⟨c, hc⟩, hagrees⟩ := hsets set hset
  exact ⟨set, c, hset, hc, hlength, hcached, hagrees c hc⟩

end Session

end MetaSchema
