import MetaSchema.Proofs.Resolution.Catalog
import MetaSchema.Proofs.Resolution.Session
import MetaSchema.Proofs.Running.Loading

/-!
# Resolving as a task

The walk through the imports of a table while the issues are reported one by one: those of the walk
in between those that finding a schema reports. A visit takes fuel, and does not end where that runs
out.

* `Task.Finding`: how a schema is found; `Task.findSchema` in a session, `Task.findHeld` in a
  catalog.
* `Task.visit`, `Task.resolve`: the walk.
* `Task.Finds`: finding schemas as a directory does.
* `visit_walks`: below a schema that was found, a visit ends as `Walk.visit` does. Each level finds
  one more schema, so the fuel need not be more than the schemas that the directory holds.
* `resolve_ends`: a resolution ends as that of the directory, with fuel enough. Sessions and
  catalogs are such directories.
-/

namespace MetaSchema

variable {σ τ : Type}

namespace Task

/-- Finds a schema. -/
abbrev Finding (τ : Type) := SchemaIdentifier → Task τ (Except ResolveError Schema)

/-- Finds a schema by loading it. -/
def findSchema (source : Source) (nodesLimit maxImportDepth fuel : Nat) : Finding Loader := fun id => do
  let loaded ← loadRoot source nodesLimit maxImportDepth fuel id
  return loaded.mapError (ResolveError.ofLoad id)

/-- Finds a schema that a catalog holds. -/
def findHeld : Finding Catalog := fun id => do
  let c ← read
  match c.get? id with
  | some schema => return .ok schema
  | none => return .error (.schemaNotFound id)

/-! ## The walk -/

/-- A failure of the walk is reported at once: the walk holds neither a directory nor issues. -/
def failWalk (w : Walk Unit) (e : ResolveError) : Task τ (Walk Unit) := do
  report e.diagnostic
  return { w with failed := true }

def look (find : Finding τ) (w : Walk Unit) (id : SchemaIdentifier) :
    Task τ (Walk Unit × Option Schema) := do
  match ← find id with
  | .error e =>
    let w ← failWalk { w with visited := id :: w.visited } e
    return (w, none)
  | .ok schema =>
    return ({ w with
      visited := id :: w.visited
      found := Walk.insertFound id schema w.found }, some schema)

def visit (find : Finding τ) : Nat → Option SchemaIdentifier → Walk Unit → SchemaIdentifier →
    Task τ (Walk Unit)
  | 0, _, _, _ => fun _ => none
  | fuel + 1, requiredBy, w, id =>
    match w.enter requiredBy id with
    | .error e => failWalk w e
    | .ok w =>
      if id ∈ w.visited then return w
      else do
        match ← look find w id with
        | (w, none) => return w
        | (w, some schema) => schema.imports.foldlM (visit find fuel (some id)) w

def resolve (find : Finding τ) (fuel : Nat) (table : ImportTable) : Task τ (Option ResolvedSet) := do
  let w ← (table.entries.map Prod.snd).foldlM (visit find fuel none) (Walk.start ())
  if w.failed then return none
  else
    match ResolvedSet.ofSchemas? w.graph (w.found.map Prod.snd) with
    | .ok set => return some set
    | .error d => do
      report (ResolveError.internal d).diagnostic
      return none

end Task

/-- A walk without its directory and its issues. -/
def Walk.bare (w : Walk σ) : Walk Unit := { w with directory := (), issues := [] }

theorem Walk.enter_bare (w : Walk σ) (requiredBy : Option SchemaIdentifier) (id : SchemaIdentifier) :
    w.bare.enter requiredBy id = (w.enter requiredBy id).map Walk.bare :=
  enter_map bare w rfl rfl (fun _ => rfl) requiredBy id

namespace Task

/-! ## Following a directory -/

/-- Schemas are found as a directory finds them, from states that stand for one of its states. -/
def Finds (find : Finding τ) (d : Directory σ) (standsFor : τ → σ → Prop) : Prop :=
  ∀ id x s, standsFor x s → ∃ x', standsFor x' (d.find id s).state ∧
    (find id).Ends x (d.find id s).value x' ((d.find id s).issues.map Issue.diagnostic)

/-- A task makes the walk `w'` of `w`, and reports what it adds to the issues. -/
def Walks (standsFor : τ → σ → Prop) (t : Task τ (Walk Unit)) (x : τ) (w w' : Walk σ) : Prop :=
  ∃ x' is, standsFor x' w'.directory ∧ w'.issues = w.issues ++ is ∧
    t.Ends x w'.bare x' (is.map Issue.diagnostic)

section Walks

variable {standsFor : τ → σ → Prop} {find : Finding τ} {d : Directory σ} {x : τ} {w w' w'' : Walk σ}
  {requiredBy : Option SchemaIdentifier} {id : SchemaIdentifier}

theorem Walks.refl (hx : standsFor x w.directory) : Walks standsFor (pure w.bare) x w w :=
  ⟨x, [], hx, (List.append_nil _).symm, ends_pure _ x⟩

theorem Walks.bind {t : Task τ (Walk Unit)} {f : Walk Unit → Task τ (Walk Unit)}
    (h : Walks standsFor t x w w')
    (h' : ∀ x', standsFor x' w'.directory → Walks standsFor (f w'.bare) x' w' w'') :
    Walks standsFor (t >>= f) x w w'' := by
  obtain ⟨x', is, hx', hissues, ht⟩ := h
  obtain ⟨x'', js, hx'', hissues', hf⟩ := h' x' hx'
  refine ⟨x'', is ++ js, hx'', by rw [hissues', hissues, List.append_assoc], ?_⟩
  rw [List.map_append]
  exact ht.bind hf

theorem failWalk_walks (e : ResolveError) (hx : standsFor x w.directory) :
    Walks standsFor (failWalk w.bare e) x w (w.fail e) := by
  refine ⟨x, [.resolve e], hx, rfl, ?_⟩
  exact (ends_report _ x).finish (f := fun _ => pure _) (ends_pure _ x)

/-- **Looking for a schema.** -/
theorem look_ends (hf : Finds find d standsFor) (hx : standsFor x w.directory)
    (id : SchemaIdentifier) : ∃ x' is, standsFor x' (w.look d id).1.directory ∧
      (w.look d id).1.issues = w.issues ++ is ∧
      (look find w.bare id).Ends x ((w.look d id).1.bare, (w.look d id).2) x'
        (is.map Issue.diagnostic) := by
  obtain ⟨x', hx', hfind⟩ := hf id x w.directory hx
  have hlooks := Walk.looks d w id
  unfold look
  generalize w.look d id = o at hlooks ⊢
  cases hlooks with
  | @missing e hv =>
    rw [hv] at hfind
    refine ⟨x', (d.find id w.directory).issues ++ [.resolve e], hx', ?_, ?_⟩
    · simp only [Walk.fail, List.append_assoc]
    rw [List.map_append]
    refine hfind.bind ?_
    refine Ends.finish (f := fun w => pure (w, none)) ?_ (ends_pure _ x')
    exact (ends_report _ x').finish (f := fun _ => pure _) (ends_pure _ x')
  | found hv =>
    rw [hv] at hfind
    refine ⟨x', (d.find id w.directory).issues, hx', rfl, ?_⟩
    refine hfind.finish ?_
    exact ends_pure _ x'

/-- **One visit**, if the imports of a schema that it finds are followed alike. -/
theorem visitWith_walks (hf : Finds find d standsFor) (hx : standsFor x w.directory) {n : Nat}
    {below : SchemaIdentifier → Walk σ → SchemaIdentifier → Walk σ}
    (hbelow : ∀ w₁ schema x', w.enter requiredBy id = .ok w₁ → id ∉ w.visited →
      (w₁.look d id).2 = some schema → standsFor x' (w₁.look d id).1.directory →
      Walks standsFor (schema.imports.foldlM (visit find n (some id)) (w₁.look d id).1.bare) x'
        (w₁.look d id).1 (schema.imports.foldl (below id) (w₁.look d id).1)) :
    Walks standsFor (visit find (n + 1) requiredBy w.bare id) x w
      (Walk.visitWith d below requiredBy w id) := by
  have hvisits := Walk.visits d below requiredBy w id
  unfold visit
  rw [Walk.enter_bare]
  generalize Walk.visitWith d below requiredBy w id = o at hvisits ⊢
  cases hvisits with
  | refused he =>
    rw [he]
    exact failWalk_walks _ hx
  | @seen w₁ he hv =>
    obtain ⟨-, g, rfl, -⟩ := Walk.enter_eq_ok he
    rw [he]
    have hvisited : id ∈ (Walk.bare { w with graph := g }).visited := hv
    simp only [Except.map, hvisited, ↓reduceIte]
    exact ⟨x, [], hx, (List.append_nil _).symm, ends_pure _ x⟩
  | @missing w₁ he hv hl =>
    obtain ⟨-, g, rfl, -⟩ := Walk.enter_eq_ok he
    rw [he]
    have hvisited : ¬ id ∈ (Walk.bare { w with graph := g }).visited := hv
    obtain ⟨x', is, hx', hissues, hlook⟩ := look_ends hf (w := { w with graph := g }) hx id
    rw [hl] at hlook
    simp only [Except.map, hvisited, ↓reduceIte]
    refine ⟨x', is, hx', hissues, hlook.finish ?_⟩
    exact ends_pure _ x'
  | @found w₁ schema he hv hl =>
    -- `hbelow` speaks of the graph that `enter` left, which is `g` from here on.
    have hbelow' := fun x' => hbelow _ schema x' he hv hl
    obtain ⟨-, g, rfl, -⟩ := Walk.enter_eq_ok he
    rw [he]
    have hvisited : ¬ id ∈ (Walk.bare { w with graph := g }).visited := hv
    obtain ⟨x', is, hx', hissues, hlook⟩ := look_ends hf (w := { w with graph := g }) hx id
    obtain ⟨x'', js, hx'', hissues', hfold⟩ := hbelow' x' hx'
    rw [hl] at hlook
    simp only [Except.map, hvisited, ↓reduceIte]
    refine ⟨x'', is ++ js, hx'', by rw [hissues', hissues, List.append_assoc], ?_⟩
    rw [List.map_append]
    exact hlook.bind hfold

variable {valid : σ → Prop} {held : σ → SchemaIdentifier → Option Schema}
  {roots : List SchemaIdentifier}

/-- Schemas that are visited one after the other. -/
theorem foldl_walks (hd : d.Lawful valid held) (enough : Walk σ → Prop)
    {below : Walk σ → SchemaIdentifier → Walk σ}
    {live : Walk Unit → SchemaIdentifier → Task τ (Walk Unit)} {ids : List SchemaIdentifier}
    (hsteps : ∀ (w : Walk σ) id, w.Listed → w.Requires roots requiredBy id →
      Walk.Steps d roots w (below w id))
    (henough : ∀ w w', w.Invariant valid held → Walk.Steps d roots w w' → enough w → enough w')
    (hone : ∀ (w : Walk σ) x id, w.Invariant valid held → enough w → w.Requires roots requiredBy id →
      standsFor x w.directory → Walks standsFor (live w.bare id) x w (below w id))
    (hw : w.Invariant valid held) (hwe : enough w) (hr : ∀ id ∈ ids, w.Requires roots requiredBy id)
    (hx : standsFor x w.directory) :
    Walks standsFor (ids.foldlM live w.bare) x w (ids.foldl below w) := by
  induction ids generalizing w x with
  | nil => exact .refl hx
  | cons id ids ih =>
    have hfirst := hsteps w id hw.listed (hr id (by simp))
    obtain ⟨hw₁, hg₁⟩ := hfirst.invariant hd hw
    rw [List.foldlM_cons, List.foldl_cons]
    refine (hone w x id hw hwe (hr id (by simp)) hx).bind fun x' hx' => ?_
    exact ih hw₁ (henough _ _ hw hfirst hwe)
      (fun i hi => (hr i (by simp [hi])).mono hg₁.found) hx'

/-- A visit below a schema that was found. -/
theorem visit_walks (hd : d.Lawful valid held) (hf : Finds find d standsFor) (m n : Nat)
    {requester : SchemaIdentifier} (hw : w.Invariant valid held)
    (hm : d.size w.directory < m + w.found.length) (hn : d.size w.directory < n + w.found.length)
    (hr : w.Requires [] (some requester) id) (hx : standsFor x w.directory) :
    Walks standsFor (visit find n (some requester) w.bare id) x w
      (Walk.visit d m (some requester) w id) := by
  induction m generalizing n w x requester id with
  | zero =>
    -- Neither the levels nor the fuel run out: there are more of both than schemas to be found.
    have := hw.length_found_le hd
    omega
  | succ m ih =>
    cases n with
    | zero =>
      have := hw.length_found_le hd
      omega
    | succ n =>
      refine visitWith_walks hf hx fun w₁ schema x' he hv hl hx' => ?_
      -- The schema that was found pays for one level and for one unit of fuel.
      have hstep := Walk.Step.looked (d := d) hr he hv
      obtain ⟨hw₁, -⟩ := hstep.invariant hd hw
      have hlength := (Walk.found_of_enter hw.listed he hv hl).length_eq
      have hsize := congrArg d.size (Walk.Steps.directory_eq hd (.single hstep) hw)
      rw [List.length_cons] at hlength
      have himports := Walk.requires_of_enter hw.listed he hv hl []
      exact foldl_walks hd
        (fun w => d.size w.directory < m + w.found.length ∧ d.size w.directory < n + w.found.length)
        (fun w i hl hr => Walk.visit_steps m hl hr)
        (fun w w' hw h he => ⟨h.size_lt hd hw he.1, h.size_lt hd hw he.2⟩)
        (fun w x i hw he hr hx => ih n hw he.1 he.2 hr hx) hw₁ (by omega) himports hx'

/-- A visit that the document requires. The directory holds no less after the schema was looked for
than while what it imports is visited. -/
theorem visitRoot_walks (hd : d.Lawful valid held) (hf : Finds find d standsFor) {n : Nat}
    (hw : w.Invariant valid held) (hn : d.size (d.find id w.directory).state ≤ n)
    (hr : w.Requires roots none id) (hx : standsFor x w.directory) :
    Walks standsFor (visit find (n + 1) none w.bare id) x w (Walk.visitRoot d w id) := by
  refine visitWith_walks hf hx fun w₁ schema x' he hv hl hx' => ?_
  have hstep := Walk.Step.looked (d := d) hr he hv
  obtain ⟨hw₁, -⟩ := hstep.invariant hd hw
  have hlength := (Walk.found_of_enter hw.listed he hv hl).length_eq
  have hdirectory : (w₁.look d id).1.directory = (d.find id w.directory).state := by
    obtain ⟨-, g, rfl, -⟩ := Walk.enter_eq_ok he
    exact Walk.directory_look d _ id
  rw [List.length_cons] at hlength
  rw [← hdirectory] at hn
  have himports := Walk.requires_of_enter hw.listed he hv hl []
  refine foldl_walks hd (fun w => 0 < w.found.length ∧ d.size w.directory < n + w.found.length)
    (fun w i hl hr => Walk.visit_steps _ hl hr) (fun w w' hw h he => ⟨?_, h.size_lt hd hw he.2⟩)
    (fun w x i hw he hr hx => visit_walks hd hf _ n hw (by omega) he.2 hr hx) hw₁ (by omega)
    himports hx'
  -- What was found stays found, so there is a schema as long as its imports are visited.
  obtain ⟨-, hg⟩ := h.invariant hd hw
  obtain ⟨e, hmem⟩ := List.exists_mem_of_length_pos he.1
  exact List.length_pos_of_mem (hg.found hmem)

end Walks

/-! ## Resolving -/

variable {standsFor : τ → σ → Prop} {find : Nat → Finding τ} {d : Directory σ} {valid : σ → Prop}
  {held : σ → SchemaIdentifier → Option Schema} {roots : List SchemaIdentifier}

/-- **Walking a table**, with fuel enough for every schema that the directory comes to hold. -/
theorem walk_walks (hd : d.Lawful valid held) {least : Nat}
    (hf : ∀ fuel, least ≤ fuel → Finds (find fuel) d standsFor) {w : Walk σ}
    {ids : List SchemaIdentifier} (hw : w.Invariant valid held)
    (hr : ∀ id ∈ ids, w.Requires roots none id) :
    ∃ enough, ∀ fuel, enough ≤ fuel → ∀ x, standsFor x w.directory →
      Walks standsFor (ids.foldlM (visit (find fuel) fuel none) w.bare) x w
        (ids.foldl (Walk.visitRoot d) w) := by
  induction ids generalizing w with
  | nil => exact ⟨0, fun _ _ _ hx => .refl hx⟩
  | cons id ids ih =>
    have hfirst : Walk.Steps d roots w (w.visitRoot d id) :=
      Walk.visitWith_steps (fun _ w _ hw hr => Walk.visit_steps (d.size w.directory) hw hr) hw.listed
        (hr id (by simp))
    obtain ⟨hw₁, hg₁⟩ := hfirst.invariant hd hw
    obtain ⟨enough, hrest⟩ := ih hw₁ fun i hi => (hr i (by simp [hi])).mono hg₁.found
    -- The fuel for a visit depends on what the directory holds once the schema was looked for.
    refine ⟨max (max least enough) (d.size (d.find id w.directory).state + 1),
      fun fuel hfuel x hx => ?_⟩
    obtain ⟨n, rfl⟩ : ∃ n, fuel = n + 1 := ⟨fuel - 1, by omega⟩
    rw [List.foldlM_cons, List.foldl_cons]
    refine (visitRoot_walks hd (hf _ (by omega)) hw (by omega) (hr id (by simp)) hx).bind
      fun x' hx' => hrest _ (by omega) x' hx'

/-- **Resolving.** -/
theorem resolve_ends (hd : d.Lawful valid held) {least : Nat}
    (hf : ∀ fuel, least ≤ fuel → Finds (find fuel) d standsFor) (table : ImportTable) {s : σ}
    (hs : valid s) :
    ∃ enough, ∀ fuel, enough ≤ fuel → ∀ x, standsFor x s →
      ∃ x', standsFor x' (d.resolve table s).state ∧
        (resolve (find fuel) fuel table).Ends x (d.resolve table s).value x'
          ((d.resolve table s).issues.map Issue.diagnostic) := by
  obtain ⟨enough, hwalk⟩ := walk_walks hd hf (Walk.invariant_start hs) (Walk.requires_start table s)
  refine ⟨enough, fun fuel hfuel x hx => ?_⟩
  obtain ⟨x', is, hx', hissues, hends⟩ := hwalk fuel hfuel x hx
  have hdef : d.walk table s =
      (table.entries.map Prod.snd).foldl (Walk.visitRoot d) (Walk.start s) := rfl
  rw [← hdef] at hx' hissues hends
  have hall : (d.walk table s).issues = is := hissues
  subst hall
  unfold resolve Directory.resolve
  generalize d.walk table s = w at hx' hends ⊢
  by_cases hfailed : w.failed = true
  · simp only [hfailed, ↓reduceIte]
    refine ⟨x', hx', hends.finish ?_⟩
    simp only [Walk.bare, hfailed, ↓reduceIte]
    exact ends_pure none x'
  · rw [Bool.not_eq_true] at hfailed
    -- A walk that did not fail can still have found two schemas of one name.
    cases hset : ResolvedSet.ofSchemas? w.graph (w.found.map Prod.snd) with
    | ok set =>
      simp only [hfailed, hset, Bool.false_eq_true, ↓reduceIte]
      refine ⟨x', hx', hends.finish ?_⟩
      simp only [Walk.bare, hfailed, hset, Bool.false_eq_true, ↓reduceIte]
      exact ends_pure (some set) x'
    | error defect =>
      simp only [hfailed, hset, Bool.false_eq_true, ↓reduceIte, List.map_append]
      refine ⟨x', hx', hends.bind ?_⟩
      simp only [Walk.bare, hfailed, hset, Bool.false_eq_true, ↓reduceIte]
      refine (ends_report _ x').finish ?_
      exact ends_pure none x'

/-! ## Sessions and catalogs -/

/-- A session between two operations, none of which had more than `limit` schemas under way. -/
def Idles (limit : Nat) (l : Loader) (s : Session) : Prop := ∃ peak ≤ limit, l = .idle s peak

theorem findSchema_follows (source : Source) (nodesLimit maxImportDepth : Nat) {fuel peak : Nat}
    (hfuel : maxImportDepth + 1 < fuel) (hpeak : peak ≤ maxImportDepth + 1) (s : Session)
    (id : SchemaIdentifier) :
    let o := Session.find (source.environment nodesLimit maxImportDepth) id s
    (findSchema source nodesLimit maxImportDepth fuel id).Follows (maxImportDepth + 1)
      (.idle s peak) o.value o.state o.issues :=
  (loadRoot_follows source nodesLimit maxImportDepth hfuel hpeak s id).result rfl

theorem findSchema_finds (source : Source) (nodesLimit maxImportDepth : Nat) {fuel : Nat}
    (hfuel : maxImportDepth + 1 < fuel) :
    Finds (findSchema source nodesLimit maxImportDepth fuel)
      (Session.directory (source.environment nodesLimit maxImportDepth)) (Idles (maxImportDepth + 1)) := by
  rintro id l s ⟨peak, hpeak, rfl⟩
  obtain ⟨peak', hpeak', hends⟩ := findSchema_follows source nodesLimit maxImportDepth hfuel hpeak s id
  exact ⟨_, ⟨peak', hpeak', rfl⟩, hends⟩

theorem findHeld_finds : Finds findHeld Catalog.directory Eq := by
  rintro id c _ rfl
  refine ⟨c, (Catalog.state_find c id).symm, (ends_read c).then ?_⟩
  show Ends (match c.get? id with | some schema => _ | none => _) c (c.find id).value c
    ((c.find id).issues.map Issue.diagnostic)
  unfold Catalog.find
  cases c.get? id with
  | some schema => exact ends_pure _ c
  | none => exact ends_pure _ c

/-- **Resolving over a catalog.** -/
theorem resolve_held_ends (c : Catalog) (table : ImportTable) :
    let o := Catalog.directory.resolve table c
    ∃ enough, ∀ fuel, enough ≤ fuel →
      (resolve findHeld fuel table).Ends c o.value o.state (o.issues.map Issue.diagnostic) := by
  obtain ⟨enough, hends⟩ := resolve_ends (Catalog.lawful c)
    (fun fuel (_ : 0 ≤ fuel) => findHeld_finds) table rfl
  refine ⟨enough, fun fuel hfuel => ?_⟩
  obtain ⟨_, rfl, hend⟩ := hends fuel hfuel c rfl
  exact hend

end Task

end MetaSchema
