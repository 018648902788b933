import MetaSchema.Proofs.Resolution.Asked
import MetaSchema.Proofs.Resolution.Catalog
import MetaSchema.Proofs.Session.Served

/-!
# What a resolution over a catalog reports

* `Catalog.Requires`: a schema is listed in the table, or imported by a schema that the table needs.
* `Catalog.Circle`: a circle of imports, written with its first schema again at the end.
* `Catalog.Genuine`: what a failure says is so.
* `Walk.Reports`: after every step just genuine failures were reported, a schema that is missing once.
* `Walk.Finished`: in the end all that is required is answered, too.
* `Finished.mem_visited`: if no two needed schemas share a name, a walk visits all that is needed,
  although it does not follow what it refuses.
* `Finished.circular_iff`: then it reports a circle just if there is one.
* `resolve_reports`: the same of a resolution, which asks the catalog for each schema at most once.
-/

namespace MetaSchema

open Relation (ReflTransGen TransGen)

namespace Catalog

variable {c : Catalog} {table : ImportTable}

/-! ## Genuine failures -/

/-- The table lists a schema, or a schema that the table needs imports it. -/
def Requires (c : Catalog) (table : ImportTable) :
    Option SchemaIdentifier → SchemaIdentifier → Prop
  | none, id => id ∈ table.entries.map Prod.snd
  | some requester, id => c.Needs table requester ∧ c.Imports requester id

theorem Requires.needs {requiredBy : Option SchemaIdentifier} {id : SchemaIdentifier}
    (h : c.Requires table requiredBy id) : c.Needs table id := by
  cases requiredBy with
  | none =>
    obtain ⟨e, he, rfl⟩ := List.mem_map.mp h
    exact ⟨e, he, .refl⟩
  | some requester => exact h.1.imports h.2

/-- The path of a circle of imports among what the table needs. -/
structure Circle (c : Catalog) (table : ImportTable) (path : List SchemaIdentifier) : Prop where
  needed : ∀ id ∈ path, c.Needs table id
  closed : path.head? = path.getLast?
  two_le : 2 ≤ path.length
  steps : path.IsChain c.Imports

/-- The first schema of a circle leads back to itself. -/
theorem Circle.exists_cycle {path : List SchemaIdentifier} (h : c.Circle table path) :
    ∃ id, c.Needs table id ∧ TransGen c.Imports id id := by
  obtain ⟨hneeded, hclosed, htwo, hsteps⟩ := h
  match path, htwo with
  | id :: next :: rest, _ =>
    obtain ⟨himports, hrest⟩ := List.isChain_cons_cons.mp hsteps
    have hlast : (next :: rest).getLast (List.cons_ne_nil _ _) = id := by
      rw [List.head?_cons, List.getLast?_cons_cons, List.getLast?_eq_some_getLast] at hclosed
      exact (Option.some.inj hclosed).symm
    exact ⟨id, hneeded id List.mem_cons_self,
      .head' himports (List.relationReflTransGen_of_exists_isChain_cons rest hrest hlast)⟩

/-- What a failure says is so. -/
inductive Genuine (c : Catalog) (table : ImportTable) : ResolveError → Prop
  | schemaNotFound {id : SchemaIdentifier} (hn : c.Needs table id) (hget : c.get? id = none) :
      Genuine c table (.schemaNotFound id)
  | circularImport {path : List SchemaIdentifier} (hcircle : c.Circle table path) :
      Genuine c table (.circularImport path)
  | versionConflict {existing requested : SchemaIdentifier} {requiredBy : Option SchemaIdentifier}
      (hr : c.Requires table requiredBy requested) (hn : c.Needs table existing)
      (hname : existing.name = requested.name) (hne : existing ≠ requested) :
      Genuine c table (.versionConflict existing requested requiredBy)
  | declaredTwice {id : SchemaIdentifier} {schema : Schema} {name : TypeName} (hn : c.Needs table id)
      (hget : c.get? id = some schema)
      (htwice : (schema.types.map TypeDeclaration.name).Duplicate name) :
      Genuine c table (.internal (ResolvedSet.twice id.name name))

end Catalog

namespace Walk

variable {c : Catalog} {table : ImportTable} {w w' : Walk Catalog}
  {requiredBy : Option SchemaIdentifier} {id : SchemaIdentifier}

theorem Follows.requires (hw : w.Follows c table)
    (hr : w.Requires (table.entries.map Prod.snd) requiredBy id) : c.Requires table requiredBy id := by
  cases requiredBy with
  | none => exact hr
  | some requester => exact (hw.of_requires hr).2 requester rfl

/-- What is refused is refused for a genuine reason. -/
theorem Follows.genuine_of_error (hw : w.Follows c table)
    (hr : w.Requires (table.entries.map Prod.snd) requiredBy id) {e : ResolveError}
    (he : w.enter requiredBy id = .error e) : c.Genuine table e := by
  have hrequires := hw.requires hr
  rcases enter_eq_error he with ⟨existing, hexisting, hne, rfl⟩ | ⟨requester, path, rfl, hpath, rfl⟩
  · have hvisited := List.mem_of_find?_eq_some hexisting
    exact .versionConflict hrequires (hw.needed _ hvisited) (by simpa using List.find?_some hexisting)
      hne
  · obtain ⟨hneeds, himports⟩ := hrequires
    obtain ⟨hhead, hlast, hsteps⟩ := (ImportGraph.isShortestPath_of_addEdge? hpath).toIsPath
    obtain ⟨rest, rfl⟩ := List.head?_eq_some_iff.mp hhead
    -- The path leads back over edges, which are imports, and the refused import closes it.
    have hchain : (requester :: id :: rest).IsChain c.Imports :=
      .cons_cons himports (hsteps.imp fun _ _ => hw.imports_of_edge)
    refine .circularImport ⟨?_, ?_, by simp, hchain⟩
    · exact hchain.induction (c.Needs table) _ (fun _ _ h hn => hn.imports h) fun _ => hneeds
    · rw [List.getLast?_cons_cons, hlast]
      rfl

/-! ## The invariant -/

/-- What was reported after every step of a walk over a catalog. -/
structure Reports (c : Catalog) (table : ImportTable) (w : Walk Catalog) : Prop extends
    w.Follows c table where
  genuine : ∀ i ∈ w.issues, ∃ e, i = .resolve e ∧ c.Genuine table e
  missing : ∀ id, .resolve (.schemaNotFound id) ∈ w.issues → id ∈ w.visited
  once : ∀ id ∈ w.visited, c.get? id = none → w.issues.count (.resolve (.schemaNotFound id)) = 1
  held : ∀ id ∈ w.visited, ∀ schema, c.get? id = some schema → (id, schema) ∈ w.found

namespace Reports

/-- Another failure is reported, which is not about a schema that is missing. -/
theorem refused (hw : w.Reports c table) {e : ResolveError} (hfollows : (w.fail e).Follows c table)
    (he : c.Genuine table e) (hne : ∀ id, e ≠ .schemaNotFound id) : (w.fail e).Reports c table := by
  refine ⟨hfollows, ?_, ?_, ?_, hw.held⟩
  · intro i hi
    rcases List.mem_append.mp hi with hi | hi
    · exact hw.genuine i hi
    · exact ⟨e, List.mem_singleton.mp hi, he⟩
  · intro id hi
    rcases List.mem_append.mp hi with hi | hi
    · exact hw.missing id hi
    · exact absurd (Issue.resolve.inj (List.mem_singleton.mp hi)).symm (hne id)
  · intro id hv hget
    have hother : Issue.resolve (.schemaNotFound id) ∉ [Issue.resolve e] := fun hi =>
      hne id (Issue.resolve.inj (List.mem_singleton.mp hi)).symm
    rw [fail, List.count_append, hw.once id hv hget, List.count_eq_zero.mpr hother]

/-- A schema is found. -/
theorem found {g : ImportGraph} {schema : Schema} (hw : w.Reports c table) (hv : id ∉ w.visited)
    (hget : c.get? id = some schema)
    (hfollows : Follows c table { w with
      graph := g, visited := id :: w.visited, found := insertFound id schema w.found }) :
    Reports c table { w with
      graph := g, visited := id :: w.visited, found := insertFound id schema w.found } := by
  have hperm := hw.invariant.listed.insertFound_perm hv schema
  refine ⟨hfollows, hw.genuine, fun i hi => List.mem_cons_of_mem _ (hw.missing i hi), ?_, ?_⟩
  · intro i hi hnone
    rcases List.mem_cons.mp hi with rfl | hi
    · rw [hget] at hnone
      cases hnone
    · exact hw.once i hi hnone
  · intro i hi other hother
    rcases List.mem_cons.mp hi with rfl | hi
    · rw [hget] at hother
      cases hother
      exact hperm.mem_iff.mpr List.mem_cons_self
    · exact hperm.mem_iff.mpr (List.mem_cons_of_mem _ (hw.held i hi other hother))

/-- A schema is missing. That was not reported before, since the schema was not visited. -/
theorem absent {g : ImportGraph} (hw : w.Reports c table) (hv : id ∉ w.visited)
    (hn : c.Needs table id) (hget : c.get? id = none)
    (hfollows : Follows c table
      (fail { w with graph := g, visited := id :: w.visited } (.schemaNotFound id))) :
    Reports c table (fail { w with graph := g, visited := id :: w.visited } (.schemaNotFound id)) := by
  refine ⟨hfollows, ?_, ?_, ?_, ?_⟩
  · intro i hi
    rcases List.mem_append.mp hi with hi | hi
    · exact hw.genuine i hi
    · exact ⟨_, List.mem_singleton.mp hi, .schemaNotFound hn hget⟩
  · intro i hi
    rcases List.mem_append.mp hi with hi | hi
    · exact List.mem_cons_of_mem _ (hw.missing i hi)
    · cases List.mem_singleton.mp hi
      exact List.mem_cons_self
  · intro i hi hnone
    -- Only what was visited is reported as missing, so `id` was not, and the others still are once.
    rw [fail, List.count_append]
    rcases List.mem_cons.mp hi with rfl | hi
    · rw [List.count_eq_zero.mpr fun hi => hv (hw.missing i hi), List.count_singleton_self]
    · have hother : i ≠ id := fun heq => hv (heq ▸ hi)
      rw [hw.once i hi hnone, List.count_eq_zero.mpr (by simpa using hother)]
  · intro i hi other hother
    rcases List.mem_cons.mp hi with rfl | hi
    · rw [hget] at hother
      cases hother
    · exact hw.held i hi other hother

/-- One step. -/
theorem step (hw : w.Reports c table)
    (h : Step Catalog.directory (table.entries.map Prod.snd) w w') : w'.Reports c table := by
  have hfollows := hw.toFollows.step h
  rcases h with ⟨hr, he⟩ | ⟨hr, he, hv⟩ | ⟨hr, he, hv⟩
  · refine hw.refused hfollows (hw.genuine_of_error hr he) ?_
    rcases enter_eq_error he with ⟨_, -, -, rfl⟩ | ⟨_, _, -, -, rfl⟩ <;> exact nofun
  · obtain ⟨g, rfl, -⟩ := hw.invariant.entered hr he
    exact ⟨hfollows, hw.genuine, hw.missing, hw.once, hw.held⟩
  · rename_i id _
    obtain ⟨g, rfl, -⟩ := hw.invariant.entered hr he
    have hvalid : w.directory = c := hw.invariant.valid
    rcases look_catalog { w with graph := g } id with ⟨schema, hget, hlook⟩ | ⟨hget, hlook⟩ <;>
      rw [hlook] at hfollows ⊢ <;> rw [hvalid] at hget
    · exact hw.found hv hget hfollows
    · exact hw.absent hv (hw.requires hr).needs hget hfollows

theorem walk (c : Catalog) (table : ImportTable) :
    (Catalog.directory.walk table c).Reports c table := by
  refine (walk_steps Catalog.directory table c).keeps (fun w w' h hw => hw.step h) ?_
  exact ⟨⟨invariant_start rfl, by simp [start], fun _ => rfl, fun _ => rfl⟩, by simp [start],
    by simp [start], by simp [start], by simp [start]⟩

end Reports

/-! ## Nothing is missed -/

/-- What holds in the end besides: all that was required is answered. -/
structure Finished (c : Catalog) (table : ImportTable) (w : Walk Catalog) : Prop extends
    w.Reports c table where
  settled : ∀ e ∈ w.found, w.Settled e
  answered : ∀ e ∈ table.entries, w.Answered none e.2

namespace Finished

theorem walk (c : Catalog) (table : ImportTable) :
    (Catalog.directory.walk table c).Finished c table := by
  obtain ⟨hsettled, hanswered⟩ := walk_settled c.lawful rfl
  exact ⟨.walk c table, hsettled, hanswered⟩

/-- What the table lists and what a schema that was visited imports is answered. -/
theorem answers (hw : w.Finished c table) (hr : c.Requires table requiredBy id)
    (hv : ∀ requester, requiredBy = some requester → requester ∈ w.visited) :
    w.Answered requiredBy id := by
  cases requiredBy with
  | none =>
    obtain ⟨e, he, rfl⟩ := List.mem_map.mp hr
    exact hw.answered e he
  | some requester =>
    obtain ⟨-, schema, hget, hi⟩ := hr
    exact hw.settled _ (hw.held requester (hv requester rfl) schema hget) id hi

/-- It is visited, unless another version of it is in the way. -/
theorem visited_or_conflict (hw : w.Finished c table) (hr : c.Requires table requiredBy id)
    (hv : ∀ requester, requiredBy = some requester → requester ∈ w.visited) :
    id ∈ w.visited ∨
      ∃ existing, .resolve (.versionConflict existing id requiredBy) ∈ w.issues := by
  cases hw.answers hr hv with
  | met hm => exact .inl hm.1
  | conflict _ hi => exact .inr ⟨_, hi⟩
  | circular _ _ hvisited _ => exact .inl hvisited

section Named

variable (hw : w.Finished c table)
  (hnamed : ∀ a b, c.Needs table a → c.Needs table b → a.name = b.name → a = b)
include hw hnamed

theorem not_conflict {existing : SchemaIdentifier} :
    .resolve (.versionConflict existing id requiredBy) ∉ w.issues := by
  intro hi
  obtain ⟨e, he, hgenuine⟩ := hw.genuine _ hi
  cases he
  cases hgenuine with
  | versionConflict hr hn hname hne => exact hne (hnamed _ _ hn hr.needs hname)

/-- **All that is needed is visited**, although what is refused is not followed. -/
theorem mem_visited : id ∈ w.visited ↔ c.Needs table id := by
  refine ⟨hw.needed id, ?_⟩
  have hvisited : ∀ {requiredBy id}, c.Requires table requiredBy id →
      (∀ requester, requiredBy = some requester → requester ∈ w.visited) → id ∈ w.visited :=
    fun hr hv => (hw.visited_or_conflict hr hv).resolve_right fun ⟨_, hi⟩ =>
      hw.not_conflict hnamed hi
  rintro ⟨e, he, hpath⟩
  refine reflTransGen_mem (p := (· ∈ w.visited)) (fun a b ha hab => ?_) ?_ hpath
  · have hr : c.Requires table (some a) b := ⟨hw.needed a ha, hab⟩
    exact hvisited hr fun _ h => Option.some.inj h ▸ ha
  · have hr : c.Requires table none e.2 := List.mem_map_of_mem he
    exact hvisited hr nofun

/-- An import of what is needed is recorded, unless a circle is reported. -/
theorem edge_or_circular {a b : SchemaIdentifier} (ha : c.Needs table a) (hab : c.Imports a b) :
    w.graph.Edge a b ∨ ∃ path, .resolve (.circularImport path) ∈ w.issues := by
  have hv := (hw.mem_visited hnamed).mpr ha
  have hr : c.Requires table (some a) b := ⟨ha, hab⟩
  cases hw.answers hr fun _ h => Option.some.inj h ▸ hv with
  | met hm => exact .inl (hm.2 a rfl)
  | conflict _ hi => exact (hw.not_conflict hnamed hi).elim
  | circular _ _ _ hi => exact .inr ⟨_, hi⟩

/-- **A circle is reported** just if there is one. -/
theorem circular_iff : (∃ path, .resolve (.circularImport path) ∈ w.issues) ↔
    ∃ id, c.Needs table id ∧ TransGen c.Imports id id := by
  constructor
  · rintro ⟨path, hi⟩
    obtain ⟨e, he, hgenuine⟩ := hw.genuine _ hi
    cases he
    cases hgenuine with
    | circularImport hcircle => exact hcircle.exists_cycle
  · rintro ⟨id, hneeds, hcycle⟩
    by_contra hno
    -- Then every import of what is needed is in the graph, which has no cycle.
    have hedge : ∀ a b, c.Needs table a → c.Imports a b → w.graph.Edge a b :=
      fun a b ha hab => (hw.edge_or_circular hnamed ha hab).resolve_right hno
    exact hw.invariant.graph.acyclic id (Catalog.transGen_edge hedge hneeds hcycle).2

end Named

end Finished

end Walk

namespace Catalog

open Walk

/-- Besides what the walk reports, a resolution reports no more than a type that is declared twice. -/
theorem issues_resolve (c : Catalog) (table : ImportTable) :
    ∃ ds : List Defect, (∀ d ∈ ds, c.Genuine table (.internal d)) ∧
      (directory.resolve table c).issues =
        (directory.walk table c).issues ++ ds.map fun d => .resolve (.internal d) := by
  have hw := Follows.walk c table
  have hnames := hw.invariant.found_names c.lawful
  unfold Directory.resolve
  dsimp only
  split
  · exact ⟨[], nofun, (List.append_nil _).symm⟩
  · split
    · exact ⟨[], nofun, (List.append_nil _).symm⟩
    · rename_i d hset
      obtain ⟨schema, hs, name, rfl, htwice⟩ := ResolvedSet.ofSchemas?_eq_error hnames hset
      obtain ⟨e, he, rfl⟩ := List.mem_map.mp hs
      have hget := hw.get?_of_found he
      refine ⟨[_], List.forall_mem_singleton.mpr ?_, rfl⟩
      rw [identifier_of_get? hget]
      exact .declaredTwice (hw.needed _ (hw.invariant.listed e he)) hget htwice

/-- **What a resolution over a catalog reports.** Every issue is a failure, and what it says is so. The
catalog is asked for each schema at most once, and only for what the table needs. Each schema that it is
asked for and lacks is reported once, and what the table lists or such a schema imports is asked for
unless another version of it is reported to be in the way. So if no two schemas that the table needs share
a name, the catalog is asked for all of them, each that it lacks is reported once, and a circle is
reported just if there is one. -/
theorem resolve_reports (c : Catalog) (table : ImportTable) :
    let issues := (directory.resolve table c).issues
    let recorded := directory.recording.resolve table (c, [])
    let asked := recorded.state.2
    (∀ i ∈ issues, ∃ e, i = .resolve e ∧ c.Genuine table e) ∧
    directory.resolve table c = ⟨recorded.state.1, recorded.value, recorded.issues⟩ ∧
    asked.Nodup ∧ (∀ id ∈ asked, c.Needs table id) ∧
    (∀ id ∈ asked, c.get? id = none → issues.count (.resolve (.schemaNotFound id)) = 1) ∧
    (∀ requiredBy id, c.Requires table requiredBy id →
      (∀ requester, requiredBy = some requester → requester ∈ asked) →
      id ∈ asked ∨ ∃ existing, .resolve (.versionConflict existing id requiredBy) ∈ issues) ∧
    ((∀ a b, c.Needs table a → c.Needs table b → a.name = b.name → a = b) →
      (∀ id, c.Needs table id → id ∈ asked) ∧
      (∀ id, c.Needs table id → c.get? id = none →
        issues.count (.resolve (.schemaNotFound id)) = 1) ∧
      ((∃ path, .resolve (.circularImport path) ∈ issues) ↔
        ∃ id, c.Needs table id ∧ TransGen c.Imports id id)) := by
  intro issues recorded asked
  have hw := Finished.walk c table
  obtain ⟨hsame, hrecord, hnodup⟩ := directory.resolve_recording table c
  have hasked : asked = (directory.walk table c).visited := hrecord
  obtain ⟨ds, hds, happend⟩ := issues_resolve c table
  have hissues : issues = (directory.walk table c).issues ++ ds.map fun d => .resolve (.internal d) :=
    happend
  generalize directory.walk table c = w at *
  -- Making the set adds defects at most, and no issue that is counted or looked for here.
  have hother : ∀ e : ResolveError, (∀ d, e ≠ .internal d) →
      Issue.resolve e ∉ ds.map fun d => .resolve (.internal d) := by
    intro e hne hi
    obtain ⟨d, -, he⟩ := List.mem_map.mp hi
    exact hne d (Issue.resolve.inj he).symm
  have honce : ∀ id ∈ asked, c.get? id = none →
      issues.count (.resolve (.schemaNotFound id)) = 1 := by
    intro id hid hget
    rw [hissues, List.count_append, hw.once id (hasked ▸ hid) hget,
      List.count_eq_zero.mpr (hother (.schemaNotFound id) fun _ => nofun)]
  refine ⟨fun i hi => ?_, hsame, hnodup, hasked ▸ hw.needed, honce, fun requiredBy id hr hv => ?_,
    fun hnamed => ?_⟩
  · rcases List.mem_append.mp (hissues ▸ hi) with hi | hi
    · exact hw.genuine i hi
    · obtain ⟨d, hd, rfl⟩ := List.mem_map.mp hi
      exact ⟨_, rfl, hds d hd⟩
  · rw [hasked] at hv ⊢
    refine (hw.visited_or_conflict hr hv).imp_right fun ⟨existing, hi⟩ => ⟨existing, ?_⟩
    exact hissues ▸ List.mem_append_left _ hi
  · have hall : ∀ id, c.Needs table id → id ∈ asked := fun id hneeds =>
      hasked ▸ (hw.mem_visited hnamed).mpr hneeds
    refine ⟨hall, fun id hneeds => honce id (hall id hneeds), ?_⟩
    rw [← hw.circular_iff hnamed]
    refine exists_congr fun path => ?_
    rw [hissues, List.mem_append, or_iff_left (hother (.circularImport path) fun _ => nofun)]

end Catalog

namespace Sample

/-- A schema that no catalog has. -/
def missing : SchemaIdentifier := ⟨⟨"Missing", by decide, by decide⟩, ⟨1, 0⟩⟩

/-- Two schemas that import each other. One of them imports a schema that is missing, too. -/
def circular : Catalog := ⟨[⟨core, [dublin], [], []⟩, ⟨dublin, [core, missing], [], []⟩]⟩

def coreTable : ImportTable := ⟨[(core.name, core)]⟩

theorem imports_core : circular.Imports core dublin := ⟨_, rfl, List.mem_cons_self⟩

theorem imports_dublin {id : SchemaIdentifier} (h : id ∈ [core, missing]) :
    circular.Imports dublin id := ⟨_, rfl, h⟩

theorem needs_circular {id : SchemaIdentifier} (h : circular.Needs coreTable id) :
    id ∈ [core, dublin, missing] := by
  obtain ⟨e, he, hpath⟩ := h
  obtain rfl := List.mem_singleton.mp he
  refine reflTransGen_mem (p := (· ∈ [core, dublin, missing])) ?_ List.mem_cons_self hpath
  rintro a b - ⟨schema, hget, hb⟩
  have himports : ∀ schema ∈ circular.schemas, ∀ i ∈ schema.imports, i ∈ [core, dublin, missing] := by
    decide
  exact himports schema (List.mem_of_find?_eq_some hget) b hb

end Sample

open Sample in
/-- A circle and a schema that is missing are both reported. -/
theorem Catalog.resolve_reports_circular :
    let issues := (directory.resolve coreTable circular).issues
    issues.count (.resolve (.schemaNotFound missing)) = 1 ∧
      ∃ path, .resolve (.circularImport path) ∈ issues := by
  intro issues
  have hcore : circular.Needs coreTable core := ⟨_, List.mem_cons_self, .refl⟩
  have hmissing : circular.Needs coreTable missing :=
    (hcore.imports imports_core).imports (imports_dublin (by simp))
  obtain ⟨-, -, -, -, -, -, hnamed⟩ := resolve_reports circular coreTable
  obtain ⟨-, honce, hcircular⟩ := hnamed fun a b ha hb hname => by
    have hname' : ∀ a ∈ [core, dublin, missing], ∀ b ∈ [core, dublin, missing],
        a.name = b.name → a = b := by decide
    exact hname' a (needs_circular ha) b (needs_circular hb) hname
  refine ⟨honce missing hmissing rfl, hcircular.mpr ⟨core, hcore, ?_⟩⟩
  exact .tail (.single imports_core) (imports_dublin (by simp))

example : (Catalog.directory.resolve Sample.coreTable Sample.circular).issues =
    [.resolve (.circularImport [Sample.dublin, Sample.core, Sample.dublin]),
      .resolve (.schemaNotFound Sample.missing)] := by
  decide +kernel

end MetaSchema
