import MetaSchema.Proofs.Lists
import MetaSchema.Proofs.Name.Order
import MetaSchema.Resolution.ResolvedSet
import Mathlib.Data.List.Duplicate
import Mathlib.Data.List.Nodup

/-!
# What is in a resolved set

* `Schema.bases`: the types of a schema by qualified name, with their bases.
* `ofSchemas?_eq_ok`: schemas make a set exactly if their names differ and each of them declares its
  types once. The set has these schemas in order, and their types.
* `ofSchemas?_eq_error`: otherwise, if the names differ, it is said which type a schema declares twice.
* `base?_ofSchemas?`: the set knows the base of each type of its schemas, and of no other type.
* `ResolvedSet.Indexes`: what a set tells of schemas.
* `ofSchemas?_exact`: **a set is made** just of schemas that differ in name and declare their types once,
  and it tells what is in them.
-/

namespace MetaSchema

def Schema.bases (s : Schema) : List (QualifiedTypeName × TypeReference) :=
  s.types.map fun d => (⟨s.identifier.name, d.name⟩, d.base)

theorem Schema.mem_bases {s : Schema} {q : QualifiedTypeName} {b : TypeReference} :
    (q, b) ∈ s.bases ↔ s.identifier.name = q.schema ∧ ⟨q.name, b⟩ ∈ s.types := by
  constructor
  · intro h
    obtain ⟨d, hd, heq⟩ := List.mem_map.mp h
    cases heq
    exact ⟨rfl, hd⟩
  · rintro ⟨hname, hd⟩
    obtain ⟨schema, name⟩ := q
    cases hname
    exact List.mem_map.mpr ⟨_, hd, rfl⟩

namespace ResolvedSet

variable {r r' : ResolvedSet}

/-! ## Adding types -/

theorem base?_eq_none {q : QualifiedTypeName} : r.base? q = none ↔ ∀ e ∈ r.bases, e.1 ≠ q := by
  simp only [base?, List.lookup_eq_none_iff, bne_iff_ne]
  exact forall₂_congr fun _ _ => ne_comm

theorem addType?_eq_ok {schema : SchemaName} {d : TypeDeclaration} :
    addType? schema r d = .ok r' ↔ r.base? ⟨schema, d.name⟩ = none ∧
      r' = { r with bases := r.bases ++ [(⟨schema, d.name⟩, d.base)] } := by
  unfold addType?
  cases h : r.base? ⟨schema, d.name⟩ with
  | none => simpa [h] using eq_comm
  | some b => simp [h]

/-- Types can be added if their names differ from each other and from those that are there. -/
theorem foldlM_addType?_eq_ok {schema : SchemaName} {ds : List TypeDeclaration} :
    ds.foldlM (addType? schema) r = .ok r' ↔
      (ds.map TypeDeclaration.name).Nodup ∧ (∀ d ∈ ds, r.base? ⟨schema, d.name⟩ = none) ∧
      r' = { r with bases := r.bases ++ ds.map fun d => (⟨schema, d.name⟩, d.base) } := by
  induction ds generalizing r with
  | nil =>
    rw [List.foldlM_nil, pure_eq_ok]
    simp
  | cons d ds ih =>
    -- Once `d` was added, a type is new if it was new before and has another name.
    have hnone : ∀ n, ({ r with bases := r.bases ++ [(⟨schema, d.name⟩, d.base)] } :
        ResolvedSet).base? ⟨schema, n⟩ = none ↔ r.base? ⟨schema, n⟩ = none ∧ d.name ≠ n := by
      intro n
      simp [base?_eq_none, or_imp, forall_and]
    rw [List.foldlM_cons, bind_eq_ok]
    simp only [addType?_eq_ok, List.map_cons, List.nodup_cons, List.forall_mem_cons]
    constructor
    · rintro ⟨_, ⟨hd, rfl⟩, h⟩
      obtain ⟨hnodup, hnew, rfl⟩ := ih.mp h
      refine ⟨⟨fun hmem => ?_, hnodup⟩, ⟨hd, fun e he => ((hnone _).mp (hnew e he)).1⟩, by simp⟩
      obtain ⟨e, he, hname⟩ := List.mem_map.mp hmem
      exact ((hnone _).mp (hnew e he)).2 hname.symm
    · rintro ⟨⟨hmem, hnodup⟩, ⟨hd, hnew⟩, rfl⟩
      refine ⟨_, ⟨hd, rfl⟩, ih.mpr ⟨hnodup, fun e he => (hnone _).mpr ⟨hnew e he, ?_⟩, by simp⟩⟩
      intro hname
      exact hmem (List.mem_map.mpr ⟨e, he, hname.symm⟩)

/-! ## Adding schemas -/

/-- Every type is one of a schema that is there. -/
def Indexed (r : ResolvedSet) : Prop :=
  ∀ e ∈ r.bases, ∃ s ∈ r.schemas, s.identifier.name = e.1.schema

/-- The set with another schema and its types. -/
def extend (r : ResolvedSet) (s : Schema) : ResolvedSet :=
  ⟨r.graph, r.schemas ++ [s], r.bases ++ s.bases⟩

theorem Indexed.extend (hr : r.Indexed) (s : Schema) : (r.extend s).Indexed := by
  intro e he
  rcases List.mem_append.mp he with he | he
  · obtain ⟨t, ht, hname⟩ := hr e he
    exact ⟨t, List.mem_append_left _ ht, hname⟩
  · exact ⟨s, by simp [ResolvedSet.extend], (Schema.mem_bases.mp he).1⟩

theorem schemaNamed?_eq_none {name : SchemaName} :
    r.schemaNamed? name = none ↔ ∀ s ∈ r.schemas, s.identifier.name ≠ name := by
  simp [schemaNamed?]

/-- A schema can be added if its name is new and it declares no type twice. -/
theorem addSchema?_eq_ok (hr : r.Indexed) {s : Schema} :
    r.addSchema? s = .ok r' ↔ (∀ t ∈ r.schemas, t.identifier.name ≠ s.identifier.name) ∧
      (s.types.map TypeDeclaration.name).Nodup ∧ r' = r.extend s := by
  unfold addSchema?
  simp only [bind_eq_ok, foldlM_addType?_eq_ok]
  rw [← schemaNamed?_eq_none]
  constructor
  · rintro ⟨_, ⟨hnodup, -, rfl⟩, h⟩
    split at h
    · cases h
    · rename_i hnone
      cases h
      exact ⟨by simpa [schemaNamed?] using hnone, hnodup, rfl⟩
  · rintro ⟨hnone, hnodup, rfl⟩
    refine ⟨_, ⟨hnodup, fun d _ => base?_eq_none.mpr ?_, rfl⟩, ?_⟩
    · -- All types that are there are of schemas that are there, and no such schema has this name.
      intro e he heq
      obtain ⟨t, ht, hname⟩ := hr e he
      rw [heq] at hname
      exact schemaNamed?_eq_none.mp hnone t ht hname
    · have hnone' : ∀ bases, (⟨r.graph, r.schemas, bases⟩ : ResolvedSet).schemaNamed?
          s.identifier.name = none := fun _ => hnone
      simp only [hnone']
      rfl

theorem foldlM_addSchema?_eq_ok (hr : r.Indexed) {ss : List Schema} :
    ss.foldlM addSchema? r = .ok r' ↔ (ss.map (·.identifier.name)).Nodup ∧
      (∀ s ∈ ss, ∀ t ∈ r.schemas, t.identifier.name ≠ s.identifier.name) ∧
      (∀ s ∈ ss, (s.types.map TypeDeclaration.name).Nodup) ∧
      r' = ⟨r.graph, r.schemas ++ ss, r.bases ++ ss.flatMap Schema.bases⟩ := by
  induction ss generalizing r with
  | nil =>
    rw [List.foldlM_nil, pure_eq_ok]
    simp
  | cons s ss ih =>
    rw [List.foldlM_cons, bind_eq_ok]
    simp only [addSchema?_eq_ok hr, List.map_cons, List.nodup_cons, List.forall_mem_cons]
    constructor
    · rintro ⟨_, ⟨hs, htypes, rfl⟩, h⟩
      obtain ⟨hnodup, hnew, hall, rfl⟩ := (ih (hr.extend s)).mp h
      refine ⟨⟨fun hmem => ?_, hnodup⟩, ⟨hs, fun t ht u hu => ?_⟩, ⟨htypes, hall⟩, ?_⟩
      · obtain ⟨t, ht, hname⟩ := List.mem_map.mp hmem
        exact hnew t ht s (by simp [extend]) hname.symm
      · exact hnew t ht u (List.mem_append_left _ hu)
      · simp [extend]
    · rintro ⟨⟨hmem, hnodup⟩, ⟨hs, hnew⟩, ⟨htypes, hall⟩, rfl⟩
      refine ⟨_, ⟨hs, htypes, rfl⟩, (ih (hr.extend s)).mpr ⟨hnodup, fun t ht u hu => ?_, hall, ?_⟩⟩
      · rcases List.mem_append.mp hu with hu | hu
        · exact hnew t ht u hu
        · obtain rfl := List.mem_singleton.mp hu
          exact fun hname => hmem (List.mem_map.mpr ⟨t, ht, hname.symm⟩)
      · simp [extend]

/-- **The schemas of a set.** Schemas make a set exactly if no two have the same name and none
declares a type twice. -/
theorem ofSchemas?_eq_ok {g : ImportGraph} {ss : List Schema} {set : ResolvedSet} :
    ofSchemas? g ss = .ok set ↔ (ss.map (·.identifier.name)).Nodup ∧
      (∀ s ∈ ss, (s.types.map TypeDeclaration.name).Nodup) ∧
      set = ⟨g, ss, ss.flatMap Schema.bases⟩ := by
  have hempty : (empty g).Indexed := fun e he => by cases he
  unfold ofSchemas?
  rw [foldlM_addSchema?_eq_ok hempty]
  simp [empty]

/-! ## What is there twice -/

/-- The defect of a type that is there twice. -/
def twice (schema : SchemaName) (name : TypeName) : Defect :=
  .duplicateName .type (toString (⟨schema, name⟩ : QualifiedTypeName))

/-- A type that cannot be added is there already, or it is declared before. -/
theorem foldlM_addType?_eq_error {schema : SchemaName} {ds : List TypeDeclaration} {e : Defect}
    (h : ds.foldlM (addType? schema) r = .error e) :
    ∃ d ∈ ds, e = twice schema d.name ∧
      (⟨schema, d.name⟩ ∈ r.bases.map Prod.fst ∨
        (ds.map TypeDeclaration.name).Duplicate d.name) := by
  induction ds generalizing r with
  | nil => cases h
  | cons d ds ih =>
    rw [List.foldlM_cons, bind_eq_error] at h
    rcases h with h | ⟨r', hr', h⟩
    · unfold addType? at h
      dsimp only at h
      split at h
      · rename_i hsome
        cases h
        obtain ⟨b, hb⟩ := Option.isSome_iff_exists.mp hsome
        exact ⟨d, by simp, rfl, .inl (List.mem_map.mpr ⟨_, mem_of_lookup hb, rfl⟩)⟩
      · cases h
    · obtain ⟨-, rfl⟩ := addType?_eq_ok.mp hr'
      obtain ⟨d', hd', rfl, hname⟩ := ih h
      refine ⟨d', by simp [hd'], rfl, ?_⟩
      rcases hname with hbase | hdup
      · -- It was there before, or it is `d`.
        rw [List.map_append, List.mem_append, List.map_singleton, List.mem_singleton] at hbase
        refine hbase.imp_right fun heq => ?_
        have hname : d'.name = d.name := congrArg QualifiedName.name heq
        have hmem : d'.name ∈ ds.map TypeDeclaration.name := List.mem_map_of_mem hd'
        rw [List.map_cons, ← hname]
        exact .cons_mem hmem
      · exact .inr (hdup.duplicate_cons _)

/-- A schema of a new name can be added unless it declares a type twice. -/
theorem addSchema?_eq_error (hr : r.Indexed) {s : Schema}
    (hnew : ∀ t ∈ r.schemas, t.identifier.name ≠ s.identifier.name) {e : Defect}
    (h : r.addSchema? s = .error e) :
    ∃ name, e = twice s.identifier.name name ∧
      (s.types.map TypeDeclaration.name).Duplicate name := by
  unfold addSchema? at h
  rw [bind_eq_error] at h
  rcases h with h | ⟨r', hr', h⟩
  · obtain ⟨d, -, rfl, hbase | hdup⟩ := foldlM_addType?_eq_error h
    · obtain ⟨b, hb, hname⟩ := List.mem_map.mp hbase
      obtain ⟨t, ht, hschema⟩ := hr b hb
      exact (hnew t ht (by rw [hschema, hname])).elim
    · exact ⟨d.name, rfl, hdup⟩
  · obtain ⟨-, -, rfl⟩ := foldlM_addType?_eq_ok.mp hr'
    have hnone : ∀ bases, (⟨r.graph, r.schemas, bases⟩ : ResolvedSet).schemaNamed?
        s.identifier.name = none := fun _ => schemaNamed?_eq_none.mpr hnew
    simp only [hnone] at h
    cases h

theorem foldlM_addSchema?_eq_error (hr : r.Indexed) {ss : List Schema} {e : Defect}
    (hnames : (ss.map (·.identifier.name)).Nodup)
    (hnew : ∀ s ∈ ss, ∀ t ∈ r.schemas, t.identifier.name ≠ s.identifier.name)
    (h : ss.foldlM addSchema? r = .error e) :
    ∃ s ∈ ss, ∃ name, e = twice s.identifier.name name ∧
      (s.types.map TypeDeclaration.name).Duplicate name := by
  induction ss generalizing r with
  | nil => cases h
  | cons s ss ih =>
    rw [List.map_cons, List.nodup_cons] at hnames
    rw [List.foldlM_cons, bind_eq_error] at h
    rcases h with h | ⟨r', hr', h⟩
    · exact ⟨s, by simp, addSchema?_eq_error hr (hnew s (by simp)) h⟩
    · obtain ⟨-, -, rfl⟩ := (addSchema?_eq_ok hr).mp hr'
      -- No two names are the same, so a schema can fail only by its own types.
      have hnew' : ∀ t ∈ ss, ∀ u ∈ (r.extend s).schemas, u.identifier.name ≠ t.identifier.name := by
        intro t ht u hu
        rcases List.mem_append.mp hu with hu | hu
        · exact hnew t (by simp [ht]) u hu
        · obtain rfl := List.mem_singleton.mp hu
          exact fun hname => hnames.1 (List.mem_map.mpr ⟨t, ht, hname.symm⟩)
      obtain ⟨t, ht, htwice⟩ := ih (hr.extend s) hnames.2 hnew' h
      exact ⟨t, by simp [ht], htwice⟩

/-- **Schemas of different names** make no set only if one of them declares a type twice. -/
theorem ofSchemas?_eq_error {g : ImportGraph} {ss : List Schema} {e : Defect}
    (hnames : (ss.map (·.identifier.name)).Nodup) (h : ofSchemas? g ss = .error e) :
    ∃ s ∈ ss, ∃ name, e = twice s.identifier.name name ∧
      (s.types.map TypeDeclaration.name).Duplicate name :=
  foldlM_addSchema?_eq_error (r := empty g) (fun _ he => by cases he) hnames
    (fun _ _ _ ht => by cases ht) h

/-! ## Look-up -/

/-- The types of different schemas have different qualified names. -/
theorem nodup_bases {ss : List Schema} (hnames : (ss.map (·.identifier.name)).Nodup)
    (htypes : ∀ s ∈ ss, (s.types.map TypeDeclaration.name).Nodup) :
    ((ss.flatMap Schema.bases).map Prod.fst).Nodup := by
  rw [List.map_flatMap, List.nodup_flatMap]
  constructor
  · intro s hs
    have hmap : s.bases.map Prod.fst =
        (s.types.map TypeDeclaration.name).map (⟨s.identifier.name, ·⟩) := by
      simp [Schema.bases]
    rw [hmap]
    exact (htypes s hs).map fun _ _ h => by cases h; rfl
  · refine (List.pairwise_map.mp hnames).imp fun {s t} hne => ?_
    rintro q hs ht
    obtain ⟨⟨_, _⟩, he, rfl⟩ := List.mem_map.mp hs
    obtain ⟨⟨_, _⟩, he', rfl⟩ := List.mem_map.mp ht
    exact hne ((Schema.mem_bases.mp he).1.trans (Schema.mem_bases.mp he').1.symm)

/-- The base of a type is the one that a schema of the set declares. -/
theorem base?_ofSchemas? {g : ImportGraph} {ss : List Schema} {set : ResolvedSet}
    (h : ofSchemas? g ss = .ok set) {q : QualifiedTypeName} {b : TypeReference} :
    set.base? q = some b ↔ ∃ s ∈ set.schemas, s.identifier.name = q.schema ∧ ⟨q.name, b⟩ ∈ s.types := by
  obtain ⟨hnames, htypes, rfl⟩ := ofSchemas?_eq_ok.mp h
  constructor
  · intro hb
    obtain ⟨s, hs, he⟩ := List.mem_flatMap.mp (mem_of_lookup hb)
    exact ⟨s, hs, Schema.mem_bases.mp he⟩
  · rintro ⟨s, hs, hd⟩
    exact lookup_of_nodup (nodup_bases hnames htypes)
      (List.mem_flatMap.mpr ⟨s, hs, Schema.mem_bases.mpr hd⟩)

/-- Each schema of a set is found under its name. -/
theorem schemaNamed?_ofSchemas? {g : ImportGraph} {ss : List Schema} {set : ResolvedSet}
    (h : ofSchemas? g ss = .ok set) {s : Schema} (hs : s ∈ set.schemas) :
    set.schemaNamed? s.identifier.name = some s := by
  obtain ⟨hnames, -, rfl⟩ := ofSchemas?_eq_ok.mp h
  exact find?_of_nodup hnames hs

/-! ## All that a set tells -/

/-- A set tells of these schemas, and of nothing else: what their types are based on, and which schema
has an identifier or a name. It lists each of them once, in the order of their names. -/
structure Indexes (r : ResolvedSet) (ss : List Schema) : Prop where
  base?_eq_some : ∀ q b,
    r.base? q = some b ↔ ∃ s ∈ ss, s.identifier.name = q.schema ∧ ⟨q.name, b⟩ ∈ s.types
  schema?_eq_some : ∀ id s, r.schema? id = some s ↔ s ∈ ss ∧ s.identifier = id
  schemaNamed?_eq_some : ∀ name s, r.schemaNamed? name = some s ↔ s ∈ ss ∧ s.identifier.name = name
  sortedSchemas_perm : r.sortedSchemas.Perm ss
  sortedSchemas_nodup : (r.sortedSchemas.map (·.identifier.name)).Nodup
  sortedSchemas_sorted : r.sortedSchemas.Pairwise fun s t =>
    (compare s.identifier.name t.identifier.name).isLE = true

theorem schemaNamed?_eq_some (hnames : (r.schemas.map (·.identifier.name)).Nodup) {name : SchemaName}
    {s : Schema} :
    r.schemaNamed? name = some s ↔ s ∈ r.schemas ∧ s.identifier.name = name :=
  find?_eq_some_of_nodup hnames

/-- The schema of an identifier is the one of its name, if that has its version too. -/
theorem schema?_eq_some (hnames : (r.schemas.map (·.identifier.name)).Nodup) {id : SchemaIdentifier}
    {s : Schema} : r.schema? id = some s ↔ s ∈ r.schemas ∧ s.identifier = id := by
  rw [schema?, Option.filter_eq_some_iff, schemaNamed?_eq_some hnames, decide_eq_true_eq]
  constructor
  · rintro ⟨⟨hs, -⟩, hid⟩
    exact ⟨hs, hid⟩
  · rintro ⟨hs, rfl⟩
    exact ⟨⟨hs, rfl⟩, rfl⟩

theorem sortedSchemas_sorted (r : ResolvedSet) : r.sortedSchemas.Pairwise fun s t =>
    (compare s.identifier.name t.identifier.name).isLE = true := by
  have : Std.TransCmp fun s t : Schema => compare s.identifier.name t.identifier.name :=
    inferInstanceAs (Std.TransCmp (compareOn fun s : Schema => s.identifier.name))
  exact pairwise_mergeSort_isLE r.schemas

/-- **Making a set of schemas.** Schemas make a set just if no two of them have the same name, at whatever
versions, and none of them declares a type twice. The set then tells of them and of nothing else. -/
theorem ofSchemas?_exact (g : ImportGraph) (ss : List Schema) :
    ((∃ set, ofSchemas? g ss = .ok set) ↔
      (ss.map (·.identifier.name)).Nodup ∧ ∀ s ∈ ss, (s.types.map TypeDeclaration.name).Nodup) ∧
    ∀ set, ofSchemas? g ss = .ok set → set.graph = g ∧ set.Indexes ss := by
  constructor
  · constructor
    · rintro ⟨set, hset⟩
      obtain ⟨hnames, htypes, -⟩ := ofSchemas?_eq_ok.mp hset
      exact ⟨hnames, htypes⟩
    · rintro ⟨hnames, htypes⟩
      exact ⟨_, ofSchemas?_eq_ok.mpr ⟨hnames, htypes, rfl⟩⟩
  · intro set hset
    have hbases := fun q b => base?_ofSchemas? hset (q := q) (b := b)
    obtain ⟨hnames, -, rfl⟩ := ofSchemas?_eq_ok.mp hset
    refine ⟨rfl, hbases, fun _ _ => schema?_eq_some hnames, fun _ _ => schemaNamed?_eq_some hnames,
      List.mergeSort_perm _ _, ?_, sortedSchemas_sorted _⟩
    exact (((List.mergeSort_perm _ _).map _).nodup_iff).mpr hnames

end ResolvedSet

namespace Sample

/-- A schema of which other schemas use a type. -/
def keys : Schema := ⟨⟨⟨"Keys", by decide, by decide⟩, ⟨1, 0⟩⟩, [],
  [⟨⟨"Key", by decide, by decide⟩, .primitive .uuid⟩], []⟩

/-- A schema that has a type of the same name. -/
def items : Schema := ⟨⟨⟨"Items", by decide, by decide⟩, ⟨2, 1⟩⟩, [keys.identifier],
  [⟨⟨"Key", by decide, by decide⟩, .named ⟨keys.identifier.name, ⟨"Key", by decide, by decide⟩⟩⟩], []⟩

end Sample

open Sample in
/-- Each schema has its own type, and is found at its own version only. -/
theorem ResolvedSet.ofSchemas?_exact_keys :
    ∃ set, ofSchemas? .empty [items, keys] = .ok set ∧
      set.base? ⟨keys.identifier.name, ⟨"Key", by decide, by decide⟩⟩ = some (.primitive .uuid) ∧
      set.schema? keys.identifier = some keys ∧
      set.schema? { keys.identifier with version := ⟨2, 0⟩ } = none ∧
      set.sortedSchemas.Perm [items, keys] := by
  obtain ⟨-, hmade⟩ := ofSchemas?_exact .empty [items, keys]
  obtain ⟨-, hset⟩ := hmade _ rfl
  refine ⟨_, rfl, (hset.base?_eq_some _ _).mpr ⟨keys, by simp, rfl, .head _⟩,
    (hset.schema?_eq_some _ _).mpr ⟨by simp, rfl⟩, ?_, hset.sortedSchemas_perm⟩
  have hother : ∀ s ∈ [items, keys], s.identifier ≠ { keys.identifier with version := ⟨2, 0⟩ } := by
    decide
  refine Option.eq_none_iff_forall_ne_some.mpr fun s hs => ?_
  obtain ⟨hmem, hid⟩ := (hset.schema?_eq_some _ _).mp hs
  exact hother s hmem hid

end MetaSchema
