import MetaSchema.Proofs.Schema.WellFormed
import MetaSchema.Proofs.Syntax.Declarations
import MetaSchema.Session.Typing

/-!
# What typing gives

* `BoundReference.type`: the type reference that a bound reference becomes.
* `Tree.Declared`: what a bound reference names is declared, here or by the import loaded for it.
* `typedDeclarations?_eq_error`: a defect is that of the first declaration that has one, and of an unknown
  cardinality or of a reference to what is not declared.
* `Tree.Compiled`: a schema has the declarations of a tree, in order.
* `typeWith_eq_ok`: typing gives the schema of the tree exactly if every import has loaded, every
  reference is declared and every cardinality is known.
-/

namespace MetaSchema

def BoundReference.type : BoundReference → TypeReference
  | .primitive p => .primitive p
  | .own name => .named name
  | .imported schema name => .named ⟨schema.name, name⟩

namespace Tree

/-- What a bound reference names is declared: by the tree itself, or by the schema that was loaded for
the import. -/
def Declared (t : Tree .bound) (imports : List (SchemaName × Schema)) : BoundReference → Prop
  | .primitive _ => True
  | .own name => name.name ∈ t.types.map TypeNode.name
  | .imported schema name =>
    ∃ imported, imports.lookup schema.name = some imported ∧ imported.Declares name

/-- The references of a bound tree. -/
def references (t : Tree .bound) : List BoundReference :=
  t.types.map (·.base.data) ++ t.attributes.map (·.reference.data)

/-- `s` has the declarations of `t`, in order. -/
structure Compiled (t : Tree .bound) (s : Schema) : Prop where
  identifier_eq : s.identifier = t.data
  imports_eq : s.imports = t.imports.map (·.data)
  types_eq : s.types = t.types.map fun n => ⟨n.name, n.base.data.type⟩
  attributes : List.Forall₂ (fun n d => d.name = n.name ∧ d.type = n.reference.data.type ∧
    Cardinality.ofToken? n.cardinality = some d.cardinality) t.attributes s.attributes

/-- A tree has one schema only. -/
theorem Compiled.unique {t : Tree .bound} {s s' : Schema} (h : t.Compiled s)
    (h' : t.Compiled s') : s = s' := by
  have hattributes : s.attributes = s'.attributes := by
    refine Relator.RightUnique.forall₂ ?_ h.attributes h'.attributes
    rintro n ⟨name, type, cardinality⟩ ⟨name', type', cardinality'⟩ ⟨hn, ht, hc⟩ ⟨hn', ht', hc'⟩
    rw [hc, Option.some.injEq] at hc'
    rw [AttributeDeclaration.mk.injEq]
    exact ⟨hn.trans hn'.symm, ht.trans ht'.symm, hc'⟩
  cases s
  cases s'
  simp only [Schema.mk.injEq]
  exact ⟨h.identifier_eq.trans h'.identifier_eq.symm, h.imports_eq.trans h'.imports_eq.symm,
    h.types_eq.trans h'.types_eq.symm, hattributes⟩

variable {t : Tree .bound} {imports : List (SchemaName × Schema)}

/-! ## Declarations -/

theorem typedReference?_eq_some {n : ReferenceNode .bound} {r : TypeReference} :
    t.typedReference? imports n = .ok (some r) ↔
      r = n.data.type ∧ t.Declared imports n.data := by
  obtain ⟨position, data, written⟩ := n
  cases data with
  | primitive p => simp [typedReference?, Declared, BoundReference.type, eq_comm]
  | own name =>
    by_cases h : (t.typeNamed? name.name).isSome = true
    · simp [typedReference?, Declared, BoundReference.type, h, typeNamed?_isSome.mp h, eq_comm]
    · have hn : name.name ∉ t.types.map TypeNode.name := fun hn => h (typeNamed?_isSome.mpr hn)
      simp [typedReference?, Declared, h, hn]
  | imported schema name =>
    simp only [typedReference?, Declared, BoundReference.type]
    cases hl : imports.lookup schema.name with
    | none => simp
    | some imported =>
      by_cases h : (imported.typeNamed? name).isSome = true
      · simp [h, Schema.typeNamed?_isSome.mp h, eq_comm]
      · have hn : ¬ imported.Declares name := fun hn => h (Schema.typeNamed?_isSome.mpr hn)
        simp [h, hn]

theorem typedType?_eq_some {n : TypeNode .bound} {d : TypeDeclaration} :
    t.typedType? imports n = .ok (some d) ↔
      t.Declared imports n.base.data ∧ ⟨n.name, n.base.data.type⟩ = d := by
  unfold typedType?
  rw [bind_eq_ok]
  constructor
  · rintro ⟨base, hbase, h⟩
    cases base with
    | none => cases h
    | some r =>
      cases h
      obtain ⟨rfl, hd⟩ := typedReference?_eq_some.mp hbase
      exact ⟨hd, rfl⟩
  · rintro ⟨hd, rfl⟩
    exact ⟨_, typedReference?_eq_some.mpr ⟨rfl, hd⟩, rfl⟩

theorem typedAttribute?_eq_some {n : AttributeNode .bound} {d : AttributeDeclaration} :
    t.typedAttribute? imports n = .ok (some d) ↔
      t.Declared imports n.reference.data ∧ d.name = n.name ∧ d.type = n.reference.data.type ∧
        Cardinality.ofToken? n.cardinality = some d.cardinality := by
  unfold typedAttribute?
  cases hc : Cardinality.ofToken? n.cardinality with
  | none =>
    constructor
    · intro h
      cases h
    · rintro ⟨-, -, -, h⟩
      cases h
  | some c =>
    simp only
    rw [bind_eq_ok]
    constructor
    · rintro ⟨type, htype, h⟩
      cases type with
      | none => cases h
      | some r =>
        cases h
        obtain ⟨rfl, hd⟩ := typedReference?_eq_some.mp htype
        exact ⟨hd, rfl, rfl, rfl⟩
    · rintro ⟨hd, hname, htype, hcard⟩
      cases d
      cases hname
      cases htype
      cases hcard
      exact ⟨_, typedReference?_eq_some.mpr ⟨rfl, hd⟩, rfl⟩

/-- Typed declarations are the declarations of the tree, one by one. -/
theorem typedDeclarations?_eq_some {ts : List TypeDeclaration} {as : List AttributeDeclaration} :
    t.typedDeclarations? imports = .ok (some (ts, as)) ↔
      List.Forall₂ (fun n d => t.typedType? imports n = .ok (some d)) t.types ts ∧
      List.Forall₂ (fun n d => t.typedAttribute? imports n = .ok (some d)) t.attributes as := by
  unfold typedDeclarations?
  rw [bind_eq_ok]
  constructor
  · rintro ⟨types, htypes, h⟩
    obtain ⟨attributes, hattributes, h⟩ := bind_eq_ok.mp h
    split at h
    · rename_i hall
      cases h
      rw [mapM_eq_ok, eq_map_some hall.1, List.forall₂_map_right_iff] at htypes
      rw [mapM_eq_ok, eq_map_some hall.2, List.forall₂_map_right_iff] at hattributes
      exact ⟨htypes, hattributes⟩
    · cases h
  · rintro ⟨htypes, hattributes⟩
    have ht := mapM_eq_ok.mpr (List.forall₂_map_right_iff.mpr htypes)
    have ha := mapM_eq_ok.mpr (List.forall₂_map_right_iff.mpr hattributes)
    refine ⟨ts.map some, ht, bind_eq_ok.mpr ⟨as.map some, ha, ?_⟩⟩
    rw [if_pos (by simp [List.all_map])]
    rw [reduceOption_map_some, reduceOption_map_some]
    rfl

/-- The typed declarations are those of a schema of the tree, if everything is declared. -/
theorem typedDeclarations?_iff {s : Schema} (hid : s.identifier = t.data)
    (himports : s.imports = t.imports.map (·.data)) :
    t.typedDeclarations? imports = .ok (some (s.types, s.attributes)) ↔
      (∀ r ∈ t.references, t.Declared imports r) ∧ t.Compiled s := by
  have htypes : ∀ ds, List.Forall₂ (fun n d => t.typedType? imports n = .ok (some d)) t.types ds ↔
      (∀ n ∈ t.types, t.Declared imports n.base.data) ∧
        t.types.map (fun n => ⟨n.name, n.base.data.type⟩) = ds := by
    intro ds
    simp only [typedType?_eq_some, List.forall₂_and_left]
    rw [← List.forall₂_map_left_iff (R := Eq), List.forall₂_eq_eq_eq]
  rw [typedDeclarations?_eq_some, htypes]
  simp only [typedAttribute?_eq_some, List.forall₂_and_left]
  constructor
  · rintro ⟨⟨hbases, hts⟩, hreferences, has⟩
    refine ⟨fun r hr => ?_, hid, himports, hts.symm, has⟩
    rcases List.mem_append.mp hr with hr | hr
    · obtain ⟨n, hn, rfl⟩ := List.mem_map.mp hr
      exact hbases n hn
    · obtain ⟨n, hn, rfl⟩ := List.mem_map.mp hr
      exact hreferences n hn
  · rintro ⟨hd, hc⟩
    refine ⟨⟨fun n hn => hd _ ?_, hc.types_eq.symm⟩, fun n hn => hd _ ?_, hc.attributes⟩
    · exact List.mem_append_left _ (List.mem_map.mpr ⟨n, hn, rfl⟩)
    · exact List.mem_append_right _ (List.mem_map.mpr ⟨n, hn, rfl⟩)

/-! ## Declarations that depend on a missing import -/

/-- A reference has no type if it leads into an import that did not load. -/
theorem typedReference?_eq_none {n : ReferenceNode .bound} :
    t.typedReference? imports n = .ok none ↔
      ∃ schema name, n.data = .imported schema name ∧ imports.lookup schema.name = none := by
  obtain ⟨position, data, written⟩ := n
  cases data with
  | primitive p => simp [typedReference?]
  | own name =>
    simp only [typedReference?]
    split <;> simp
  | imported schema name =>
    have hlookup : (∃ schema' name', BoundReference.imported schema name = .imported schema' name' ∧
        imports.lookup schema'.name = none) ↔ imports.lookup schema.name = none := by
      constructor
      · rintro ⟨schema', name', h, hl⟩
        cases h
        exact hl
      · exact fun hl => ⟨schema, name, rfl, hl⟩
    rw [hlookup]
    simp only [typedReference?]
    split
    · rename_i hl
      simp [hl]
    · rename_i hl
      split <;> simp [hl]

theorem typedReference?_of_typedType?_eq_none {n : TypeNode .bound}
    (h : t.typedType? imports n = .ok none) : t.typedReference? imports n.base = .ok none := by
  obtain ⟨base, hbase, h⟩ := bind_eq_ok.mp h
  cases base with
  | none => exact hbase
  | some r => cases h

theorem typedReference?_of_typedAttribute?_eq_none {n : AttributeNode .bound}
    (h : t.typedAttribute? imports n = .ok none) :
    t.typedReference? imports n.reference = .ok none := by
  unfold typedAttribute? at h
  split at h
  · cases h
  · obtain ⟨type, htype, h⟩ := bind_eq_ok.mp h
    cases type with
    | none => exact htype
    | some r => cases h

/-- If the declarations are not all typed, a reference leads into an import that did not load. -/
theorem typedDeclarations?_eq_none (h : t.typedDeclarations? imports = .ok none) :
    ∃ schema name, .imported schema name ∈ t.references ∧ imports.lookup schema.name = none := by
  obtain ⟨types, htypes, h⟩ := bind_eq_ok.mp h
  obtain ⟨attributes, hattributes, h⟩ := bind_eq_ok.mp h
  have hmissing : none ∈ types ∨ none ∈ attributes := by
    split at h
    · cases h
    · rename_i hall
      by_contra hno
      rw [not_or] at hno
      refine hall ⟨List.all_eq_true.mpr fun x hx => ?_, List.all_eq_true.mpr fun x hx => ?_⟩
      · exact Option.isSome_iff_ne_none.mpr fun h => hno.1 (h ▸ hx)
      · exact Option.isSome_iff_ne_none.mpr fun h => hno.2 (h ▸ hx)
  rcases hmissing with hmissing | hmissing
  · obtain ⟨n, hn, hnone⟩ := forall₂_exists_left (mapM_eq_ok.mp htypes) hmissing
    obtain ⟨schema, name, hdata, hl⟩ :=
      typedReference?_eq_none.mp (typedReference?_of_typedType?_eq_none hnone)
    exact ⟨schema, name, List.mem_append_left _ (List.mem_map.mpr ⟨n, hn, hdata⟩), hl⟩
  · obtain ⟨n, hn, hnone⟩ := forall₂_exists_left (mapM_eq_ok.mp hattributes) hmissing
    obtain ⟨schema, name, hdata, hl⟩ :=
      typedReference?_eq_none.mp (typedReference?_of_typedAttribute?_eq_none hnone)
    exact ⟨schema, name, List.mem_append_right _ (List.mem_map.mpr ⟨n, hn, hdata⟩), hl⟩

/-! ## Defects -/

/-- The references of a tree, as they stand in it. -/
def referenceNodes {φ : Phase} (t : Tree φ) : List (ReferenceNode φ) :=
  t.types.map TypeNode.base ++ t.attributes.map AttributeNode.reference

theorem data_mem_references {n : ReferenceNode .bound} (hn : n ∈ t.referenceNodes) :
    n.data ∈ t.references := by
  rcases List.mem_append.mp hn with hn | hn
  · obtain ⟨m, hm, rfl⟩ := List.mem_map.mp hn
    exact List.mem_append_left _ (List.mem_map.mpr ⟨m, hm, rfl⟩)
  · obtain ⟨m, hm, rfl⟩ := List.mem_map.mp hn
    exact List.mem_append_right _ (List.mem_map.mpr ⟨m, hm, rfl⟩)

/-- A defect is of a reference to something that is not declared. -/
theorem typedReference?_eq_error {n : ReferenceNode .bound} {d : Defect} :
    t.typedReference? imports n = .error d ↔
      d = .unresolvedReference t.data (toString n.written) ∧
      ((∃ name, n.data = .own name ∧ name.name ∉ t.types.map TypeNode.name) ∨
        ∃ schema name imported, n.data = .imported schema name ∧
          imports.lookup schema.name = some imported ∧ ¬ imported.Declares name) := by
  obtain ⟨position, data, written⟩ := n
  cases data with
  | primitive p => simp [typedReference?]
  | own name =>
    simp only [typedReference?]
    split
    · rename_i hn
      refine ⟨nofun, ?_⟩
      rintro ⟨-, ⟨name', hdata, hno⟩ | ⟨_, _, _, hdata, -⟩⟩ <;> cases hdata
      exact (hno (typeNamed?_isSome.mp hn)).elim
    · rename_i hn
      constructor
      · intro h
        cases h
        exact ⟨rfl, .inl ⟨name, rfl, mt typeNamed?_isSome.mpr hn⟩⟩
      · rintro ⟨rfl, -⟩
        rfl
  | imported schema name =>
    simp only [typedReference?]
    split
    · rename_i hl
      refine ⟨nofun, ?_⟩
      rintro ⟨-, ⟨_, hdata, -⟩ | ⟨_, _, imported, hdata, hl', -⟩⟩ <;> cases hdata
      rw [hl] at hl'
      cases hl'
    · rename_i imported hl
      split
      · rename_i hn
        refine ⟨nofun, ?_⟩
        rintro ⟨-, ⟨_, hdata, -⟩ | ⟨_, _, imported', hdata, hl', hno⟩⟩ <;> cases hdata
        rw [hl] at hl'
        cases hl'
        exact (hno (Schema.typeNamed?_isSome.mp hn)).elim
      · rename_i hn
        constructor
        · intro h
          cases h
          exact ⟨rfl, .inr ⟨schema, name, imported, rfl, hl, mt Schema.typeNamed?_isSome.mpr hn⟩⟩
        · rintro ⟨rfl, -⟩
          rfl

theorem typedType?_eq_error {n : TypeNode .bound} {d : Defect} :
    t.typedType? imports n = .error d ↔ t.typedReference? imports n.base = .error d := by
  unfold typedType?
  rw [bind_eq_error]
  exact or_iff_left fun ⟨_, _, h⟩ => by cases h

/-- The cardinality of an attribute is looked at before its reference. -/
theorem typedAttribute?_eq_error {n : AttributeNode .bound} {d : Defect} :
    t.typedAttribute? imports n = .error d ↔
      (Cardinality.ofToken? n.cardinality = none ∧ d = .unknownCardinality n.data n.cardinality) ∨
      ((∃ c, Cardinality.ofToken? n.cardinality = some c) ∧
        t.typedReference? imports n.reference = .error d) := by
  unfold typedAttribute?
  cases hc : Cardinality.ofToken? n.cardinality with
  | none =>
    constructor
    · intro h
      cases h
      exact .inl ⟨rfl, rfl⟩
    · rintro (⟨-, rfl⟩ | ⟨⟨c, h⟩, -⟩)
      · rfl
      · cases h
  | some c =>
    dsimp only
    rw [bind_eq_error]
    constructor
    · rintro (h | ⟨_, -, h⟩)
      · exact .inr ⟨⟨c, rfl⟩, h⟩
      · cases h
    · rintro (⟨h, -⟩ | ⟨-, h⟩)
      · cases h
      · exact .inl h

/-- **The defect of the declarations** is the first: types are looked at before attributes. -/
theorem typedDeclarations?_eq_error {d : Defect} :
    t.typedDeclarations? imports = .error d ↔
      First (fun n d => t.typedType? imports n = .error d) t.types d ∨
      (∀ n ∈ t.types, ∀ d, ¬ t.typedType? imports n = .error d) ∧
        First (fun n d => t.typedAttribute? imports n = .error d) t.attributes d := by
  unfold typedDeclarations?
  rw [bind_eq_error, mapM_eq_error]
  refine or_congr_right ⟨?_, ?_⟩
  · rintro ⟨types, htypes, h⟩
    -- Attributes are looked at only if all types were found.
    have hnone : ∀ n ∈ t.types, ∀ d, ¬ t.typedType? imports n = .error d := by
      intro n hn d hd
      obtain ⟨x, -, hx⟩ := forall₂_exists_right (mapM_eq_ok.mp htypes) hn
      rw [hd] at hx
      cases hx
    rcases bind_eq_error.mp h with h | ⟨attributes, -, h⟩
    · exact ⟨hnone, mapM_eq_error.mp h⟩
    · split at h <;> cases h
  · rintro ⟨hnone, h⟩
    obtain ⟨types, htypes⟩ : ∃ types, t.types.mapM (t.typedType? imports) = .ok types := by
      cases htypes : t.types.mapM (t.typedType? imports) with
      | ok types => exact ⟨types, rfl⟩
      | error d =>
        obtain ⟨n, hn, hd⟩ := (mapM_eq_error.mp htypes).exists_mem
        exact (hnone n hn d hd).elim
    exact ⟨types, htypes, bind_eq_error.mpr (.inl (mapM_eq_error.mpr h))⟩

/-- The defect of the declarations is of an unknown cardinality or of a reference. -/
theorem exists_defect {d : Defect} (h : t.typedDeclarations? imports = .error d) :
    (∃ n ∈ t.attributes, Cardinality.ofToken? n.cardinality = none) ∨
      ∃ n ∈ t.referenceNodes, t.typedReference? imports n = .error d := by
  rcases typedDeclarations?_eq_error.mp h with h | ⟨-, h⟩
  · obtain ⟨n, hn, h⟩ := h.exists_mem
    exact .inr ⟨n.base, List.mem_append_left _ (List.mem_map_of_mem hn), typedType?_eq_error.mp h⟩
  · obtain ⟨n, hn, h⟩ := h.exists_mem
    rcases typedAttribute?_eq_error.mp h with ⟨hc, -⟩ | ⟨-, h⟩
    · exact .inl ⟨n, hn, hc⟩
    · exact .inr ⟨n.reference, List.mem_append_right _ (List.mem_map_of_mem hn), h⟩

/-! ## The schema -/

variable {load : Loading} {s : Session}

/-- Typing changes a session by loading the imports. -/
theorem state_typeWith : (t.typeWith load s).state = (loadImports load t.data t.imports s).session := by
  unfold typeWith
  simp only
  split
  · rfl
  · rfl
  · split <;> rfl

/-- **Typing** gives the schema of the tree, exactly if all imports have loaded and everything that
is referred to is declared. -/
theorem typeWith_eq_ok {schema : Schema} :
    (t.typeWith load s).value = .ok schema ↔
      (loadImports load t.data t.imports s).failed = false ∧
      (∀ r ∈ t.references, t.Declared (loadImports load t.data t.imports s).schemas r) ∧
      t.Compiled schema := by
  unfold typeWith
  simp only
  constructor
  · intro h
    split at h
    · cases h
    · cases h
    · rename_i types attributes hd
      split at h
      · cases h
      · rename_i hfailed
        cases h
        exact ⟨by simpa using hfailed, (typedDeclarations?_iff rfl rfl).mp hd⟩
  · rintro ⟨hfailed, hd, hc⟩
    rw [(typedDeclarations?_iff hc.identifier_eq hc.imports_eq).mpr ⟨hd, hc⟩]
    simp only [hfailed, Bool.false_eq_true, ↓reduceIte, Except.ok.injEq]
    rw [← hc.identifier_eq, ← hc.imports_eq]

/-- Typing that succeeds reports what was reported of the imports. -/
theorem issues_typeWith_of_ok {schema : Schema} (h : (t.typeWith load s).value = .ok schema) :
    (t.typeWith load s).issues = (loadImports load t.data t.imports s).issues := by
  obtain ⟨hfailed, hd, hc⟩ := typeWith_eq_ok.mp h
  unfold typeWith
  simp only
  rw [(typedDeclarations?_iff hc.identifier_eq hc.imports_eq).mpr ⟨hd, hc⟩]
  simp [hfailed]

end Tree

end MetaSchema
