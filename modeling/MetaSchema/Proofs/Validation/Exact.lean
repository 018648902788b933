import MetaSchema.Proofs.Validation
import Mathlib.Data.List.Nodup

/-!
# What validation gives

What becomes of each supplied attribute, said without the order in which validation looks at things.

* `Validation.Names`, `Validation.supplied`: which declared attribute a supplied one is for, and how
  many are supplied for it.
* `Validation.Accepts`, `Validation.Fails`: the typed form of a supplied attribute, or the first thing
  that is wrong with it.
* `Validation.Violated`: the imported attributes whose cardinality does not accept how many are supplied.
* `Validation.Reports`: the errors that are reported, in order.
* `validate_exact`: validation accepts and reports just these. Which local name of a schema an attribute
  is supplied under makes no difference.
-/

namespace MetaSchema

/-- A declared attribute of a schema that the document imports under a local name. -/
structure ImportedAttribute where
  localName : SchemaName
  schema : SchemaIdentifier
  declaration : AttributeDeclaration

/-- What is reported of an imported attribute that is supplied `count` times. -/
def ImportedAttribute.violation (x : ImportedAttribute) (count : Nat) : ValidationError :=
  .cardinality ⟨x.localName, x.declaration.name⟩ x.declaration.cardinality count

namespace Validation

variable (v : Validation)

/-- The schemas of the set declare each attribute name once. -/
def DeclaresOnce : Prop :=
  ∀ schema ∈ v.resolved.schemas, (schema.attributes.map AttributeDeclaration.name).Nodup

/-- The attributes that a schema of the set declares. -/
def declared (id : SchemaIdentifier) : List AttributeDeclaration :=
  (v.resolved.schema? id).elim [] Schema.attributes

/-- `a` is supplied for the declared attribute `d` of the schema `id`. -/
structure Names (a : UntypedAttribute) (id : SchemaIdentifier) (d : AttributeDeclaration) : Prop where
  imported : v.imports.get? a.name.schema = some id
  declared : d ∈ v.declared id
  name_eq : d.name = a.name.name

/-- How many attributes are supplied for the declared attribute of this name of the schema `id`. -/
def supplied (as : List UntypedAttribute) (id : SchemaIdentifier) (name : AttributeName) : Nat :=
  as.countP fun a => v.imports.get? a.name.schema = some id ∧ a.name.name = name ∧
    ∃ d ∈ v.declared id, d.name = name

/-- The typed form of an attribute that is declared, has a value of its type, and is supplied as often as
it may be. -/
inductive Accepts (as : List UntypedAttribute) (a : UntypedAttribute) : TypedAttribute → Prop
  | intro {id : SchemaIdentifier} {d : AttributeDeclaration} {p : Primitive} {value : Value}
      (hn : v.Names a id d) (hp : v.resolved.primitiveOf? d.type = some p)
      (hv : Value.ofString? p a.value = some value)
      (hc : d.cardinality.accepts (v.supplied as id d.name) = true) :
      Accepts as a ⟨id, d.name, value⟩

/-- The first thing that is wrong with an attribute that is not declared or has no value. -/
inductive Fails (a : UntypedAttribute) : ValidationError → Prop
  | notImported (hid : v.imports.get? a.name.schema = none) : Fails a (.notImported a.name)
  | schemaMissing {id : SchemaIdentifier} (hid : v.imports.get? a.name.schema = some id)
      (hs : v.resolved.schema? id = none) : Fails a (.schemaMissing a.name id)
  | undeclared {id : SchemaIdentifier} {schema : Schema}
      (hid : v.imports.get? a.name.schema = some id) (hs : v.resolved.schema? id = some schema)
      (hd : ∀ d ∈ schema.attributes, d.name ≠ a.name.name) : Fails a (.undeclared a.name id)
  | unresolvedType {id : SchemaIdentifier} {d : AttributeDeclaration} (hn : v.Names a id d)
      (hp : v.resolved.primitiveOf? d.type = none) :
      Fails a (.internal (.unresolvedReference id (toString d.type)))
  | invalidValue {id : SchemaIdentifier} {d : AttributeDeclaration} {p : Primitive}
      (hn : v.Names a id d) (hp : v.resolved.primitiveOf? d.type = some p)
      (hv : Value.ofString? p a.value = none) : Fails a (.invalidValue a.name p a.value)

/-- The declared attributes of all imported schemas, in the order of the table. -/
def importedAttributes : List ImportedAttribute :=
  v.imports.entries.flatMap fun e => (v.declared e.2).map (⟨e.1, e.2, ·⟩)

/-- `xs` has the imported attributes whose cardinality does not accept how many are supplied, in the order
of the table. Each is there once, under the first local name of its schema. -/
structure Violated (as : List UntypedAttribute) (xs : List ImportedAttribute) : Prop where
  sublist : xs.Sublist v.importedAttributes
  once : (xs.map fun x => (x.schema, x.declaration.name)).Nodup
  mem_iff : ∀ x, x ∈ xs ↔
    v.imports.entries.find? (·.2 = x.schema) = some (x.localName, x.schema) ∧
    x.declaration ∈ v.declared x.schema ∧
    x.declaration.cardinality.accepts (v.supplied as x.schema x.declaration.name) = false

/-- What is reported: the `errors` of single attributes in the order supplied, and then those of the
`violated` ones. -/
structure Reports (as : List UntypedAttribute) (errors : List ValidationError)
    (violated : List ImportedAttribute) : Prop where
  issues_eq : (validate v as).issues = (errors ++ violated.map fun x =>
    x.violation (v.supplied as x.schema x.declaration.name)).map .validate
  fails : Picks v.Fails as errors
  violated : v.Violated as violated

/-- Two supplied attributes that differ only in the local name of their schema. -/
structure Alias (a b : UntypedAttribute) : Prop where
  schema_eq : v.imports.get? a.name.schema = v.imports.get? b.name.schema
  name_eq : a.name.name = b.name.name
  value_eq : a.value = b.value

variable {v} {a b : UntypedAttribute} {as bs : List UntypedAttribute} {id : SchemaIdentifier}
  {d : AttributeDeclaration}

/-! ## Declarations -/

theorem mem_declared : d ∈ v.declared id ↔
    ∃ schema, v.resolved.schema? id = some schema ∧ d ∈ schema.attributes := by
  unfold declared
  cases v.resolved.schema? id <;> simp

theorem DeclaresOnce.nodup_declared (hv : v.DeclaresOnce) (id : SchemaIdentifier) :
    ((v.declared id).map AttributeDeclaration.name).Nodup := by
  unfold declared
  cases hs : v.resolved.schema? id with
  | none => exact List.nodup_nil
  | some schema => exact hv schema (List.mem_of_find?_eq_some (Option.filter_eq_some_iff.mp hs).1)

/-- Declarations of one name are one. -/
theorem DeclaresOnce.eq_of_name (hv : v.DeclaresOnce) {d' : AttributeDeclaration}
    (hd : d ∈ v.declared id) (hd' : d' ∈ v.declared id) (hname : d.name = d'.name) : d = d' := by
  have hfound := find?_of_nodup (hv.nodup_declared id) hd
  rw [hname, find?_of_nodup (hv.nodup_declared id) hd'] at hfound
  exact (Option.some.inj hfound).symm

/-- The declaration of an attribute is the one that it names. -/
theorem DeclaresOnce.declarationOf?_iff (hv : v.DeclaresOnce) :
    v.declarationOf? a = .ok (id, d) ↔ v.Names a id d := by
  rw [declarationOf?_eq_ok]
  constructor
  · rintro ⟨hid, schema, hs, hd⟩
    have hname := List.find?_some hd
    exact ⟨hid, mem_declared.mpr ⟨schema, hs, List.mem_of_find?_eq_some hd⟩, by simpa using hname⟩
  · rintro ⟨hid, hd, hname⟩
    obtain ⟨schema, hs, hd⟩ := mem_declared.mp hd
    have hmem := List.mem_of_find?_eq_some (Option.filter_eq_some_iff.mp hs).1
    refine ⟨hid, schema, hs, ?_⟩
    rw [Schema.attributeNamed?, ← hname]
    exact find?_of_nodup (hv schema hmem) hd

/-! ## Single attributes -/

/-- What the typed form of an attribute is. -/
theorem DeclaresOnce.typed?_eq_ok (hv : v.DeclaresOnce) {t : TypedAttribute} :
    v.typed? a = .ok t ↔ ∃ d, v.Names a t.schema d ∧ d.name = t.name ∧
      ∃ p, v.resolved.primitiveOf? d.type = some p ∧ Value.ofString? p a.value = some t.value := by
  simp only [Validation.typed?_eq_ok, hv.declarationOf?_iff, value?_eq_ok]

/-- What is wrong with an attribute. -/
theorem DeclaresOnce.typed?_eq_error (hv : v.DeclaresOnce) {e : ValidationError} :
    v.typed? a = .error e ↔ v.Fails a e := by
  simp only [Validation.typed?_eq_error, declarationOf?_eq_error, hv.declarationOf?_iff,
    value?_eq_error]
  constructor
  · rintro ((⟨hid, rfl⟩ | ⟨id, hid, ⟨hs, rfl⟩ | ⟨schema, hs, hnone, rfl⟩⟩) |
      ⟨id, d, hn, ⟨hp, rfl⟩ | ⟨p, hp, hvalue, rfl⟩⟩)
    · exact .notImported hid
    · exact .schemaMissing hid hs
    · exact .undeclared hid hs fun d hd => by simpa using List.find?_eq_none.mp hnone d hd
    · exact .unresolvedType hn hp
    · exact .invalidValue hn hp hvalue
  · rintro (hid | ⟨hid, hs⟩ | ⟨hid, hs, hd⟩ | ⟨hn, hp⟩ | ⟨hn, hp, hvalue⟩)
    · exact .inl (.inl ⟨hid, rfl⟩)
    · exact .inl (.inr ⟨_, hid, .inl ⟨hs, rfl⟩⟩)
    · refine .inl (.inr ⟨_, hid, .inr ⟨_, hs, ?_, rfl⟩⟩)
      exact List.find?_eq_none.mpr fun d hmem => by simpa using hd d hmem
    · exact .inr ⟨_, _, hn, .inl ⟨hp, rfl⟩⟩
    · exact .inr ⟨_, _, hn, .inr ⟨_, hp, hvalue, rfl⟩⟩

/-! ## Numbers of attributes -/

theorem DeclaresOnce.occurrence?_eq_some (hv : v.DeclaresOnce) {name : AttributeName} :
    v.occurrence? a = some ⟨id, name⟩ ↔ v.imports.get? a.name.schema = some id ∧
      a.name.name = name ∧ ∃ d ∈ v.declared id, d.name = name := by
  unfold occurrence?
  constructor
  · intro h
    split at h
    · cases h
    · rename_i hd
      cases h
      obtain ⟨hid, hd, hname⟩ := hv.declarationOf?_iff.mp hd
      exact ⟨hid, hname.symm, _, hd, rfl⟩
  · rintro ⟨hid, rfl, d, hd, hname⟩
    rw [hv.declarationOf?_iff.mpr ⟨hid, hd, hname⟩]
    simp [hname]

theorem DeclaresOnce.occurrences_eq (hv : v.DeclaresOnce) (as : List UntypedAttribute)
    (id : SchemaIdentifier) (name : AttributeName) :
    v.occurrences as ⟨id, name⟩ = v.supplied as id name := by
  rw [occurrences, List.count_filterMap, supplied]
  refine List.countP_congr fun a _ => ?_
  rw [beq_iff_eq, hv.occurrence?_eq_some, decide_eq_true_eq]

/-! ## Violated declarations -/

/-- The entries that are looked at have schemas that were not seen, each for the first time. -/
theorem mem_firstEntries {seen : List SchemaIdentifier} {es : List (SchemaName × SchemaIdentifier)}
    {e : SchemaName × SchemaIdentifier} :
    e ∈ firstEntries seen es ↔ e.2 ∉ seen ∧ es.find? (·.2 = e.2) = some e := by
  induction es generalizing seen with
  | nil => simp [firstEntries]
  | cons e' es ih =>
    simp only [firstEntries]
    split
    · rename_i hseen
      rw [ih]
      refine and_congr_right fun hnew => ?_
      -- The entry that is passed over is of a schema that was seen, so not of this one.
      have hne : e'.2 ≠ e.2 := fun h => hnew (h ▸ hseen)
      rw [List.find?_cons_of_neg (by simpa using hne)]
    · rename_i hnew
      rw [List.mem_cons, ih]
      by_cases heq : e'.2 = e.2
      · rw [List.find?_cons_of_pos (by simpa using heq)]
        simp [heq ▸ hnew, heq, eq_comm]
      · rw [List.find?_cons_of_neg (by simpa using heq)]
        have hne : e ≠ e' := fun h => heq (h ▸ rfl)
        simp [hne, Ne.symm heq]

theorem firstEntries_sublist (seen : List SchemaIdentifier)
    (es : List (SchemaName × SchemaIdentifier)) : (firstEntries seen es).Sublist es := by
  induction es generalizing seen with
  | nil => exact .refl _
  | cons e es ih =>
    simp only [firstEntries]
    split
    · exact (ih seen).cons e
    · exact (ih _).cons_cons e

theorem nodup_firstEntries (seen : List SchemaIdentifier)
    (es : List (SchemaName × SchemaIdentifier)) : ((firstEntries seen es).map Prod.snd).Nodup := by
  induction es generalizing seen with
  | nil => exact List.nodup_nil
  | cons e es ih =>
    simp only [firstEntries]
    split
    · exact ih seen
    · rw [List.map_cons, List.nodup_cons]
      refine ⟨fun hmem => ?_, ih _⟩
      obtain ⟨e', he', heq⟩ := List.mem_map.mp hmem
      exact (mem_firstEntries.mp he').1 (heq ▸ List.mem_cons_self)

variable (v) in
/-- The imported attributes under the first local names of their schemas. -/
def firstImported : List ImportedAttribute :=
  (firstEntries [] v.imports.entries).flatMap fun e => (v.declared e.2).map (⟨e.1, e.2, ·⟩)

variable (v) in
/-- The ones among them whose cardinality does not accept how many are supplied. -/
def violated (as : List UntypedAttribute) : List ImportedAttribute :=
  v.firstImported.filter fun x =>
    ¬ x.declaration.cardinality.accepts (v.supplied as x.schema x.declaration.name)

theorem mem_firstImported {x : ImportedAttribute} : x ∈ v.firstImported ↔
    v.imports.entries.find? (·.2 = x.schema) = some (x.localName, x.schema) ∧
      x.declaration ∈ v.declared x.schema := by
  simp only [firstImported, List.mem_flatMap, mem_firstEntries, List.mem_map, List.not_mem_nil,
    not_false_eq_true, true_and]
  constructor
  · rintro ⟨e, he, d, hd, rfl⟩
    exact ⟨he, hd⟩
  · rintro ⟨he, hd⟩
    exact ⟨(x.localName, x.schema), he, x.declaration, hd, rfl⟩

theorem DeclaresOnce.nodup_firstImported (hv : v.DeclaresOnce) :
    (v.firstImported.map fun x => (x.schema, x.declaration.name)).Nodup := by
  have hkeys : v.firstImported.map (fun x => (x.schema, x.declaration.name)) =
      ((firstEntries [] v.imports.entries).map Prod.snd).flatMap fun id =>
        ((v.declared id).map AttributeDeclaration.name).map (id, ·) := by
    simp [firstImported, List.map_flatMap, List.flatMap_map, Function.comp_def]
  rw [hkeys, List.nodup_flatMap]
  refine ⟨fun id _ => (hv.nodup_declared id).map fun x y h => (Prod.mk.inj h).2, ?_⟩
  refine (nodup_firstEntries [] v.imports.entries).imp fun hne => List.disjoint_left.mpr ?_
  rintro key hkey hkey'
  obtain ⟨name, -, rfl⟩ := List.mem_map.mp hkey
  obtain ⟨name', -, heq⟩ := List.mem_map.mp hkey'
  exact hne (Prod.mk.inj heq).1.symm

theorem DeclaresOnce.violated (hv : v.DeclaresOnce) (as : List UntypedAttribute) :
    v.Violated as (v.violated as) where
  sublist := List.filter_sublist.trans (sublist_flatMap (firstEntries_sublist [] _))
  once := hv.nodup_firstImported.sublist (List.filter_sublist.map _)
  mem_iff := by
    intro x
    simp [Validation.violated, mem_firstImported, and_assoc]

/-- What validation finds is what is violated. -/
theorem DeclaresOnce.violations_eq (hv : v.DeclaresOnce) (as : List UntypedAttribute) :
    v.violations as = (v.violated as).map fun x =>
      ⟨⟨x.schema, x.declaration.name⟩, x.violation (v.supplied as x.schema x.declaration.name)⟩ := by
  have hof : ∀ e : SchemaName × SchemaIdentifier,
      v.violationsOf as e = (v.declared e.2).filterMap (v.violation? as e.1 e.2) := by
    intro e
    unfold violationsOf declared
    cases v.resolved.schema? e.2 <;> rfl
  simp only [violations, Validation.violated, firstImported, List.filter_flatMap, List.map_flatMap]
  refine List.flatMap_congr fun e _ => ?_
  rw [hof, List.filter_map, List.map_map, ← List.filterMap_eq_map, List.filterMap_filter]
  refine List.filterMap_congr fun d _ => ?_
  simp only [violation?, hv.occurrences_eq, Function.comp_apply]
  split <;> simp_all [ImportedAttribute.violation]

/-! ## What is accepted -/

/-- A declaration that an attribute names is violated exactly if it does not accept how many are
supplied. -/
theorem DeclaresOnce.mem_violated (hv : v.DeclaresOnce) (hn : v.Names a id d) :
    (∃ x ∈ v.violated as, x.schema = id ∧ x.declaration.name = d.name) ↔
      d.cardinality.accepts (v.supplied as id d.name) = false := by
  obtain ⟨hid, hd, -⟩ := hn
  constructor
  · rintro ⟨x, hx, rfl, hname⟩
    obtain ⟨-, hx, hc⟩ := ((hv.violated as).mem_iff x).mp hx
    rwa [hv.eq_of_name hx hd hname] at hc
  · intro hc
    -- The schema is that of an entry, so it has a first entry.
    have hfirst : ∃ e, v.imports.entries.find? (·.2 = id) = some e := by
      rw [← Option.isSome_iff_exists, List.find?_isSome]
      exact ⟨_, mem_of_lookup hid, by simp⟩
    obtain ⟨e, he⟩ := hfirst
    obtain rfl : e.2 = id := by simpa using List.find?_some he
    exact ⟨⟨e.1, e.2, d⟩, ((hv.violated as).mem_iff _).mpr ⟨he, hd, hc⟩, rfl, rfl⟩

/-- A typed attribute is kept if its number is accepted. -/
theorem DeclaresOnce.accepts_iff (hv : v.DeclaresOnce) {t : TypedAttribute} :
    v.Accepts as a t ↔ v.typed? a = .ok t ∧
      ¬ ∃ x ∈ v.violated as, x.schema = t.schema ∧ x.declaration.name = t.name := by
  rw [hv.typed?_eq_ok]
  constructor
  · rintro ⟨hn, hp, hvalue, hc⟩
    exact ⟨⟨_, hn, rfl, _, hp, hvalue⟩, by simp [hv.mem_violated hn, hc]⟩
  · rintro ⟨⟨d, hn, hname, p, hp, hvalue⟩, hkept⟩
    rw [← hname, hv.mem_violated hn, Bool.not_eq_false] at hkept
    obtain ⟨id, name, value⟩ := t
    obtain rfl := hname
    exact .intro hn hp hvalue hkept

theorem DeclaresOnce.picks_value (hv : v.DeclaresOnce) (as : List UntypedAttribute) :
    Picks (v.Accepts as) as (validate v as).value := by
  have hvalue : (validate v as).value = as.filterMap fun a => (v.typed? a).toOption.filter fun t =>
      ¬ ∃ x ∈ v.violated as, x.schema = t.schema ∧ x.declaration.name = t.name := by
    simp only [validate, List.filterMap_map, List.filter_filterMap, hv.violations_eq, List.map_map]
    refine List.filterMap_congr fun a _ => congrArg (Option.filter · _) ?_
    funext t
    simp [eq_comm]
  rw [hvalue]
  refine picks_filterMap (fun a t => ?_) as
  rw [hv.accepts_iff, Option.filter_eq_some_iff, decide_eq_true_eq]
  refine and_congr_left fun _ => ?_
  cases v.typed? a <;> simp [Except.toOption]

theorem DeclaresOnce.reports (hv : v.DeclaresOnce) (as : List UntypedAttribute) :
    ∃ errors, v.Reports as errors (v.violated as) := by
  refine ⟨as.filterMap ?error, ?issues, picks_filterMap ?fails as, hv.violated as⟩
  case issues =>
    simp only [validate, List.filterMap_map, hv.violations_eq, List.map_map]
    rfl
  case fails =>
    intro a e
    rw [← hv.typed?_eq_error, Function.comp_apply]
    cases v.typed? a <;> simp

/-! ## Other local names -/

theorem Alias.names_iff (h : v.Alias a b) : v.Names a id d ↔ v.Names b id d := by
  constructor
  · rintro ⟨hid, hd, hname⟩
    exact ⟨h.schema_eq ▸ hid, hd, hname.trans h.name_eq⟩
  · rintro ⟨hid, hd, hname⟩
    exact ⟨h.schema_eq ▸ hid, hd, hname.trans h.name_eq.symm⟩

theorem supplied_eq_of_alias (h : List.Forall₂ v.Alias as bs) : v.supplied as = v.supplied bs := by
  funext id name
  induction h with
  | nil => rfl
  | cons hab _ ih =>
    simp only [supplied, List.countP_cons, hab.schema_eq, hab.name_eq] at ih ⊢
    rw [ih]

theorem Alias.accepts_iff (h : v.Alias a b) (hs : v.supplied as = v.supplied bs)
    {t : TypedAttribute} : v.Accepts as a t ↔ v.Accepts bs b t := by
  constructor
  · rintro ⟨hn, hp, hvalue, hc⟩
    exact .intro (h.names_iff.mp hn) hp (h.value_eq ▸ hvalue) (hs ▸ hc)
  · rintro ⟨hn, hp, hvalue, hc⟩
    exact .intro (h.names_iff.mpr hn) hp (h.value_eq ▸ hvalue) (hs ▸ hc)

end Validation

open Validation

/-- **Validation is exact**, for schemas that declare each attribute once. The attributes that it gives
are the typed forms of the supplied ones that are declared, have a value of their type and are supplied as
often as they may be, in order. It reports the first thing that is wrong with each other attribute, in
order, and then each imported attribute that is supplied too often or too rarely. So a supplied attribute
is given, or has an error, or is for an attribute that is reported as supplied too often or too rarely.
Another local name of the same schema does the same. -/
theorem validate_exact (v : Validation) (hv : v.DeclaresOnce) (as : List UntypedAttribute) :
    Picks (v.Accepts as) as (validate v as).value ∧
    ∃ errors violated, v.Reports as errors violated ∧
      (∀ a ∈ as, (∃ t ∈ (validate v as).value, v.Accepts as a t) ∨ (∃ e ∈ errors, v.Fails a e) ∨
        ∃ x ∈ violated, v.Names a x.schema x.declaration) ∧
      ∀ bs, List.Forall₂ v.Alias as bs → (validate v bs).value = (validate v as).value ∧
        ∃ errors', v.Reports bs errors' violated := by
  have hvalue := hv.picks_value as
  obtain ⟨errors, hreports⟩ := hv.reports as
  refine ⟨hvalue, errors, v.violated as, hreports, fun a ha => ?_, fun bs hbs => ?_⟩
  · cases ht : v.typed? a with
    | error e =>
      have hfails := hv.typed?_eq_error.mp ht
      exact .inr (.inl (hreports.fails.exists_mem ha ⟨e, hfails⟩))
    | ok t =>
      by_cases hviolated : ∃ x ∈ v.violated as, x.schema = t.schema ∧ x.declaration.name = t.name
      · obtain ⟨x, hx, hschema, hname⟩ := hviolated
        -- The attribute has its value but is supplied too often or too rarely, which is reported.
        obtain ⟨d, hn, hd, -⟩ := hv.typed?_eq_ok.mp ht
        obtain ⟨-, hmem, -⟩ := ((hv.violated as).mem_iff x).mp hx
        rw [hschema] at hmem
        obtain rfl := hv.eq_of_name hmem hn.declared (hname.trans hd.symm)
        exact .inr (.inr ⟨x, hx, hschema ▸ hn⟩)
      · exact .inl (hvalue.exists_mem ha ⟨t, hv.accepts_iff.mpr ⟨ht, hviolated⟩⟩)
  · -- Attributes are counted by schema and name, in which aliases agree.
    have hsupplied := supplied_eq_of_alias hbs
    refine ⟨?_, ?_⟩
    · refine ((hv.picks_value bs).eq_of_forall₂ (fun a t t' h h' => ?_) hvalue ?_)
      · have ht := (hv.accepts_iff.mp h).1
        rw [(hv.accepts_iff.mp h').1] at ht
        exact (Except.ok.inj ht).symm
      · exact hbs.flip.imp fun b a h t => (h.accepts_iff hsupplied).symm
    · have hviolated : v.violated bs = v.violated as := by
        simp only [Validation.violated, hsupplied]
      exact hviolated ▸ hv.reports bs

namespace Validation

/-- A schema with one attribute, which the document imports under the local names `A` and `B`. -/
def twice : Validation where
  resolved := ⟨.empty, [⟨⟨⟨"Film", by decide, by decide⟩, ⟨1, 0⟩⟩, [], [],
    [⟨⟨"title", by decide, by decide⟩, .primitive .string, .exactlyOne⟩]⟩], []⟩
  imports := ⟨[(⟨"A", by decide, by decide⟩, ⟨⟨"Film", by decide, by decide⟩, ⟨1, 0⟩⟩),
    (⟨"B", by decide, by decide⟩, ⟨⟨"Film", by decide, by decide⟩, ⟨1, 0⟩⟩)]⟩

/-- The attribute of that schema, supplied under a local name. -/
def title (localName : SchemaName) (value : String) : UntypedAttribute :=
  ⟨⟨localName, ⟨"title", by decide, by decide⟩⟩, value⟩

end Validation

/-- Supplied under both local names, the attribute is supplied twice. -/
theorem validate_exact_twice :
    let a : SchemaName := ⟨"A", by decide, by decide⟩
    let b : SchemaName := ⟨"B", by decide, by decide⟩
    twice.DeclaresOnce ∧
    Picks (twice.Accepts [title a "x", title b "y"]) [title a "x", title b "y"]
      (validate twice [title a "x", title b "y"]).value ∧
    ∃ errors violated, twice.Reports [title a "x", title b "y"] errors violated ∧
      ((∃ t ∈ (validate twice [title a "x", title b "y"]).value,
          twice.Accepts [title a "x", title b "y"] (title a "x") t) ∨
        (∃ e ∈ errors, twice.Fails (title a "x") e) ∨
        ∃ x ∈ violated, twice.Names (title a "x") x.schema x.declaration) ∧
      List.Forall₂ twice.Alias [title a "x", title b "y"] [title b "x", title b "y"] ∧
      (validate twice [title b "x", title b "y"]).value =
        (validate twice [title a "x", title b "y"]).value ∧
      ∃ errors', twice.Reports [title b "x", title b "y"] errors' violated := by
  intro a b
  have honce : twice.DeclaresOnce := by
    unfold DeclaresOnce
    decide
  have halias : List.Forall₂ twice.Alias [title a "x", title b "y"] [title b "x", title b "y"] :=
    .cons ⟨by decide, rfl, rfl⟩ (.cons ⟨by decide, rfl, rfl⟩ .nil)
  obtain ⟨hvalue, errors, violated, hreports, hcovered, hsame⟩ :=
    validate_exact twice honce [title a "x", title b "y"]
  exact ⟨honce, hvalue, errors, violated, hreports, hcovered _ (by simp), halias, hsame _ halias⟩

end MetaSchema
