import MetaSchema.Proofs.Lists
import MetaSchema.Validation

/-!
# What validation reports

* `declarationOf?_eq_ok`: the declaration of an attribute is one of the schema that the document
  imports under the attribute's local name.
* `typed?_eq_ok`, `value?_eq_ok`: the typed form of an attribute.
* `typed?_eq_error`, `declarationOf?_eq_error`, `value?_eq_error`: what is wrong with one attribute.
* `mem_issues_validate`: what is reported is wrong with an attribute or with its number.
-/

namespace MetaSchema

namespace Validation

variable {v : Validation} {a : UntypedAttribute}

theorem declarationOf?_eq_ok {id : SchemaIdentifier} {d : AttributeDeclaration} :
    v.declarationOf? a = .ok (id, d) ↔ v.imports.get? a.name.schema = some id ∧
      ∃ schema, v.resolved.schema? id = some schema ∧ schema.attributeNamed? a.name.name = some d := by
  unfold declarationOf?
  cases hid : v.imports.get? a.name.schema with
  | none => simp
  | some i =>
    simp only [Option.some.injEq]
    cases hs : v.resolved.schema? i with
    | none =>
      simp only [reduceCtorEq, false_iff]
      rintro ⟨rfl, schema, h, -⟩
      rw [hs] at h
      cases h
    | some s =>
      simp only
      cases hd : s.attributeNamed? a.name.name with
      | none =>
        simp only [reduceCtorEq, false_iff]
        rintro ⟨rfl, schema, h, hn⟩
        rw [hs] at h
        cases h
        rw [hd] at hn
        cases hn
      | some e =>
        simp only [Except.ok.injEq, Prod.mk.injEq]
        constructor
        · rintro ⟨rfl, rfl⟩
          exact ⟨rfl, s, hs, hd⟩
        · rintro ⟨rfl, schema, h, hn⟩
          rw [hs] at h
          cases h
          rw [hd] at hn
          cases hn
          exact ⟨rfl, rfl⟩

/-- What is wrong with an attribute that has no declaration. -/
theorem declarationOf?_eq_error {e : ValidationError} : v.declarationOf? a = .error e ↔
    (v.imports.get? a.name.schema = none ∧ e = .notImported a.name) ∨
    ∃ id, v.imports.get? a.name.schema = some id ∧
      ((v.resolved.schema? id = none ∧ e = .schemaMissing a.name id) ∨
        ∃ schema, v.resolved.schema? id = some schema ∧
          schema.attributeNamed? a.name.name = none ∧ e = .undeclared a.name id) := by
  unfold declarationOf?
  cases v.imports.get? a.name.schema with
  | none => simp [eq_comm]
  | some id =>
    cases hs : v.resolved.schema? id with
    | none => simp [hs, eq_comm]
    | some schema => cases hd : schema.attributeNamed? a.name.name <;> simp [hs, hd, eq_comm]

theorem value?_eq_ok {id : SchemaIdentifier} {d : AttributeDeclaration} {value : Value} :
    v.value? id d a = .ok value ↔
      ∃ p, v.resolved.primitiveOf? d.type = some p ∧ Value.ofString? p a.value = some value := by
  unfold value?
  cases v.resolved.primitiveOf? d.type with
  | none => simp
  | some p => cases hv : Value.ofString? p a.value <;> simp [hv]

/-- What is wrong with an attribute that has no value. -/
theorem value?_eq_error {id : SchemaIdentifier} {d : AttributeDeclaration} {e : ValidationError} :
    v.value? id d a = .error e ↔
      (v.resolved.primitiveOf? d.type = none ∧
        e = .internal (.unresolvedReference id (toString d.type))) ∨
      ∃ p, v.resolved.primitiveOf? d.type = some p ∧ Value.ofString? p a.value = none ∧
        e = .invalidValue a.name p a.value := by
  unfold value?
  cases v.resolved.primitiveOf? d.type with
  | none => simp [eq_comm]
  | some p => cases hv : Value.ofString? p a.value <;> simp [hv, eq_comm]

theorem typed?_eq_ok {t : TypedAttribute} : v.typed? a = .ok t ↔
    ∃ d, v.declarationOf? a = .ok (t.schema, d) ∧ d.name = t.name ∧
      v.value? t.schema d a = .ok t.value := by
  unfold typed?
  constructor
  · intro h
    split at h
    · cases h
    · rename_i id d hd
      obtain ⟨value, hvalue, rfl⟩ := map_eq_ok h
      exact ⟨d, hd, rfl, hvalue⟩
  · rintro ⟨d, hd, hname, hvalue⟩
    simp only [hd, hvalue, hname]
    rfl

/-- What is wrong with an attribute that cannot be typed: it has no declaration, or no value. -/
theorem typed?_eq_error {e : ValidationError} : v.typed? a = .error e ↔
    v.declarationOf? a = .error e ∨
      ∃ id d, v.declarationOf? a = .ok (id, d) ∧ v.value? id d a = .error e := by
  unfold typed?
  cases hd : v.declarationOf? a with
  | error e' => simp
  | ok x =>
    obtain ⟨id, d⟩ := x
    cases hv : v.value? id d a <;> simp [Except.map, hv]

/-- A violation is about a number of occurrences. -/
theorem error_of_mem_violations {as : List UntypedAttribute} {x : CardinalityViolation}
    (h : x ∈ v.violations as) : ∃ name allowed count, x.error = .cardinality name allowed count := by
  obtain ⟨e, -, hx⟩ := List.mem_flatMap.mp h
  unfold violationsOf at hx
  split at hx
  · cases hx
  · obtain ⟨d, -, hd⟩ := List.mem_filterMap.mp hx
    unfold violation? at hd
    simp only at hd
    split at hd
    · cases hd
    · cases hd
      exact ⟨_, _, _, rfl⟩

end Validation

/-- What validation reports is wrong with an attribute or violates a cardinality. -/
theorem mem_issues_validate {v : Validation} {as : List UntypedAttribute} {e : ValidationError} :
    .validate e ∈ (validate v as).issues ↔
      (∃ a ∈ as, v.typed? a = .error e) ∨ ∃ x ∈ v.violations as, x.error = e := by
  simp only [validate, List.mem_map, Issue.validate.injEq, exists_eq_right, List.mem_append,
    List.mem_filterMap]
  refine or_congr_left ⟨?_, ?_⟩
  · rintro ⟨_, ⟨a, ha, rfl⟩, h⟩
    refine ⟨a, ha, ?_⟩
    split at h
    · cases h
    · rename_i e' he
      cases h
      exact he
  · rintro ⟨a, ha, h⟩
    exact ⟨_, ⟨a, ha, rfl⟩, by rw [h]⟩

end MetaSchema
