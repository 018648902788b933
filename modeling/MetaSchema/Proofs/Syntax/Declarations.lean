import MetaSchema.Proofs.Lists
import MetaSchema.Syntax.Tree

/-!
# What the declarations of a tree are

* `Declarations.add?_eq_ok`: a child that can be added is a declaration, and it goes to the end.
* `Declarations.items_ofChildren?`, `Tree.ofChildren?_eq_ok`: declarations made of children are these
  children, in order.
* `Declarations.ofChildren?_of_distinct`: declarations whose names differ can all be added.
* `Declarations.node?_eq_find?`: what stands at the place of a name is the first declaration of it, so
  the indices and the list agree.
* `Tree.counts_eq_lengths`, `Tree.typeNamed?_of_mem`: the counts are those of the declarations, and each
  type is found by its name.
-/

namespace MetaSchema

variable {φ : Phase}

namespace Declarations

/-- A child that can be added is a declaration and becomes the last one. -/
theorem add?_eq_ok {ds es : Declarations φ} {c : Child φ} (h : ds.add? c = .ok es) :
    ∃ d, c = .declaration d ∧ es.items = ds.items ++ [d] := by
  cases c with
  | declaration d =>
    refine ⟨d, rfl, ?_⟩
    rcases d with n | n | n | n
    · simp only [add?, addImport?] at h
      split at h <;> cases h
      rfl
    · simp only [add?, addType?] at h
      split at h <;> cases h
      rfl
    · simp only [add?, addAttribute?] at h
      split at h <;> cases h
      rfl
    · cases h
      rfl
  | reference n => cases h
  | schema t => cases h

/-- Children added one after the other follow the declarations that were there. -/
theorem items_foldlM {ds es : Declarations φ} {cs : List (Child φ)}
    (h : cs.foldlM add? ds = .ok es) :
    ∃ items, cs = items.map .declaration ∧ es.items = ds.items ++ items := by
  induction cs generalizing ds with
  | nil =>
    cases h
    exact ⟨[], rfl, by simp⟩
  | cons c cs ih =>
    rw [List.foldlM_cons] at h
    cases hc : ds.add? c with
    | error e =>
      rw [hc] at h
      cases h
    | ok ds' =>
      rw [hc] at h
      obtain ⟨d, rfl, hd⟩ := add?_eq_ok hc
      obtain ⟨items, rfl, hi⟩ := ih h
      exact ⟨d :: items, rfl, by simp [hi, hd]⟩

theorem items_ofChildren? {es : Declarations φ} {cs : List (Child φ)}
    (h : ofChildren? cs = .ok es) : cs = es.items.map .declaration := by
  obtain ⟨items, rfl, hi⟩ := items_foldlM h
  rw [hi]
  rfl

/-! ## Distinct names -/

/-- No two declarations are of one kind and name. -/
structure Distinct (items : List (Declaration φ)) : Prop where
  imports : ((items.filterMap Declaration.import?).map ImportNode.target).Nodup
  types : ((items.filterMap Declaration.type?).map TypeNode.name).Nodup
  attributes : ((items.filterMap Declaration.attribute?).map AttributeNode.name).Nodup

theorem distinct (ds : Declarations φ) : Distinct ds.items :=
  ⟨ds.imports_nodup, ds.types_nodup, ds.attributes_nodup⟩

private theorem notMem_of_nodup_snoc {α : Type} {l : List α} {a : α} (h : (l ++ [a]).Nodup) : a ∉ l :=
  fun ha => (List.nodup_append.mp h).2.2 a ha a (by simp) rfl

/-- A declaration of a new name can be added. -/
theorem exists_add? {ds : Declarations φ} {d : Declaration φ} (h : Distinct (ds.items ++ [d])) :
    ∃ es, ds.add? (.declaration d) = .ok es := by
  rcases d with n | n | n | n
  · have hnew : n.target ∉ ds.importIndex.map Prod.fst := by
      rw [map_fst_importIndex]
      refine notMem_of_nodup_snoc ?_
      simpa [Declaration.import?, Declarations.imports] using h.imports
    exact ⟨_, dif_neg hnew⟩
  · have hnew : n.name ∉ ds.typeIndex.map Prod.fst := by
      rw [map_fst_typeIndex]
      refine notMem_of_nodup_snoc ?_
      simpa [Declaration.type?, Declarations.types] using h.types
    exact ⟨_, dif_neg hnew⟩
  · have hnew : n.name ∉ ds.attributeIndex.map Prod.fst := by
      rw [map_fst_attributeIndex]
      refine notMem_of_nodup_snoc ?_
      simpa [Declaration.attribute?, Declarations.attributes] using h.attributes
    exact ⟨_, dif_neg hnew⟩
  · exact ⟨_, rfl⟩

/-- What is distinct is distinct up to any place. -/
theorem Distinct.of_append {ds es : List (Declaration φ)} (h : Distinct (ds ++ es)) :
    Distinct ds := by
  obtain ⟨himports, htypes, hattributes⟩ := h
  simp only [List.filterMap_append, List.map_append] at himports htypes hattributes
  exact ⟨(List.nodup_append.mp himports).1, (List.nodup_append.mp htypes).1,
    (List.nodup_append.mp hattributes).1⟩

theorem exists_foldlM_add? {ds : Declarations φ} {items : List (Declaration φ)}
    (h : Distinct (ds.items ++ items)) : ∃ es, (items.map .declaration).foldlM add? ds = .ok es := by
  induction items generalizing ds with
  | nil => exact ⟨ds, rfl⟩
  | cons d items ih =>
    rw [← List.singleton_append, ← List.append_assoc] at h
    obtain ⟨next, hnext⟩ := exists_add? h.of_append
    obtain ⟨_, hd, hitems⟩ := add?_eq_ok hnext
    cases hd
    rw [← hitems] at h
    obtain ⟨es, hes⟩ := ih h
    exact ⟨es, by rw [List.map_cons, List.foldlM_cons, hnext]; exact hes⟩

/-- **Distinct declarations** make a list of declarations. -/
theorem ofChildren?_of_distinct {items : List (Declaration φ)} (h : Distinct items) :
    ∃ es, ofChildren? (items.map .declaration) = .ok es := by
  have hempty : Distinct ((empty : Declarations φ).items ++ items) := h
  exact exists_foldlM_add? hempty

end Declarations

/-- A tree made of children has them as its declarations. -/
theorem Tree.ofChildren?_eq_ok {position : Position} {data : φ.SchemaData} {name : SchemaName}
    {version : Version} {cs : List (Child φ)} {t : Tree φ}
    (h : Tree.ofChildren? position data name version cs = .ok t) :
    t.position = position ∧ t.data = data ∧ t.name = name ∧ t.version = version ∧
      cs = t.declarations.items.map .declaration := by
  unfold Tree.ofChildren? at h
  cases hd : Declarations.ofChildren? cs with
  | error e =>
    rw [hd] at h
    cases h
  | ok ds =>
    rw [hd] at h
    cases h
    exact ⟨rfl, rfl, rfl, rfl, Declarations.items_ofChildren? hd⟩

/-! ## Look-up -/

namespace Declarations

section

variable {κ ν : Type} [DecidableEq κ] {kind? : Declaration φ → Option ν} {key : ν → κ}

/-- The place of a name that was found behind other declarations leads to the first declaration of the
name. -/
theorem lookup_zipIdx (before items : List (Declaration φ)) (k : κ) :
    (((items.zipIdx before.length).filterMap fun e => ((kind? e.1).map key).map (·, e.2)).lookup
      k).bind (fun i => (before ++ items)[i]?.bind kind?) =
      (items.filterMap kind?).find? fun n => key n = k := by
  induction items generalizing before with
  | nil => rfl
  | cons d items ih =>
    -- For the rest, `d` is one more declaration before it: places are counted from the start.
    have hrest := ih (before ++ [d])
    rw [List.length_append, List.length_singleton, List.append_assoc, List.singleton_append] at hrest
    rw [List.zipIdx_cons]
    cases hd : kind? d with
    | none =>
      rw [List.filterMap_cons_none (by simp [hd]), List.filterMap_cons_none hd]
      exact hrest
    | some n =>
      rw [List.filterMap_cons_some (by simp only [hd, Option.map_some]; rfl),
        List.filterMap_cons_some hd]
      by_cases hk : key n = k
      · subst hk
        simp [hd]
      · rw [List.lookup_cons, beq_eq_false_iff_ne.mpr (Ne.symm hk),
          List.find?_cons_of_neg (by simpa using hk)]
        exact hrest

theorem node?_eq_find? (ds : Declarations φ) {index : List (κ × Nat)}
    (hindex : index = places (fun d => (kind? d).map key) ds.items) (k : κ) :
    ds.node? index kind? k = (ds.items.filterMap kind?).find? fun n => key n = k := by
  rw [hindex]
  exact lookup_zipIdx [] ds.items k

end

end Declarations

namespace Tree

variable {t : Tree φ}

theorem importOf?_eq_find? (q : SchemaName) :
    t.importOf? q = t.imports.find? fun n => n.target = q :=
  t.declarations.node?_eq_find? t.declarations.importIndex_eq q

theorem typeNamed?_eq_find? (n : TypeName) :
    t.typeNamed? n = t.types.find? fun node => node.name = n :=
  t.declarations.node?_eq_find? t.declarations.typeIndex_eq n

theorem attributeNamed?_eq_find? (n : AttributeName) :
    t.attributeNamed? n = t.attributes.find? fun node => node.name = n :=
  t.declarations.node?_eq_find? t.declarations.attributeIndex_eq n

theorem importOf?_eq_some {q : SchemaName} {n : ImportNode φ} :
    t.importOf? q = some n ↔ n ∈ t.imports ∧ n.target = q := by
  rw [importOf?_eq_find?]
  exact find?_eq_some_of_nodup t.declarations.imports_nodup

theorem typeNamed?_eq_some {name : TypeName} {n : TypeNode φ} :
    t.typeNamed? name = some n ↔ n ∈ t.types ∧ n.name = name := by
  rw [typeNamed?_eq_find?]
  exact find?_eq_some_of_nodup t.declarations.types_nodup

theorem attributeNamed?_eq_some {name : AttributeName} {n : AttributeNode φ} :
    t.attributeNamed? name = some n ↔ n ∈ t.attributes ∧ n.name = name := by
  rw [attributeNamed?_eq_find?]
  exact find?_eq_some_of_nodup t.declarations.attributes_nodup

/-- The counts are the sizes of the indices, which are those of the lists. -/
theorem counts_eq_lengths :
    t.counts = ⟨t.imports.length, t.types.length, t.attributes.length⟩ := by
  have hi := congrArg List.length t.declarations.map_fst_importIndex
  have ht := congrArg List.length t.declarations.map_fst_typeIndex
  have ha := congrArg List.length t.declarations.map_fst_attributeIndex
  rw [List.length_map, List.length_map] at hi ht ha
  unfold counts Declarations.counts
  rw [hi, ht, ha]
  rfl

theorem typeNamed?_isSome {n : TypeName} :
    (t.typeNamed? n).isSome = true ↔ n ∈ t.types.map TypeNode.name := by
  simp [typeNamed?_eq_find?]

theorem typeNamed?_of_mem {n : TypeNode φ} (h : n ∈ t.types) : t.typeNamed? n.name = some n :=
  typeNamed?_eq_some.mpr ⟨h, rfl⟩

end Tree

end MetaSchema
