import MetaSchema.Proofs.Syntax.Declarations
import MetaSchema.Syntax.Parser

/-!
# What the grammar lets pass

* `Grammar.mem_childrenOf`: each child of a schema was read from an element.
* `Tree.Tokened`: every cardinality of a tree is a known token.
* `Grammar.schema_eq_some`: the tree of a document has known cardinalities, and no error was reported
  for it.
* `Parser.parse_eq_some`: so it is with every document in version 1 of the language.
-/

namespace MetaSchema

/-- Every cardinality is a known token. -/
def Tree.Tokened {φ : Phase} (t : Tree φ) : Prop :=
  ∀ n ∈ t.attributes, ∃ c, Cardinality.ofToken? n.cardinality = some c

namespace Grammar

open Xml (Element)

variable {uri : String} {root e : Element}

theorem cardinality_eq_some {token : String} (h : (cardinality uri e).value = some token) :
    ∃ c, Cardinality.ofToken? token = some c := by
  unfold cardinality at h
  rw [Reported.value_bind] at h
  split at h
  · cases h
  · split at h
    · rename_i hc
      cases h
      exact Option.isSome_iff_exists.mp hc
    · cases h

/-- An attribute has the cardinality that was read. -/
theorem attributeNode_eq_some {n : AttributeNode .parsed} (h : (attributeNode uri e).value = some n) :
    ∃ c, Cardinality.ofToken? n.cardinality = some c := by
  unfold attributeNode at h
  simp only [Reported.value_bind, Reported.value_pure, Option.bind_eq_some_iff,
    Option.map_eq_some_iff] at h
  obtain ⟨name, -, reference, -, token, htoken, rfl⟩ := h
  exact cardinality_eq_some htoken

theorem child_eq_attribute {n : AttributeNode .parsed}
    (h : (child uri root e).value = some (.declaration (.attribute n))) :
    ∃ c, Cardinality.ofToken? n.cardinality = some c := by
  unfold child at h
  split at h
  · simp at h
  · simp at h
  · simp only [Reported.value_bind, Reported.value_pure, Option.map_eq_some_iff,
      Function.comp_apply, Child.declaration.injEq, Declaration.attribute.injEq,
      exists_eq_right] at h
    exact attributeNode_eq_some h
  · simp at h
  · cases h

/-- Each child was read from an element. -/
theorem mem_childrenOf {es : List Element} {c : Child .parsed}
    (h : c ∈ (childrenOf uri root es).value) : ∃ e ∈ es, (child uri root e).value = some c := by
  induction es with
  | nil => cases h
  | cons e es ih =>
    simp only [childrenOf, Reported.value_bind, Reported.value_pure, List.mem_append,
      Option.mem_toList] at h
    rcases h with h | h
    · exact ⟨e, List.mem_cons_self, h⟩
    · obtain ⟨e', he', hc⟩ := ih h
      exact ⟨e', List.mem_cons_of_mem _ he', hc⟩

/-- The tree of some content has its children as declarations, and nothing is reported of it. -/
theorem treeOf_eq_some {c : Content} {t : Tree .parsed} (h : (treeOf uri root c).value = some t) :
    c.children = t.declarations.items.map .declaration ∧ (treeOf uri root c).issues = [] := by
  unfold treeOf at h ⊢
  split at h
  · split at h
    · rename_i ht
      cases h
      exact ⟨(Tree.ofChildren?_eq_ok ht).2.2.2.2, rfl⟩
    · cases h
  · cases h

/-- **The tree of a root element.** -/
theorem schema_eq_some {t : Tree .parsed} (h : (schema uri root).value = some t) :
    t.Tokened ∧ ∀ i ∈ (schema uri root).issues, i.isError = false := by
  unfold schema at h ⊢
  split at h
  · rename_i htag
    simp only at h
    split at h
    · cases h
    · rename_i herrors
      obtain ⟨hchildren, hissues⟩ := treeOf_eq_some h
      rw [if_pos htag]
      simp only [if_neg herrors, Reported.issues_bind, hissues, List.append_nil]
      refine ⟨fun n hn => ?_, by simpa [Reported.hasErrors] using herrors⟩
      obtain ⟨d, hd, hattribute⟩ := List.mem_filterMap.mp hn
      obtain rfl : d = .attribute n := by
        cases d <;> simp_all [Declaration.attribute?]
      have hmem : .declaration (.attribute n) ∈ (content uri root).value.children := by
        rw [hchildren]
        exact List.mem_map_of_mem hd
      obtain ⟨e, -, he⟩ := mem_childrenOf hmem
      exact child_eq_attribute he
  · cases h

end Grammar

/-- **Parsing a document** in version 1 of the language. -/
theorem Parser.parse_eq_some {p : Parser} (hp : p.languages = [.version1]) {uri : String}
    {document : Text.Octets} {t : Tree .parsed} (h : (p.parse uri document).value = some t) :
    t.Tokened ∧ ∀ i ∈ (p.parse uri document).issues, i.isError = false := by
  unfold parse at h ⊢
  split at h
  · cases h
  · split at h
    · rename_i language hl
      have hmem := List.mem_of_find?_eq_some hl
      rw [hp, List.mem_singleton] at hmem
      subst hmem
      exact Grammar.schema_eq_some h
    · cases h

end MetaSchema
