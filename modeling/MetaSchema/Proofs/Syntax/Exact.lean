import MetaSchema.Proofs.Syntax.Conforming
import Mathlib.Data.List.Nodup

/-!
# Which documents have a tree

* `Grammar.Reads`, `Grammar.IsDeclaration.reads`: each element that may stand in the root element makes
  one declaration, of its name.
* `Grammar.distinct_iff_of_reads`: so declarations have different names just if their elements have.
* `Grammar.schema_isSome`, `Parser.parse_exact`: a root element has a tree just if it conforms, and a
  document just if it is well-formed and has such a root element.
-/

namespace MetaSchema

namespace Grammar

open Xml (Element)

variable {uri : String} {e root : Element}

/-! ## Declarations and their names -/

/-- What was read from an element has its name. -/
inductive Reads (e : Element) : Declaration .parsed → Prop
  | importing {n : ImportNode .parsed} (htag : Tagged "Import" e)
      (hname : value? e "name" = some n.target.text) : Reads e (.importing n)
  | type {n : TypeNode .parsed} (htag : Tagged "Type" e)
      (hname : value? e "name" = some n.name.text) : Reads e (.type n)
  | attribute {n : AttributeNode .parsed} (htag : Tagged "Attribute" e)
      (hname : value? e "name" = some n.name.text) : Reads e (.attribute n)
  | comment {n : CommentNode} (htag : Tagged "Comment" e) : Reads e (.comment n)

theorem IsImport.exists_value (h : IsImport e) (uri : String) :
    ∃ n, (importNode uri e).value = some n ∧ value? e "name" = some n.target.text := by
  obtain ⟨target, htarget⟩ := (requiredName_decides uri e .schema "name").exists_some h.name
  obtain ⟨version, hversion⟩ := (version_decides uri e).exists_some h.version
  exact ⟨⟨position uri e.place, (), target, version⟩, by simp [importNode, htarget, hversion],
    requiredName_eq_some.mp htarget⟩

theorem IsType.exists_value (h : IsType e) (uri : String) :
    ∃ n, (typeNode uri e).value = some n ∧ value? e "name" = some n.name.text := by
  obtain ⟨first, comments, hchildren, hfirst, -⟩ := h.children
  obtain ⟨name, hname⟩ := (requiredName_decides uri e .type "name").exists_some h.name
  obtain ⟨base, hbase⟩ := (leadingReference_decides uri e "Type" (elements uri e).value).exists_some
    ⟨first, comments, hchildren, hfirst⟩
  simp only [typeNode, Reported.value_bind, Reported.value_pure, hname, hbase, Option.bind_some,
    Option.map_some]
  exact ⟨_, rfl, requiredName_eq_some.mp hname⟩

theorem IsAttribute.exists_value (h : IsAttribute e) (uri : String) :
    ∃ n, (attributeNode uri e).value = some n ∧ value? e "name" = some n.name.text := by
  obtain ⟨first, hchildren, hfirst⟩ := h.children
  obtain ⟨name, hname⟩ := (requiredName_decides uri e .attribute "name").exists_some h.name
  obtain ⟨token, htoken⟩ := (cardinality_decides uri e).exists_some h.cardinality
  obtain ⟨reference, hreference⟩ :=
    (leadingReference_decides uri e "Attribute" (elements uri e).value).exists_some
      ⟨first, [], hchildren, hfirst⟩
  simp only [attributeNode, Reported.value_bind, Reported.value_pure, hname, hreference, htoken,
    Option.bind_some, Option.map_some]
  exact ⟨_, rfl, requiredName_eq_some.mp hname⟩

/-- Which declaration an element may be is known from its tag. -/
theorem IsDeclaration.cases_tag {tag : String} (h : IsDeclaration e) (htag : Tagged tag e) :
    (tag = "Import" ∧ IsImport e) ∨ (tag = "Type" ∧ IsType e) ∨ (tag = "Attribute" ∧ IsAttribute e) ∨
      (tag = "Comment" ∧ IsComment e) :=
  h.imp (fun h => ⟨htag.unique h.tagged, h⟩) <| Or.imp (fun h => ⟨htag.unique h.tagged, h⟩) <|
    Or.imp (fun h => ⟨htag.unique h.tagged, h⟩) fun h => ⟨htag.unique h.tagged, h⟩

/-- An element is read without errors just if it may stand in the root element. -/
theorem child_clean : ¬ AnyError (child uri root e).issues ↔ IsDeclaration e := by
  unfold child
  split
  · rename_i htag
    have htag := tag?_eq_some.mp htag
    have hiff : IsDeclaration e ↔ IsImport e := ⟨fun h => by simpa using h.cases_tag htag, .inl⟩
    rw [hiff, ← importNode_clean htag, Reported.issues_bind, Reported.issues_pure, List.append_nil]
  · rename_i htag
    have htag := tag?_eq_some.mp htag
    have hiff : IsDeclaration e ↔ IsType e :=
      ⟨fun h => by simpa using h.cases_tag htag, fun h => .inr (.inl h)⟩
    rw [hiff, ← typeNode_clean htag, Reported.issues_bind, Reported.issues_pure, List.append_nil]
  · rename_i htag
    have htag := tag?_eq_some.mp htag
    have hiff : IsDeclaration e ↔ IsAttribute e :=
      ⟨fun h => by simpa using h.cases_tag htag, fun h => .inr (.inr (.inl h))⟩
    rw [hiff, ← attributeNode_clean htag, Reported.issues_bind, Reported.issues_pure, List.append_nil]
  · rename_i htag
    have htag := tag?_eq_some.mp htag
    have hiff : IsDeclaration e ↔ IsComment e :=
      ⟨fun h => by simpa using h.cases_tag htag, fun h => .inr (.inr (.inr h))⟩
    rw [hiff, ← commentNode_clean htag, Reported.issues_bind, Reported.issues_pure, List.append_nil]
  · rename_i himport htype hattribute hcomment
    -- Each kind of declaration has one of the four tags that were ruled out.
    have hno : ¬ IsDeclaration e := by
      rintro (h | h | h | h)
      · exact himport (tag?_eq_some.mpr h.tagged)
      · exact htype (tag?_eq_some.mpr h.tagged)
      · exact hattribute (tag?_eq_some.mpr h.tagged)
      · exact hcomment (tag?_eq_some.mpr h.tagged)
    simp [Reported.fail, misplaced, violation, hno]

theorem IsDeclaration.reads (h : IsDeclaration e) (uri : String) (root : Element) :
    ∃ d, (child uri root e).value = some (.declaration d) ∧ Reads e d := by
  rcases h with h | h | h | h
  · obtain ⟨n, hn, hname⟩ := h.exists_value uri
    exact ⟨.importing n, by simp [child, tag?_eq_some.mpr h.tagged, hn], .importing h.tagged hname⟩
  · obtain ⟨n, hn, hname⟩ := h.exists_value uri
    exact ⟨.type n, by simp [child, tag?_eq_some.mpr h.tagged, hn], .type h.tagged hname⟩
  · obtain ⟨n, hn, hname⟩ := h.exists_value uri
    exact ⟨.attribute n, by simp [child, tag?_eq_some.mpr h.tagged, hn], .attribute h.tagged hname⟩
  · exact ⟨.comment (commentNode uri e).value, by simp [child, tag?_eq_some.mpr h.tagged],
      .comment h.tagged⟩

theorem childrenOf_clean {es : List Element} :
    ¬ AnyError (childrenOf uri root es).issues ↔ ∀ e ∈ es, IsDeclaration e := by
  induction es with
  | nil => simp [childrenOf]
  | cons e es ih =>
    simp only [childrenOf, Reported.issues_bind, Reported.issues_pure, List.append_nil, anyError_append,
      not_or, child_clean, ih, List.forall_mem_cons]

/-- Each element that may stand in the root element makes one declaration. -/
theorem childrenOf_reads {es : List Element} (h : ∀ e ∈ es, IsDeclaration e) (uri : String)
    (root : Element) : ∃ ds : List (Declaration .parsed),
      (childrenOf uri root es).value = ds.map .declaration ∧ List.Forall₂ Reads es ds := by
  induction es with
  | nil => exact ⟨[], rfl, .nil⟩
  | cons e es ih =>
    obtain ⟨he, hes⟩ := List.forall_mem_cons.mp h
    obtain ⟨d, hd, hread⟩ := he.reads uri root
    obtain ⟨ds, hds, hreads⟩ := ih hes
    refine ⟨d :: ds, ?_, .cons hread hreads⟩
    simp [childrenOf, hd, hds]

/-- The names of declarations are those of their elements. -/
theorem keys_of_reads {es : List Element} {ds : List (Declaration .parsed)}
    (h : List.Forall₂ Reads es ds) :
    keys "Import" es = (ds.filterMap Declaration.import?).map (fun n => some n.target.text) ∧
    keys "Type" es = (ds.filterMap Declaration.type?).map (fun n => some n.name.text) ∧
    keys "Attribute" es = (ds.filterMap Declaration.attribute?).map (fun n => some n.name.text) := by
  induction h with
  | nil => exact ⟨rfl, rfl, rfl⟩
  | cons hread _ ih =>
    obtain ⟨himports, htypes, hattributes⟩ := ih
    rcases hread with ⟨htag, hname⟩ | ⟨htag, hname⟩ | ⟨htag, hname⟩ | htag <;>
      simp only [Tagged] at htag <;>
      simp_all [keys, List.filterMap_cons, Declaration.import?, Declaration.type?,
        Declaration.attribute?]

theorem nodup_map_text {α : Type} {k : NameKind} {f : α → Name k} {l : List α} :
    (l.map fun a => some (f a).text).Nodup ↔ (l.map f).Nodup := by
  have hinj : Function.Injective fun n : Name k => some n.text :=
    fun _ _ h => Name.ext_text (Option.some.inj h)
  rw [← List.nodup_map_iff hinj, List.map_map]
  rfl

/-- Declarations have different names just if their elements have. -/
theorem distinct_iff_of_reads {es : List Element} {ds : List (Declaration .parsed)}
    (h : List.Forall₂ Reads es ds) : Declarations.Distinct ds ↔
      (keys "Import" es).Nodup ∧ (keys "Type" es).Nodup ∧ (keys "Attribute" es).Nodup := by
  obtain ⟨himports, htypes, hattributes⟩ := keys_of_reads h
  rw [himports, htypes, hattributes, nodup_map_text, nodup_map_text, nodup_map_text]
  exact ⟨fun h => ⟨h.imports, h.types, h.attributes⟩, fun h => ⟨h.1, h.2.1, h.2.2⟩⟩

/-! ## The root element -/

theorem content_clean : ¬ AnyError (content uri root).issues ↔
    Allows ["name", "versionMajor", "versionMinor"] root ∧ Named .schema "name" root ∧ Versioned root ∧
      Textless root ∧ ∀ e ∈ childElements root, IsDeclaration e := by
  simp only [content, Reported.issues_bind, Reported.issues_pure, List.append_nil, anyError_append,
    not_or, checkPairs_clean, (requiredName_decides uri root _ _).clean, (version_decides uri root).clean,
    elements_clean, childrenOf_clean]
  rfl

/-- Content without errors makes a tree just if no two of its declarations have one name. -/
theorem treeOf_isSome (h : ¬ AnyError (content uri root).issues) :
    (treeOf uri root (content uri root).value).value.isSome = true ↔
      (keys "Import" (childElements root)).Nodup ∧ (keys "Type" (childElements root)).Nodup ∧
        (keys "Attribute" (childElements root)).Nodup := by
  obtain ⟨name, version, hname, hversion⟩ := content_complete h
  obtain ⟨-, -, -, -, hchildren⟩ := content_clean.mp h
  obtain ⟨ds, hds, hreads⟩ := childrenOf_reads hchildren uri root
  have hds : (content uri root).value.children = ds.map .declaration := hds
  rw [← distinct_iff_of_reads hreads, treeOf, hname, hversion, hds]
  simp only [Tree.ofChildren?]
  constructor
  · intro htree
    -- The declarations of a tree have different names, and they are the children.
    cases hes : Declarations.ofChildren? (ds.map .declaration) with
    | error error => simp [hes, Except.map, Reported.fail] at htree
    | ok es =>
      have hitems : ds = es.items :=
        List.map_injective_iff.mpr (fun _ _ h => by cases h; rfl) (Declarations.items_ofChildren? hes)
      exact hitems ▸ es.distinct
  · intro hdistinct
    obtain ⟨es, hes⟩ := Declarations.ofChildren?_of_distinct hdistinct
    simp [hes, Except.map]

/-- **The root element of a document** has a tree just if it conforms. -/
theorem schema_isSome (uri : String) (root : Element) :
    (schema uri root).value.isSome = true ↔ Conforms root := by
  unfold schema
  split
  · rename_i htag
    have htag := tag?_eq_some.mp htag
    simp only
    split
    · rename_i herrors
      -- A root that conforms would have content without errors.
      have hno : ¬ Conforms root := by
        intro h
        exact content_clean.mpr ⟨h.allows, h.name, h.version, h.textless, h.children⟩
          (hasErrors_eq_true.mp herrors)
      simp [hno]
    · rename_i herrors
      rw [hasErrors_eq_true] at herrors
      rw [Reported.value_bind, treeOf_isSome herrors]
      obtain ⟨hallows, hname, hversion, htextless, hchildren⟩ := content_clean.mp herrors
      constructor
      · rintro ⟨himports, htypes, hattributes⟩
        exact ⟨htag, hallows, htextless, hname, hversion, hchildren, himports, htypes, hattributes⟩
      · exact fun h => ⟨h.imports_nodup, h.types_nodup, h.attributes_nodup⟩
  · rename_i htag
    have hno : ¬ Conforms root := fun h => htag (tag?_eq_some.mpr h.tagged)
    simp [Reported.fail, hno]

end Grammar

/-- A document has a root element if it can be decoded and is well-formed, within the limit. -/
theorem Parser.root?_eq_ok {limit : Nat} {uri : String} {document : Text.Octets} {root : Xml.Element} :
    (⟨limit, [.version1]⟩ : Parser).root? uri document = .ok root ↔
      0 < limit ∧ ∃ text, Text.decodeDocument document = .ok text ∧ Xml.root? limit text = .ok root := by
  unfold root? unusable?
  rcases Nat.eq_zero_or_pos limit with rfl | hlimit
  · simp
  · simp only [if_neg (Nat.ne_of_gt hlimit), List.isEmpty_cons, Bool.false_eq_true, if_false, hlimit,
      true_and]
    cases Text.decodeDocument document with
    | error encoding => simp
    | ok text =>
      simp only [Except.ok.injEq, exists_eq_left']
      cases Xml.root? limit text <;> simp

theorem Parser.parse_isSome {limit : Nat} {uri : String} {document : Text.Octets} :
    ((⟨limit, [.version1]⟩ : Parser).parse uri document).value.isSome = true ↔
      ∃ root, (⟨limit, [.version1]⟩ : Parser).root? uri document = .ok root ∧ Grammar.Conforms root := by
  unfold parse
  cases (⟨limit, [.version1]⟩ : Parser).root? uri document with
  | error error => simp [Reported.fail]
  | ok root =>
    simp only [Except.ok.injEq, exists_eq_left']
    by_cases hspace : root.name.uri = some languageUri
    · have hlanguage : (⟨limit, [.version1]⟩ : Parser).language? (root.name.uri.getD "") =
          some .version1 := by
        rw [hspace]
        rfl
      rw [hlanguage]
      exact Grammar.schema_isSome uri root
    · have hno : ¬ Grammar.Conforms root := fun h => hspace (by rw [h.tagged])
      have hother : languageUri ≠ root.name.uri.getD "" := by
        cases huri : root.name.uri with
        | none => decide
        | some other => exact fun heq => hspace (by rw [huri, heq]; rfl)
      have hlanguage : (⟨limit, [.version1]⟩ : Parser).language? (root.name.uri.getD "") = none := by
        simp [language?, Language.version1, hother]
      rw [hlanguage]
      simp [Reported.fail, hno]

/-- **Version 1 accepts just its grammar.** A root element has a tree exactly if it conforms, and a document
exactly if it is well-formed, within the limit, and its root element conforms. -/
theorem Parser.parse_exact (limit : Nat) (uri : String) :
    (∀ root, (Grammar.schema uri root).value.isSome = true ↔ Grammar.Conforms root) ∧
    ∀ document, ((⟨limit, [.version1]⟩ : Parser).parse uri document).value.isSome = true ↔
      0 < limit ∧ ∃ text root, Text.decodeDocument document = .ok text ∧
        Xml.root? limit text = .ok root ∧ Grammar.Conforms root := by
  refine ⟨Grammar.schema_isSome uri, fun document => parse_isSome.trans ?_⟩
  constructor
  · rintro ⟨root, hdocument, hconforms⟩
    obtain ⟨hlimit, text, htext, hroot⟩ := root?_eq_ok.mp hdocument
    exact ⟨hlimit, text, root, htext, hroot, hconforms⟩
  · rintro ⟨hlimit, text, root, htext, hroot, hconforms⟩
    exact ⟨root, root?_eq_ok.mpr ⟨hlimit, text, htext, hroot⟩, hconforms⟩

end MetaSchema
