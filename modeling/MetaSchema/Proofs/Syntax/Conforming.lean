import MetaSchema.Proofs.Syntax.Explained

/-!
# The grammar of version 1

What the elements of the language may be, said of each as a whole and without the order in which it is
read, and that each is read without errors just if it is that.

* `Grammar.Allows`, `Grammar.Textless`, `Grammar.Empty`: the attributes and the content that an element
  may have.
* `Grammar.Named`, `Grammar.Numbered`: an attribute that is there and holds a name or a number.
* `Grammar.IsReference`, `Grammar.IsImport`, `Grammar.IsType`, `Grammar.IsAttribute`,
  `Grammar.IsComment`: the elements of the language.
* `Grammar.Conforms`: the root element of a schema document.
* `Reported.Decides`: a result that is there, and without errors, just under a condition.
* `writtenReference_decides`, `importNode_clean` and their siblings: the elements that are accepted.
-/

namespace MetaSchema

namespace Grammar

open Xml (Element Node ExpandedName)

/-! ## The grammar -/

/-- An element of the language. -/
def Tagged (tag : String) (e : Element) : Prop := e.name = ⟨some languageUri, tag⟩

/-- Every attribute without a namespace is one of those allowed, and none has the language's. -/
def Allows (allowed : List String) (e : Element) : Prop :=
  ∀ p ∈ e.pairs, (p.name.uri = none → p.name.base ∈ allowed) ∧ p.name.uri ≠ some languageUri

/-- The child elements. -/
def childElements (e : Element) : List Element := e.children.filterMap element?

/-- All text between the children is blank. -/
def Textless (e : Element) : Prop :=
  ∀ content place, Node.text content place ∈ e.children → ∀ c ∈ content.toList, Text.isBlank c = true

/-- Nothing stands in the element but blanks. -/
structure Empty (e : Element) : Prop where
  textless : Textless e
  childless : childElements e = []

/-- The attribute `key` is there and holds a name. -/
def Named (k : NameKind) (key : String) (e : Element) : Prop :=
  ∃ name : Name k, value? e key = some name.text

/-- The attribute `key` is there and holds ASCII digits, with blanks around them. -/
def Numbered (key : String) (e : Element) : Prop :=
  ∃ value, value? e key = some value ∧ Text.trimBlank value.toList ≠ [] ∧
    ∀ c ∈ Text.trimBlank value.toList, '0' ≤ c ∧ c ≤ '9'

/-- Both numbers of a version are there. -/
structure Versioned (e : Element) : Prop where
  major : Numbered "versionMajor" e
  minor : Numbered "versionMinor" e

structure IsComment (e : Element) : Prop where
  tagged : Tagged "Comment" e
  allows : Allows [] e
  childless : childElements e = []

structure IsPrimitiveReference (e : Element) : Prop where
  tagged : Tagged "TypeReferencePrimitive" e
  allows : Allows ["type"] e
  empty : Empty e
  keyword : ∃ p : Primitive, value? e "type" = some p.keyword

structure IsNamedReference (e : Element) : Prop where
  tagged : Tagged "TypeReferenceNamed" e
  allows : Allows ["schema", "name"] e
  empty : Empty e
  qualifier : value? e "schema" = none ∨ Named .schema "schema" e
  name : Named .type "name" e

def IsReference (e : Element) : Prop := IsPrimitiveReference e ∨ IsNamedReference e

structure IsImport (e : Element) : Prop where
  tagged : Tagged "Import" e
  allows : Allows ["name", "versionMajor", "versionMinor"] e
  empty : Empty e
  name : Named .schema "name" e
  version : Versioned e

structure IsType (e : Element) : Prop where
  tagged : Tagged "Type" e
  allows : Allows ["name"] e
  textless : Textless e
  name : Named .type "name" e
  children : ∃ base comments, childElements e = base :: comments ∧ IsReference base ∧
    comments.length ≤ 1 ∧ ∀ c ∈ comments, IsComment c

structure IsAttribute (e : Element) : Prop where
  tagged : Tagged "Attribute" e
  allows : Allows ["name", "cardinality"] e
  textless : Textless e
  name : Named .attribute "name" e
  cardinality : ∃ c : Cardinality, value? e "cardinality" = some c.token
  children : ∃ reference, childElements e = [reference] ∧ IsReference reference

/-- An element that may stand in the root element. -/
def IsDeclaration (e : Element) : Prop := IsImport e ∨ IsType e ∨ IsAttribute e ∨ IsComment e

/-- The names of those of some elements that have this tag. -/
def keys (tag : String) (es : List Element) : List (Option String) :=
  (es.filter (·.name = ⟨some languageUri, tag⟩)).map (value? · "name")

/-- The root element of a schema document. -/
structure Conforms (root : Element) : Prop where
  tagged : Tagged "Schema" root
  allows : Allows ["name", "versionMajor", "versionMinor"] root
  textless : Textless root
  name : Named .schema "name" root
  version : Versioned root
  children : ∀ e ∈ childElements root, IsDeclaration e
  imports_nodup : (keys "Import" (childElements root)).Nodup
  types_nodup : (keys "Type" (childElements root)).Nodup
  attributes_nodup : (keys "Attribute" (childElements root)).Nodup

end Grammar

/-- No error is reported just if `P` holds, and the result is there then. -/
structure Reported.Decides {α : Type} (r : Reported (Option α)) (P : Prop) : Prop where
  clean : ¬ AnyError r.issues ↔ P
  exists_some : P → ∃ a, r.value = some a

theorem Reported.Explained.decides {α : Type} {r : Reported (Option α)} (h : r.Explained) :
    r.Decides (∃ a, r.value = some a) where
  clean := by
    rw [← Option.ne_none_iff_exists']
    exact (not_congr h).symm
  exists_some := id

/-! ## Names and numbers -/

theorem Primitive.ofKeyword?_eq_some {s : String} {p : Primitive} :
    ofKeyword? s = some p ↔ s = p.keyword := by
  constructor
  · intro h
    have hfound := List.find?_some h
    exact (by simpa using hfound : p.keyword = s).symm
  · rintro rfl
    exact ofKeyword?_keyword p

theorem Cardinality.ofToken?_isSome {s : String} :
    (ofToken? s).isSome = true ↔ ∃ c : Cardinality, s = c.token := by
  constructor
  · intro h
    unfold ofToken? at h
    split at h
    · exact ⟨.exactlyOne, rfl⟩
    · exact ⟨.zeroOrOne, rfl⟩
    · exact ⟨.zeroOrMany, rfl⟩
    · exact ⟨.oneOrMany, rfl⟩
    · cases h
  · rintro ⟨c, rfl⟩
    rw [ofToken?_token]
    rfl

theorem Text.digitsFrom?_isSome {n : Nat} {cs : List Char} :
    (digitsFrom? n cs).isSome = true ↔ ∀ c ∈ cs, '0' ≤ c ∧ c ≤ '9' := by
  induction cs generalizing n with
  | nil => simp [digitsFrom?]
  | cons c cs ih =>
    rw [List.forall_mem_cons, digitsFrom?, digit?]
    split
    · rename_i hc
      rw [Option.bind_some, ih, and_iff_right hc]
    · rename_i hc
      simp [hc]

/-- Digits write a number. -/
theorem Text.natural?_isSome {cs : List Char} :
    (natural? cs).isSome = true ↔ cs ≠ [] ∧ ∀ c ∈ cs, '0' ≤ c ∧ c ≤ '9' := by
  cases cs with
  | nil => simp [natural?]
  | cons c cs =>
    rw [natural?, digitsFrom?_isSome]
    simp

namespace Grammar

open Xml (Element Node ExpandedName)

variable {uri : String} {e parent root : Element}

/-! ## Attributes and content -/

theorem tag?_eq_some {tag : String} : tag? e = some tag ↔ Tagged tag e := by
  obtain ⟨⟨space, base⟩, _⟩ := e
  simp [tag?, Tagged]

/-- An element has one tag. -/
theorem Tagged.unique {a b : String} (ha : Tagged a e) (hb : Tagged b e) : a = b :=
  congrArg ExpandedName.base (ha.symm.trans hb)

theorem checkPairs_clean {allowed : List String} :
    ¬ AnyError (checkPairs uri e allowed).issues ↔ Allows allowed e := by
  simp only [checkPairs, AnyError, List.mem_filterMap, not_exists, not_and, forall_exists_index,
    and_imp]
  constructor
  · intro h p hp
    constructor
    · intro hnone
      by_contra hbase
      exact h _ p hp (by rw [pairIssue?, hnone]; exact if_neg hbase) rfl
    · intro hown
      exact h _ p hp (by rw [pairIssue?, hown]; exact if_pos rfl) rfl
  · intro h i p hp hi herror
    obtain ⟨hallowed, hown⟩ := h p hp
    unfold pairIssue? at hi
    split at hi
    · rename_i hnone
      rw [if_pos (hallowed hnone)] at hi
      cases hi
    · rename_i other hother
      have hforeign : other ≠ languageUri := fun heq => hown (by rw [hother, heq])
      rw [if_neg hforeign] at hi
      cases hi
      cases herror

theorem elements_clean : ¬ AnyError (elements uri e).issues ↔ Textless e := by
  simp only [elements, AnyError, List.mem_filterMap, not_exists, not_and, forall_exists_index, and_imp]
  constructor
  · intro h content place hmem
    by_contra hblank
    have hstray : strayText? uri e (.text content place) =
        some (violation uri place (.textNotAllowed (shown e.name))) := by
      refine if_neg ?_
      rwa [Text.allBlank, List.all_eq_true]
    exact h _ _ hmem hstray rfl
  · intro h i node hnode hi
    cases node with
    | element => cases hi
    | text content place =>
      rw [strayText?, if_pos] at hi
      · cases hi
      · exact List.all_eq_true.mpr (h content place hnode)

theorem refuse_clean {es : List Element} : ¬ AnyError (refuse uri e es).issues ↔ es = [] := by
  cases es with
  | nil => simp [refuse]
  | cons child es => simp [refuse, AnyError, misplaced, violation]

theorem checkEmpty_clean : ¬ AnyError (checkEmpty uri e).issues ↔ Empty e := by
  rw [checkEmpty, Reported.issues_bind, anyError_append, not_or, elements_clean, refuse_clean]
  exact ⟨fun h => ⟨h.1, h.2⟩, fun h => ⟨h.textless, h.childless⟩⟩

theorem requiredName_eq_some {k : NameKind} {key : String} {name : Name k} :
    (requiredName uri e k key).value = some name ↔ value? e key = some name.text := by
  rw [requiredName, Reported.value_bind, required]
  cases value? e key with
  | none => simp [Reported.fail]
  | some value =>
    simp only [Reported.value_pure, nameOf, Option.some.injEq, ← Name.ofString?_eq_ok]
    cases Name.ofString? k value <;> simp [Reported.fail]

theorem requiredName_decides (uri : String) (e : Element) (k : NameKind) (key : String) :
    (requiredName uri e k key).Decides (Named k key e) := by
  have h := (requiredName_explained uri e k key).decides
  simp only [requiredName_eq_some] at h
  exact h

theorem requiredNumber_decides (uri : String) (e : Element) (key : String) :
    (requiredNumber uri e key).Decides (Numbered key e) := by
  have h := (requiredNumber_explained uri e key).decides
  have hvalue : (∃ n, (requiredNumber uri e key).value = some n) ↔ Numbered key e := by
    rw [← Option.isSome_iff_exists, requiredNumber, Reported.value_bind, required, Numbered]
    cases value? e key with
    | none => simp [Reported.fail]
    | some value =>
      simp only [Reported.value_pure, Option.some.injEq, exists_eq_left', ← Text.natural?_isSome]
      cases Text.natural? (Text.trimBlank value.toList) <;> simp [Reported.fail]
  rwa [hvalue] at h

theorem version_decides (uri : String) (e : Element) : (version uri e).Decides (Versioned e) where
  clean := by
    simp only [version, Reported.issues_bind, Reported.issues_pure, List.append_nil, anyError_append,
      not_or, (requiredNumber_decides uri e _).clean]
    exact ⟨fun h => ⟨h.1, h.2⟩, fun h => ⟨h.major, h.minor⟩⟩
  exists_some := by
    rintro ⟨hmajor, hminor⟩
    obtain ⟨major, hmajor⟩ := (requiredNumber_decides uri e "versionMajor").exists_some hmajor
    obtain ⟨minor, hminor⟩ := (requiredNumber_decides uri e "versionMinor").exists_some hminor
    exact ⟨⟨major, minor⟩, by simp [version, hmajor, hminor]⟩

/-! ## The elements of the language -/

theorem commentNode_clean (htag : Tagged "Comment" e) :
    ¬ AnyError (commentNode uri e).issues ↔ IsComment e := by
  simp only [commentNode, Reported.issues_bind, Reported.issues_pure, List.append_nil, anyError_append,
    not_or, checkPairs_clean, refuse_clean]
  exact ⟨fun h => ⟨htag, h.1, h.2⟩, fun h => ⟨h.allows, h.childless⟩⟩

theorem primitiveReference_decides (uri : String) (htag : Tagged "TypeReferencePrimitive" e) :
    (primitiveReference uri e).Decides (IsPrimitiveReference e) where
  clean := by
    simp only [primitiveReference, Reported.issues_bind, anyError_append, not_or, checkPairs_clean,
      checkEmpty_clean]
    constructor
    · rintro ⟨hallows, hempty, hrequired, hkeyword⟩
      refine ⟨htag, hallows, hempty, ?_⟩
      rw [required] at hrequired hkeyword
      cases hvalue : value? e "type" with
      | none => simp [hvalue, Reported.fail, violation] at hrequired
      | some keyword =>
        cases hp : Primitive.ofKeyword? keyword with
        | none => simp [hvalue, hp, Reported.fail, violation] at hkeyword
        | some p => exact ⟨p, congrArg some (Primitive.ofKeyword?_eq_some.mp hp)⟩
    · rintro ⟨-, hallows, hempty, p, hp⟩
      refine ⟨hallows, hempty, ?_⟩
      simp [required, hp, Primitive.ofKeyword?_keyword]
  exists_some := by
    rintro ⟨-, -, -, p, hp⟩
    exact ⟨.primitive p, by simp [primitiveReference, required, hp, Primitive.ofKeyword?_keyword]⟩

theorem qualifier_decides (uri : String) (e : Element) :
    (qualifier uri e).Decides (value? e "schema" = none ∨ Named .schema "schema" e) := by
  unfold qualifier Named
  cases value? e "schema" with
  | none => exact ⟨by simp, fun _ => ⟨none, rfl⟩⟩
  | some value =>
    have hname : ∀ name : SchemaName, some value = some name.text ↔
        Name.ofString? .schema value = .ok name := by
      intro name
      rw [Option.some.injEq, Name.ofString?_eq_ok]
    simp only [hname, reduceCtorEq, false_or]
    cases hvalue : Name.ofString? .schema value with
    | ok name => exact ⟨by simp [nameOf, hvalue], fun _ => ⟨some name, by simp [nameOf, hvalue]⟩⟩
    | error error => exact ⟨by simp [nameOf, hvalue, Reported.fail, violation], by simp⟩

theorem namedReference_decides (uri : String) (htag : Tagged "TypeReferenceNamed" e) :
    (namedReference uri e).Decides (IsNamedReference e) where
  clean := by
    simp only [namedReference, Reported.issues_bind, Reported.issues_pure, List.append_nil,
      anyError_append, not_or, checkPairs_clean, checkEmpty_clean, (qualifier_decides uri e).clean,
      (requiredName_decides uri e _ _).clean]
    constructor
    · rintro ⟨hallows, hempty, hqualifier, hname⟩
      exact ⟨htag, hallows, hempty, hqualifier, hname⟩
    · rintro ⟨-, hallows, hempty, hqualifier, hname⟩
      exact ⟨hallows, hempty, hqualifier, hname⟩
  exists_some := by
    rintro ⟨-, -, -, hqualifier, hname⟩
    obtain ⟨schema, hschema⟩ := (qualifier_decides uri e).exists_some hqualifier
    obtain ⟨name, hname⟩ := (requiredName_decides uri e .type "name").exists_some hname
    exact ⟨.named schema name, by simp [namedReference, hschema, hname]⟩

theorem writtenReference_decides (uri : String) (parent e : Element) :
    (writtenReference uri parent e).Decides (IsReference e) := by
  unfold writtenReference IsReference
  split
  · rename_i htag
    have htag := tag?_eq_some.mp htag
    have hother : ¬ IsNamedReference e := fun h => absurd (h.tagged.unique htag) (by decide)
    rw [or_iff_left hother]
    exact primitiveReference_decides uri htag
  · rename_i htag
    have htag := tag?_eq_some.mp htag
    have hother : ¬ IsPrimitiveReference e := fun h => absurd (h.tagged.unique htag) (by decide)
    rw [or_iff_right hother]
    exact namedReference_decides uri htag
  · rename_i hprimitive hnamed
    have hno : ¬ (IsPrimitiveReference e ∨ IsNamedReference e) := by
      rintro (h | h)
      · exact hprimitive (tag?_eq_some.mpr h.tagged)
      · exact hnamed (tag?_eq_some.mpr h.tagged)
    exact ⟨by simp [Reported.fail, violation, hno], fun h => (hno h).elim⟩

theorem reference_decides (uri : String) (parent e : Element) :
    (reference uri parent e).Decides (IsReference e) where
  clean := by
    simp only [reference, Reported.issues_bind, Reported.issues_pure, List.append_nil]
    exact (writtenReference_decides uri parent e).clean
  exists_some := by
    intro h
    obtain ⟨written, hwritten⟩ := (writtenReference_decides uri parent e).exists_some h
    exact ⟨⟨position uri e.place, (), written⟩, by simp [reference, hwritten]⟩

theorem leadingReference_decides (uri : String) (e : Element) (tag : String) (es : List Element) :
    (leadingReference uri e tag es).Decides (∃ base rest, es = base :: rest ∧ IsReference base) := by
  cases es with
  | nil => exact ⟨by simp [leadingReference, Reported.fail, violation], by simp⟩
  | cons base rest =>
    have hiff : (∃ b r, base :: rest = b :: r ∧ IsReference b) ↔ IsReference base := by
      constructor
      · rintro ⟨b, r, heq, h⟩
        cases heq
        exact h
      · exact fun h => ⟨base, rest, rfl, h⟩
    rw [hiff]
    exact reference_decides uri e base

theorem trailingComment_clean {es : List Element} :
    ¬ AnyError (trailingComment uri e es).issues ↔ es.length ≤ 1 ∧ ∀ c ∈ es, IsComment c := by
  cases es with
  | nil => simp [trailingComment]
  | cons child others =>
    -- Only the first element may be a comment; all that is behind it is refused.
    have hlength : (child :: others).length ≤ 1 ↔ others = [] := by
      rw [← List.length_eq_zero_iff, List.length_cons]
      omega
    rw [hlength]
    by_cases htag : tag? child = some "Comment"
    · simp only [trailingComment, if_pos htag, Reported.issues_bind, Reported.issues_map,
        Reported.issues_pure, List.append_nil, anyError_append, not_or, refuse_clean,
        commentNode_clean (tag?_eq_some.mp htag)]
      constructor
      · rintro ⟨hcomment, rfl⟩
        simpa using hcomment
      · rintro ⟨rfl, hcomment⟩
        exact ⟨hcomment child List.mem_cons_self, rfl⟩
    · have hno : ¬ IsComment child := fun h => htag (tag?_eq_some.mpr h.tagged)
      have herror : AnyError (.fail (misplaced uri e child) : Reported (Option CommentNode)).issues := by
        simp [Reported.fail, misplaced, violation]
      simp only [trailingComment, if_neg htag, Reported.issues_bind, anyError_append, herror, true_or,
        not_true_eq_false, false_iff]
      exact fun h => hno (h.2 child List.mem_cons_self)

theorem importNode_clean (htag : Tagged "Import" e) :
    ¬ AnyError (importNode uri e).issues ↔ IsImport e := by
  simp only [importNode, Reported.issues_bind, Reported.issues_pure, List.append_nil, anyError_append,
    not_or, checkPairs_clean, checkEmpty_clean, (requiredName_decides uri e _ _).clean,
    (version_decides uri e).clean]
  constructor
  · rintro ⟨hallows, hempty, hname, hversion⟩
    exact ⟨htag, hallows, hempty, hname, hversion⟩
  · rintro ⟨-, hallows, hempty, hname, hversion⟩
    exact ⟨hallows, hempty, hname, hversion⟩

theorem typeNode_clean (htag : Tagged "Type" e) : ¬ AnyError (typeNode uri e).issues ↔ IsType e := by
  simp only [typeNode, Reported.issues_bind, Reported.issues_pure, List.append_nil, anyError_append,
    not_or, checkPairs_clean, elements_clean, (requiredName_decides uri e _ _).clean,
    (leadingReference_decides uri e _ _).clean, trailingComment_clean]
  constructor
  · rintro ⟨hallows, hname, htextless, ⟨base, comments, hchildren, hbase⟩, hlength, hcomments⟩
    rw [elements] at hchildren hlength hcomments
    rw [hchildren] at hlength hcomments
    exact ⟨htag, hallows, htextless, hname, base, comments, hchildren, hbase, hlength, hcomments⟩
  · rintro ⟨-, hallows, htextless, hname, base, comments, hchildren, hbase, hlength, hcomments⟩
    have helements : (elements uri e).value = base :: comments := hchildren
    rw [helements]
    exact ⟨hallows, hname, htextless, ⟨base, comments, rfl, hbase⟩, hlength, hcomments⟩

theorem cardinality_decides (uri : String) (e : Element) :
    (cardinality uri e).Decides (∃ c : Cardinality, value? e "cardinality" = some c.token) := by
  unfold cardinality required
  cases hvalue : value? e "cardinality" with
  | none => exact ⟨by simp [Reported.fail, violation], by simp⟩
  | some token =>
    have hiff : (∃ c : Cardinality, some token = some c.token) ↔
        (Cardinality.ofToken? token).isSome = true := by
      simp only [Option.some.injEq, Cardinality.ofToken?_isSome]
    rw [hiff]
    by_cases hc : (Cardinality.ofToken? token).isSome = true
    · exact ⟨by simp [hc], fun _ => ⟨token, by simp [hc]⟩⟩
    · exact ⟨by simp [hc, Reported.fail, violation], fun h => (hc h).elim⟩

theorem attributeNode_clean (htag : Tagged "Attribute" e) :
    ¬ AnyError (attributeNode uri e).issues ↔ IsAttribute e := by
  simp only [attributeNode, Reported.issues_bind, Reported.issues_pure, List.append_nil, anyError_append,
    not_or, checkPairs_clean, elements_clean, (requiredName_decides uri e _ _).clean,
    (cardinality_decides uri e).clean, (leadingReference_decides uri e _ _).clean, refuse_clean]
  constructor
  · rintro ⟨hallows, hname, hcardinality, htextless, ⟨reference, rest, hchildren, hreference⟩, hrest⟩
    rw [elements] at hchildren hrest
    rw [hchildren] at hrest
    obtain rfl : rest = [] := hrest
    exact ⟨htag, hallows, htextless, hname, hcardinality, reference, hchildren, hreference⟩
  · rintro ⟨-, hallows, htextless, hname, hcardinality, reference, hchildren, hreference⟩
    have helements : (elements uri e).value = [reference] := hchildren
    rw [helements]
    exact ⟨hallows, hname, hcardinality, htextless, ⟨reference, [], rfl, hreference⟩, rfl⟩

end Grammar

end MetaSchema
