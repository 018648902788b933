import MetaSchema.Proofs.Issue.Document
import MetaSchema.Syntax.Parser

/-!
# What is reported of a document

Whatever a document is, what is reported while it is parsed is an error of its text or an ignored attribute.

* `Grammar.schema_ofDocument`: so it is with every root element.
* `Parser.parse_ofDocument`: and with every document.
-/

namespace MetaSchema

namespace Grammar

open Xml (Element)

variable (uri : String) (e root : Element)

@[simp] theorem isOfDocument_violation (p : Xml.Place) (v : Violation) :
    (violation uri p v).isOfDocument = true := rfl

@[simp] theorem isOfDocument_misplaced : (misplaced uri root e).isOfDocument = true := rfl

/-! ## What an element may hold -/

@[simp] theorem checkPairs_ofDocument (allowed : List String) :
    OfDocument (checkPairs uri e allowed).issues := by
  intro i hi
  obtain ⟨p, -, hp⟩ := List.mem_filterMap.mp hi
  unfold pairIssue? at hp
  split at hp <;> split at hp <;> cases hp <;> rfl

@[simp] theorem required_ofDocument (key : String) : OfDocument (required uri e key).issues := by
  unfold required
  split <;> simp

@[simp] theorem nameOf_ofDocument (k : NameKind) (key value : String) :
    OfDocument (nameOf uri e k key value).issues := by
  unfold nameOf
  split <;> simp

@[simp] theorem requiredName_ofDocument (k : NameKind) (key : String) :
    OfDocument (requiredName uri e k key).issues := by
  unfold requiredName
  rw [Reported.issues_bind]
  split <;> simp

@[simp] theorem requiredNumber_ofDocument (key : String) :
    OfDocument (requiredNumber uri e key).issues := by
  unfold requiredNumber
  rw [Reported.issues_bind]
  split
  · split <;> simp
  · simp

@[simp] theorem version_ofDocument : OfDocument (version uri e).issues := by
  simp [version]

@[simp] theorem elements_ofDocument : OfDocument (elements uri e).issues := by
  intro i hi
  obtain ⟨n, -, hn⟩ := List.mem_filterMap.mp hi
  unfold strayText? at hn
  split at hn
  · cases hn
  · split at hn <;> cases hn
    rfl

@[simp] theorem refuse_ofDocument (children : List Element) :
    OfDocument (refuse uri e children).issues := by
  intro i hi
  obtain ⟨child, -, rfl⟩ := List.mem_map.mp hi
  rfl

@[simp] theorem checkEmpty_ofDocument : OfDocument (checkEmpty uri e).issues := by
  simp [checkEmpty]

/-! ## The elements of the language -/

@[simp] theorem commentNode_ofDocument : OfDocument (commentNode uri e).issues := by
  simp [commentNode]

@[simp] theorem primitiveReference_ofDocument : OfDocument (primitiveReference uri e).issues := by
  simp only [primitiveReference, Reported.issues_bind, ofDocument_append, checkPairs_ofDocument,
    checkEmpty_ofDocument, required_ofDocument, true_and]
  split
  · simp
  · split <;> simp

@[simp] theorem qualifier_ofDocument : OfDocument (qualifier uri e).issues := by
  unfold qualifier
  split <;> simp

@[simp] theorem namedReference_ofDocument : OfDocument (namedReference uri e).issues := by
  simp [namedReference]

@[simp] theorem writtenReference_ofDocument (parent : Element) :
    OfDocument (writtenReference uri parent e).issues := by
  unfold writtenReference
  split <;> simp

@[simp] theorem reference_ofDocument (parent : Element) :
    OfDocument (reference uri parent e).issues := by
  simp [reference]

@[simp] theorem leadingReference_ofDocument (tagName : String) (children : List Element) :
    OfDocument (leadingReference uri e tagName children).issues := by
  cases children <;> simp [leadingReference]

@[simp] theorem importNode_ofDocument : OfDocument (importNode uri e).issues := by
  simp [importNode]

@[simp] theorem trailingComment_ofDocument (children : List Element) :
    OfDocument (trailingComment uri e children).issues := by
  cases children with
  | nil => simp [trailingComment]
  | cons child others =>
    rw [trailingComment]
    split <;> simp

@[simp] theorem typeNode_ofDocument : OfDocument (typeNode uri e).issues := by
  simp [typeNode]

@[simp] theorem cardinality_ofDocument : OfDocument (cardinality uri e).issues := by
  unfold cardinality
  rw [Reported.issues_bind]
  split
  · simp
  · split <;> simp

@[simp] theorem attributeNode_ofDocument : OfDocument (attributeNode uri e).issues := by
  simp [attributeNode]

@[simp] theorem child_ofDocument : OfDocument (child uri root e).issues := by
  unfold child
  split <;> simp

@[simp] theorem childrenOf_ofDocument (es : List Element) :
    OfDocument (childrenOf uri root es).issues := by
  induction es with
  | nil => simp [childrenOf]
  | cons e es ih => simp [childrenOf, ih]

/-! ## The root element -/

@[simp] theorem content_ofDocument : OfDocument (content uri root).issues := by
  simp [content]

@[simp] theorem treeOf_ofDocument (c : Content) : OfDocument (treeOf uri root c).issues := by
  unfold treeOf
  split
  · split
    · simp
    · exact ofDocument_fail.mpr rfl
  · simp

/-- **The root element of a document.** -/
theorem schema_ofDocument : OfDocument (schema uri root).issues := by
  unfold schema
  split
  · simp only
    split <;> simp
  · simp

end Grammar

/-- **Parsing a document** in version 1 of the language, or in none. -/
theorem Parser.parse_ofDocument {p : Parser} (hp : ∀ l ∈ p.languages, l = .version1) (uri : String)
    (document : Text.Octets) : OfDocument (p.parse uri document).issues := by
  unfold parse
  split
  · exact ofDocument_fail.mpr rfl
  · split
    · rename_i language hl
      obtain rfl := hp language (List.mem_of_find?_eq_some hl)
      exact Grammar.schema_ofDocument _ _
    · exact ofDocument_fail.mpr rfl

end MetaSchema
