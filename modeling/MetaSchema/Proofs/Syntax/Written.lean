import MetaSchema.Proofs.Name.ReadBack
import MetaSchema.Proofs.Syntax.Declarations
import MetaSchema.Proofs.Xml.Document

/-!
# Schema documents as they are written

* `Statement`: what a declaration says, apart from where it stands; `Statement.Says`: a declaration that
  says it.
* `isPlainValue_text`, `isPlainValue_number`: names and numbers stand for themselves in attributes.
* `Row`: a statement with the blanks around its parts; `Row.markup`: its element.
* `SchemaDocument`: an identifier and rows; `SchemaDocument.document`: the document that writes them.
-/

namespace MetaSchema

open Xml (Gap Markup Contents StartTag Document isPlainName isPlainValue isPlain)
open Text (naturalText)

/-! ## Statements -/

/-- A declaration, apart from where it stands. -/
inductive Statement where
  | importing (target : SchemaIdentifier)
  | type (name : TypeName) (base : WrittenReference)
  | attribute (name : AttributeName) (reference : WrittenReference) (cardinality : Cardinality)
deriving DecidableEq

namespace Statement

/-- A declaration that says just what a statement does. -/
inductive Says : Statement → Declaration .parsed → Prop
  | importing (n : ImportNode .parsed) : Says (.importing n.identifier) (.importing n)
  | type (n : TypeNode .parsed) (h : n.comment = none) : Says (.type n.name n.base.written) (.type n)
  | attribute (n : AttributeNode .parsed) {c : Cardinality} (h : n.cardinality = c.token) :
    Says (.attribute n.name n.reference.written c) (.attribute n)

/-- The name of the schema that is imported. -/
def import? : Statement → Option SchemaName
  | importing target => some target.name
  | _ => none

/-- The name of the type that is declared. -/
def type? : Statement → Option TypeName
  | type name _ => some name
  | _ => none

/-- The name of the attribute that is declared. -/
def attribute? : Statement → Option AttributeName
  | .attribute name _ _ => some name
  | _ => none

/-- No two statements are of one kind and name. -/
structure Distinct (es : List Statement) : Prop where
  imports : (es.filterMap import?).Nodup
  types : (es.filterMap type?).Nodup
  attributes : (es.filterMap attribute?).Nodup

end Statement

/-! ## Values of attributes -/

/-- The letters and digits of ASCII lie between `0` and `z`. -/
theorem range_of_isAlphanum {c : Char} (h : c.isAlphanum = true) :
    '0'.toNat ≤ c.toNat ∧ c.toNat ≤ 'z'.toNat := by
  have hrange : ∀ a b : Char, '0' ≤ a → b ≤ 'z' → a ≤ c ∧ c ≤ b → '0' ≤ c ∧ c ≤ 'z' :=
    fun a b ha hb hc => ⟨Char.le_trans ha hc.1, Char.le_trans hc.2 hb⟩
  rcases Bool.or_eq_true_iff.mp h with hletter | hdigit
  · rcases Bool.or_eq_true_iff.mp hletter with hupper | hlower
    · exact hrange 'A' 'Z' (by decide) (by decide) (of_decide_eq_true hupper)
    · have hlower := Bool.and_eq_true_iff.mp hlower
      exact hrange 'a' 'z' (by decide) (by decide)
        ⟨of_decide_eq_true hlower.1, of_decide_eq_true hlower.2⟩
  · have hdigit := Bool.and_eq_true_iff.mp hdigit
    exact hrange '0' '9' (by decide) (by decide)
      ⟨of_decide_eq_true hdigit.1, of_decide_eq_true hdigit.2⟩

theorem isPlain_of_isTextPart {c : Char} (h : isTextPart c = true) : isPlain c = true := by
  have hrange : 0x20 ≤ c.toNat ∧ c.toNat < 0x80 := by
    simp only [isTextPart, isNamePart, Bool.or_eq_true, beq_iff_eq] at h
    rcases h with ((h | rfl) | rfl) | rfl
    · obtain ⟨hlow, hhigh⟩ := range_of_isAlphanum h
      exact ⟨Nat.le_trans (by decide) hlow, Nat.lt_of_le_of_lt hhigh (by decide)⟩
    all_goals decide
  have hchar : Xml.isChar c = true := by
    rw [Xml.isChar, if_neg (Nat.not_lt.mpr hrange.1)]
    simp only [Bool.and_eq_true, bne_iff_ne]
    omega
  have hreserved : c ∉ Xml.reserved := fun hc => by
    have hnone : Xml.reserved.all (!isTextPart ·) = true := by decide
    have hpart := List.all_eq_true.mp hnone c hc
    rw [h] at hpart
    cases hpart
  simp [isPlain, hchar, hreserved]

theorem Name.isPlainValue_text {k : NameKind} (n : Name k) : isPlainValue n.text = true :=
  List.all_eq_true.mpr fun _ hc => isPlain_of_isTextPart (n.isTextPart_of_mem hc)

/-- A number as it is written. -/
def numberText (n : Nat) : String := String.ofList (naturalText n)

theorem isPlainValue_number (n : Nat) : isPlainValue (numberText n) = true := by
  refine List.all_eq_true.mpr fun c hc => isPlain_of_isTextPart ?_
  rw [numberText, String.toList_ofList] at hc
  simp [isTextPart, isNamePart, Char.isAlphanum, Text.digits_naturalText n c hc]

theorem Primitive.isPlainValue_keyword (p : Primitive) : isPlainValue p.keyword = true := by
  cases p <;> decide

theorem Cardinality.isPlainValue_token (c : Cardinality) : isPlainValue c.token = true := by
  cases c <;> decide

/-! ## Tags -/

namespace SchemaIdentifier

/-- The attributes that name a schema and its version. -/
def pairs (id : SchemaIdentifier) : List (String × String) :=
  [("name", id.name.text), ("versionMajor", numberText id.version.major),
    ("versionMinor", numberText id.version.minor)]

theorem pairs_plain (id : SchemaIdentifier) : ∀ p ∈ id.pairs,
    isPlainName p.1 = true ∧ p.1 ≠ "xmlns" ∧ isPlainValue p.2 = true := by
  simp only [pairs, List.forall_mem_cons, id.name.isPlainValue_text, isPlainValue_number]
  decide

theorem mem_keys (id : SchemaIdentifier) :
    ∀ p ∈ id.pairs, p.1 ∈ ["name", "versionMajor", "versionMinor"] := by
  simp [pairs]

/-- The tag of a schema. -/
def schemaTag (id : SchemaIdentifier) : StartTag where
  name := "Schema"
  space := some languageUri
  pairs := id.pairs
  name_plain := by decide
  space_plain := by simp only [Option.mem_some_iff, forall_eq']; decide
  pairs_plain := id.pairs_plain
  keys_nodup := by simp [pairs]

/-- The tag of an import. -/
def importTag (id : SchemaIdentifier) : StartTag where
  name := "Import"
  space := none
  pairs := id.pairs
  name_plain := by decide
  space_plain := nofun
  pairs_plain := id.pairs_plain
  keys_nodup := by simp [pairs]

end SchemaIdentifier

/-- The tag of a type. -/
def Name.typeTag (n : TypeName) : StartTag where
  name := "Type"
  space := none
  pairs := [("name", n.text)]
  name_plain := by decide
  space_plain := nofun
  pairs_plain := by
    simp only [List.forall_mem_cons, n.isPlainValue_text]
    decide
  keys_nodup := by simp

/-- The tag of an attribute. -/
def Name.attributeTag (n : AttributeName) (c : Cardinality) : StartTag where
  name := "Attribute"
  space := none
  pairs := [("name", n.text), ("cardinality", c.token)]
  name_plain := by decide
  space_plain := nofun
  pairs_plain := by
    simp only [List.forall_mem_cons, n.isPlainValue_text, c.isPlainValue_token]
    decide
  keys_nodup := by simp

/-- The tag of a type reference. -/
def WrittenReference.tag : WrittenReference → StartTag
  | .primitive p => {
    name := "TypeReferencePrimitive"
    space := none
    pairs := [("type", p.keyword)]
    name_plain := by decide
    space_plain := nofun
    pairs_plain := by
      simp only [List.forall_mem_cons, p.isPlainValue_keyword]
      decide
    keys_nodup := by simp }
  | .named qualifier n => {
    name := "TypeReferenceNamed"
    space := none
    pairs := qualifier.toList.map (fun q => ("schema", q.text)) ++ [("name", n.text)]
    name_plain := by decide
    space_plain := nofun
    pairs_plain := by
      cases qualifier with
      | none =>
        simp only [Option.toList_none, List.map_nil, List.nil_append, List.forall_mem_cons,
          n.isPlainValue_text]
        decide
      | some q =>
        simp only [Option.toList_some, List.map_cons, List.map_nil, List.singleton_append,
          List.forall_mem_cons, q.isPlainValue_text, n.isPlainValue_text]
        decide
    keys_nodup := by cases qualifier <;> simp }

/-! ## Documents -/

/-- A statement with the blanks before it and, for a type or an attribute, around its reference. -/
structure Row where
  statement : Statement
  before : Gap
  within : Gap
  behind : Gap

namespace Row

/-- What stands in the element of a type or an attribute. -/
def contents (l : Row) (r : WrittenReference) : Contents :=
  .child l.within (.closed r.tag) (.last l.behind)

/-- The element of a statement. -/
def markup (l : Row) : Markup :=
  match l.statement with
  | .importing target => .closed target.importTag
  | .type name base => .opened name.typeTag (l.contents base)
  | .attribute name reference cardinality =>
    .opened (name.attributeTag cardinality) (l.contents reference)

/-- Rows, with blanks behind the last. -/
def all (closing : Gap) : List Row → Contents
  | [] => .last closing
  | l :: ls => .child l.before l.markup (all closing ls)

end Row

/-- A schema with its declarations row by row. -/
structure SchemaDocument where
  identifier : SchemaIdentifier
  rows : List Row
  /-- Whether the document starts with an XML declaration. -/
  declared : Bool
  before : Gap
  /-- The blanks behind the last row. -/
  closing : Gap
  behind : Gap

namespace SchemaDocument

/-- What the schema declares. -/
def statements (d : SchemaDocument) : List Statement := d.rows.map Row.statement

/-- The document that writes the schema. -/
def document (d : SchemaDocument) : Document where
  declared := d.declared
  before := d.before
  root := .opened d.identifier.schemaTag (Row.all d.closing d.rows)
  behind := d.behind

/-- The document in UTF-8. -/
def octets (d : SchemaDocument) : Text.Octets := Text.utf8Octets d.document.text

/-- A document of a schema with one declaration of each kind, a row for each. -/
def holdings : SchemaDocument :=
  let newline : Gap := ⟨['\n'], rfl⟩
  let library : SchemaName := ⟨"Library", by decide, by decide⟩
  let shelf : TypeName := ⟨"Shelf", by decide, by decide⟩
  let row (e : Statement) : Row := ⟨e, newline, .empty, .empty⟩
  { identifier := ⟨⟨"Holdings", by decide, by decide⟩, ⟨1, 0⟩⟩
    rows := [row (.importing ⟨library, ⟨1, 0⟩⟩),
      row (.type shelf (.named (some library) ⟨"Place", by decide, by decide⟩)),
      row (.attribute ⟨"shelf", by decide, by decide⟩ (.named none shelf) .zeroOrMany)]
    declared := true
    before := newline
    closing := newline
    behind := newline }

example : holdings.document.text = List.flatten (["<?xml version=\"1.0\" encoding=\"UTF-8\"?>\n",
    "<Schema xmlns=\"urn:docmeta:schema:1\" name=\"Holdings\" versionMajor=\"1\" versionMinor=\"0\">\n",
    "<Import name=\"Library\" versionMajor=\"1\" versionMinor=\"0\"/>\n",
    "<Type name=\"Shelf\"><TypeReferenceNamed schema=\"Library\" name=\"Place\"/></Type>\n",
    "<Attribute name=\"shelf\" cardinality=\"0..N\"><TypeReferenceNamed name=\"Shelf\"/></Attribute>\n",
    "</Schema>\n"].map String.toList) := by
  decide +kernel

end SchemaDocument

end MetaSchema
