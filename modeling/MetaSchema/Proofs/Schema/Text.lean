import MetaSchema.Proofs.Name.ReadBack

/-!
# The text of a schema

A schema is shown as lines of text, one for each of its declarations. No line holds a line end, the words
of a line are free of spaces, and the word that a line starts with tells what it declares.

* `Line`, `Schema.contents`: what the lines of a schema say, and that the lines say it.
* `TypeReference.toString_injective`: a keyword has no point, and the name of a type has one.
* `Line.chars_injective`: a line says one thing.
* `Schema.text_injective`: the text of a schema is that of no other schema.
-/

namespace MetaSchema

open Text

/-! ## Type references -/

namespace Primitive

theorem keyword_injective : Function.Injective keyword := by
  intro p q h
  have hread := ofKeyword?_keyword p
  rw [h, ofKeyword?_keyword, Option.some.injEq] at hread
  exact hread.symm

theorem isNamePart_keyword (p : Primitive) {c : Char} (h : c ∈ p.keyword.toList) :
    isNamePart c = true := by
  have hall : p.keyword.toList.all isNamePart = true := by cases p <;> rfl
  exact List.all_eq_true.mp hall c h

end Primitive

namespace TypeReference

theorem isTextPart_of_mem (r : TypeReference) {c : Char} (h : c ∈ (toString r).toList) :
    isTextPart c = true := by
  cases r with
  | primitive p => exact isTextPart_of_isNamePart (p.isNamePart_keyword h)
  | named name => exact name.isTextPart_of_mem h

/-- The text of a named type has a point, which no keyword has. -/
theorem keyword_ne_toString (p : Primitive) (name : QualifiedTypeName) :
    p.keyword ≠ toString name := by
  intro h
  have hpoint : '.' ∈ p.keyword.toList := by
    rw [h, QualifiedName.toList_toString]
    simp
  exact absurd (p.isNamePart_keyword hpoint) (by decide)

theorem toString_injective : Function.Injective (toString : TypeReference → String) := by
  intro a b h
  cases a with
  | primitive p =>
    cases b with
    | primitive q => exact congrArg primitive (Primitive.keyword_injective h)
    | named name => exact absurd h (keyword_ne_toString p name)
  | named name =>
    cases b with
    | primitive q => exact absurd h.symm (keyword_ne_toString q name)
    | named other =>
      exact congrArg named ((QualifiedName.readsBack (by decide)).write_injective h)

end TypeReference

/-! ## Lines -/

/-- What a line of a schema's text says. -/
inductive Line where
  | schema (id : SchemaIdentifier)
  | importing (id : SchemaIdentifier)
  | type (d : TypeDeclaration)
  | attribute (d : AttributeDeclaration)

namespace Line

def import? : Line → Option SchemaIdentifier
  | .importing id => some id
  | _ => none

def type? : Line → Option TypeDeclaration
  | .type d => some d
  | _ => none

def attribute? : Line → Option AttributeDeclaration
  | .attribute d => some d
  | _ => none

end Line

/-- What the lines of a schema's text say, in order. -/
def Schema.contents (s : Schema) : List Line :=
  .schema s.identifier :: s.imports.map .importing ++ s.types.map .type ++ s.attributes.map .attribute

namespace Line

/-- The word that a line starts with. -/
def word : Line → String
  | .schema _ => "schema "
  | .importing _ => "  import "
  | .type _ => "  type "
  | .attribute _ => "  attribute "

/-- What follows the first word of a line. -/
def rest : Line → List Char
  | .schema id => (toString id).toList
  | .importing id => (toString id).toList
  | .type d => d.name.text.toList ++ ' ' :: (": ".toList ++ (toString d.base).toList)
  | .attribute d => d.name.text.toList ++ ' ' :: (": ".toList ++
      ((toString d.type).toList ++ ' ' :: ("[".toList ++ (d.cardinality.token.toList ++ "]".toList))))

def chars (l : Line) : List Char := l.word.toList ++ l.rest

/-- The first characters of a line tell its first word. -/
theorem word_eq {a b : Line} (h : a.chars = b.chars) : a.word = b.word := by
  have htake := congrArg (List.take 4) h
  cases a <;> cases b <;> first | rfl | simp [chars, word] at htake

theorem rest_eq {a b : Line} (h : a.chars = b.chars) : a.rest = b.rest := by
  rw [chars, chars, word_eq h] at h
  exact List.append_cancel_left h

theorem space_notMem_name {k : NameKind} (n : Name k) : ' ' ∉ n.text.toList :=
  fun h => absurd (n.isTextPart_of_mem h) (by decide)

theorem space_notMem_reference (r : TypeReference) : ' ' ∉ (toString r).toList :=
  fun h => absurd (r.isTextPart_of_mem h) (by decide)

theorem rest_type {d e : TypeDeclaration} (h : (type d).rest = (type e).rest) : d = e := by
  obtain ⟨hname, htail⟩ := append_cons_inj (space_notMem_name d.name) (space_notMem_name e.name) h
  have hbase : (toString d.base).toList = (toString e.base).toList := by simpa using htail
  cases d
  cases e
  rw [TypeDeclaration.mk.injEq]
  exact ⟨Name.ext_text (String.toList_inj.mp hname),
    TypeReference.toString_injective (String.toList_inj.mp hbase)⟩

theorem rest_attribute {d e : AttributeDeclaration}
    (h : (Line.attribute d).rest = (Line.attribute e).rest) : d = e := by
  obtain ⟨hname, htail⟩ := append_cons_inj (space_notMem_name d.name) (space_notMem_name e.name) h
  obtain ⟨htype, htail⟩ := append_cons_inj (space_notMem_reference d.type)
    (space_notMem_reference e.type) (by simpa using htail)
  have htoken : d.cardinality.token = e.cardinality.token := by
    simpa [← String.toList_inj] using htail
  have hcardinality := Cardinality.ofToken?_token d.cardinality
  rw [htoken, Cardinality.ofToken?_token, Option.some.injEq] at hcardinality
  cases d
  cases e
  rw [AttributeDeclaration.mk.injEq]
  exact ⟨Name.ext_text (String.toList_inj.mp hname),
    TypeReference.toString_injective (String.toList_inj.mp htype), hcardinality.symm⟩

/-- **What a line says.** -/
theorem chars_injective : Function.Injective chars := by
  intro a b h
  have hword := word_eq h
  have hrest := rest_eq h
  have hid := (SchemaIdentifier.readsBack).write_injective
  cases a with
  | schema id =>
    cases b with
    | schema other => exact congrArg schema (hid (String.toList_inj.mp hrest))
    | _ => simp [word] at hword
  | importing id =>
    cases b with
    | importing other => exact congrArg importing (hid (String.toList_inj.mp hrest))
    | _ => simp [word] at hword
  | type d =>
    cases b with
    | type e => exact congrArg type (rest_type hrest)
    | _ => simp [word] at hword
  | «attribute» d =>
    cases b with
    | «attribute» e => exact congrArg Line.attribute (rest_attribute hrest)
    | _ => simp [word] at hword

/-- No line end stands in a line. -/
theorem newline_notMem (l : Line) : '\n' ∉ l.chars := by
  have hid : ∀ id : SchemaIdentifier, '\n' ∉ (toString id).toList :=
    fun id h => absurd (id.isTextPart_of_mem h) (by decide)
  have hname : ∀ {k : NameKind} (n : Name k), '\n' ∉ n.text.toList :=
    fun n h => absurd (n.isTextPart_of_mem h) (by decide)
  have hreference : ∀ r : TypeReference, '\n' ∉ (toString r).toList :=
    fun r h => absurd (r.isTextPart_of_mem h) (by decide)
  have htoken : ∀ c : Cardinality, '\n' ∉ c.token.toList := by
    intro c
    cases c <;> decide
  cases l <;> simp [chars, word, rest, hid, hname, hreference, htoken]

end Line

/-! ## The whole text -/

/-- Lines that are each ended by a separator are found again by cutting there. -/
theorem splitOn_ended {sep : Char} {ls : List (List Char)} (h : ∀ l ∈ ls, sep ∉ l) :
    (ls.flatMap (· ++ [sep])).splitOn sep = ls ++ [[]] := by
  induction ls with
  | nil => exact List.splitOn_nil sep
  | cons l ls ih =>
    rw [List.flatMap_cons, List.append_assoc, List.singleton_append,
      List.splitOn_append_cons_self_of_not_mem (h l List.mem_cons_self),
      ih fun m hm => h m (.tail _ hm), List.cons_append]

namespace Schema

theorem toList_lines (s : Schema) : s.lines.map String.toList = s.contents.map Line.chars := by
  have hstring : ∀ text : String, toString text = text := fun _ => rfl
  have hname : ∀ {k : NameKind} (n : Name k), toString n = n.text := fun _ => rfl
  have htoken : ∀ c : Cardinality, toString c = c.token := fun _ => rfl
  simp [lines, contents, Line.chars, Line.word, Line.rest, Function.comp_def, hstring, hname, htoken]

theorem toList_text (s : Schema) : s.text.toList = (s.contents.map Line.chars).flatMap (· ++ ['\n']) := by
  rw [← toList_lines]
  simp [text, String.toList_join, List.flatMap_map]

theorem imports_contents (s : Schema) : s.contents.filterMap Line.import? = s.imports := by
  simp [contents, List.filterMap_cons, List.filterMap_map, Function.comp_def, Line.import?]

theorem types_contents (s : Schema) : s.contents.filterMap Line.type? = s.types := by
  simp [contents, List.filterMap_cons, List.filterMap_map, Function.comp_def, Line.type?]

theorem attributes_contents (s : Schema) : s.contents.filterMap Line.attribute? = s.attributes := by
  simp [contents, List.filterMap_cons, List.filterMap_map, Function.comp_def, Line.attribute?]

/-- The contents of a schema hold all of it. -/
theorem contents_injective : Function.Injective contents := by
  intro s t h
  have hid : s.identifier = t.identifier := Line.schema.inj (List.cons.inj h).1
  have himports := congrArg (List.filterMap Line.import?) h
  have htypes := congrArg (List.filterMap Line.type?) h
  have hattributes := congrArg (List.filterMap Line.attribute?) h
  rw [imports_contents, imports_contents] at himports
  rw [types_contents, types_contents] at htypes
  rw [attributes_contents, attributes_contents] at hattributes
  cases s
  cases t
  rw [Schema.mk.injEq]
  exact ⟨hid, himports, htypes, hattributes⟩

/-- **The text of a schema** is that of no other schema. -/
theorem text_injective : Function.Injective text := by
  intro s t h
  have hended : ∀ s : Schema, ∀ l ∈ s.contents.map Line.chars, '\n' ∉ l := by
    intro s l hl
    obtain ⟨line, -, rfl⟩ := List.mem_map.mp hl
    exact line.newline_notMem
  have hlines : s.contents.map Line.chars = t.contents.map Line.chars := by
    have hsplit := splitOn_ended (hended s)
    rw [← toList_text, h, toList_text, splitOn_ended (hended t)] at hsplit
    exact (List.append_cancel_right hsplit).symm
  exact contents_injective (Line.chars_injective.list_map hlines)

end Schema

end MetaSchema
