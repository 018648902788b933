import MetaSchema.Proofs.Lists
import MetaSchema.Proofs.Name.FileName
import MetaSchema.Validation

/-!
# Reading back what was written

The texts of names, versions, identifiers and supplied attributes, and the values that are read from
texts.

* `ReadsBack`: a way to write values and a way to read them that undo each other, up to the form in
  which texts are written.
* `isTextPart`: of what the texts of names, versions and identifiers are made.
* `Version.normal`, `SchemaIdentifier.normal`: a text with the zeros in front of its numbers removed.
* `Version.readsBack`, `SchemaIdentifier.readsBack`, `QualifiedName.readsBack`,
  `UntypedAttribute.readsBack`: each is cut where it was put together, because the part beside the
  separator is free of it.
* `names_read_back`: all of them, and the texts that are read as one identifier.
-/

namespace MetaSchema

open Text

/-- Each value is read from its own text, and each text that is read as a value is written again in its
normal form. -/
structure ReadsBack {α : Type} (read : String → Except NameError α) (write : α → String)
    (normal : String → String) : Prop where
  read_write : ∀ a, read (write a) = .ok a
  write_read : ∀ s a, read s = .ok a → write a = normal s

namespace ReadsBack

variable {α : Type} {read : String → Except NameError α} {write : α → String}
  {normal : String → String}

theorem write_injective (h : ReadsBack read write normal) : Function.Injective write := by
  intro a b hab
  have hread := h.read_write a
  rw [hab, h.read_write b] at hread
  exact (Except.ok.inj hread).symm

/-- Two texts are read as one value just if they have one normal form. -/
theorem eq_iff (h : ReadsBack read write normal) {s t : String} {a b : α} (ha : read s = .ok a)
    (hb : read t = .ok b) : a = b ↔ normal s = normal t := by
  rw [← h.write_read s a ha, ← h.write_read t b hb, h.write_injective.eq_iff]

end ReadsBack

theorem Name.readsBack (k : NameKind) : ReadsBack (Name.ofString? k) toString id where
  read_write := ofString?_text
  write_read _ _ h := (ofString?_eq_ok.mp h).symm

/-! ## Of what texts are made -/

/-- A character of the texts of names, versions and identifiers. -/
def isTextPart (c : Char) : Bool := isNamePart c || c == '.' || c == ':'

theorem isTextPart_of_isNamePart {c : Char} (h : isNamePart c = true) : isTextPart c = true := by
  simp [isTextPart, h]

/-- Digits and points make the text of a version. -/
theorem Version.isDigit_of_mem (v : Version) {c : Char} (h : c ∈ v.toChars) :
    c = '.' ∨ c.isDigit = true := by
  rcases List.mem_append.mp h with h | h
  · exact .inr (digits_naturalText v.major c h)
  · exact (List.mem_cons.mp h).imp_right (digits_naturalText v.minor c)

theorem Name.isTextPart_of_mem : ∀ {k : NameKind} (n : Name k) {c : Char}, c ∈ n.text.toList →
    isTextPart c = true
  | .schema, n, _, h => (SchemaName.isNamePart_of_mem n h).elim (· ▸ rfl) isTextPart_of_isNamePart
  | .type, n, _, h => isTextPart_of_isNamePart (isNamePart_of_isLocalName n.formed h)
  | .attribute, n, _, h => isTextPart_of_isNamePart (isNamePart_of_isLocalName n.formed h)

theorem SchemaIdentifier.toList_toString (id : SchemaIdentifier) :
    (toString id).toList = id.name.text.toList ++ ':' :: id.version.toChars :=
  String.toList_ofList

theorem SchemaIdentifier.isTextPart_of_mem (id : SchemaIdentifier) {c : Char}
    (h : c ∈ (toString id).toList) : isTextPart c = true := by
  rw [toList_toString, List.mem_append, List.mem_cons] at h
  rcases h with h | rfl | h
  · exact id.name.isTextPart_of_mem h
  · rfl
  · rcases id.version.isDigit_of_mem h with rfl | h
    · rfl
    · simp [isTextPart, isNamePart, Char.isAlphanum, h]

theorem QualifiedName.toList_toString {k : NameKind} (q : QualifiedName k) :
    (toString q).toList = q.schema.text.toList ++ '.' :: q.name.text.toList :=
  String.toList_ofList

theorem QualifiedName.isTextPart_of_mem {k : NameKind} (q : QualifiedName k) {c : Char}
    (h : c ∈ (toString q).toList) : isTextPart c = true := by
  rw [toList_toString, List.mem_append, List.mem_cons] at h
  rcases h with h | rfl | h
  · exact q.schema.isTextPart_of_mem h
  · rfl
  · exact q.name.isTextPart_of_mem h

/-! ## Versions and identifiers -/

namespace Version

def normalChars (cs : List Char) : List Char :=
  match splitFirst? '.' cs with
  | some (major, minor) => withoutZeros major ++ '.' :: withoutZeros minor
  | none => cs

/-- The text of a version without the zeros in front of its numbers. -/
def normal (s : String) : String := String.ofList (normalChars s.toList)

theorem toChars_of_ofChars? {cs : List Char} {v : Version} (h : ofChars? cs = some v) :
    v.toChars = normalChars cs := by
  obtain ⟨⟨major, minor⟩, hsplit, h⟩ := Option.bind_eq_some_iff.mp h
  obtain ⟨n, hmajor, h⟩ := Option.bind_eq_some_iff.mp h
  obtain ⟨m, hminor, rfl⟩ := Option.map_eq_some_iff.mp h
  rw [normalChars, hsplit, toChars, naturalText_of_natural? hmajor, naturalText_of_natural? hminor]

theorem ofString?_eq_ok {s : String} {v : Version} :
    ofString? s = .ok v ↔ ofChars? s.toList = some v := by
  unfold ofString?
  cases ofChars? s.toList <;> simp

theorem readsBack : ReadsBack ofString? toString normal where
  read_write v := ofString?_eq_ok.mpr <| by
    rw [show (toString v).toList = v.toChars from String.toList_ofList, ofChars?_toChars]
  write_read s v h := by
    rw [normal, ← toChars_of_ofChars? (ofString?_eq_ok.mp h)]
    rfl

theorem colon_notMem (v : Version) : ':' ∉ v.toChars :=
  fun h => (v.isDigit_of_mem h).elim (by decide) (by decide)

end Version

namespace SchemaIdentifier

/-- The text of an identifier without the zeros in front of its numbers. -/
def normal (s : String) : String :=
  match splitLast? ':' s.toList with
  | some (name, version) => String.ofList (name ++ ':' :: Version.normalChars version)
  | none => s

theorem readsBack : ReadsBack ofString? toString normal where
  read_write id := by
    -- A version has no colon, so the last one ends the name, whatever the name is.
    have hsplit : splitLast? ':' (toString id).toList =
        some (id.name.text.toList, id.version.toChars) := by
      rw [toList_toString]
      exact splitLast?_append id.version.colon_notMem _
    have hversion : Version.ofString? (String.ofList id.version.toChars) = .ok id.version :=
      Version.readsBack.read_write id.version
    rw [ofString?, hsplit]
    simp only [String.ofList_toList, Name.ofString?_text, hversion]
    rfl
  write_read s id h := by
    unfold ofString? at h
    split at h
    · cases h
    · rename_i name version hsplit
      obtain ⟨n, hname, h⟩ := bind_eq_ok.mp h
      obtain ⟨v, hversion, h⟩ := bind_eq_ok.mp h
      cases h
      have hv := Version.toChars_of_ofChars? (Version.ofString?_eq_ok.mp hversion)
      rw [String.toList_ofList] at hv
      have hn : n.text.toList = name := by
        rw [← Name.ofString?_eq_ok.mp hname, String.toList_ofList]
      have hnormal : normal s = String.ofList (name ++ ':' :: Version.normalChars version) := by
        rw [normal, hsplit]
      rw [hnormal, ← hv, ← hn]
      rfl

end SchemaIdentifier

/-! ## Qualified names and supplied attributes -/

namespace QualifiedName

variable {k : NameKind}

/-- The last point ends the qualifier. -/
theorem readsBack (hk : k ≠ .schema) : ReadsBack (ofString? k) toString id where
  read_write q := by
    have hsplit : splitLast? '.' (toString q).toList =
        some (q.schema.text.toList, q.name.text.toList) := by
      rw [toList_toString]
      exact splitLast?_append (q.name.point_notMem hk) _
    rw [ofString?, hsplit]
    simp only [String.ofList_toList, Name.ofString?_text]
    rfl
  write_read s q h := by
    unfold ofString? at h
    split at h
    · cases h
    · rename_i schema name hsplit
      obtain ⟨n, hschema, h⟩ := bind_eq_ok.mp h
      obtain ⟨m, hname, h⟩ := bind_eq_ok.mp h
      cases h
      have hchars : (toString (⟨n, m⟩ : QualifiedName k)).toList = s.toList := by
        rw [toList_toString, ← Name.ofString?_eq_ok.mp hschema, ← Name.ofString?_eq_ok.mp hname,
          String.toList_ofList, String.toList_ofList]
        exact (eq_of_splitLast? hsplit).1.symm
      exact String.toList_inj.mp hchars

end QualifiedName

namespace UntypedAttribute

/-- An attribute as it is supplied: `LOCAL.NAME=VALUE`. -/
def text (a : UntypedAttribute) : String := toString a.name ++ "=" ++ a.value

theorem equals_notMem (q : QualifiedAttributeName) : '=' ∉ (toString q).toList :=
  fun h => absurd (q.isTextPart_of_mem h) (by decide)

/-- The first `=` ends the name, so the value may be any text. -/
theorem readsBack : ReadsBack ofString? text id where
  read_write a := by
    have hsplit : splitFirst? '=' a.text.toList = some ((toString a.name).toList, a.value.toList) := by
      rw [show a.text.toList = (toString a.name).toList ++ '=' :: a.value.toList by simp [text]]
      exact splitFirst?_append (equals_notMem a.name) _
    have hname := (QualifiedName.readsBack (k := .attribute) (by decide)).read_write a.name
    rw [ofString?, hsplit]
    simp only [String.ofList_toList, hname]
    rfl
  write_read s a h := by
    unfold ofString? at h
    split at h
    · cases h
    · rename_i name value hsplit
      obtain ⟨q, hname, rfl⟩ := map_eq_ok h
      have hq := (QualifiedName.readsBack (k := .attribute) (by decide)).write_read _ _ hname
      have hchars : (text ⟨q, String.ofList value⟩).toList = s.toList := by
        simp [text, hq, (eq_of_splitFirst? hsplit).1]
      exact String.toList_inj.mp hchars

end UntypedAttribute

/-! ## All texts -/

/-- **Names are read back.** Every name, version, identifier, qualified name and supplied attribute is
read back from its text; the text of a name, a qualified name or a supplied attribute is the one it
is read from, and that of a version or an identifier has lost the zeros in front of the two numbers.
So two texts are read as one identifier just if they are alike without those zeros. -/
theorem names_read_back :
    (∀ k, ReadsBack (Name.ofString? k) toString id) ∧
    ReadsBack Version.ofString? toString Version.normal ∧
    ReadsBack SchemaIdentifier.ofString? toString SchemaIdentifier.normal ∧
    ReadsBack (QualifiedName.ofString? .type) toString id ∧
    ReadsBack (QualifiedName.ofString? .attribute) toString id ∧
    ReadsBack UntypedAttribute.ofString? UntypedAttribute.text id ∧
    ∀ s t a b, SchemaIdentifier.ofString? s = .ok a → SchemaIdentifier.ofString? t = .ok b →
      (a = b ↔ SchemaIdentifier.normal s = SchemaIdentifier.normal t) := by
  refine ⟨Name.readsBack, Version.readsBack, SchemaIdentifier.readsBack,
    QualifiedName.readsBack (by decide), QualifiedName.readsBack (by decide),
    UntypedAttribute.readsBack, ?_⟩
  intro s t a b ha hb
  exact SchemaIdentifier.readsBack.eq_iff ha hb

end MetaSchema
