import MetaSchema.Syntax.Node

/-!
# The text of qualified names

A local name has no point, so the last point of a text with a qualifier ends the qualifier.

* `isNamePart_of_isLocalName`: of what a local name is made.
* `Name.point_notMem`: the name of a type or of an attribute has no point.
* `WrittenReference.qualifier_of_toString`: the text of a reference tells its qualifier, and whether
  it has one.
-/

namespace MetaSchema

open Text

theorem isNamePart_of_isLocalName {cs : List Char} (h : isLocalName cs = true) {c : Char}
    (hc : c ∈ cs) : isNamePart c = true := by
  cases cs with
  | nil => cases hc
  | cons first rest =>
    obtain ⟨hfirst, hrest⟩ := Bool.and_eq_true_iff.mp h
    rcases List.mem_cons.mp hc with rfl | hc
    · have halpha : c.isAlpha = true := hfirst
      simp [isNamePart, Char.isAlphanum, halpha]
    · exact List.all_eq_true.mp hrest c hc

theorem Name.isLocalName_text : ∀ {k : NameKind}, k ≠ .schema → ∀ n : Name k,
    isLocalName n.text.toList = true
  | .schema, hk, _ => absurd rfl hk
  | .type, _, n => n.formed
  | .attribute, _, n => n.formed

theorem Name.point_notMem {k : NameKind} (hk : k ≠ .schema) (n : Name k) : '.' ∉ n.text.toList :=
  fun h => absurd (isNamePart_of_isLocalName (n.isLocalName_text hk) h) (by decide)

namespace WrittenReference

theorem toList_toString_named (n : TypeName) :
    (toString (named none n)).toList = n.text.toList := rfl

theorem toList_toString_qualified (q : SchemaName) (n : TypeName) :
    (toString (named (some q) n)).toList = q.text.toList ++ '.' :: n.text.toList := by
  have h : toString (named (some q) n) = q.text ++ "." ++ n.text := rfl
  simp [h]

/-- A reference with a text that has a qualifier has that qualifier. -/
theorem qualifier_of_toString {q : Option SchemaName} {other : SchemaName} {n m : TypeName}
    (h : toString (named q n) = toString (named (some other) m)) : q = some other := by
  have hchars := congrArg String.toList h
  rw [toList_toString_qualified] at hchars
  cases q with
  | none =>
    have hpoint : '.' ∈ n.text.toList := by
      rw [← toList_toString_named, hchars]
      simp
    exact absurd hpoint (n.point_notMem (by decide))
  | some q =>
    rw [toList_toString_qualified] at hchars
    have hsplit := splitLast?_append (n.point_notMem (by decide)) q.text.toList
    rw [hchars, splitLast?_append (m.point_notMem (by decide)), Option.some.injEq,
      Prod.mk.injEq] at hsplit
    exact congrArg some (Name.ext_text (String.toList_inj.mp hsplit.1.symm))

end WrittenReference

end MetaSchema
