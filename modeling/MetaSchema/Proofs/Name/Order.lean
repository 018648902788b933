import MetaSchema.Name.Identifier

/-!
# The order of identifiers

Names, versions and identifiers that compare as equal are equal, so an ordered list has one place
for each of them. Names are in a linear order, that of their texts, and so are versions and identifiers, by
their parts.
-/

namespace MetaSchema

instance {k : NameKind} : Std.LawfulEqOrd (Name k) where
  compare_self {a} := Std.ReflOrd.compare_self (a := a.text)
  eq_of_compare h := Name.ext_text (Std.LawfulEqOrd.eq_of_compare h)

instance {k : NameKind} : Std.TransOrd (Name k) where
  eq_swap {a b} := Std.OrientedOrd.eq_swap (a := a.text) (b := b.text)
  isLE_trans {a b c} := Std.TransOrd.isLE_trans (a := a.text) (b := b.text) (c := c.text)

instance : Std.LawfulEqOrd Version where
  compare_self {a} := Ordering.then_eq_eq.mpr
    ⟨Std.ReflOrd.compare_self (a := a.major), Std.ReflOrd.compare_self (a := a.minor)⟩
  eq_of_compare {a b} h := by
    obtain ⟨hmajor, hminor⟩ := Ordering.then_eq_eq.mp h
    cases a
    cases b
    rw [Version.mk.injEq]
    exact ⟨Std.LawfulEqOrd.eq_of_compare hmajor, Std.LawfulEqOrd.eq_of_compare hminor⟩

instance : Std.TransOrd Version :=
  inferInstanceAs (Std.TransCmp (compareLex (compareOn Version.major) (compareOn Version.minor)))

instance : Std.LawfulEqOrd SchemaIdentifier where
  compare_self {a} := Ordering.then_eq_eq.mpr
    ⟨Std.ReflOrd.compare_self (a := a.name), Std.ReflOrd.compare_self (a := a.version)⟩
  eq_of_compare {a b} h := by
    obtain ⟨hname, hversion⟩ := Ordering.then_eq_eq.mp h
    cases a
    cases b
    rw [SchemaIdentifier.mk.injEq]
    exact ⟨Std.LawfulEqOrd.eq_of_compare hname, Std.LawfulEqOrd.eq_of_compare hversion⟩

instance : Std.TransOrd SchemaIdentifier :=
  inferInstanceAs
    (Std.TransCmp (compareLex (compareOn SchemaIdentifier.name) (compareOn SchemaIdentifier.version)))

end MetaSchema
