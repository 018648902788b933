import MetaSchema.Proofs.Name.Qualified
import MetaSchema.Proofs.Text.Numeral

/-!
# The names of files

* `SchemaName.isNamePart_of_mem`: of what the name of a schema is made.
* `Version.ofChars?_toChars`: a version is read back from its text.
* `SchemaIdentifier.fileName_injective`: the file of a schema has its name and its version, so no
  two schemas have the same file.
-/

namespace MetaSchema

open Text

/-- A character of texts that are joined stands in one of them, or between two. -/
theorem mem_intercalate {sep c : Char} {parts : List (List Char)}
    (h : c ∈ [sep].intercalate parts) : c = sep ∨ ∃ part ∈ parts, c ∈ part := by
  induction parts with
  | nil => cases h
  | cons part parts ih =>
    cases parts with
    | nil =>
      rw [List.intercalate_singleton] at h
      exact .inr ⟨part, List.mem_cons_self, h⟩
    | cons next parts =>
      rw [List.intercalate_cons_cons, List.append_assoc, List.mem_append, List.mem_append,
        List.mem_singleton] at h
      rcases h with h | h | h
      · exact .inr ⟨part, List.mem_cons_self, h⟩
      · exact .inl h
      · refine (ih h).imp_right ?_
        rintro ⟨found, hfound, h⟩
        exact ⟨found, .tail _ hfound, h⟩

theorem SchemaName.isNamePart_of_mem (n : SchemaName) {c : Char} (hc : c ∈ n.text.toList) :
    c = '.' ∨ isNamePart c = true := by
  have hjoin : ['.'].intercalate (n.text.toList.splitOn '.') = n.text.toList :=
    List.intercalate_splitOn '.'
  rw [← hjoin] at hc
  refine (mem_intercalate hc).imp_right ?_
  rintro ⟨part, hpart, hc⟩
  exact isNamePart_of_isLocalName (List.all_eq_true.mp n.formed part hpart) hc

theorem Version.ofChars?_toChars (v : Version) : ofChars? v.toChars = some v := by
  have hpoint : '.' ∉ naturalText v.major := (digits_naturalText v.major).notMem (by decide)
  have hsplit : splitFirst? '.' v.toChars = some (naturalText v.major, naturalText v.minor) :=
    splitFirst?_append hpoint _
  rw [ofChars?, hsplit]
  simp [natural?_naturalText]

theorem SchemaIdentifier.fileName_injective : Function.Injective fileName := by
  intro a b h
  have hcut : ∀ id : SchemaIdentifier, splitFirst? '-' id.fileName.toList =
      some (id.name.text.toList, id.version.toChars ++ ".xml".toList) := by
    intro id
    have hhyphen : '-' ∉ id.name.text.toList := fun hmem =>
      (id.name.isNamePart_of_mem hmem).elim (by decide) (by decide)
    rw [fileName, String.toList_ofList, List.append_assoc]
    exact splitFirst?_append hhyphen _
  have hparts := hcut b
  rw [← h, hcut a, Option.some.injEq, Prod.mk.injEq] at hparts
  obtain ⟨hname, hversion⟩ := hparts
  have hname := Name.ext_text (String.toList_inj.mp hname)
  have hversion := congrArg Version.ofChars? (List.append_cancel_right hversion)
  rw [Version.ofChars?_toChars, Version.ofChars?_toChars, Option.some.injEq] at hversion
  cases a
  cases b
  rw [SchemaIdentifier.mk.injEq]
  exact ⟨hname, hversion⟩

end MetaSchema
