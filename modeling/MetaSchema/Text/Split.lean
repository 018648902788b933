/-!
# Splitting at a separator

A text cut in two at the first or at the last occurrence of a character.

* `splitFirst?`/`splitLast?`: the parts before and after the separator; `none` without one.
* `occursIn`: whether a text stands somewhere in another.
* `splitFirst?_append`/`splitLast?_append`: a text put together around a separator is cut there
  again when the part that must be free of it is.
* `append_cons_inj`: so it was put together in one way.
* `eq_of_splitFirst?`/`eq_of_splitLast?`: the parts of a text that is cut.
-/

namespace MetaSchema.Text

/-- The text before the first `sep` and the text after it. -/
def splitFirst? (sep : Char) : List Char → Option (List Char × List Char)
  | [] => none
  | c :: r => if c = sep then some ([], r) else (splitFirst? sep r).map fun p => (c :: p.1, p.2)

/-- The text before the last `sep` and the text after it. -/
def splitLast? (sep : Char) : List Char → Option (List Char × List Char)
  | [] => none
  | c :: r =>
    match splitLast? sep r with
    | some p => some (c :: p.1, p.2)
    | none => if c = sep then some ([], r) else none

/-- Whether `part` stands somewhere in the text. -/
def occursIn (part : List Char) : List Char → Bool
  | [] => part.isEmpty
  | c :: r => part.isPrefixOf (c :: r) || occursIn part r

/-- A text does not occur where its first character does not. -/
theorem occursIn_eq_false {a : Char} {part cs : List Char} (h : a ∉ cs) :
    occursIn (a :: part) cs = false := by
  induction cs with
  | nil => rfl
  | cons c cs ih =>
    rw [List.mem_cons, not_or] at h
    rw [occursIn, ih h.2, Bool.or_false, List.isPrefixOf_cons_cons, beq_eq_false_iff_ne.mpr h.1,
      Bool.false_and]

theorem splitFirst?_append {sep : Char} {a : List Char} (h : sep ∉ a) (b : List Char) :
    splitFirst? sep (a ++ sep :: b) = some (a, b) := by
  induction a with
  | nil => simp [splitFirst?]
  | cons c r ih =>
    have hc : c ≠ sep := fun e => h (e ▸ List.mem_cons_self)
    simp [splitFirst?, hc, ih fun m => h (List.mem_cons_of_mem c m)]

/-- A text is put together around a separator in one way. -/
theorem append_cons_inj {sep : Char} {a b as bs : List Char} (ha : sep ∉ a) (hb : sep ∉ b)
    (h : a ++ sep :: as = b ++ sep :: bs) : a = b ∧ as = bs := by
  have hsplit := splitFirst?_append ha as
  rw [h, splitFirst?_append hb, Option.some.injEq, Prod.mk.injEq] at hsplit
  exact ⟨hsplit.1.symm, hsplit.2.symm⟩

theorem splitFirst?_eq_none {sep : Char} {a : List Char} (h : sep ∉ a) :
    splitFirst? sep a = none := by
  induction a with
  | nil => rfl
  | cons c r ih =>
    have hc : c ≠ sep := fun e => h (e ▸ List.mem_cons_self)
    simp [splitFirst?, hc, ih fun m => h (List.mem_cons_of_mem c m)]

theorem eq_of_splitFirst? {sep : Char} {cs a b : List Char} (h : splitFirst? sep cs = some (a, b)) :
    cs = a ++ sep :: b ∧ sep ∉ a := by
  induction cs generalizing a with
  | nil => cases h
  | cons c r ih =>
    rw [splitFirst?] at h
    split at h
    · rename_i hc
      cases h
      exact ⟨by rw [hc, List.nil_append], List.not_mem_nil⟩
    · rename_i hc
      obtain ⟨⟨a', b'⟩, hr, he⟩ := Option.map_eq_some_iff.mp h
      cases he
      obtain ⟨rfl, ha⟩ := ih hr
      exact ⟨rfl, fun hmem => (List.mem_cons.mp hmem).elim (fun he => hc he.symm) ha⟩

theorem splitLast?_eq_none {sep : Char} {b : List Char} (h : sep ∉ b) :
    splitLast? sep b = none := by
  induction b with
  | nil => rfl
  | cons c r ih =>
    have hc : c ≠ sep := fun e => h (e ▸ List.mem_cons_self)
    simp [splitLast?, hc, ih fun m => h (List.mem_cons_of_mem c m)]

theorem notMem_of_splitLast? {sep : Char} {cs : List Char} (h : splitLast? sep cs = none) :
    sep ∉ cs := by
  induction cs with
  | nil => exact List.not_mem_nil
  | cons c r ih =>
    rw [splitLast?] at h
    split at h
    · cases h
    · rename_i hr
      split at h
      · cases h
      · rename_i hc
        exact fun hmem => (List.mem_cons.mp hmem).elim (fun he => hc he.symm) (ih hr)

theorem eq_of_splitLast? {sep : Char} {cs a b : List Char} (h : splitLast? sep cs = some (a, b)) :
    cs = a ++ sep :: b ∧ sep ∉ b := by
  induction cs generalizing a with
  | nil => cases h
  | cons c r ih =>
    rw [splitLast?] at h
    split at h
    · rename_i p hr
      cases h
      obtain ⟨hr, hb⟩ := ih hr
      exact ⟨by rw [hr, List.cons_append], hb⟩
    · rename_i hr
      split at h
      · rename_i hc
        cases h
        exact ⟨by rw [hc, List.nil_append], notMem_of_splitLast? hr⟩
      · cases h

theorem splitLast?_append {sep : Char} {b : List Char} (h : sep ∉ b) (a : List Char) :
    splitLast? sep (a ++ sep :: b) = some (a, b) := by
  induction a with
  | nil => simp [splitLast?, splitLast?_eq_none h]
  | cons c r ih => simp [splitLast?, ih]

end MetaSchema.Text
