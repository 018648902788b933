import MetaSchema.Proofs.Value.Comparison
import MetaSchema.Proofs.Value.Timestamp
import MetaSchema.Value.Basic

/-!
# The texts of values

A value is read back from its text.

* `Value.written`: the value that the text of a value says. It is the value, but for the scale of a
  decimal.
* `Value.Equals`: values that are one.
* `Value.ofString?_text`: a text is read as the value that it says.
* `Value.losesCarry`, `Value.same_of_equals`: where values that are one do not compare as equal.
* `Value.reads_back`: every value is read back from its text and values with one text are one.
-/

namespace MetaSchema.Value

open Text

/-! ## References -/

theorem toLower_toLower (c : Char) : c.toLower.toLower = c.toLower := by
  have hupper : ∀ d : Char, d.val ≥ 'A'.val ∧ d.val ≤ 'Z'.val →
      d.toLower.val = d.val + ('a'.val - 'A'.val) :=
    fun d h => congrArg Char.val (dif_pos h)
  have hother : ∀ d : Char, ¬ (d.val ≥ 'A'.val ∧ d.val ≤ 'Z'.val) → d.toLower = d :=
    fun d h => dif_neg h
  by_cases h : c.val ≥ 'A'.val ∧ c.val ≤ 'Z'.val
  · have hlow : ¬ (c.toLower.val ≥ 'A'.val ∧ c.toLower.val ≤ 'Z'.val) := by
      have hle : c.val.toNat ≤ 90 := UInt32.le_iff_toNat_le.mp h.2
      have hge : 65 ≤ c.val.toNat := UInt32.le_iff_toNat_le.mp h.1
      have hadd : c.toLower.val.toNat = c.val.toNat + 32 := by
        rw [hupper c h, UInt32.toNat_add, Nat.mod_eq_of_lt]
        · rfl
        · exact Nat.lt_of_le_of_lt (Nat.add_le_add_right hle _) (by decide)
      rintro ⟨-, hz⟩
      have : c.toLower.val.toNat ≤ 90 := UInt32.le_iff_toNat_le.mp hz
      omega
    exact hother _ hlow
  · rw [hother c h, hother c h]

theorem Uuid.ofString?_text {s : String} {u : Uuid} (h : Uuid.ofString? s = some u) :
    Uuid.ofString? u.text = some u := by
  have hlower : ∀ cs : List Char, (cs.map Char.toLower).map Char.toLower = cs.map Char.toLower := by
    intro cs
    rw [List.map_map]
    exact List.map_congr_left fun c _ => toLower_toLower c
  have htext : u.text = String.ofList (s.toList.map Char.toLower) := by
    simp only [Uuid.ofString?] at h
    split at h
    · cases h
      rfl
    · cases h
  have hsame : String.ofList (u.text.toList.map Char.toLower) = u.text := by
    rw [htext, String.toList_ofList, hlower]
  simp only [Uuid.ofString?, hsame, u.formed, ↓reduceDIte]

/-! ## Values -/

/-- The value that the text of a value says. -/
def written : Value → Value
  | real d => real d.written
  | v => v

/-- Values that are one: decimals of one number, and otherwise one value. -/
def Equals : Value → Value → Prop
  | real a, real b => a.toRat = b.toRat
  | a, b => a = b

/-- **A text is read as the value that it says.** -/
theorem ofString?_text {p : Primitive} {s : String} {v : Value} (h : ofString? p s = some v) :
    ofString? p v.text = some v.written := by
  cases p with
  | boolean =>
    obtain ⟨b, -, rfl⟩ := Option.map_eq_some_iff.mp h
    cases b <;> rfl
  | integer =>
    obtain ⟨n, -, rfl⟩ := Option.map_eq_some_iff.mp h
    simp only [ofString?, text, String.toList_ofList, integer?_integerText, Option.map_some, written]
  | real =>
    obtain ⟨d, hd, rfl⟩ := Option.map_eq_some_iff.mp h
    simp only [ofString?, text, String.toList_ofList,
      Decimal.ofChars?_toChars (Decimal.scaleFits_of_ofChars? hd), Option.map_some, written]
  | string =>
    cases h
    rfl
  | timestamp =>
    obtain ⟨t, ht, rfl⟩ := Option.map_eq_some_iff.mp h
    simp only [ofString?, text, String.toList_ofList,
      Timestamp.ofChars?_toChars (Timestamp.fits_of_ofChars? ht), Option.map_some, written]
  | uri =>
    obtain ⟨u, -, rfl⟩ := Option.map_eq_some_iff.mp h
    simp only [ofString?, text, Uri.ofString?, u.formed, ↓reduceDIte, Option.map_some, written]
  | uuid =>
    obtain ⟨u, hu, rfl⟩ := Option.map_eq_some_iff.mp h
    simp only [ofString?, text, Uuid.ofString?_text hu, Option.map_some, written]

theorem text_written (v : Value) : v.written.text = v.text := by
  cases v with
  | real d => simp only [written, text, Decimal.toChars_written]
  | _ => rfl

theorem written_equals (v : Value) : v.written.Equals v := by
  cases v with
  | real d => exact d.toRat_written
  | _ => rfl

/-- Values that are written as one are one. -/
theorem equals_of_written {v w : Value} (h : v.written = w.written) : v.Equals w := by
  cases v with
  | real a =>
    cases w with
    | real b =>
      have hwritten : a.written = b.written := real.inj h
      show a.toRat = b.toRat
      rw [← a.toRat_written, hwritten, b.toRat_written]
    | _ => cases h
  | _ =>
    cases w with
    | real b => cases h
    | _ => exact h

/-- Whether the comparison of two values loses a carry. -/
def losesCarry : Value → Value → Bool
  | real a, real b => a.losesCarry b
  | _, _ => false

/-- **Values that are one** compare as equal, unless a carry is lost. -/
theorem same_of_equals {v w : Value} (h : v.Equals w) : v.same w = !v.losesCarry w := by
  cases v with
  | real a =>
    cases w with
    | real b => exact Decimal.agrees_of_toRat h
    | _ => cases h
  | timestamp t =>
    obtain rfl : timestamp t = w := h
    simp only [same, Timestamp.sameInstant, beq_self_eq_true, Bool.and_self, losesCarry, Bool.not_false]
  | _ =>
    obtain rfl := h
    simp only [same, beq_self_eq_true, losesCarry, Bool.not_false]

/-- **Reading back.** A value is read back from its text, as a value that is one with it and has the
same text, and all values of a primitive type that have one text are one. They compare as equal
except for decimals whose comparison loses a carry. -/
theorem reads_back {p : Primitive} {s : String} {v : Value} (h : ofString? p s = some v) :
    (∃ w, ofString? p v.text = some w ∧ w.text = v.text ∧ w.Equals v ∧
      w.same v = !w.losesCarry v) ∧
    ∀ s' v', ofString? p s' = some v' → v'.text = v.text →
      v'.Equals v ∧ v'.same v = !v'.losesCarry v := by
  refine ⟨⟨v.written, ofString?_text h, text_written v, written_equals v,
    same_of_equals (written_equals v)⟩, ?_⟩
  intro s' v' h' htext
  have hread := ofString?_text h'
  rw [htext, ofString?_text h] at hread
  have hequals := equals_of_written (Option.some.inj hread).symm
  exact ⟨hequals, same_of_equals hequals⟩

/-- A decimal in plain notation, read back with the zeros as digits. -/
theorem reads_back_large :
    ofString? .real "602e12" = some (real ⟨602, -12⟩) ∧
    ((∃ w, ofString? .real (real ⟨602, -12⟩).text = some w ∧ w.text = (real ⟨602, -12⟩).text ∧
      w.Equals (real ⟨602, -12⟩) ∧
      w.same (real ⟨602, -12⟩) = !w.losesCarry (real ⟨602, -12⟩)) ∧
    ∀ s' v', ofString? .real s' = some v' → v'.text = (real ⟨602, -12⟩).text →
      v'.Equals (real ⟨602, -12⟩) ∧
      v'.same (real ⟨602, -12⟩) = !v'.losesCarry (real ⟨602, -12⟩)) :=
  ⟨by decide +kernel, reads_back (s := "602e12") (by decide +kernel)⟩

/-- A decimal that does not compare as equal to what is read back from its text: the product of its
low word fits in a double word, and the sum with the carry does not. -/
theorem not_same_of_text :
    ¬ ∀ (p : Primitive) (s : String) (v : Value), ofString? p s = some v →
      ∃ w, ofString? p v.text = some w ∧ w.same v = true ∧ w.text = v.text := by
  intro h
  obtain ⟨w, hw, hsame, -⟩ := h .real "7922816251426433766e10"
    (real ⟨7922816251426433766, -10⟩) (by decide +kernel)
  have hread : ofString? .real (real ⟨7922816251426433766, -10⟩).text =
      some (real ⟨79228162514264337660000000000, 0⟩) := by decide +kernel
  have hdiffer : (real ⟨79228162514264337660000000000, 0⟩).same
      (real ⟨7922816251426433766, -10⟩) = false := by decide +kernel
  rw [hread] at hw
  cases hw
  rw [hdiffer] at hsame
  cases hsame

end MetaSchema.Value
