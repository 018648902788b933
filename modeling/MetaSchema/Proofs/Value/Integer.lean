import MetaSchema.Proofs.Text.Numeral
import MetaSchema.Value.Integer

/-!
# The texts of integers

* `Sign`, `IntegerNumeral`: an optional sign and digits, with the integer that they denote.
* `integer?_of_numeral`: every numeral is read as that integer.
* `integer?_eq_some`: what is read otherwise has `_` behind its first digit.
* `integer?_integerText`: an integer is read back from its text.
-/

namespace MetaSchema.Value

open Text

/-- An optional sign: whether it is `-`. -/
inductive Sign : List Char → Bool → Prop
  | unsigned : Sign [] false
  | plus : Sign ['+'] false
  | minus : Sign ['-'] true

/-- An optional sign and one digit or more, and the integer that they denote. -/
inductive IntegerNumeral : List Char → Int → Prop
  | intro {sign ds : List Char} {negative : Bool} (hs : Sign sign negative) (hne : ds ≠ [])
      (hds : Digits ds) :
      IntegerNumeral (sign ++ ds) (signed negative (Nat.ofDigitChars 10 ds 0))

/-- What stands before the digits of a number. -/
def signText (negative : Bool) : List Char := if negative then ['-'] else []

theorem sign_signText (negative : Bool) : Sign (signText negative) negative := by
  cases negative with
  | true => exact .minus
  | false => exact .unsigned

/-! ## Reading an integer -/

theorem splitSign_digits {ds : List Char} (hds : Digits ds) : splitSign ds = (false, ds) := by
  unfold splitSign
  split
  · cases hds _ List.mem_cons_self
  · cases hds _ List.mem_cons_self
  · rfl

theorem Sign.splitSign_append {sign ds : List Char} {negative : Bool} (hs : Sign sign negative)
    (hds : Digits ds) : splitSign (sign ++ ds) = (negative, ds) := by
  cases hs with
  | unsigned => exact splitSign_digits hds
  | plus => rfl
  | minus => rfl

theorem integer?_signed {sign ds : List Char} {negative : Bool} (hs : Sign sign negative)
    (hne : ds ≠ []) (hds : Digits ds) :
    integer? (sign ++ ds) = some (signed negative (Nat.ofDigitChars 10 ds 0)) := by
  have hnatural : natural? ds = some (Nat.ofDigitChars 10 ds 0) :=
    natural?_eq_some.mpr ⟨hne, hds, rfl⟩
  simp only [integer?, hs.splitSign_append hds, groupedNatural?_of_digits hds, hnatural,
    Option.map_some]

/-- **Every integer numeral is read,** as the integer that it denotes. -/
theorem integer?_of_numeral {cs : List Char} {n : Int} (h : IntegerNumeral cs n) :
    integer? cs = some n := by
  obtain ⟨hs, hne, hds⟩ := h
  exact integer?_signed hs hne hds

theorem exists_sign (cs : List Char) :
    ∃ sign, Sign sign (splitSign cs).1 ∧ cs = sign ++ (splitSign cs).2 := by
  unfold splitSign
  split
  · exact ⟨['-'], .minus, rfl⟩
  · exact ⟨['+'], .plus, rfl⟩
  · exact ⟨[], .unsigned, rfl⟩

/-- **What is read as an integer:** a sign and what are digits when `_` is left out. -/
theorem integer?_eq_some {cs : List Char} {n : Int} (h : integer? cs = some n) :
    ∃ sign negative ds, Sign sign negative ∧ cs = sign ++ ds ∧ ungrouped ds ≠ [] ∧
      Digits (ungrouped ds) ∧ n = signed negative (Nat.ofDigitChars 10 (ungrouped ds) 0) := by
  obtain ⟨sign, hs, hcs⟩ := exists_sign cs
  obtain ⟨m, hm, hn⟩ := Option.map_eq_some_iff.mp h
  obtain ⟨hne, hds, rfl⟩ := groupedNatural?_eq_some hm
  exact ⟨sign, _, _, hs, hcs, hne, hds, hn.symm⟩

/-! ## The text of an integer -/

theorem signed_natAbs (n : Int) : signed (decide (n < 0)) n.natAbs = n := by
  unfold signed
  split
  · rename_i h
    have hn : n < 0 := of_decide_eq_true h
    omega
  · rename_i h
    have hn : ¬ n < 0 := fun hn => h (decide_eq_true hn)
    omega

theorem integerText_eq (n : Int) :
    integerText n = signText (decide (n < 0)) ++ naturalText n.natAbs := by
  by_cases h : n < 0 <;> simp [integerText, signText, h]

/-- **An integer is read back from its text.** -/
theorem integer?_integerText (n : Int) : integer? (integerText n) = some n := by
  rw [integerText_eq, integer?_signed (sign_signText _) (naturalText_ne_nil _)
    (digits_naturalText _), ofDigitChars_naturalText, signed_natAbs]

end MetaSchema.Value
