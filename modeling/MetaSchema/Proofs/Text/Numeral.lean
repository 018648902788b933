import MetaSchema.Text.Blank
import MetaSchema.Text.Numeral
import Mathlib.Algebra.Group.Nat.Defs
import Mathlib.Data.List.Induction

/-!
# Numerals and the numbers that they write

* `isDigit_eq`: an ASCII digit, in the words of the library.
* `Digits`: a text of digits only.
* `digitsFrom?_eq_some`: what reading digits gives is the number of the library's
  `Nat.ofDigitChars`.
* `ungrouped`: a text without the `_` that may group its digits.
* `natural?_naturalText`: the digits of a number are read back as that number;
  `trimBlank_naturalText`: there are no blanks around them.
* `ofDigitChars_zeros_append`, `ofDigitChars_append_zeros`: zeros in front of digits do not change
  the number, zeros after them multiply it.
* `withoutZeros`, `naturalText_of_natural?`: the digits of a number that digits write are those
  digits, but for the zeros in front.
-/

namespace MetaSchema.Text

theorem digit?_eq (c : Char) :
    digit? c = if c.isDigit then some (c.toNat - '0'.toNat) else none := by
  have h : ('0' ≤ c ∧ c ≤ '9') ↔ c.isDigit = true := by
    simp [Char.isDigit, Char.le_def, UInt32.le_iff_toNat_le]
  simp only [digit?, h]

theorem isDigit_eq (c : Char) : isDigit c = c.isDigit := by
  unfold isDigit
  rw [digit?_eq]
  cases c.isDigit <;> rfl

/-- A text of digits only. -/
def Digits (cs : List Char) : Prop := ∀ c ∈ cs, c.isDigit = true

-- The instance for a quantifier over all characters would go through every one of them.
instance (cs : List Char) : Decidable (Digits cs) :=
  decidable_of_iff (cs.all Char.isDigit = true) List.all_eq_true

theorem digits_append_iff {as bs : List Char} : Digits (as ++ bs) ↔ Digits as ∧ Digits bs :=
  List.forall_mem_append

theorem Digits.append {as bs : List Char} (ha : Digits as) (hb : Digits bs) : Digits (as ++ bs) :=
  digits_append_iff.mpr ⟨ha, hb⟩

theorem digits_zeros (k : Nat) : Digits (List.replicate k '0') := by
  intro c hc
  rw [(List.mem_replicate.mp hc).2]
  rfl

theorem digits_naturalText (n : Nat) : Digits (naturalText n) :=
  fun _ hc => Nat.isDigit_of_mem_toDigits (by decide) (by decide) hc

/-- A character that is no digit does not stand among digits. -/
theorem Digits.notMem {cs : List Char} (h : Digits cs) {c : Char} (hc : c.isDigit = false) :
    c ∉ cs := by
  intro hmem
  rw [h c hmem] at hc
  cases hc

theorem naturalText_ne_nil (n : Nat) : naturalText n ≠ [] := Nat.toDigits_ne_nil

/-- **Reading digits.** -/
theorem digitsFrom?_eq_some {n m : Nat} {cs : List Char} :
    digitsFrom? n cs = some m ↔ Digits cs ∧ Nat.ofDigitChars 10 cs n = m := by
  induction cs generalizing n with
  | nil => simp [digitsFrom?, Digits, Nat.ofDigitChars_nil]
  | cons c cs ih =>
    rw [digitsFrom?, digit?_eq, Nat.ofDigitChars_cons]
    by_cases hc : c.isDigit = true
    · simp [hc, ih, Digits]
    · simp [hc, Digits]

theorem natural?_eq_some {m : Nat} {cs : List Char} :
    natural? cs = some m ↔ cs ≠ [] ∧ Digits cs ∧ Nat.ofDigitChars 10 cs 0 = m := by
  cases cs with
  | nil => simp [natural?]
  | cons c cs => simp [natural?, digitsFrom?_eq_some]

theorem ofDigitChars_naturalText (n : Nat) : Nat.ofDigitChars 10 (naturalText n) 0 = n :=
  Nat.ofDigitChars_toDigits (by decide) (by decide)

/-- **The digits of a number** are read back as that number. -/
theorem natural?_naturalText (n : Nat) : natural? (naturalText n) = some n :=
  natural?_eq_some.mpr ⟨naturalText_ne_nil n, digits_naturalText n, ofDigitChars_naturalText n⟩

theorem isBlank_of_isDigit {c : Char} (h : c.isDigit = true) : isBlank c = false := by
  simp only [Char.isDigit, Bool.and_eq_true, decide_eq_true_eq, ge_iff_le, UInt32.le_iff_toNat_le] at h
  change 48 ≤ c.toNat ∧ c.toNat ≤ 57 at h
  simp [isBlank, blankRanges]
  omega

theorem Digits.trimBlank_eq {cs : List Char} (h : Digits cs) : trimBlank cs = cs := by
  have hdrop : ∀ as : List Char, Digits as → as.dropWhile isBlank = as := by
    intro as has
    cases as with
    | nil => rfl
    | cons a as =>
      have ha := isBlank_of_isDigit (has a List.mem_cons_self)
      exact List.dropWhile_cons_of_neg (by simp [ha])
  rw [trimBlank, hdrop cs h, hdrop _ fun c hc => h c (List.mem_reverse.mp hc), List.reverse_reverse]

theorem trimBlank_naturalText (n : Nat) : trimBlank (naturalText n) = naturalText n :=
  (digits_naturalText n).trimBlank_eq

/-! ## Grouped digits -/

/-- A text without the `_` that may group its digits. -/
def ungrouped (cs : List Char) : List Char := cs.filter (· ≠ '_')

@[simp] theorem ungrouped_nil : ungrouped [] = [] := rfl

@[simp] theorem ungrouped_append (as bs : List Char) :
    ungrouped (as ++ bs) = ungrouped as ++ ungrouped bs :=
  List.filter_append _ _

theorem ungrouped_cons {c : Char} (hc : c ≠ '_') (cs : List Char) :
    ungrouped (c :: cs) = c :: ungrouped cs :=
  List.filter_cons_of_pos (decide_eq_true hc)

theorem ungrouped_eq_self {cs : List Char} : ungrouped cs = cs ↔ '_' ∉ cs := by
  rw [ungrouped, List.filter_eq_self]
  constructor
  · intro h hmem
    exact of_decide_eq_true (h '_' hmem) rfl
  · intro h c hc
    exact decide_eq_true fun e => h (e ▸ hc)

theorem Digits.ungrouped_eq {cs : List Char} (h : Digits cs) : ungrouped cs = cs :=
  ungrouped_eq_self.mpr (h.notMem (by decide))

/-- Digits have no `_` among them, so grouping does not matter to them. -/
theorem groupedNatural?_of_digits {cs : List Char} (h : Digits cs) :
    groupedNatural? cs = natural? cs := by
  have hline : '_' ∉ cs := h.notMem (by decide)
  cases cs with
  | nil => rfl
  | cons c cs =>
    have hc : c ≠ '_' := fun e => hline (e ▸ List.mem_cons_self)
    have hall : (c :: cs).filter (· ≠ '_') = c :: cs := h.ungrouped_eq
    rw [groupedNatural?, if_neg hc, hall, natural?]

theorem groupedNatural?_eq_some {m : Nat} {cs : List Char} (h : groupedNatural? cs = some m) :
    ungrouped cs ≠ [] ∧ Digits (ungrouped cs) ∧ Nat.ofDigitChars 10 (ungrouped cs) 0 = m := by
  cases cs with
  | nil => cases h
  | cons c cs =>
    rw [groupedNatural?] at h
    split at h
    · cases h
    · rename_i hc
      obtain ⟨hds, hm⟩ := digitsFrom?_eq_some.mp h
      exact ⟨ungrouped_cons hc cs ▸ List.cons_ne_nil _ _, hds, hm⟩

/-! ## Zeros around digits -/

theorem ofDigitChars_zeros_append (k : Nat) (cs : List Char) :
    Nat.ofDigitChars 10 (List.replicate k '0' ++ cs) 0 = Nat.ofDigitChars 10 cs 0 := by
  rw [Nat.ofDigitChars_append, Nat.ofDigitChars_replicate_zero, Nat.mul_zero]

/-- Zeros after the digits of a number multiply it. -/
theorem naturalText_mul_pow {n : Nat} (hn : n ≠ 0) (k : Nat) :
    naturalText (n * 10 ^ k) = naturalText n ++ List.replicate k '0' := by
  induction k with
  | zero => simp
  | succ k ih =>
    have hpos : 0 < n * 10 ^ k := Nat.mul_pos (Nat.pos_of_ne_zero hn) (Nat.pow_pos (by decide))
    have hlast := Nat.toDigits_append_toDigits (b := 10) (d := 0) (by decide) hpos (by decide)
    have heq : n * 10 ^ (k + 1) = 10 * (n * 10 ^ k) + 0 := by
      rw [Nat.pow_succ, Nat.add_zero, ← Nat.mul_assoc, Nat.mul_comm]
    rw [heq, naturalText, ← hlast, ← naturalText, ih, Nat.toDigits_zero, List.append_assoc,
      ← List.replicate_succ']

theorem ofDigitChars_append_zeros (k : Nat) (cs : List Char) :
    Nat.ofDigitChars 10 (cs ++ List.replicate k '0') 0 = Nat.ofDigitChars 10 cs 0 * 10 ^ k := by
  rw [Nat.ofDigitChars_append, Nat.ofDigitChars_replicate_zero, Nat.mul_comm]

/-! ## Zeros in front of a number -/

/-- Digits without the zeros in front of them; a zero stays where there is nothing else. -/
def withoutZeros : List Char → List Char
  | [] => ['0']
  | c :: cs => if c = '0' then withoutZeros cs else c :: cs

theorem digitChar_digit {c : Char} (hc : c.isDigit = true) :
    c.toNat - '0'.toNat < 10 ∧ Nat.digitChar (c.toNat - '0'.toNat) = c := by
  have hrange : '0' ≤ c ∧ c ≤ '9' := by
    simpa [Char.isDigit, Char.le_def, UInt32.le_iff_toNat_le] using hc
  have hlow : '0'.toNat ≤ c.toNat := hrange.1
  have hhigh : c.toNat ≤ '9'.toNat := hrange.2
  have hlt : c.toNat - '0'.toNat < 10 := by simp at hlow hhigh ⊢; omega
  refine ⟨hlt, Char.toNat_inj.mp ?_⟩
  rw [Nat.toNat_digitChar_of_lt_ten hlt]
  simp at hlow ⊢
  omega

/-- Digits that do not start with a zero are those of their number. -/
theorem naturalText_ofDigitChars {c : Char} (hc : c ≠ '0') {cs : List Char} (h : Digits (c :: cs)) :
    naturalText (Nat.ofDigitChars 10 (c :: cs) 0) = c :: cs := by
  induction cs using List.reverseRecOn with
  | nil =>
    obtain ⟨hlt, hchar⟩ := digitChar_digit (h c List.mem_cons_self)
    rw [Nat.ofDigitChars_cons, Nat.ofDigitChars_nil, Nat.mul_zero, Nat.zero_add, naturalText,
      Nat.toDigits_of_lt_base hlt, hchar]
  | append_singleton cs d ih =>
    rw [← List.cons_append] at h ⊢
    obtain ⟨hcs, hd⟩ := digits_append_iff.mp h
    obtain ⟨hlt, hchar⟩ := digitChar_digit (hd d List.mem_cons_self)
    have hpos : 0 < Nat.ofDigitChars 10 (c :: cs) 0 := by
      refine Nat.pos_of_ne_zero fun hzero => hc ?_
      have htext := ih hcs
      rw [hzero, naturalText, Nat.toDigits_zero] at htext
      exact (List.cons.inj htext).1.symm
    rw [Nat.ofDigitChars_append, Nat.ofDigitChars_cons, Nat.ofDigitChars_nil, naturalText,
      ← Nat.toDigits_append_toDigits (by decide) hpos hlt, Nat.toDigits_of_lt_base hlt, hchar,
      ← naturalText, ih hcs]

/-- **The number that digits write** has those digits, without the zeros in front. -/
theorem naturalText_of_natural? {cs : List Char} {n : Nat} (h : natural? cs = some n) :
    naturalText n = withoutZeros cs := by
  obtain ⟨-, hdigits, rfl⟩ := natural?_eq_some.mp h
  clear h
  induction cs with
  | nil => rw [Nat.ofDigitChars_nil, naturalText, Nat.toDigits_zero, withoutZeros]
  | cons c cs ih =>
    rw [withoutZeros]
    split
    · rename_i hc
      rw [← ih fun d hd => hdigits d (.tail _ hd), Nat.ofDigitChars_cons, hc, Nat.mul_zero, Nat.sub_self]
    · rename_i hc
      exact naturalText_ofDigitChars hc hdigits

end MetaSchema.Text
