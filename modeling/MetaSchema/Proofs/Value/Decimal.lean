import Mathlib.Algebra.Order.Field.Rat
import Mathlib.Data.List.TakeWhile
import Mathlib.Tactic.Linarith
import Mathlib.Tactic.Ring
import MetaSchema.Proofs.Value.Integer
import MetaSchema.Value.Decimal

/-!
# The texts of decimals

* `Decimal.toRat`: the number that a decimal is.
* `Decimal.sameValue_iff`: the exact comparison of decimals is equality of the numbers.
* `Decimal.written`: the decimal that the text of a decimal says. Zeros that plain notation writes
  out are digits in it, and zero has no scale.
* `Decimal.ofChars?_toChars`: a text is read as the decimal that it says, in each notation.
* `toRat_written`, `toChars_written`: that is the same number, and has the same text.
-/

namespace MetaSchema.Value

open Text

namespace Decimal

/-! ## The number that a decimal is -/

def toRat (d : Decimal) : ℚ := d.digits * 10 ^ (-d.scale)

/-- Taking tens out of a number and off the scale. -/
theorem reduce_eq {n : Nat} (hn : n ≠ 0) (scale : Int) :
    ∃ k : Nat, n = (reduce n scale).1 * 10 ^ k ∧ (reduce n scale).2 = scale - k ∧
      (reduce n scale).1 % 10 ≠ 0 := by
  fun_induction reduce n scale with
  | case1 => exact absurd rfl hn
  | case2 n scale h hten ih =>
    obtain ⟨k, hk, hscale, hlast⟩ := ih (by omega)
    refine ⟨k + 1, ?_, by rw [hscale]; push_cast; ring, hlast⟩
    have hn10 : n = n / 10 * 10 := by omega
    rw [pow_succ, ← mul_assoc, ← hk]
    exact hn10
  | case3 n scale h hlast => exact ⟨0, by simp, by simp, hlast⟩

theorem toRat_eq_zero {d : Decimal} : d.toRat = 0 ↔ d.digits = 0 := by
  simp [toRat, zpow_ne_zero]

theorem toRat_scaled (n : Int) (k : Nat) (scale : Int) :
    toRat ⟨n * 10 ^ k, scale⟩ = toRat ⟨n, scale - k⟩ := by
  have h : -(scale - (k : Int)) = -scale + k := by ring
  simp only [toRat, h, zpow_add₀ (by norm_num : (10 : ℚ) ≠ 0), zpow_natCast]
  push_cast
  ring

/-- Decimals of one scale. -/
theorem toRat_eq_iff {m n scale : Int} : toRat ⟨m, scale⟩ = toRat ⟨n, scale⟩ ↔ m = n := by
  have h : (10 : ℚ) ^ (-scale) ≠ 0 := zpow_ne_zero _ (by norm_num)
  simp only [toRat]
  rw [mul_left_inj' h, Int.cast_inj]

theorem signed_mul (negative : Bool) (m n : Nat) :
    signed negative (m * n) = signed negative m * n := by
  cases negative <;> simp [signed]

theorem dvd_signed {negative : Bool} {n : Nat} : (10 : Int) ∣ signed negative n ↔ 10 ∣ n := by
  cases negative <;> simp [signed] <;> omega

theorem reduced_of_zero {d : Decimal} (h : d.digits = 0) : d.reduced = ⟨0, 0⟩ := by
  simp [reduced, h, reduce, signed]

theorem reduced_of_ne_zero {d : Decimal} (h : d.digits ≠ 0) :
    ∃ k : Nat, d = ⟨d.reduced.digits * 10 ^ k, d.reduced.scale + k⟩ ∧
      ¬ (10 : Int) ∣ d.reduced.digits := by
  obtain ⟨k, hk, hscale, hlast⟩ := reduce_eq (Int.natAbs_ne_zero.mpr h) d.scale
  have hdigits : d.digits = d.reduced.digits * 10 ^ k := by
    have hpow : ((10 ^ k : Nat) : Int) = 10 ^ k := by push_cast; rfl
    rw [← hpow]
    calc d.digits = signed (decide (d.digits < 0)) d.digits.natAbs := (signed_natAbs _).symm
      _ = d.reduced.digits * (10 ^ k : Nat) := by
        rw [hk, signed_mul]
        rfl
  have hscale' : d.scale = d.reduced.scale + k := by
    simp only [reduced, hscale]
    ring
  refine ⟨k, ?_, ?_⟩
  · rw [← hdigits, ← hscale']
  · simp only [reduced, dvd_signed]
    omega

theorem toRat_reduced (d : Decimal) : d.reduced.toRat = d.toRat := by
  by_cases h : d.digits = 0
  · rw [reduced_of_zero h, toRat_eq_zero.mpr h, toRat_eq_zero.mpr rfl]
  · obtain ⟨k, hd, -⟩ := reduced_of_ne_zero h
    conv_rhs => rw [hd, toRat_scaled, add_sub_cancel_right]

/-- Of two decimals of one number that do not end in zero, none has the smaller scale. -/
theorem scale_le_of_toRat_eq {a b : Decimal} (hb : ¬ (10 : Int) ∣ b.digits)
    (h : a.toRat = b.toRat) : b.scale ≤ a.scale := by
  by_contra hlt
  obtain ⟨k, hk⟩ : ∃ k : Nat, b.scale - ((k + 1 : Nat) : Int) = a.scale :=
    ⟨(b.scale - a.scale - 1).toNat, by omega⟩
  have hscaled : toRat ⟨a.digits * 10 ^ (k + 1), b.scale⟩ = toRat ⟨b.digits, b.scale⟩ := by
    rw [toRat_scaled, hk]
    exact h
  rw [toRat_eq_iff, pow_succ, ← mul_assoc] at hscaled
  exact hb ⟨a.digits * 10 ^ k, by rw [← hscaled, mul_comm]⟩

theorem reduced_eq_of_toRat {a b : Decimal} (h : a.toRat = b.toRat) : a.reduced = b.reduced := by
  by_cases ha : a.digits = 0
  · have hb : b.digits = 0 := toRat_eq_zero.mp (h ▸ toRat_eq_zero.mpr ha)
    rw [reduced_of_zero ha, reduced_of_zero hb]
  · have hb : b.digits ≠ 0 := fun hb => ha (toRat_eq_zero.mp (h ▸ toRat_eq_zero.mpr hb))
    obtain ⟨-, -, ha⟩ := reduced_of_ne_zero ha
    obtain ⟨-, -, hb⟩ := reduced_of_ne_zero hb
    rw [← toRat_reduced a, ← toRat_reduced b] at h
    have hscale : a.reduced.scale = b.reduced.scale :=
      le_antisymm (scale_le_of_toRat_eq ha h.symm) (scale_le_of_toRat_eq hb h)
    generalize a.reduced = a at *
    generalize b.reduced = b at *
    obtain ⟨m, scale⟩ := a
    obtain ⟨n, scale'⟩ := b
    obtain rfl : scale = scale' := hscale
    rw [toRat_eq_iff.mp h]

/-- **The exact comparison of decimals** is equality of the numbers. -/
theorem sameValue_iff {a b : Decimal} : a.sameValue b = true ↔ a.toRat = b.toRat := by
  rw [sameValue, beq_iff_eq]
  constructor
  · intro h
    rw [← toRat_reduced a, h, toRat_reduced]
  · exact reduced_eq_of_toRat

/-! ## Reading a decimal -/

/-- A text without exponent marks. -/
def Unmarked (cs : List Char) : Prop := ∀ c ∈ cs, isExponentMark c = false

theorem unmarked_digits {ds : List Char} (hds : Digits ds) : Unmarked ds := by
  intro c hc
  have hdigit := hds c hc
  by_contra hmark
  rw [Bool.not_eq_false, isExponentMark, Bool.or_eq_true, beq_iff_eq, beq_iff_eq] at hmark
  rcases hmark with rfl | rfl <;> cases hdigit

theorem unmarked_append {as bs : List Char} (ha : Unmarked as) (hb : Unmarked bs) :
    Unmarked (as ++ bs) :=
  fun c hc => (List.mem_append.mp hc).elim (ha c) (hb c)

theorem splitExponent?_unmarked {m : List Char} (h : Unmarked m) :
    splitExponent? m = some (m, 0) := by
  have hnone : m.dropWhile (!isExponentMark ·) = [] :=
    List.dropWhile_eq_nil_iff.mpr fun c hc => by simp [h c hc]
  simp only [splitExponent?, hnone]

/-- The sign of an exponent is always written. -/
def exponentText (negative : Bool) (n : Nat) : List Char :=
  (if negative then '-' else '+') :: naturalText n

theorem integerNumeral_exponentText (negative : Bool) (n : Nat) :
    IntegerNumeral (exponentText negative n) (signed negative n) := by
  have hs : Sign [if negative then '-' else '+'] negative := by
    cases negative with
    | true => exact .minus
    | false => exact .plus
  have h := IntegerNumeral.intro hs (naturalText_ne_nil n) (digits_naturalText n)
  rw [ofDigitChars_naturalText] at h
  exact h

theorem splitExponent?_marked {m x : List Char} {e : Int} (h : Unmarked m) (mark : Char)
    (hmark : isExponentMark mark = true) (hx : IntegerNumeral x e) :
    splitExponent? (m ++ mark :: x) = some (m, e) := by
  have hm : ∀ c ∈ m, (!isExponentMark c) = true := fun c hc => by simp [h c hc]
  have hdrop : (m ++ mark :: x).dropWhile (!isExponentMark ·) = mark :: x := by
    rw [List.dropWhile_append_of_pos hm, List.dropWhile_cons_of_neg (by simp [hmark])]
  have htake : (m ++ mark :: x).takeWhile (!isExponentMark ·) = m := by
    rw [List.takeWhile_append_of_pos hm, List.takeWhile_cons_of_neg (by simp [hmark]),
      List.append_nil]
  obtain ⟨hs, hne, hds⟩ := hx
  simp only [splitExponent?, hdrop, htake, hs.splitSign_append hds,
    natural?_eq_some.mpr ⟨hne, hds, rfl⟩, Option.map_some]

section Points

variable {sign : List Char} {negative : Bool} (hs : Sign sign negative)
include hs

theorem unmarked_sign : Unmarked sign := by
  cases hs <;> simp [Unmarked, isExponentMark]

theorem point_notMem_sign : '.' ∉ sign := by
  cases hs <;> simp

theorem splitPoint_whole {ds : List Char} (hds : Digits ds) :
    splitPoint (sign ++ ds) = (sign ++ ds, 0) := by
  have hpoint : '.' ∉ sign ++ ds := by
    rw [List.mem_append, not_or]
    exact ⟨point_notMem_sign hs, hds.notMem (by decide)⟩
  simp only [splitPoint, splitFirst?_eq_none hpoint]

theorem splitPoint_pointed {whole places : List Char} (hwhole : Digits whole)
    (hplaces : Digits places) :
    splitPoint (sign ++ (whole ++ '.' :: places)) = (sign ++ (whole ++ places), places.length) := by
  have hpoint : '.' ∉ sign ++ whole := by
    rw [List.mem_append, not_or]
    exact ⟨point_notMem_sign hs, hwhole.notMem (by decide)⟩
  have hall : places.filter (· ≠ '_') = places := hplaces.ungrouped_eq
  simp only [splitPoint, ← List.append_assoc, splitFirst?_append hpoint, hall]

/-- What the parts of a text say. -/
theorem ofChars?_of_parts {cs m : List Char} {e : Int} {ds : List Char} {k : Nat}
    (he : splitExponent? cs = some (m, e)) (hp : splitPoint m = (sign ++ ds, k))
    (hne : ds ≠ []) (hds : Digits ds) (hfit : scaleFits (k - e) = true) :
    ofChars? cs = some ⟨signed negative (Nat.ofDigitChars 10 ds 0), k - e⟩ := by
  simp only [ofChars?, he, Option.bind_some, hp, integer?_signed hs hne hds, hfit, ↓reduceIte]

end Points

theorem unmarked_pointed {whole places : List Char} (hwhole : Digits whole)
    (hplaces : Digits places) : Unmarked (whole ++ '.' :: places) := by
  refine unmarked_append (unmarked_digits hwhole) fun c hc => ?_
  rcases List.mem_cons.mp hc with rfl | hc
  · rfl
  · exact unmarked_digits hplaces c hc

theorem digits_take {ds : List Char} (hds : Digits ds) (k : Nat) : Digits (ds.take k) :=
  fun c hc => hds c (List.mem_of_mem_take hc)

theorem digits_drop {ds : List Char} (hds : Digits ds) (k : Nat) : Digits (ds.drop k) :=
  fun c hc => hds c (List.mem_of_mem_drop hc)

/-- The first digit, and the others after a point if there are any. -/
theorem leading_digit {sign : List Char} {negative : Bool} (hs : Sign sign negative)
    {ds : List Char} (hds : Digits ds) :
    let m := ds.take 1 ++ if ds.length = 1 then [] else '.' :: ds.drop 1
    Unmarked m ∧ splitPoint (sign ++ m) = (sign ++ ds, ds.length - 1) := by
  intro m
  by_cases hone : ds.length = 1
  · have hm : m = ds := by
      simp only [m, hone, ↓reduceIte, List.append_nil, List.take_of_length_le (Nat.le_of_eq hone)]
    rw [hm, hone]
    exact ⟨unmarked_digits hds, splitPoint_whole hs hds⟩
  · have hm : m = ds.take 1 ++ '.' :: ds.drop 1 := by simp only [m, hone, ↓reduceIte]
    rw [hm, splitPoint_pointed hs (digits_take hds 1) (digits_drop hds 1),
      List.take_append_drop, List.length_drop]
    exact ⟨unmarked_pointed (digits_take hds 1) (digits_drop hds 1), rfl⟩

/-- The scales at which plain notation writes out zeros after the digits. -/
def writesZeros (scale : Int) : Prop := -maxTrailingZeros ≤ scale ∧ scale ≤ 0

instance (scale : Int) : Decidable (writesZeros scale) :=
  inferInstanceAs (Decidable (_ ∧ _))

section Notations

variable {sign : List Char} {negative : Bool} (hs : Sign sign negative) {ds : List Char}
  (hne : ds ≠ []) (hds : Digits ds) {scale : Int}
include hs hne hds

/-- A small number: one digit before the point, and an exponent. -/
theorem ofChars?_small (hfit : scaleFits scale = true) (h : scale - ds.length > maxLeadingZeros) :
    ofChars? (sign ++ magnitudeText ds scale) =
      some ⟨signed negative (Nat.ofDigitChars 10 ds 0), scale⟩ := by
  have hpos : 0 < ds.length := List.length_pos_iff.mpr hne
  obtain ⟨hm, hpoint⟩ := leading_digit hs hds
  have he := splitExponent?_marked (unmarked_append (unmarked_sign hs) hm) 'E' rfl
    (integerNumeral_exponentText true (scale - ds.length + 1).toNat)
  have hscale : ((ds.length - 1 : Nat) : Int) - signed true (scale - ds.length + 1).toNat = scale := by
    simp only [signed, ↓reduceIte]
    omega
  have hread := ofChars?_of_parts hs he hpoint hne hds (by rw [hscale]; exact hfit)
  rw [hscale, List.append_assoc] at hread
  rw [magnitudeText, if_pos h]
  exact hread

/-- A large number: the digits and an exponent. -/
theorem ofChars?_large (hfit : scaleFits scale = true) (h : -scale > maxTrailingZeros) :
    ofChars? (sign ++ magnitudeText ds scale) =
      some ⟨signed negative (Nat.ofDigitChars 10 ds 0), scale⟩ := by
  have he := splitExponent?_marked (unmarked_append (unmarked_sign hs) (unmarked_digits hds))
    'e' rfl (integerNumeral_exponentText false (-scale).toNat)
  have hscale : ((0 : Nat) : Int) - signed false (-scale).toNat = scale := by
    simp only [signed, Bool.false_eq_true, ↓reduceIte]
    omega
  have hread := ofChars?_of_parts hs he (splitPoint_whole hs hds) hne hds
    (by rw [hscale]; exact hfit)
  rw [hscale, List.append_assoc] at hread
  rw [magnitudeText, if_neg (by omega), if_pos h]
  exact hread

/-- Zeros after the digits. -/
theorem ofChars?_zeros_after (h : writesZeros scale) :
    ofChars? (sign ++ magnitudeText ds scale) =
      some ⟨signed negative (Nat.ofDigitChars 10 ds 0 * 10 ^ (-scale).toNat), 0⟩ := by
  obtain ⟨hmax, hzeros⟩ := h
  have hall : Digits (ds ++ List.replicate (-scale).toNat '0') := hds.append (digits_zeros _)
  have he := splitExponent?_unmarked (unmarked_append (unmarked_sign hs) (unmarked_digits hall))
  have hread := ofChars?_of_parts hs he (splitPoint_whole hs hall) (by simp [hne]) hall rfl
  rw [ofDigitChars_append_zeros] at hread
  rw [magnitudeText, if_neg (by omega), if_neg (by omega), if_pos hzeros]
  exact hread

/-- A point among the digits. -/
theorem ofChars?_point_among (hfit : scaleFits scale = true) (hpos : 0 < scale)
    (h : scale < ds.length) :
    ofChars? (sign ++ magnitudeText ds scale) =
      some ⟨signed negative (Nat.ofDigitChars 10 ds 0), scale⟩ := by
  have hwhole := digits_take hds (ds.length - scale.toNat)
  have hplaces := digits_drop hds (ds.length - scale.toNat)
  have he := splitExponent?_unmarked
    (unmarked_append (unmarked_sign hs) (unmarked_pointed hwhole hplaces))
  have hpoint := splitPoint_pointed hs hwhole hplaces
  have hlength : (ds.drop (ds.length - scale.toNat)).length = scale.toNat := by
    rw [List.length_drop]
    omega
  rw [List.take_append_drop, hlength] at hpoint
  have hscale : ((scale.toNat : Nat) : Int) - 0 = scale := by omega
  have hread := ofChars?_of_parts hs he hpoint hne hds (by rw [hscale]; exact hfit)
  rw [hscale] at hread
  rw [magnitudeText, if_neg (by omega), if_neg (by omega), if_neg (by omega), if_pos h]
  exact hread

/-- Zeros between the point and the digits. -/
theorem ofChars?_zeros_before (hfit : scaleFits scale = true)
    (hmax : scale - ds.length ≤ maxLeadingZeros) (h : ds.length ≤ scale) :
    ofChars? (sign ++ magnitudeText ds scale) =
      some ⟨signed negative (Nat.ofDigitChars 10 ds 0), scale⟩ := by
  have hpos : 0 < ds.length := List.length_pos_iff.mpr hne
  have hplaces : Digits (List.replicate (scale.toNat - ds.length) '0' ++ ds) :=
    (digits_zeros _).append hds
  have he := splitExponent?_unmarked
    (unmarked_append (unmarked_sign hs) (unmarked_pointed (digits_zeros 1) hplaces))
  have hpoint := splitPoint_pointed hs (digits_zeros 1) hplaces
  have hlength : (List.replicate (scale.toNat - ds.length) '0' ++ ds).length = scale.toNat := by
    rw [List.length_append, List.length_replicate]
    omega
  rw [hlength] at hpoint
  -- The places behind the point are the zeros and the digits, which are as many as the scale.
  have hscale : ((scale.toNat : Nat) : Int) - 0 = scale := by omega
  have hread := ofChars?_of_parts hs he hpoint (by simp) ((digits_zeros 1).append hplaces)
    (by rw [hscale]; exact hfit)
  rw [hscale, ofDigitChars_zeros_append, ofDigitChars_zeros_append] at hread
  rw [magnitudeText, if_neg (by omega), if_neg (by omega), if_neg (by omega), if_neg (by omega)]
  exact hread

/-- **Reading each notation.** -/
theorem ofChars?_magnitudeText (hfit : scaleFits scale = true) :
    ofChars? (sign ++ magnitudeText ds scale) =
      some (if writesZeros scale then
        ⟨signed negative (Nat.ofDigitChars 10 ds 0 * 10 ^ (-scale).toNat), 0⟩
      else ⟨signed negative (Nat.ofDigitChars 10 ds 0), scale⟩) := by
  by_cases hzeros : writesZeros scale
  · rw [if_pos hzeros]
    exact ofChars?_zeros_after hs hne hds hzeros
  rw [if_neg hzeros]
  by_cases hlarge : -scale > maxTrailingZeros
  · exact ofChars?_large hs hne hds hfit hlarge
  have hscale : 0 < scale := by
    by_contra hle
    exact hzeros ⟨by omega, by omega⟩
  by_cases hsmall : scale - ds.length > maxLeadingZeros
  · exact ofChars?_small hs hne hds hfit hsmall
  · by_cases hamong : scale < ds.length
    · exact ofChars?_point_among hs hne hds hfit hscale hamong
    · exact ofChars?_zeros_before hs hne hds hfit (by omega) (by omega)

end Notations

/-! ## The text of a decimal -/

/-- The decimal that the text of a decimal says. -/
def written (d : Decimal) : Decimal :=
  if d.digits = 0 then ⟨0, 0⟩
  else if writesZeros d.scale then ⟨d.digits * 10 ^ (-d.scale).toNat, 0⟩
  else d

theorem toChars_eq (d : Decimal) :
    d.toChars = signText (decide (d.digits < 0)) ++
      magnitudeText (naturalText d.digits.natAbs) (if d.digits = 0 then 0 else d.scale) := by
  by_cases h : d.digits < 0 <;> simp [toChars, signText, h]

/-- **A text is read as the decimal that it says.** -/
theorem ofChars?_toChars {d : Decimal} (hfit : scaleFits d.scale = true) :
    ofChars? d.toChars = some d.written := by
  have hne := naturalText_ne_nil d.digits.natAbs
  have hds := digits_naturalText d.digits.natAbs
  rw [toChars_eq]
  by_cases hzero : d.digits = 0
  · rw [if_pos hzero, ofChars?_magnitudeText (sign_signText _) hne hds rfl, ofDigitChars_naturalText]
    simp [written, writesZeros, hzero, signed]
  · rw [if_neg hzero, ofChars?_magnitudeText (sign_signText _) hne hds hfit, ofDigitChars_naturalText, signed_mul,
      signed_natAbs, written, if_neg hzero]
    push_cast
    rfl

theorem scaleFits_of_ofChars? {cs : List Char} {d : Decimal} (h : ofChars? cs = some d) :
    scaleFits d.scale = true := by
  obtain ⟨⟨m, e⟩, -, h⟩ := Option.bind_eq_some_iff.mp h
  obtain ⟨n, -, h⟩ := Option.bind_eq_some_iff.mp h
  dsimp only at h
  split at h
  · cases h
    assumption
  · cases h

theorem toRat_written (d : Decimal) : d.written.toRat = d.toRat := by
  unfold written
  split
  · rename_i hzero
    rw [toRat_eq_zero.mpr hzero, toRat_eq_zero.mpr rfl]
  · split
    · rename_i hzeros
      rw [toRat_scaled]
      have hscale : 0 - (((-d.scale).toNat : Nat) : Int) = d.scale := by
        have := hzeros.2
        omega
      rw [hscale]
    · rfl

/-- Zeros after the digits are the text of a number that has them as digits. -/
theorem magnitudeText_zeros {n : Nat} (hn : n ≠ 0) {scale : Int} (h : writesZeros scale) :
    magnitudeText (naturalText (n * 10 ^ (-scale).toNat)) 0 =
      magnitudeText (naturalText n) scale := by
  obtain ⟨hmax, hzeros⟩ := h
  rw [naturalText_mul_pow hn]
  unfold magnitudeText
  rw [if_neg (by omega), if_neg (by omega), if_pos (Int.le_refl 0), if_neg (by omega),
    if_neg (by omega), if_pos hzeros]
  simp

theorem toChars_written (d : Decimal) : d.written.toChars = d.toChars := by
  unfold written
  split
  · rename_i hzero
    rw [toChars_eq, toChars_eq, hzero]
    rfl
  · rename_i hzero
    split
    · rename_i hzeros
      -- With a negative scale the zeros are written out, and the sign stays.
      have hpos : (0 : Int) < 10 ^ (-d.scale).toNat := Int.pow_pos (by decide)
      have habs : (d.digits * 10 ^ (-d.scale).toNat).natAbs =
          d.digits.natAbs * 10 ^ (-d.scale).toNat := by
        rw [Int.natAbs_mul, Int.natAbs_pow]
        rfl
      have hsign : d.digits * 10 ^ (-d.scale).toNat < 0 ↔ d.digits < 0 := by
        rw [mul_neg_iff]
        omega
      rw [toChars_eq, toChars_eq, if_neg hzero, habs, decide_eq_decide.mpr hsign, ite_self,
        magnitudeText_zeros (by omega) hzeros]
    · rfl

end Decimal

end MetaSchema.Value
