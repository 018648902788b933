import Mathlib.Data.Nat.Digits.Defs
import Mathlib.Tactic.Ring
import MetaSchema.Proofs.Value.Integer
import MetaSchema.Value.Timestamp

/-!
# The texts of timestamps

* `Timestamp.Fits`: fields that fit the places they are written in.
* `Timestamp.fits_of_ofChars?`: so are those of every timestamp that is read.
* `Timestamp.ofChars?_toChars`: these are read back from the text, each of them, the offset and the
  leap second included.
-/

namespace MetaSchema.Value.Timestamp

open Text

/-! ## Digits of a fixed number -/

theorem digit?_lt {c : Char} {d : Nat} (h : digit? c = some d) : d < 10 := by
  rw [digit?_eq] at h
  split at h
  · rename_i hc
    cases h
    have hle : c.toNat ≤ '9'.toNat := (Char.isDigit_iff_toNat.mp hc).2
    have : '9'.toNat = 57 := rfl
    have : '0'.toNat = 48 := rfl
    omega
  · cases h

theorem digits?_lt {n acc m : Nat} {cs rest : List Char} (h : digits? n acc cs = some (m, rest)) :
    m < (acc + 1) * 10 ^ n := by
  induction n generalizing acc cs with
  | zero =>
    cases h
    omega
  | succ n ih =>
    cases cs with
    | nil => cases h
    | cons c cs =>
      obtain ⟨d, hd, h⟩ := Option.bind_eq_some_iff.mp h
      have hlt := digit?_lt hd
      calc m < (10 * acc + d + 1) * 10 ^ n := ih h
        _ ≤ (10 * (acc + 1)) * 10 ^ n := Nat.mul_le_mul_right _ (by omega)
        _ = (acc + 1) * 10 ^ (n + 1) := by ring

theorem digits?_append {ds : List Char} (hds : Digits ds) (acc : Nat) (rest : List Char) :
    digits? ds.length acc (ds ++ rest) = some (Nat.ofDigitChars 10 ds acc, rest) := by
  induction ds generalizing acc with
  | nil => rfl
  | cons c ds ih =>
    have hc : digit? c = some (c.toNat - '0'.toNat) := by
      rw [digit?_eq, if_pos (hds c List.mem_cons_self)]
    simp only [List.length_cons, List.cons_append, digits?, hc, Option.bind_some,
      Nat.ofDigitChars_cons]
    exact ih (fun x hx => hds x (List.mem_cons_of_mem c hx)) _

theorem ofDigitChars_lt {ds : List Char} (hds : Digits ds) :
    Nat.ofDigitChars 10 ds 0 < 10 ^ ds.length := by
  have hlt := digits?_lt (digits?_append hds 0 [])
  rwa [Nat.zero_add, Nat.one_mul] at hlt

theorem digits_padded (width n : Nat) : Digits (padded width n) :=
  (digits_zeros _).append (digits_naturalText n)

theorem ofDigitChars_padded (width n : Nat) : Nat.ofDigitChars 10 (padded width n) 0 = n := by
  rw [padded, ofDigitChars_zeros_append, ofDigitChars_naturalText]

theorem length_padded {width n : Nat} (hwidth : 0 < width) (hn : n < 10 ^ width) :
    (padded width n).length = width := by
  have hle : (naturalText n).length ≤ width := Nat.toDigits_length 10 n width hwidth hn
  rw [padded, List.length_append, List.length_replicate]
  omega

/-- **Padded digits are read back.** -/
theorem digits?_padded {width n : Nat} (hwidth : 0 < width) (hn : n < 10 ^ width)
    (rest : List Char) : digits? width 0 (padded width n ++ rest) = some (n, rest) := by
  have hread := digits?_append (digits_padded width n) 0 rest
  rwa [length_padded hwidth hn, ofDigitChars_padded] at hread

/-! ## Fractions and offsets -/

theorem fraction?_lt {cs rest : List Char} {n : Nat} (h : fraction? cs = some (n, rest)) :
    n < 10 ^ 9 := by
  unfold fraction? at h
  split at h
  · dsimp only at h
    split at h
    · cases h
    · obtain ⟨m, hm, heq⟩ := Option.map_eq_some_iff.mp h
      cases heq
      obtain ⟨-, hds, rfl⟩ := natural?_eq_some.mp hm
      refine (ofDigitChars_lt hds).trans_le (Nat.pow_le_pow_right (by decide) ?_)
      exact List.length_take_le 9 _
  · cases h
    decide

section Fractions

/-! What follows a fraction is the sign of an offset. -/

variable {sign : Char} (hsign : sign.isDigit = false) (rest : List Char)
include hsign

theorem takeWhile_digits {ds : List Char} (hds : Digits ds) :
    (ds ++ sign :: rest).takeWhile isDigit = ds ∧
      (ds ++ sign :: rest).dropWhile isDigit = sign :: rest := by
  have hall : ∀ c ∈ ds, isDigit c = true := fun c hc => isDigit_eq c ▸ hds c hc
  have hstop : ¬ isDigit sign = true := by
    rw [isDigit_eq, hsign]
    exact Bool.false_ne_true
  rw [List.takeWhile_append_of_pos hall, List.dropWhile_append_of_pos hall,
    List.takeWhile_cons_of_neg hstop, List.dropWhile_cons_of_neg hstop, List.append_nil]
  exact ⟨rfl, rfl⟩

/-- Fewer than nine digits are those of the larger units. -/
theorem fraction?_padded {width n : Nat} (hwidth : 0 < width) (hnine : width ≤ 9)
    (hn : n < 10 ^ width) :
    fraction? ('.' :: (padded width n ++ sign :: rest)) =
      some (n * 10 ^ (9 - width), sign :: rest) := by
  obtain ⟨htake, hdrop⟩ := takeWhile_digits hsign rest (digits_padded width n)
  have hlength := length_padded hwidth hn
  have hne : padded width n ≠ [] := by
    intro hnil
    rw [hnil] at hlength
    exact hwidth.ne hlength
  have hnines : (padded width n ++ List.replicate 9 '0').take 9 =
      padded width n ++ List.replicate (9 - width) '0' := by
    rw [List.take_append, List.take_of_length_le (by omega), hlength, List.take_replicate,
      Nat.min_eq_left (by omega)]
  have hnatural : natural? (padded width n ++ List.replicate (9 - width) '0') =
      some (n * 10 ^ (9 - width)) := by
    refine natural?_eq_some.mpr ⟨by simp [hne], (digits_padded _ _).append (digits_zeros _), ?_⟩
    rw [ofDigitChars_append_zeros, ofDigitChars_padded]
  simp only [fraction?, htake, hdrop, if_neg hne, hnines, hnatural, Option.map_some]

theorem fraction?_fractionText {n : Nat} (hn : n < 10 ^ 9) (hpoint : sign ≠ '.') :
    fraction? (fractionText n ++ sign :: rest) = some (n, sign :: rest) := by
  unfold fractionText
  split
  · rename_i hzero
    rw [hzero, List.nil_append]
    unfold fraction?
    split
    · -- Nothing is written for a zero, so the text goes on with the sign, which is no point.
      rename_i heq
      cases heq
      exact absurd rfl hpoint
    · rfl
  split
  · rename_i hmillis
    rw [List.cons_append, fraction?_padded hsign rest (by decide) (by decide) (by omega)]
    congr 2
    omega
  split
  · rename_i hmicros
    rw [List.cons_append, fraction?_padded hsign rest (by decide) (by decide) (by omega)]
    congr 2
    omega
  · rw [List.cons_append, fraction?_padded hsign rest (by decide) (by decide) hn]
    congr 2
    omega

end Fractions

/-- Offsets in whole minutes, below a day. -/
def OffsetFits (offset : Int) : Prop :=
  ∃ hours minutes : Nat, hours < 24 ∧ minutes < 60 ∧ offset.natAbs = hours * 3600 + minutes * 60

theorem offsetFits_of_offset? {cs rest : List Char} {offset : Int}
    (h : offset? cs = some (offset, rest)) : OffsetFits offset := by
  unfold offset? at h
  split at h
  · cases h
    exact ⟨0, 0, by decide, by decide, rfl⟩
  · cases h
    exact ⟨0, 0, by decide, by decide, rfl⟩
  · obtain ⟨⟨west, c₁⟩, -, h⟩ := Option.bind_eq_some_iff.mp h
    obtain ⟨⟨hours, c₂⟩, -, h⟩ := Option.bind_eq_some_iff.mp h
    obtain ⟨c₃, -, h⟩ := Option.bind_eq_some_iff.mp h
    obtain ⟨⟨minutes, c₄⟩, -, h⟩ := Option.bind_eq_some_iff.mp h
    obtain ⟨u, hguard, h⟩ := Option.bind_eq_some_iff.mp h
    cases h
    simp only [guard] at hguard
    split at hguard
    · -- The guard of the reader is what `OffsetFits` asks for.
      rename_i hin
      refine ⟨hours, minutes, hin.1, hin.2, ?_⟩
      cases west
      · exact Int.natAbs_natCast _
      · exact (Int.natAbs_neg _).trans (Int.natAbs_natCast _)
    · cases hguard

theorem offset?_signed (west : Bool) {hours minutes : Nat} (hhours : hours < 24)
    (hminutes : minutes < 60) :
    offset? ((if west then '-' else '+') :: (padded 2 hours ++ ':' :: padded 2 minutes)) =
      some (signed west (hours * 3600 + minutes * 60), []) := by
  have htwo : 0 < 2 := by decide
  have hfirst := digits?_padded (n := hours) htwo (by omega) (':' :: padded 2 minutes)
  have hlast := digits?_padded (n := minutes) htwo (by omega) []
  rw [List.append_nil] at hlast
  have hin : hours < 24 ∧ minutes < 60 := ⟨hhours, hminutes⟩
  cases west <;>
    simp [offset?, offsetSign?, hfirst, hlast, skip?, hin, guard, signed]

theorem offset?_offsetText {offset : Int} (h : OffsetFits offset) :
    offset? (offsetText offset) = some (offset, []) := by
  obtain ⟨hours, minutes, hhours, hminutes, habs⟩ := h
  have hh : offset.natAbs / 60 / 60 = hours := by omega
  have hm : offset.natAbs / 60 % 60 = minutes := by omega
  have hread := offset?_signed (decide (offset < 0)) hhours hminutes
  rw [← habs, signed_natAbs] at hread
  simpa only [offsetText, hh, hm, decide_eq_true_eq] using hread

/-! ## Whole timestamps -/

/-- Fields that fit the places they are written in. -/
structure Fits (t : Timestamp) : Prop where
  year : t.year < 10 ^ 4
  month : t.month < 10 ^ 2
  day : t.day < 10 ^ 2
  fraction : t.fraction < 10 ^ 9
  offset : OffsetFits t.offset
  inRange : t.inRange = true

/-- What is read of a text, field by field. -/
theorem ofChars?_eq_some {cs : List Char} {t : Timestamp} :
    ofChars? cs = some t ↔ ∃ c₁ c₂ c₃ c₄ c₅ c₆ c₇ c₈ c₉ c₁₀ c₁₁ c₁₂,
      digits? 4 0 cs = some (t.year, c₁) ∧ skip? (· == '-') c₁ = some c₂ ∧
      digits? 2 0 c₂ = some (t.month, c₃) ∧ skip? (· == '-') c₃ = some c₄ ∧
      digits? 2 0 c₄ = some (t.day, c₅) ∧ skip? isDateEnd c₅ = some c₆ ∧
      digits? 2 0 c₆ = some (t.hour, c₇) ∧ skip? (· == ':') c₇ = some c₈ ∧
      digits? 2 0 c₈ = some (t.minute, c₉) ∧ skip? (· == ':') c₉ = some c₁₀ ∧
      digits? 2 0 c₁₀ = some (t.second, c₁₁) ∧ fraction? c₁₁ = some (t.fraction, c₁₂) ∧
      offset? c₁₂ = some (t.offset, []) ∧ t.inRange = true := by
  constructor
  · intro h
    obtain ⟨⟨year, c₁⟩, h₁, h⟩ := Option.bind_eq_some_iff.mp h
    obtain ⟨c₂, h₂, h⟩ := Option.bind_eq_some_iff.mp h
    obtain ⟨⟨month, c₃⟩, h₃, h⟩ := Option.bind_eq_some_iff.mp h
    obtain ⟨c₄, h₄, h⟩ := Option.bind_eq_some_iff.mp h
    obtain ⟨⟨day, c₅⟩, h₅, h⟩ := Option.bind_eq_some_iff.mp h
    obtain ⟨c₆, h₆, h⟩ := Option.bind_eq_some_iff.mp h
    obtain ⟨⟨hour, c₇⟩, h₇, h⟩ := Option.bind_eq_some_iff.mp h
    obtain ⟨c₈, h₈, h⟩ := Option.bind_eq_some_iff.mp h
    obtain ⟨⟨minute, c₉⟩, h₉, h⟩ := Option.bind_eq_some_iff.mp h
    obtain ⟨c₁₀, h₁₀, h⟩ := Option.bind_eq_some_iff.mp h
    obtain ⟨⟨second, c₁₁⟩, h₁₁, h⟩ := Option.bind_eq_some_iff.mp h
    obtain ⟨⟨fraction, c₁₂⟩, h₁₂, h⟩ := Option.bind_eq_some_iff.mp h
    obtain ⟨⟨offset, rest⟩, h₁₃, h⟩ := Option.bind_eq_some_iff.mp h
    obtain ⟨u, hguard, h⟩ := Option.bind_eq_some_iff.mp h
    cases h
    simp only [guard] at hguard
    split at hguard
    · rename_i hin
      obtain ⟨rfl, hin⟩ := hin
      exact ⟨c₁, c₂, c₃, c₄, c₅, c₆, c₇, c₈, c₉, c₁₀, c₁₁, c₁₂, h₁, h₂, h₃, h₄, h₅, h₆, h₇, h₈, h₉,
        h₁₀, h₁₁, h₁₂, h₁₃, hin⟩
    · cases hguard
  · rintro ⟨c₁, c₂, c₃, c₄, c₅, c₆, c₇, c₈, c₉, c₁₀, c₁₁, c₁₂, h₁, h₂, h₃, h₄, h₅, h₆, h₇, h₈, h₉,
      h₁₀, h₁₁, h₁₂, h₁₃, hin⟩
    unfold ofChars?
    -- Two parts of the text at a time: a number and what ends it, the last time the fraction.
    iterate 6
      refine Option.bind_eq_some_iff.mpr ⟨_, ‹_›, Option.bind_eq_some_iff.mpr ⟨_, ‹_›, ?_⟩⟩
    refine Option.bind_eq_some_iff.mpr ⟨_, h₁₃, Option.bind_eq_some_iff.mpr ⟨(), ?_, rfl⟩⟩
    exact if_pos ⟨rfl, hin⟩

/-- **What is read fits.** -/
theorem fits_of_ofChars? {cs : List Char} {t : Timestamp} (h : ofChars? cs = some t) : t.Fits := by
  obtain ⟨_, _, _, _, _, _, _, _, _, _, _, _, hyear, -, hmonth, -, hday, -, -, -, -, -, -, hfraction,
    hoffset, hin⟩ := ofChars?_eq_some.mp h
  exact ⟨digits?_lt hyear, digits?_lt hmonth, digits?_lt hday, fraction?_lt hfraction,
    offsetFits_of_offset? hoffset, hin⟩

/-- **The text of a timestamp is read back.** -/
theorem ofChars?_toChars {t : Timestamp} (h : t.Fits) : ofChars? t.toChars = some t := by
  have hrange := h.inRange
  simp only [inRange, Bool.and_eq_true, decide_eq_true_eq] at hrange
  obtain ⟨⟨⟨⟨-, -⟩, hhour⟩, hminute⟩, hsecond⟩ := hrange
  -- An offset begins with a sign, and so it ends the fraction.
  have hoffset : ∃ sign rest, offsetText t.offset = sign :: rest ∧ sign.isDigit = false ∧
      sign ≠ '.' := by
    unfold offsetText
    split
    · exact ⟨_, _, rfl, rfl, by decide⟩
    · exact ⟨_, _, rfl, rfl, by decide⟩
  obtain ⟨sign, rest, htext, hsign, hpoint⟩ := hoffset
  have hfraction := fraction?_fractionText hsign rest h.fraction hpoint
  rw [← htext] at hfraction
  have htwo : 0 < 2 := by decide
  rw [ofChars?_eq_some]
  simp only [toChars, List.append_assoc, List.cons_append]
  exact ⟨_, _, _, _, _, _, _, _, _, _, _, _, digits?_padded (by decide) h.year _, rfl,
    digits?_padded htwo h.month _, rfl, digits?_padded htwo h.day _, rfl,
    digits?_padded htwo (by omega) _, rfl, digits?_padded htwo (by omega) _, rfl,
    digits?_padded htwo (by omega) _, hfraction, offset?_offsetText h.offset, h.inRange⟩

end MetaSchema.Value.Timestamp
