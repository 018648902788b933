import Mathlib.Tactic.FieldSimp
import MetaSchema.Proofs.Value.Decimal
import MetaSchema.Value.Basic

/-!
# Numbers are read from numerals

Which texts are read as an integer or a real number, and as which number.

* `Mantissa`, `Exponent`, `RealNumeral`: an optional sign, digits with at most one point, and an
  optional exponent, with the number that they denote.
* `Decimal.ofChars?_of_numeral`: every numeral whose scale is in range is read as its number.
* `straightened`: a sign that stands behind a leading point, put before it with a zero.
* `Decimal.numeral_of_ofChars?`: a text that is read is a numeral once `_` is left out and a sign
  behind the point is put straight.
* `reads_numerals`: so the texts that are read and are no numerals are those with a `_` or with a
  sign behind a leading point.
-/

namespace MetaSchema.Value

open Text

/-! ## Real numerals -/

/-- Digits with at most one point among, before or after them: the number, and the digits that
stand behind the point. -/
inductive Mantissa : List Char → ℚ → Nat → Prop
  | whole {ds : List Char} (hne : ds ≠ []) (hds : Digits ds) :
      Mantissa ds (Nat.ofDigitChars 10 ds 0) 0
  | pointed {ds places : List Char} (hne : ds ++ places ≠ []) (hds : Digits ds)
      (hplaces : Digits places) :
      Mantissa (ds ++ '.' :: places)
        (Nat.ofDigitChars 10 ds 0 + Nat.ofDigitChars 10 places 0 / 10 ^ places.length)
        places.length

/-- An exponent, which may be missing. -/
inductive Exponent : List Char → Int → Prop
  | absent : Exponent [] 0
  | marked {mark : Char} {cs : List Char} {e : Int} (hmark : mark = 'e' ∨ mark = 'E')
      (he : IntegerNumeral cs e) : Exponent (mark :: cs) e

/-- A real numeral: the number that it denotes, and the places behind the point that its last digit
has once the exponent is counted. -/
inductive RealNumeral : List Char → ℚ → Int → Prop
  | intro {sign mantissa exponent : List Char} {negative : Bool} {q : ℚ} {places : Nat} {e : Int}
      (hs : Sign sign negative) (hm : Mantissa mantissa q places) (he : Exponent exponent e) :
      RealNumeral (sign ++ mantissa ++ exponent) ((if negative then -q else q) * 10 ^ e)
        (places - e)

/-- A sign. -/
def isSign (c : Char) : Bool := c = '+' || c = '-'

/-- A text with a sign behind a leading point. -/
def SignBehindPoint (cs : List Char) : Prop := ∃ c r, isSign c = true ∧ cs = '.' :: c :: r

/-- A sign behind a leading point, put before the point; a zero stands where it was. -/
def straightened : List Char → List Char
  | '.' :: c :: r => if isSign c then c :: '.' :: '0' :: r else '.' :: c :: r
  | cs => cs

/-! ## What does not stand in a numeral -/

theorem Sign.eq_nil_or {sign : List Char} {negative : Bool} (hs : Sign sign negative) :
    sign = [] ∨ ∃ c, isSign c = true ∧ sign = [c] := by
  cases hs with
  | unsigned => exact .inl rfl
  | plus => exact .inr ⟨'+', rfl, rfl⟩
  | minus => exact .inr ⟨'-', rfl, rfl⟩

theorem Sign.ungrouped_eq {sign : List Char} {negative : Bool} (hs : Sign sign negative) :
    ungrouped sign = sign := by
  cases hs <;> rfl

theorem not_isDigit_of_isSign {c : Char} (hc : isSign c = true) : c.isDigit = false := by
  rw [isSign, Bool.or_eq_true, decide_eq_true_iff, decide_eq_true_iff] at hc
  rcases hc with rfl | rfl <;> rfl

theorem digits_append_ne_cons {ds : List Char} (hne : ds ≠ []) (hds : Digits ds) {c : Char}
    (hc : c.isDigit = false) (rest r : List Char) : ds ++ rest ≠ c :: r := by
  obtain ⟨d, ds, rfl⟩ := List.exists_cons_of_ne_nil hne
  intro he
  have hd := hds d List.mem_cons_self
  rw [List.head_eq_of_cons_eq he, hc] at hd
  cases hd

theorem IntegerNumeral.ungrouped_eq {cs : List Char} {n : Int} (h : IntegerNumeral cs n) :
    ungrouped cs = cs := by
  obtain ⟨hs, -, hds⟩ := h
  rw [ungrouped_append, hs.ungrouped_eq, hds.ungrouped_eq]

theorem Exponent.ungrouped_eq {cs : List Char} {e : Int} (h : Exponent cs e) :
    ungrouped cs = cs := by
  cases h with
  | absent => rfl
  | marked hmark he =>
    rw [ungrouped_cons (by rcases hmark with rfl | rfl <;> decide), he.ungrouped_eq]

theorem Mantissa.ungrouped_eq {cs : List Char} {q : ℚ} {places : Nat} (h : Mantissa cs q places) :
    ungrouped cs = cs := by
  cases h with
  | whole _ hds => exact hds.ungrouped_eq
  | pointed _ hds hplaces =>
    rw [ungrouped_append, ungrouped_cons (by decide), hds.ungrouped_eq, hplaces.ungrouped_eq]

theorem RealNumeral.ungrouped_eq {cs : List Char} {q : ℚ} {scale : Int}
    (h : RealNumeral cs q scale) : ungrouped cs = cs := by
  obtain ⟨hs, hm, he⟩ := h
  rw [ungrouped_append, ungrouped_append, hs.ungrouped_eq, hm.ungrouped_eq, he.ungrouped_eq]

/-- Behind a leading point stands a digit. -/
theorem RealNumeral.not_signBehindPoint {cs : List Char} {q : ℚ} {scale : Int}
    (h : RealNumeral cs q scale) : ¬ SignBehindPoint cs := by
  rintro ⟨c, r, hc, hcs⟩
  obtain ⟨hs, hm, -⟩ := h
  cases hs with
  | plus => cases hcs
  | minus => cases hcs
  | unsigned =>
    rw [List.nil_append] at hcs
    cases hm with
    | whole hne hds => exact digits_append_ne_cons hne hds rfl _ _ hcs
    | @pointed ds places hne hds hplaces =>
      rw [List.append_assoc] at hcs
      by_cases hnil : ds = []
      · subst hnil
        exact digits_append_ne_cons hne hplaces (not_isDigit_of_isSign hc) _ _
          (List.tail_eq_of_cons_eq hcs)
      · exact digits_append_ne_cons hnil hds rfl _ _ hcs

theorem straightened_eq_self {cs : List Char} (h : ¬ SignBehindPoint cs) :
    straightened cs = cs := by
  unfold straightened
  split
  · rename_i c r
    exact if_neg fun hc => h ⟨c, r, hc, rfl⟩
  · rfl

theorem straightened_behind {c : Char} (hc : isSign c = true) (r : List Char) :
    straightened ('.' :: c :: r) = c :: '.' :: '0' :: r :=
  if_pos hc

namespace Decimal

/-! ## Every numeral is read -/

theorem isExponentMark_iff {c : Char} : isExponentMark c = true ↔ c = 'e' ∨ c = 'E' := by
  rw [isExponentMark, Bool.or_eq_true, beq_iff_eq, beq_iff_eq]

theorem splitExponent?_of_exponent {m x : List Char} {e : Int} (hm : Unmarked m)
    (hx : Exponent x e) : splitExponent? (m ++ x) = some (m, e) := by
  cases hx with
  | absent => rw [List.append_nil, splitExponent?_unmarked hm]
  | marked hmark he => exact splitExponent?_marked hm _ (isExponentMark_iff.mpr hmark) he

/-- The digits on both sides of a point, as one number. -/
theorem ofDigitChars_pointed (ds places : List Char) :
    (Nat.ofDigitChars 10 (ds ++ places) 0 : ℚ) / 10 ^ places.length =
      Nat.ofDigitChars 10 ds 0 + Nat.ofDigitChars 10 places 0 / 10 ^ places.length := by
  rw [Nat.ofDigitChars_append, Nat.ofDigitChars_eq_ofDigitChars_zero]
  push_cast
  field_simp

theorem toRat_signed (negative : Bool) (n places : Nat) (e : Int) :
    toRat ⟨signed negative n, places - e⟩ =
      (if negative then -(n / 10 ^ places : ℚ) else n / 10 ^ places) * 10 ^ e := by
  have hten : (10 : ℚ) ≠ 0 := by norm_num
  have hscale : -((places : Int) - e) = e - places := by ring
  rw [toRat, hscale, zpow_sub₀ hten, zpow_natCast]
  cases negative <;> simp [signed] <;> ring

/-- **Every real numeral is read,** as the number that it denotes, if its scale is in range. -/
theorem ofChars?_of_numeral {cs : List Char} {q : ℚ} {scale : Int} (h : RealNumeral cs q scale)
    (hfit : scaleFits scale = true) :
    ∃ d, ofChars? cs = some d ∧ d.toRat = q ∧ d.scale = scale := by
  obtain ⟨hs, hm, he⟩ := h
  cases hm with
  | whole hne hds =>
    have hsplit := splitExponent?_of_exponent (unmarked_append (unmarked_sign hs)
      (unmarked_digits hds)) he
    refine ⟨_, ofChars?_of_parts hs hsplit (splitPoint_whole hs hds) hne hds hfit, ?_, rfl⟩
    rw [toRat_signed, pow_zero, div_one]
  | pointed hne hds hplaces =>
    have hsplit := splitExponent?_of_exponent (unmarked_append (unmarked_sign hs)
      (unmarked_pointed hds hplaces)) he
    refine ⟨_, ofChars?_of_parts hs hsplit (splitPoint_pointed hs hds hplaces) hne
      (hds.append hplaces) hfit, ?_, rfl⟩
    rw [toRat_signed, ofDigitChars_pointed]

/-! ## What is read is a numeral -/

theorem splitExponent?_eq_some {cs m : List Char} {e : Int}
    (h : splitExponent? cs = some (m, e)) : ∃ x, cs = m ++ x ∧ Exponent x e := by
  rw [splitExponent?] at h
  split at h
  · cases h
    exact ⟨[], (List.append_nil _).symm, .absent⟩
  · rename_i mark r hdrop
    obtain ⟨n, hn, he⟩ := Option.map_eq_some_iff.mp h
    cases he
    have hmark : isExponentMark mark = true := by
      have hhead := List.head?_dropWhile_not (!isExponentMark ·) cs
      rw [hdrop] at hhead
      exact (Bool.not_eq_false' ..).mp hhead
    obtain ⟨hne, hds, hvalue⟩ := natural?_eq_some.mp hn
    obtain ⟨sign, hs, hr⟩ := exists_sign r
    have hnumeral := IntegerNumeral.intro hs hne hds
    rw [hvalue, ← hr] at hnumeral
    refine ⟨mark :: r, ?_, .marked (isExponentMark_iff.mp hmark) hnumeral⟩
    rw [← hdrop, List.takeWhile_append_dropWhile]

/-- A sign and what is behind it, cut in two elsewhere: the sign stands in the first part, or it
begins the second. -/
theorem sign_or_behind {sign ds whole places : List Char} {negative : Bool}
    (hs : Sign sign negative) (h : sign ++ ds = whole ++ places) :
    (∃ r, whole = sign ++ r ∧ ds = r ++ places) ∨
      ∃ c, isSign c = true ∧ sign = [c] ∧ whole = [] ∧ places = c :: ds := by
  rcases hs.eq_nil_or with rfl | ⟨c, hc, rfl⟩
  · exact .inl ⟨whole, rfl, h⟩
  · cases whole with
    | nil => exact .inr ⟨c, hc, rfl, rfl, h.symm⟩
    | cons c' whole =>
      obtain ⟨rfl, hrest⟩ := List.cons.inj h
      exact .inl ⟨whole, rfl, hrest⟩

section Read

variable {sign ds x : List Char} {negative : Bool} {e : Int} (hs : Sign sign negative)
  (hx : Exponent x e)
include hs hx

/-- Digits around a point are a numeral. -/
theorem numeral_pointed {whole places : List Char} (hne : whole ++ places ≠ [])
    (hwhole : Digits whole) (hplaces : Digits places) :
    RealNumeral (sign ++ (whole ++ '.' :: places) ++ x)
      (toRat ⟨signed negative (Nat.ofDigitChars 10 (whole ++ places) 0), places.length - e⟩)
      (places.length - e) := by
  rw [toRat_signed, ofDigitChars_pointed]
  exact .intro hs (.pointed hne hwhole hplaces) hx

theorem straightened_numeral {q : ℚ} {m : List Char} {places : Nat} (hm : Mantissa m q places) :
    straightened (sign ++ m ++ x) = sign ++ m ++ x :=
  straightened_eq_self (RealNumeral.intro hs hm hx).not_signBehindPoint

/-- What is left of a text without its point is a sign and digits: then the text is a numeral, or
the sign stands behind the point. -/
theorem numeral_of_splitPoint {m : List Char} (hm : (splitPoint m).1 = sign ++ ds)
    (hne : ungrouped ds ≠ []) (hds : Digits (ungrouped ds)) :
    RealNumeral (straightened (ungrouped m ++ x))
      (toRat ⟨signed negative (Nat.ofDigitChars 10 (ungrouped ds) 0), (splitPoint m).2 - e⟩)
      ((splitPoint m).2 - e) := by
  rw [splitPoint] at hm ⊢
  split at hm
  · -- no point
    dsimp only at hm ⊢
    rw [hm, ungrouped_append, hs.ungrouped_eq, straightened_numeral hs hx (.whole hne hds),
      toRat_signed, pow_zero, div_one]
    exact .intro hs (.whole hne hds) hx
  · rename_i whole places hpoint
    dsimp only at hm ⊢
    obtain ⟨rfl, -⟩ := eq_of_splitFirst? hpoint
    rcases sign_or_behind hs hm.symm with ⟨r, rfl, rfl⟩ | ⟨c, hc, rfl, rfl, rfl⟩
    · -- the point among or around the digits
      rw [ungrouped_append] at hne hds
      obtain ⟨hr, hplaces⟩ := digits_append_iff.mp hds
      have htext : ungrouped (sign ++ r ++ '.' :: places) =
          sign ++ (ungrouped r ++ '.' :: ungrouped places) := by
        rw [ungrouped_append, ungrouped_append, ungrouped_cons (by decide), hs.ungrouped_eq,
          List.append_assoc]
      rw [htext, ungrouped_append, straightened_numeral hs hx (.pointed hne hr hplaces)]
      exact numeral_pointed hs hx hne hr hplaces
    · -- the sign behind the point: it is counted as a place, which the zero takes up
      have hc' : c ≠ '_' := by
        rintro rfl
        cases hc
      have hlength : ((c :: ds).filter (· ≠ '_')).length = ('0' :: ungrouped ds).length := by
        rw [← ungrouped, ungrouped_cons hc', List.length_cons, List.length_cons]
      have hzero : Nat.ofDigitChars 10 ([] ++ '0' :: ungrouped ds) 0 =
          Nat.ofDigitChars 10 (ungrouped ds) 0 := ofDigitChars_zeros_append 1 (ungrouped ds)
      have hnumeral := numeral_pointed hs hx (List.cons_ne_nil _ _) (digits_zeros 0)
        ((digits_zeros 1).append hds)
      rw [List.nil_append, ungrouped_cons (by decide), ungrouped_cons hc', List.cons_append,
        List.cons_append, straightened_behind hc, hlength, ← hzero]
      exact hnumeral

end Read

/-- **What is read as a real number** is a numeral of that number, once `_` is left out and a sign
behind the point is put straight. -/
theorem numeral_of_ofChars? {cs : List Char} {d : Decimal} (h : ofChars? cs = some d) :
    RealNumeral (straightened (ungrouped cs)) d.toRat d.scale := by
  obtain ⟨⟨m, e⟩, hsplit, h⟩ := Option.bind_eq_some_iff.mp h
  obtain ⟨n, hn, h⟩ := Option.bind_eq_some_iff.mp h
  obtain ⟨x, rfl, hx⟩ := splitExponent?_eq_some hsplit
  obtain ⟨sign, negative, ds, hs, hm, hne, hds, rfl⟩ := integer?_eq_some hn
  dsimp only at h
  split at h
  · cases h
    rw [ungrouped_append, hx.ungrouped_eq]
    exact numeral_of_splitPoint hs hx hm hne hds
  · cases h

end Decimal

/-! ## Numbers are read from numerals -/

theorem integerNumeral_of_integer? {cs : List Char} {n : Int} (h : integer? cs = some n) :
    IntegerNumeral (ungrouped cs) n := by
  obtain ⟨sign, negative, ds, hs, rfl, hne, hds, rfl⟩ := integer?_eq_some h
  rw [ungrouped_append, hs.ungrouped_eq]
  exact .intro hs hne hds

theorem integerNumeral_iff {cs : List Char} {n : Int} (h : integer? cs = some n) :
    IntegerNumeral cs n ↔ '_' ∉ cs := by
  constructor
  · intro hnumeral
    exact ungrouped_eq_self.mp hnumeral.ungrouped_eq
  · intro hline
    have hnumeral := integerNumeral_of_integer? h
    rw [ungrouped_eq_self.mpr hline] at hnumeral
    exact hnumeral

theorem Decimal.realNumeral_iff {cs : List Char} {d : Decimal} (h : ofChars? cs = some d) :
    RealNumeral cs d.toRat d.scale ↔ '_' ∉ cs ∧ ¬ SignBehindPoint cs := by
  constructor
  · intro hnumeral
    exact ⟨ungrouped_eq_self.mp hnumeral.ungrouped_eq, hnumeral.not_signBehindPoint⟩
  · rintro ⟨hline, hpoint⟩
    have hnumeral := numeral_of_ofChars? h
    rw [ungrouped_eq_self.mpr hline, straightened_eq_self hpoint] at hnumeral
    exact hnumeral

/-- **Numbers are read from numerals.** A text that is read as an integer or a real number is, once
`_` is left out and a sign behind a leading point is put before it, a numeral of that number. So
the texts with such a `_` or sign are just those that are read and are no numerals. Every numeral
of an integer is read, and every numeral of a real number whose scale is in range. -/
theorem reads_numerals (s : String) :
    (∀ v, Value.ofString? .integer s = some v → ∃ n, v = .integer n ∧
      IntegerNumeral (ungrouped s.toList) n ∧ (IntegerNumeral s.toList n ↔ '_' ∉ s.toList)) ∧
    (∀ n, IntegerNumeral s.toList n → Value.ofString? .integer s = some (.integer n)) ∧
    (∀ v, Value.ofString? .real s = some v → ∃ d, v = .real d ∧
      RealNumeral (straightened (ungrouped s.toList)) d.toRat d.scale ∧
      (RealNumeral s.toList d.toRat d.scale ↔ '_' ∉ s.toList ∧ ¬ SignBehindPoint s.toList)) ∧
    ∀ q scale, RealNumeral s.toList q scale → Decimal.scaleFits scale = true →
      ∃ d, Value.ofString? .real s = some (.real d) ∧ d.toRat = q ∧ d.scale = scale := by
  refine ⟨fun v hv => ?_, fun n hn => ?_, fun v hv => ?_, fun q scale hq hfit => ?_⟩
  · obtain ⟨n, hn, rfl⟩ := Option.map_eq_some_iff.mp hv
    exact ⟨n, rfl, integerNumeral_of_integer? hn, integerNumeral_iff hn⟩
  · simp only [Value.ofString?, integer?_of_numeral hn, Option.map_some]
  · obtain ⟨d, hd, rfl⟩ := Option.map_eq_some_iff.mp hv
    exact ⟨d, rfl, Decimal.numeral_of_ofChars? hd, Decimal.realNumeral_iff hd⟩
  · obtain ⟨d, hd, hrat, hscale⟩ := Decimal.ofChars?_of_numeral hq hfit
    exact ⟨d, by simp only [Value.ofString?, hd, Option.map_some], hrat, hscale⟩

/-- An integer with its sign, and a real number with a point and an exponent. -/
theorem reads_numerals_avogadro :
    (IntegerNumeral "-12".toList (-12) ∧ Value.ofString? .integer "-12" = some (.integer (-12))) ∧
    (Value.ofString? .real "+6.02e23" = some (.real ⟨602, -21⟩) ∧
      RealNumeral "+6.02e23".toList (Decimal.toRat ⟨602, -21⟩) (-21)) := by
  have hdigits : Digits ['1', '2'] := by decide
  have hinteger : IntegerNumeral "-12".toList (-12) := .intro .minus (by decide) hdigits
  have hread : Value.ofString? .real "+6.02e23" = some (.real ⟨602, -21⟩) := by decide +kernel
  have hpoint : ¬ SignBehindPoint "+6.02e23".toList := by
    rintro ⟨c, r, -, htext⟩
    have hhead : "+6.02e23".toList.head? = some '.' := by rw [htext, List.head?_cons]
    exact absurd hhead (by decide)
  obtain ⟨d, hd, -, hiff⟩ := (reads_numerals "+6.02e23").2.2.1 _ hread
  cases hd
  exact ⟨⟨hinteger, (reads_numerals "-12").2.1 _ hinteger⟩, hread, hiff.mpr ⟨by decide, hpoint⟩⟩

/-- **What is read as a number need not be a numeral:** a `_` among the digits is skipped, and a
sign behind a leading point is taken as one of the places, so that `.-5` is five hundredths. -/
theorem not_only_numerals :
    (Value.ofString? .integer "1_000" = some (.integer 1000) ∧
      ¬ ∃ n, IntegerNumeral "1_000".toList n) ∧
    (Value.ofString? .real ".-5" = some (.real ⟨-5, 2⟩) ∧ Decimal.toRat ⟨-5, 2⟩ = -0.05 ∧
      ¬ ∃ q scale, RealNumeral ".-5".toList q scale) := by
  refine ⟨⟨by decide +kernel, ?_⟩, by decide +kernel, by norm_num [Decimal.toRat], ?_⟩
  · rintro ⟨n, hn⟩
    exact ungrouped_eq_self.mp hn.ungrouped_eq (by decide)
  · rintro ⟨q, scale, hq⟩
    exact hq.not_signBehindPoint ⟨'-', ['5'], rfl, rfl⟩

end MetaSchema.Value
