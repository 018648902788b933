import MetaSchema.Proofs.Value.Decimal
import MetaSchema.Value.Comparison

/-!
# Lost carries

The comparison by words of a number with itself times a factor. It says yes unless a carry out of
the double word is lost.

* `carryLost`: whether the comparison loses a carry and comes to see it.
* `wordsAgree?_mul`: what the comparison says of a product.
* `Decimal.losesCarry`: that of two decimals.
* `Decimal.agrees_of_toRat`: decimals of one number compare as equal, but for a lost carry.
-/

namespace MetaSchema.Value

/-- Whether a product that fits in a double word overflows with its carry, where the products of the
two words that follow fit. What is lost is one in the word after the next. -/
def carryLost (factor : Nat) : Nat → List Nat → Bool
  | _, [] => false
  | carry, b :: bs =>
    if doubleSize ≤ b * factor then false
    else if doubleSize ≤ b * factor + carry then
      (bs.take 2).all fun b => decide (b * factor < doubleSize)
    else carryLost factor ((b * factor + carry) / wordSize) bs

theorem words_of_eq_zero {n : Nat} (hn : n = 0) : words n = [] := by
  rw [words, if_pos hn]

theorem words_of_ne_zero {n : Nat} (hn : n ≠ 0) : words n = n % wordSize :: words (n / wordSize) := by
  rw [words, if_neg hn]

theorem words_wordSize : words wordSize = [0, 1] := by
  rw [words_of_ne_zero (by decide), words_of_ne_zero (by decide), words_of_eq_zero (by decide)]
  rfl

theorem mod_doubleSize_mod (n : Nat) : n % doubleSize % wordSize = n % wordSize :=
  Nat.mod_mod_of_dvd n ⟨wordSize, rfl⟩

theorem succ_mod_ne (n : Nat) : (n + 1) % wordSize ≠ n % wordSize := by
  unfold wordSize
  omega

/-- The lowest word of a product, and the rest of it. -/
theorem words_mul_add {m f : Nat} (hm : m ≠ 0) (hf : f ≠ 0) (c : Nat) :
    words (m * f + c) = (m % wordSize * f + c) % wordSize ::
      words (m / wordSize * f + (m % wordSize * f + c) / wordSize) := by
  have hne : m * f + c ≠ 0 := by
    have := Nat.mul_ne_zero hm hf
    omega
  have hsplit : m * f + c = m % wordSize * f + c + wordSize * (m / wordSize * f) := by
    conv_lhs => rw [← Nat.mod_add_div m wordSize]
    ring
  rw [words_of_ne_zero hne]
  congr 1
  · rw [hsplit, Nat.add_mul_mod_self_left]
  · rw [hsplit, Nat.add_mul_div_left _ _ (by decide), Nat.add_comm]

/-- One step of the comparison where the words agree. -/
theorem wordsAgree?_step {f c b : Nat} {as bs : List Nat} (hb : b * f < doubleSize) :
    wordsAgree? f c ((b * f + c) % wordSize :: as) (b :: bs) =
      wordsAgree? f ((b * f + c) % doubleSize / wordSize) as bs := by
  rw [wordsAgree?, if_neg (by omega)]
  exact if_pos (mod_doubleSize_mod _).symm

section Products

variable {f : Nat} (hf : f ≠ 0)
include hf

/-- A carry that is too small by one is seen in the next word whose product fits. -/
theorem wordsAgree?_succ {c : Nat} (hc : c < wordSize) (m : Nat) :
    (wordsAgree? f c (words (m * f + (c + 1))) (words m)).getD true =
      !(((words m).take 1).all fun b => decide (b * f < doubleSize)) := by
  by_cases hm : m = 0
  · subst hm
    -- No words are left, and the carry alone is compared: it differs by one.
    have hword : (c + 1) % wordSize ≠ c := fun e =>
      succ_mod_ne c (e.trans (Nat.mod_eq_of_lt hc).symm)
    rw [Nat.zero_mul, Nat.zero_add, words_of_ne_zero (Nat.succ_ne_zero c), words_of_eq_zero rfl,
      wordsAgree?, if_neg hword]
    rfl
  · rw [words_mul_add hm hf, words_of_ne_zero hm]
    by_cases hb : m % wordSize * f < doubleSize
    · have hword : (m % wordSize * f + (c + 1)) % wordSize ≠
          (m % wordSize * f + c) % doubleSize % wordSize := by
        rw [mod_doubleSize_mod, ← Nat.add_assoc]
        exact succ_mod_ne _
      rw [wordsAgree?, if_neg (by omega)]
      simp only [hword, ↓reduceIte, Option.getD_some]
      simp [hb]
    · rw [wordsAgree?, if_pos (by omega)]
      simp [hb]

/-- A lost carry is seen two words on. -/
theorem wordsAgree?_lost (m : Nat) :
    (wordsAgree? f 0 (words (m * f + wordSize)) (words m)).getD true =
      !(((words m).take 2).all fun b => decide (b * f < doubleSize)) := by
  by_cases hm : m = 0
  · subst hm
    rw [Nat.zero_mul, Nat.zero_add, words_wordSize, words_of_eq_zero rfl]
    rfl
  · have hdouble : doubleSize = wordSize * wordSize := rfl
    have hword : (m % wordSize * f + wordSize) % wordSize = (m % wordSize * f + 0) % wordSize := by
      rw [Nat.add_mod_right, Nat.add_zero]
    have hcarry : (m % wordSize * f + wordSize) / wordSize = m % wordSize * f / wordSize + 1 :=
      Nat.add_div_right _ (by decide)
    rw [words_mul_add hm hf, words_of_ne_zero hm, hword, hcarry, List.take_succ_cons, List.all_cons]
    by_cases hb : m % wordSize * f < doubleSize
    · rw [wordsAgree?_step hb, Nat.add_zero, Nat.mod_eq_of_lt hb,
        wordsAgree?_succ hf (Nat.div_lt_of_lt_mul (hdouble ▸ hb)), decide_eq_true hb,
        Bool.true_and]
    · rw [wordsAgree?, if_pos (by omega), decide_eq_false hb]
      rfl

/-- **The comparison of a product** with its own factors. -/
theorem wordsAgree?_mul {c : Nat} (hc : c < wordSize) (m : Nat) :
    (wordsAgree? f c (words (m * f + c)) (words m)).getD true = !carryLost f c (words m) := by
  have hdouble : doubleSize = wordSize * wordSize := rfl
  induction m using Nat.strongRecOn generalizing c with
  | ind m ih =>
    by_cases hm : m = 0
    · subst hm
      rw [Nat.zero_mul, Nat.zero_add, words_of_eq_zero rfl]
      by_cases hzero : c = 0
      · subst hzero
        rw [words_of_eq_zero rfl]
        rfl
      · rw [words_of_ne_zero hzero, Nat.mod_eq_of_lt hc, Nat.div_eq_of_lt hc, words_of_eq_zero rfl,
          wordsAgree?, if_pos rfl]
        rfl
    · rw [words_mul_add hm hf, words_of_ne_zero hm, carryLost]
      by_cases hb : m % wordSize * f < doubleSize
      · rw [if_neg (by omega), wordsAgree?_step hb]
        by_cases hsum : doubleSize ≤ m % wordSize * f + c
        · -- the carry out of the double word is two words' worth, and what is kept is no carry
          have hcarry : (m % wordSize * f + c) / wordSize = wordSize :=
            Nat.div_eq_of_lt_le (hdouble ▸ hsum) (by rw [Nat.succ_mul]; omega)
          have hkept : (m % wordSize * f + c) % doubleSize / wordSize = 0 := by
            have hmod : (m % wordSize * f + c) % doubleSize = m % wordSize * f + c - doubleSize := by
              rw [Nat.mod_eq_sub_mod hsum, Nat.mod_eq_of_lt]
              have : wordSize < doubleSize := by decide
              omega
            rw [hmod]
            exact Nat.div_eq_of_lt (by omega)
          rw [if_pos hsum, hcarry, hkept, wordsAgree?_lost hf]
        · -- Nothing is lost in this word, and the carry is small enough for the next.
          have hfit : m % wordSize * f + c < wordSize * wordSize := by omega
          rw [if_neg hsum, Nat.mod_eq_of_lt (by omega)]
          exact ih _ (Nat.div_lt_self (Nat.pos_of_ne_zero hm) (by decide))
            (Nat.div_lt_of_lt_mul hfit)
      · rw [wordsAgree?, if_pos (by omega), if_pos (by omega)]
        rfl

theorem log2_add_le {m : Nat} (hm : m ≠ 0) : m.log2 + f.log2 ≤ (m * f).log2 := by
  rw [Nat.le_log2 (Nat.mul_ne_zero hm hf), Nat.pow_add]
  exact Nat.mul_le_mul (Nat.log2_self_le hm) (Nat.log2_self_le hf)

theorem timesAgree_mul {m : Nat} (hm : m ≠ 0) :
    timesAgree f (m * f) m = !carryLost f 0 (words m) := by
  rw [timesAgree, if_neg (Nat.not_lt.mpr (log2_add_le hf hm)), beq_self_eq_true]
  exact wordsAgree?_mul hf (by decide) m

end Products

namespace Decimal

/-- Whether the comparison of two decimals loses a carry. -/
def losesCarry (a b : Decimal) : Bool :=
  let gap := (a.scale - b.scale).natAbs
  decide (0 < gap ∧ gap < maxGap) &&
    carryLost (10 ^ gap) 0 (words (if b.scale < a.scale then b.digits.natAbs else a.digits.natAbs))

/-- Of decimals of one number, the one with the larger scale has the larger integer. -/
theorem digits_of_toRat {a b : Decimal} (h : a.toRat = b.toRat) (gap : Nat)
    (hgap : a.scale - b.scale = gap) : a.digits = b.digits * 10 ^ gap := by
  have hscaled : toRat ⟨a.digits, a.scale⟩ = toRat ⟨b.digits * 10 ^ gap, a.scale⟩ := by
    rw [toRat_scaled, ← hgap, sub_sub_cancel]
    exact h
  exact toRat_eq_iff.mp hscaled

theorem natAbs_of_toRat {a b : Decimal} (h : a.toRat = b.toRat) (gap : Nat)
    (hgap : a.scale - b.scale = gap) : a.digits.natAbs = b.digits.natAbs * 10 ^ gap := by
  rw [digits_of_toRat h gap hgap, Int.natAbs_mul, Int.natAbs_pow]
  rfl

/-- Decimals of one number have one sign. -/
theorem sign_eq_of_toRat {a b : Decimal} (h : a.toRat = b.toRat) :
    a.digits.sign = b.digits.sign := by
  have hpow : ∀ k : Nat, Int.sign (10 ^ k) = 1 := fun k =>
    Int.sign_eq_one_of_pos (Int.pow_pos (by decide))
  rcases Int.le_total b.scale a.scale with hle | hle
  · obtain ⟨gap, hgap⟩ := Int.eq_ofNat_of_zero_le (Int.sub_nonneg_of_le hle)
    rw [digits_of_toRat h gap hgap, Int.sign_mul, hpow, Int.mul_one]
  · obtain ⟨gap, hgap⟩ := Int.eq_ofNat_of_zero_le (Int.sub_nonneg_of_le hle)
    rw [digits_of_toRat h.symm gap hgap, Int.sign_mul, hpow, Int.mul_one]

/-- **Decimals of one number** compare as equal, unless a carry is lost. -/
theorem agrees_of_toRat {a b : Decimal} (h : a.toRat = b.toRat) :
    a.agrees b = !a.losesCarry b := by
  have hexact : a.sameValue b = true := sameValue_iff.mpr h
  have hpow : ∀ k : Nat, 10 ^ k ≠ 0 := fun k => (Nat.pow_pos (by decide)).ne'
  unfold agrees losesCarry
  extract_lets gap
  by_cases hgap : 0 < gap ∧ gap < maxGap
  · rw [decide_eq_true hgap, Bool.true_and]
    by_cases ha : a.digits = 0
    · have hb : b.digits = 0 := toRat_eq_zero.mp (h ▸ toRat_eq_zero.mpr ha)
      rw [if_pos (.inr (.inr (.inl ha))), hexact, ha, hb, Int.natAbs_zero, ite_self,
        words_of_eq_zero rfl]
      rfl
    · -- Neither is zero. One is the other with as many zeros as the gap behind it.
      have hb : b.digits ≠ 0 := fun hb => ha (toRat_eq_zero.mp (h ▸ toRat_eq_zero.mpr hb))
      have hsign := sign_eq_of_toRat h
      rw [if_neg (by omega)]
      split
      · rw [natAbs_of_toRat h gap (by omega)]
        exact timesAgree_mul (hpow gap) (Int.natAbs_ne_zero.mpr hb)
      · rw [natAbs_of_toRat h.symm gap (by omega)]
        exact timesAgree_mul (hpow gap) (Int.natAbs_ne_zero.mpr ha)
  · rw [if_pos (by omega), hexact, decide_eq_false hgap]
    rfl

end Decimal

end MetaSchema.Value
