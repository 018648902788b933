import MetaSchema.Text.Encoding

/-!
# Writing a text in an encoding

* `Encoding.encode`: the octets of a text, without a mark.
* `Encoding.decode_eq_some`: decoding undoes that, and decodes nothing else.
* `Encoding.Selected`: the encoding that the octets of a document select, and the octets after its mark.
* `Encoding.mark_not_leading`: the octets of a text in UTF-8 carry no mark, unless the text starts with
  one.
* `decodeDocument_encode`, `decodeDocument_invalid`: the text of a document, and documents without one.
-/

namespace MetaSchema.Text

namespace Encoding

/-- The 16-bit units of a character: one, or a high and a low surrogate. -/
def unitsOf (c : Char) : List Nat :=
  if c.toNat < 0x10000 then [c.toNat]
  else [0xD800 + (c.toNat - 0x10000) / 0x400, 0xDC00 + (c.toNat - 0x10000) % 0x400]

/-- The lower octet of a 16-bit unit. -/
def low (u : Nat) : UInt8 := UInt8.ofNat u

/-- The higher octet of a 16-bit unit. -/
def high (u : Nat) : UInt8 := UInt8.ofNat (u / 256)

/-- The octets of a text, without a mark. -/
def encode : Encoding → List Char → Octets
  | utf8, cs => utf8Octets cs
  | utf16le, cs => (cs.flatMap unitsOf).flatMap fun u => [low u, high u]
  | utf16be, cs => (cs.flatMap unitsOf).flatMap fun u => [high u, low u]

/-! ## Octets of 16-bit units -/

/-- A way to read a unit from two octets and the two octets of a unit, which undo each other. -/
structure Splits (unit : UInt8 → UInt8 → Nat) (first second : Nat → UInt8) : Prop where
  unit_lt : ∀ a b, unit a b < 0x10000
  first_unit : ∀ a b, first (unit a b) = a
  second_unit : ∀ a b, second (unit a b) = b
  unit_octets : ∀ u < 0x10000, unit (first u) (second u) = u

theorem splits_utf16le : Splits (fun a b => a.toNat + 256 * b.toNat) low high where
  unit_lt a b := by
    have := a.toNat_lt
    have := b.toNat_lt
    omega
  first_unit a b := by
    have := a.toNat_lt
    rw [low, ← UInt8.toNat_inj, UInt8.toNat_ofNat']
    omega
  second_unit a b := by
    have := a.toNat_lt
    have := b.toNat_lt
    rw [high, ← UInt8.toNat_inj, UInt8.toNat_ofNat']
    omega
  unit_octets u hu := by
    rw [low, high, UInt8.toNat_ofNat', UInt8.toNat_ofNat']
    omega

theorem splits_utf16be : Splits (fun a b => 256 * a.toNat + b.toNat) high low where
  unit_lt a b := by
    have := a.toNat_lt
    have := b.toNat_lt
    omega
  first_unit a b := by
    have := a.toNat_lt
    have := b.toNat_lt
    rw [high, ← UInt8.toNat_inj, UInt8.toNat_ofNat']
    omega
  second_unit a b := by
    have := b.toNat_lt
    rw [low, ← UInt8.toNat_inj, UInt8.toNat_ofNat']
    omega
  unit_octets u hu := by
    rw [low, high, UInt8.toNat_ofNat', UInt8.toNat_ofNat']
    omega

theorem units?_eq_some {unit : UInt8 → UInt8 → Nat} {first second : Nat → UInt8}
    (h : Splits unit first second) {os : Octets} {us : List Nat} :
    units? unit os = some us ↔
      os = us.flatMap (fun u => [first u, second u]) ∧ ∀ u ∈ us, u < 0x10000 := by
  constructor
  · intro hread
    -- By the recursion of the reader, which takes two octets at a time.
    fun_induction units? unit os generalizing us with
    | case1 =>
      cases hread
      simp
    | case2 => cases hread
    | case3 a b r ih =>
      obtain ⟨vs, hr, rfl⟩ := Option.map_eq_some_iff.mp hread
      obtain ⟨rfl, hvs⟩ := ih hr
      refine ⟨by simp [h.first_unit, h.second_unit], ?_⟩
      exact List.forall_mem_cons.mpr ⟨h.unit_lt a b, hvs⟩
  · rintro ⟨rfl, hus⟩
    induction us with
    | nil => rfl
    | cons u us ih =>
      obtain ⟨hu, hus⟩ := List.forall_mem_cons.mp hus
      simp [units?, ih hus, h.unit_octets u hu]

/-! ## Surrogates -/

/-- A unit that is no surrogate is a character by itself. -/
theorem ofUnits?_cons {u : Nat} (hu : u < 0xD800 ∨ 0xE000 ≤ u) (us : List Nat) :
    ofUnits? (u :: us) = (ofUnits? us).map (Char.ofNat u :: ·) := by
  cases us with
  | nil => simp [ofUnits?, hu]
  | cons v us => rw [ofUnits?, if_pos hu]

/-- A code point that is no surrogate is that of a character. -/
theorem toNat_ofNat {n : Nat} (h : n < 0xD800 ∨ 0xDFFF < n ∧ n < 0x110000) :
    (Char.ofNat n).toNat = n := by
  have hvalid : n.isValidChar := h
  rw [Char.ofNat, dif_pos hvalid]
  rfl

theorem ofUnits?_unitsOf (c : Char) (us : List Nat) :
    ofUnits? (unitsOf c ++ us) = (ofUnits? us).map (c :: ·) := by
  have hvalid : c.toNat < 0xD800 ∨ 0xDFFF < c.toNat ∧ c.toNat < 0x110000 := c.valid
  rw [unitsOf]
  split
  · rw [List.singleton_append, ofUnits?_cons (by omega), Char.ofNat_toNat]
  · have hpair : surrogatePair (0xD800 + (c.toNat - 0x10000) / 0x400)
        (0xDC00 + (c.toNat - 0x10000) % 0x400) = c.toNat := by
      unfold surrogatePair
      omega
    rw [List.cons_append, List.singleton_append, ofUnits?, if_neg (by omega), if_pos (by omega),
      hpair, Char.ofNat_toNat]

/-- The units of the character that two surrogates stand for. -/
theorem unitsOf_surrogatePair {u v : Nat} (hu : 0xD800 ≤ u ∧ u < 0xDC00)
    (hv : 0xDC00 ≤ v ∧ v < 0xE000) : unitsOf (Char.ofNat (surrogatePair u v)) = [u, v] := by
  have hcode : (Char.ofNat (surrogatePair u v)).toNat = surrogatePair u v := by
    refine toNat_ofNat (.inr ?_)
    unfold surrogatePair
    omega
  have hhigh : 0xD800 + (surrogatePair u v - 0x10000) / 0x400 = u := by
    unfold surrogatePair
    omega
  have hlow : 0xDC00 + (surrogatePair u v - 0x10000) % 0x400 = v := by
    unfold surrogatePair
    omega
  rw [unitsOf, hcode, if_neg (by unfold surrogatePair; omega), hhigh, hlow]

/-- The only unit of a character that is no pair of surrogates. -/
theorem unitsOf_ofNat {u : Nat} (hu : u < 0xD800 ∨ 0xE000 ≤ u) (hlt : u < 0x10000) :
    unitsOf (Char.ofNat u) = [u] := by
  rw [unitsOf, toNat_ofNat (by omega), if_pos hlt]

theorem ofUnits?_eq_some {us : List Nat} (hus : ∀ u ∈ us, u < 0x10000) {cs : List Char} :
    ofUnits? us = some cs ↔ us = cs.flatMap unitsOf := by
  constructor
  · intro hread
    -- The cases are the reader's: the end, a unit on its own, a pair of surrogates, or a failure.
    fun_induction ofUnits? us generalizing cs with
    | case1 =>
      cases hread
      rfl
    | case2 u hu =>
      cases hread
      rw [List.flatMap_singleton, unitsOf_ofNat hu (hus u List.mem_cons_self)]
    | case3 => cases hread
    | case4 u v r hu ih =>
      obtain ⟨ds, hr, rfl⟩ := Option.map_eq_some_iff.mp hread
      obtain ⟨hlt, hus⟩ := List.forall_mem_cons.mp hus
      rw [ih hus hr, List.flatMap_cons, unitsOf_ofNat hu hlt, List.singleton_append]
    | case5 u v r hu hpair ih =>
      obtain ⟨ds, hr, rfl⟩ := Option.map_eq_some_iff.mp hread
      obtain ⟨-, hus⟩ := List.forall_mem_cons.mp hus
      obtain ⟨-, hus⟩ := List.forall_mem_cons.mp hus
      rw [ih hus hr, List.flatMap_cons, unitsOf_surrogatePair (by omega) (by omega)]
      rfl
    | case6 => cases hread
  · rintro rfl
    clear hus
    induction cs with
    | nil => rfl
    | cons c cs ih => rw [List.flatMap_cons, ofUnits?_unitsOf, ih, Option.map_some]

/-- The units of characters fit in 16 bits. -/
theorem unitsOf_lt (c : Char) : ∀ u ∈ unitsOf c, u < 0x10000 := by
  have hvalid : c.toNat < 0xD800 ∨ 0xDFFF < c.toNat ∧ c.toNat < 0x110000 := c.valid
  intro u hu
  rw [unitsOf] at hu
  split at hu
  · rw [List.mem_singleton.mp hu]
    assumption
  · rcases List.mem_cons.mp hu with rfl | hu
    · omega
    · rw [List.mem_singleton.mp hu]
      omega

theorem decode_utf16 {unit : UInt8 → UInt8 → Nat} {first second : Nat → UInt8}
    (h : Splits unit first second) {os : Octets} {cs : List Char} :
    (units? unit os).bind ofUnits? = some cs ↔
      os = (cs.flatMap unitsOf).flatMap fun u => [first u, second u] := by
  rw [Option.bind_eq_some_iff]
  constructor
  · rintro ⟨us, hunits, hchars⟩
    obtain ⟨rfl, hlt⟩ := (units?_eq_some h).mp hunits
    rw [(ofUnits?_eq_some hlt).mp hchars]
  · rintro rfl
    have hlt : ∀ u ∈ cs.flatMap unitsOf, u < 0x10000 := by
      intro u hu
      obtain ⟨c, -, hu⟩ := List.mem_flatMap.mp hu
      exact unitsOf_lt c u hu
    exact ⟨_, (units?_eq_some h).mpr ⟨rfl, hlt⟩, (ofUnits?_eq_some hlt).mpr rfl⟩

/-! ## All encodings -/

theorem toByteArray_utf8Octets (cs : List Char) :
    (utf8Octets cs).toByteArray = cs.utf8Encode := rfl

theorem fromUTF8?_eq_some {bytes : ByteArray} {s : String} :
    String.fromUTF8? bytes = some s ↔ s.toByteArray = bytes := by
  constructor
  · intro h
    unfold String.fromUTF8? at h
    split at h
    · cases h
      rfl
    · cases h
  · rintro rfl
    exact dif_pos s.isValidUTF8

theorem decode_utf8 {os : Octets} {cs : List Char} :
    utf8.decode os = some cs ↔ os = utf8Octets cs := by
  rw [← List.toByteArray_inj, toByteArray_utf8Octets, decode, Option.map_eq_some_iff]
  constructor
  · rintro ⟨s, hs, rfl⟩
    rw [← fromUTF8?_eq_some.mp hs, String.utf8Encode_toList]
  · intro hos
    refine ⟨String.ofList cs, fromUTF8?_eq_some.mpr ?_, String.toList_ofList⟩
    rw [hos, String.toByteArray_ofList]

/-- **Decoding** gives the text that the octets encode, if there is one. -/
theorem decode_eq_some {e : Encoding} {os : Octets} {cs : List Char} :
    e.decode os = some cs ↔ os = e.encode cs := by
  cases e with
  | utf8 => exact decode_utf8
  | utf16le => exact decode_utf16 splits_utf16le
  | utf16be => exact decode_utf16 splits_utf16be

/-! ## Marks -/

/-- The encoding that the octets of a document select and the octets after the mark. Without a mark
they select UTF-8. -/
inductive Selected : Encoding → Octets → Octets → Prop where
  | marked (e : Encoding) (body : Octets) : Selected e (e.mark ++ body) body
  | unmarked (os : Octets) (h : ∀ e : Encoding, ¬ e.mark <+: os) : Selected utf8 os os

theorem sniff_marked (e : Encoding) (body : Octets) : sniff (e.mark ++ body) = (e, body) := by
  cases e <;> rfl

theorem sniff_unmarked {os : Octets} (h : ∀ e : Encoding, ¬ e.mark <+: os) : sniff os = (utf8, os) := by
  unfold sniff
  split
  · exact absurd (List.prefix_append utf8.mark _) (h utf8)
  · exact absurd (List.prefix_append utf16le.mark _) (h utf16le)
  · exact absurd (List.prefix_append utf16be.mark _) (h utf16be)
  · rfl

theorem Selected.sniff_eq {os body : Octets} {e : Encoding} (h : e.Selected os body) :
    sniff os = (e, body) := by
  cases h with
  | marked => exact sniff_marked e body
  | unmarked _ h => exact sniff_unmarked h

/-- The first octet of a text in UTF-8 is one that a character may start with. -/
theorem first_utf8Octets {cs : List Char} {o : UInt8} {os : Octets} (h : o :: os = utf8Octets cs) :
    o.IsUTF8FirstByte := by
  cases cs with
  | nil => cases h
  | cons c cs =>
    rw [utf8Octets, List.flatMap_cons] at h
    have hfirst := UInt8.isUTF8FirstByte_getElem_zero_utf8EncodeChar (c := c)
    cases hc : String.utf8EncodeChar c with
    | nil => exact absurd hc String.utf8EncodeChar_ne_nil
    | cons b bs =>
      rw [hc] at h
      simp only [hc, List.getElem_cons_zero] at hfirst
      rw [(List.cons.inj h).1]
      exact hfirst

/-- The octets of a text in UTF-8 carry no mark, unless the text starts with one. -/
theorem mark_not_leading {cs : List Char} (h : cs.head? ≠ some '\ufeff') (e : Encoding) :
    ¬ e.mark <+: utf8Octets cs := by
  rintro ⟨body, hbody⟩
  cases e with
  | utf8 =>
    have hoctets : ['\ufeff'].utf8Encode ++ body.toByteArray = cs.utf8Encode := by
      rw [← toByteArray_utf8Octets, ← toByteArray_utf8Octets, ← List.toByteArray_append, ← hbody]
      rfl
    obtain ⟨rest, rfl⟩ := List.isPrefix_of_utf8Encode_append_eq_utf8Encode _ hoctets
    exact h rfl
  | utf16le => exact absurd (first_utf8Octets hbody) (by decide)
  | utf16be => exact absurd (first_utf8Octets hbody) (by decide)

theorem selected_utf8Octets {cs : List Char} (h : cs.head? ≠ some '\ufeff') :
    Selected utf8 (utf8Octets cs) (utf8Octets cs) :=
  .unmarked _ (mark_not_leading h)

end Encoding

/-! ## Documents -/

variable {os body : Octets} {e : Encoding}

theorem decodeDocument_encode {cs : List Char} (h : e.Selected os (e.encode cs)) :
    decodeDocument os = .ok cs := by
  rw [decodeDocument, h.sniff_eq, Encoding.decode_eq_some.mpr rfl]

theorem decodeDocument_invalid (h : e.Selected os body) (hbody : ∀ cs, body ≠ e.encode cs) :
    decodeDocument os = .error e := by
  have hnone : e.decode body = none :=
    Option.eq_none_iff_forall_ne_some.mpr fun cs hcs => hbody cs (Encoding.decode_eq_some.mp hcs)
  rw [decodeDocument, h.sniff_eq, hnone]

end MetaSchema.Text
