import MetaSchema.Proofs.Xml.Markup

/-!
# Reading what was written

What each reader takes from a text that starts with what it looks for and goes on in any way.

* `Delimited`: a text at which a name before it ends.
* `Cursor.qName_written`, `Cursor.value_written`: names and quoted values are read as they are.
* `Zone.within`: the zone in which an element may start.
* `next_tagStart`, `next_pair`, `next_tagEnd_closed`, `next_tagEnd_opened`, `next_close`, `next_text`:
  the token that is written first is the next one.
* `pieces_plain`, `spaced_plain`, `lineEnds_plain`: plain raw text stands for itself.
-/

namespace MetaSchema.Xml

/-! ## Places -/

namespace Place

theorem afterAll_cons (p : Place) (c : Char) (cs : List Char) :
    p.afterAll (c :: cs) = (p.after c).afterAll cs := rfl

theorem afterAll_append (p : Place) (as bs : List Char) :
    p.afterAll (as ++ bs) = (p.afterAll as).afterAll bs := List.foldl_append

end Place

namespace Cursor

variable {p : Place} {cs : List Char}

/-! ## Runs of characters -/

/-- A run ends where a character of another class follows. -/
theorem span_append {q : Char → Bool} {as : List Char} (has : ∀ a ∈ as, q a = true)
    (hcs : ∀ c ∈ cs.head?, q c = false) :
    (⟨as ++ cs, p⟩ : Cursor).span q = (as, ⟨cs, p.afterAll as⟩) := by
  have htake : (as ++ cs).takeWhile q = as := by
    rw [List.takeWhile_append_of_pos has]
    cases cs with
    | nil => rw [List.takeWhile_nil, List.append_nil]
    | cons c cs => rw [List.takeWhile_cons_of_neg (by simp [hcs c rfl]), List.append_nil]
  have hdrop : (as ++ cs).dropWhile q = cs := by
    rw [List.dropWhile_append_of_pos has]
    cases cs with
    | nil => rfl
    | cons c cs => exact List.dropWhile_cons_of_neg (by simp [hcs c rfl])
  simp only [span, htake, hdrop]

theorem skipSpaces_append (as : List Char) (has : ∀ a ∈ as, isSpace a = true)
    (hcs : ∀ c ∈ cs.head?, isSpace c = false) :
    (⟨as ++ cs, p⟩ : Cursor).skipSpaces = ⟨cs, p.afterAll as⟩ := by
  rw [skipSpaces, span_append has hcs]

/-- Nothing is skipped where no space follows. -/
theorem skipSpaces_of_head (hcs : ∀ c ∈ cs.head?, isSpace c = false) :
    (⟨cs, p⟩ : Cursor).skipSpaces = ⟨cs, p⟩ := skipSpaces_append [] nofun hcs

/-! ## Names -/

/-- A text at which a name before it ends. -/
def Delimited (cs : List Char) : Prop := ∀ c ∈ cs.head?, (isNamePart c || c == ':') = false

theorem delimited_cons {c : Char} (hc : (isNamePart c || c == ':') = false) (cs : List Char) :
    Delimited (c :: cs) := by
  rintro d hd
  cases hd
  exact hc

theorem qName_written {n : String} (hn : isPlainName n = true) (hcs : Delimited cs) :
    (⟨n.toList ++ cs, p⟩ : Cursor).qName = .ok (⟨"", n⟩, ⟨cs, p.afterAll n.toList⟩) := by
  rw [isPlainName, Bool.and_eq_true, List.all_eq_true] at hn
  have hcolon : ':' ∉ n.toList := fun h => absurd (hn.2 ':' h) (by decide)
  have hspan : (⟨n.toList ++ cs, p⟩ : Cursor).span (fun d => isNamePart d || d == ':') =
      (n.toList, ⟨cs, p.afterAll n.toList⟩) :=
    span_append (fun c hc => by rw [hn.2 c hc, Bool.true_or]) hcs
  have hsplit : n.toList.splitOn ':' = [n.toList] := List.splitOn_eq_singleton hcolon
  simp only [qName, hspan, hsplit, hn.1, if_true, String.ofList_toList]

/-! ## Single characters and values -/

theorem drop_one (c : Char) : (⟨c :: cs, p⟩ : Cursor).drop 1 = ⟨cs, p.after c⟩ := rfl

theorem char_self (c : Char) : (⟨c :: cs, p⟩ : Cursor).char c = .ok ⟨cs, p.after c⟩ := by
  simp only [char, if_true, drop_one]

/-- Reading goes on over characters of XML, up to the first that ends it. -/
theorem scanFrom_append {stop : List Char → Bool} {as : List Char}
    (has : ∀ a ∈ as, isChar a = true ∧ ∀ r, stop (a :: r) = false) {c : Char} (hc : isChar c = true)
    (hstop : stop (c :: cs) = true) (p : Place) :
    scanFrom stop (as ++ c :: cs) p = .ok (as, ⟨c :: cs, p.afterAll as⟩) := by
  induction as generalizing p with
  | nil => simp [scanFrom, hc, hstop, Place.afterAll]
  | cons a as ih =>
    obtain ⟨⟨hchar, hgo⟩, has⟩ := List.forall_mem_cons.mp has
    simp only [List.cons_append, scanFrom, hchar, hgo, ih has, Bool.not_true, if_false,
      Bool.false_eq_true, Except.map, Place.afterAll_cons]

/-- Nothing in a plain value ends it. -/
theorem isPlain_goes_on {c : Char} (hc : isPlain c = true) :
    isChar c = true ∧ (c == '"' || c == '<') = false := by
  have hquote : c ≠ '"' := ne_of_class hc (by decide)
  have hmark : c ≠ '<' := ne_of_class hc (by decide)
  rw [isPlain, Bool.and_eq_true] at hc
  exact ⟨hc.1, by simp [hmark, hquote]⟩

theorem value_written {v : String} (hv : isPlainValue v = true) :
    (⟨'=' :: '"' :: (v.toList ++ '"' :: cs), p⟩ : Cursor).value =
      .ok (v.toList, (p.after '=').after '"',
        ⟨cs, p.afterAll ('=' :: '"' :: (v.toList ++ ['"']))⟩) := by
  have heq : (⟨'=' :: '"' :: (v.toList ++ '"' :: cs), p⟩ : Cursor).skipSpaces.char '=' =
      .ok ⟨'"' :: (v.toList ++ '"' :: cs), p.after '='⟩ := by
    rw [skipSpaces_of_head (by simp [isSpace]), char_self]
  have hquote : (⟨'"' :: (v.toList ++ '"' :: cs), p.after '='⟩ : Cursor).skipSpaces.openQuote =
      .ok ('"', ⟨v.toList ++ '"' :: cs, (p.after '=').after '"'⟩) := by
    rw [skipSpaces_of_head (by simp [isSpace])]
    rfl
  have hscan : (⟨v.toList ++ '"' :: cs, (p.after '=').after '"'⟩ : Cursor).scanUntil
      (fun cs => cs.head?.any fun c => c == '"' || c == '<') =
        .ok (v.toList, ⟨'"' :: cs, ((p.after '=').after '"').afterAll v.toList⟩) :=
    scanFrom_append (fun a ha => ⟨(isPlain_goes_on (List.all_eq_true.mp hv a ha)).1, fun r =>
      (isPlain_goes_on (List.all_eq_true.mp hv a ha)).2⟩) (by decide) (by simp) _
  simp only [value, heq, hquote, hscan, char_self, bind, Except.bind, pure, Except.pure,
    Place.afterAll_cons, Place.afterAll_append]
  rfl

end Cursor

/-! ## Tokens -/

/-- The zone in which an element within `outer` open elements may start. -/
def Zone.within : Nat → Zone
  | 0 => .beforeRoot
  | n + 1 => .content n

section

variable {p : Place} {cs : List Char}

open Cursor

theorem isSpace_of_isNameStart {c : Char} (hc : isNameStart c = true) : isSpace c = false := by
  rw [Bool.eq_false_iff]
  intro h
  simp only [isSpace, Bool.or_eq_true, beq_iff_eq] at h
  rcases h with ((h | h) | h) | h <;> exact ne_of_class hc (by decide) h

theorem isPlainName_head {n : String} (hn : isPlainName n = true) :
    ∃ c r, n.toList = c :: r ∧ isNameStart c = true := by
  rw [isPlainName, Bool.and_eq_true, startsName] at hn
  cases h : n.toList with
  | nil => rw [h] at hn; cases hn.1
  | cons c r =>
    rw [h] at hn
    exact ⟨c, r, rfl, hn.1⟩

theorem next_tagStart {n : String} (hn : isPlainName n = true) (hcs : Delimited cs) (outer : Nat) :
    next (.within outer) ⟨'<' :: (n.toList ++ cs), p⟩ =
      .ok (some ⟨.tagStart ⟨"", n⟩ p, .tag outer, ⟨cs, p.afterAll ('<' :: n.toList)⟩⟩) := by
  have hread : tagStart outer ⟨'<' :: (n.toList ++ cs), p⟩ =
      .ok ⟨.tagStart ⟨"", n⟩ p, .tag outer, ⟨cs, p.afterAll ('<' :: n.toList)⟩⟩ := by
    simp only [tagStart, drop_one, qName_written hn hcs, bind, Except.bind, pure, Except.pure,
      Place.afterAll_cons]
  obtain ⟨c, r, hr, hc⟩ := isPlainName_head hn
  -- A name begins with none of the marks that would make this another token.
  have hmark : c ≠ '!' := ne_of_class hc (by decide)
  have hquestion : c ≠ '?' := ne_of_class hc (by decide)
  have hslash : c ≠ '/' := ne_of_class hc (by decide)
  rw [hr, List.cons_append] at hread ⊢
  cases outer with
  | zero =>
    have hskip : (⟨'<' :: c :: (r ++ cs), p⟩ : Cursor).skipSpaces = ⟨'<' :: c :: (r ++ cs), p⟩ :=
      skipSpaces_of_head (by simp [isSpace])
    simp [Zone.within, next, hskip, beforeRoot, beside?, startsWith, hmark.symm, hquestion.symm, hread,
      Except.map]
  | succ n =>
    simp only [Zone.within, next, inContent]
    split <;> simp_all [Except.map]

theorem next_pair {q : String × String} (hname : isPlainName q.1 = true)
    (hvalue : isPlainValue q.2 = true) (outer : Nat) :
    ∃ valuePlace, next (.tag outer) ⟨pairText q ++ cs, p⟩ =
      .ok (some ⟨.pair ⟨"", q.1⟩ q.2.toList (p.after ' ') valuePlace, .tag outer,
        ⟨cs, p.afterAll (pairText q)⟩⟩) := by
  refine ⟨(((p.after ' ').afterAll q.1.toList).after '=').after '"', ?_⟩
  have hread : tagPair outer ⟨q.1.toList ++ '=' :: '"' :: (q.2.toList ++ '"' :: cs), p.after ' '⟩ =
      .ok ⟨.pair ⟨"", q.1⟩ q.2.toList (p.after ' ')
        ((((p.after ' ').afterAll q.1.toList).after '=').after '"'), .tag outer,
          ⟨cs, p.afterAll (pairText q)⟩⟩ := by
    simp only [tagPair, qName_written hname (delimited_cons (c := '=') (by decide) _),
      value_written hvalue, bind, Except.bind, pure, Except.pure, pairText, Place.afterAll_cons,
      Place.afterAll_append]
  obtain ⟨c, r, hr, hc⟩ := isPlainName_head hname
  -- The name is neither of the two ends of a tag, and no space stands before it.
  have hslash : c ≠ '/' := ne_of_class hc (by decide)
  have hclose : c ≠ '>' := ne_of_class hc (by decide)
  have hspace : isSpace c = false := isSpace_of_isNameStart hc
  have hskip : Cursor.skipSpaces ⟨' ' :: (q.1.toList ++ '=' :: '"' :: (q.2.toList ++ '"' :: cs)), p⟩ =
      ⟨q.1.toList ++ '=' :: '"' :: (q.2.toList ++ '"' :: cs), p.after ' '⟩ :=
    skipSpaces_append [' '] (List.all_eq_true.mp rfl) (by simp [hr, hspace])
  simp only [next, inTag, pairText, List.cons_append, List.append_assoc, List.nil_append, hskip]
  simp only [hr, List.cons_append, pairText] at hread ⊢
  simp [atEnd, startsWithSpace, isSpace, hread, Except.map]

theorem next_tagEnd_closed (outer : Nat) :
    next (.tag outer) ⟨'/' :: '>' :: cs, p⟩ =
      .ok (some ⟨.tagEnd true, .leaving outer, ⟨cs, p.afterAll ['/', '>']⟩⟩) := by
  have hskip : (⟨'/' :: '>' :: cs, p⟩ : Cursor).skipSpaces = ⟨'/' :: '>' :: cs, p⟩ :=
    skipSpaces_of_head (by simp [isSpace])
  simp [next, inTag, atEnd, hskip, drop_one, char_self, bind, Except.bind, pure, Except.pure,
    Place.afterAll]

theorem next_tagEnd_opened (outer : Nat) :
    next (.tag outer) ⟨'>' :: cs, p⟩ =
      .ok (some ⟨.tagEnd false, .content outer, ⟨cs, p.after '>'⟩⟩) := by
  have hskip : (⟨'>' :: cs, p⟩ : Cursor).skipSpaces = ⟨'>' :: cs, p⟩ :=
    skipSpaces_of_head (by simp [isSpace])
  simp [next, inTag, atEnd, hskip, drop_one]

theorem next_close {n : String} (hn : isPlainName n = true) (inner : Nat) :
    next (.content inner) ⟨'<' :: '/' :: (n.toList ++ '>' :: cs), p⟩ =
      .ok (some ⟨.close ⟨"", n⟩ p, .leaving inner,
        ⟨cs, p.afterAll ('<' :: '/' :: (n.toList ++ ['>']))⟩⟩) := by
  have hdrop : (⟨'<' :: '/' :: (n.toList ++ '>' :: cs), p⟩ : Cursor).drop 2 =
      ⟨n.toList ++ '>' :: cs, (p.after '<').after '/'⟩ := rfl
  have hskip : ∀ p, (⟨'>' :: cs, p⟩ : Cursor).skipSpaces = ⟨'>' :: cs, p⟩ := fun p =>
    skipSpaces_of_head (by simp [isSpace])
  simp only [next, inContent, closeTag, hdrop, qName_written hn (delimited_cons (c := '>') (by decide) _),
    hskip, char_self, bind, Except.bind, pure, Except.pure, Except.map, Place.afterAll_cons,
    Place.afterAll_append]
  rfl

theorem next_text {g : List Char} (hg : g.all isGap = true) (hne : g ≠ []) (inner : Nat) :
    next (.content inner) ⟨g ++ '<' :: cs, p⟩ =
      .ok (some ⟨.text g p, .content inner, ⟨'<' :: cs, p.afterAll g⟩⟩) := by
  have hgap : ∀ c ∈ g, isChar c = true ∧ c ≠ '<' ∧ c ≠ ']' := of_isGap hg (by decide)
  have hscan : (⟨g ++ '<' :: cs, p⟩ : Cursor).scanUntil (·.head? == some '<') =
      .ok (g, ⟨'<' :: cs, p.afterAll g⟩) :=
    scanFrom_append (fun a ha => ⟨(hgap a ha).1, fun r => by simp [(hgap a ha).2.1]⟩) (by decide)
      (by simp) p
  have hclosed : Text.occursIn "]]>".toList g = false :=
    Text.occursIn_eq_false fun h => (hgap ']' h).2.2 rfl
  have hread : text inner ⟨g ++ '<' :: cs, p⟩ =
      .ok ⟨.text g p, .content inner, ⟨'<' :: cs, p.afterAll g⟩⟩ := by
    simp only [text, hscan, hclosed, bind, Except.bind, pure, Except.pure, Bool.false_eq_true, if_false]
  obtain ⟨c, r, rfl⟩ := List.exists_cons_of_ne_nil hne
  have hc : c ≠ '<' := (hgap c List.mem_cons_self).2.1
  rw [List.cons_append] at hread ⊢
  simp only [next, inContent]
  split <;> simp_all [Except.map]

end

/-! ## Raw text -/

/-- Without `&` there are no references. -/
theorem pieces_plain {raw : List Char} (h : '&' ∉ raw) (p : Place) :
    pieces p raw = .ok (raw.map .plain) := by
  induction raw generalizing p with
  | nil => rw [pieces, List.map_nil]
  | cons c raw ih =>
    rw [List.mem_cons, not_or] at h
    rw [pieces.eq_3 p c raw fun hc => h.1 hc.symm, ih h.2]
    rfl

/-- A value without tabs and line ends is as it is written. -/
theorem spaced_plain {raw : List Char} (h : ∀ c ∈ raw, c ≠ '\r' ∧ c ≠ '\n' ∧ c ≠ '\t') :
    spaced (raw.map .plain) = raw := by
  induction raw with
  | nil => rfl
  | cons c raw ih =>
    obtain ⟨⟨hreturn, hline, htab⟩, h⟩ := List.forall_mem_cons.mp h
    rw [List.map_cons, spaced, ih h, if_neg (by simp [hreturn, hline, htab])]
    exact fun _ _ hc => hreturn hc

theorem putPieces_plain {raw out : List Char} (h : '\r' ∉ raw) (hout : out.head? ≠ some '\r') :
    putPieces out false (raw.map .plain) = raw.reverse ++ out := by
  induction raw generalizing out with
  | nil => rfl
  | cons c raw ih =>
    rw [List.mem_cons, not_or] at h
    have hput : putPlain out c (raw.map Piece.plain).isEmpty = c :: out := by
      unfold putPlain
      split
      · exact (hout rfl).elim
      · exact if_neg fun hc => h.1 hc.1.symm
    rw [List.map_cons, putPieces, if_neg (by simp), hput, ih h.2 (by simpa using Ne.symm h.1),
      List.reverse_cons, List.append_assoc, List.singleton_append]

/-- Text without `\r` is as it is written. -/
theorem lineEnds_plain {raw : List Char} (h : '\r' ∉ raw) : lineEnds (raw.map .plain) = raw := by
  rw [lineEnds, putPieces_plain h (by simp), List.append_nil, List.reverse_reverse]

end MetaSchema.Xml
