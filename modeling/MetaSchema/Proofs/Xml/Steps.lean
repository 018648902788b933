import Mathlib.Logic.Relation
import MetaSchema.Proofs.Lists
import MetaSchema.Proofs.Xml.Scanning

/-!
# Reading an element step by step

* `Reading`: how far a text was read, with the tree so far; `Reading.Advances`: one token is read and
  added; `Reading.Reaches`: any number of them.
* `Reading.root?_eq_ok`: steps that lead to the end of a text and a finished tree give its root element.
* `StartTag.tag`, `StartTag.frame`: what a written start tag is while it is read, and the open element
  that it makes.
* `Markup.reaches`, `Contents.reaches`: **a written element is read as the element it stands for**, whatever
  stands around it. By induction on the element; the text behind it and the tree before it vary.
-/

namespace MetaSchema.Xml

/-- How far a text was read, and the tree so far. -/
structure Reading where
  zone : Zone
  cursor : Cursor
  builder : Builder

namespace Reading

variable {limit : Nat} {r s : Reading}

/-- A token is read, and added to the tree. -/
structure Advances (limit : Nat) (r s : Reading) : Prop where
  progress : s.cursor.rest.length < r.cursor.rest.length
  read : ∃ token, next r.zone r.cursor = .ok (some ⟨token, s.zone, s.cursor⟩) ∧
    r.builder.add limit token = .ok s.builder

/-- A token that stands first in a text is read. -/
theorem advances_append {z z' : Zone} {b b' : Builder} {p : Place} (as cs : List Char) (has : as ≠ [])
    {token : Token} (hnext : next z ⟨as ++ cs, p⟩ = .ok (some ⟨token, z', ⟨cs, p.afterAll as⟩⟩))
    (hadd : b.add limit token = .ok b') :
    Advances limit ⟨z, ⟨as ++ cs, p⟩, b⟩ ⟨z', ⟨cs, p.afterAll as⟩, b'⟩ where
  progress := by
    have := List.length_pos_of_ne_nil has
    simp only [List.length_append]
    omega
  read := ⟨token, hnext, hadd⟩

/-- Any number of tokens are read. -/
abbrev Reaches (limit : Nat) : Reading → Reading → Prop := Relation.ReflTransGen (Advances limit)

/-- Steps to the end of a text read all of its tokens. -/
theorem scanFrom_of_reaches (h : Reaches limit r s) (hend : next s.zone s.cursor = .ok none) {fuel : Nat}
    (hfuel : r.cursor.rest.length < fuel) :
    (scanFrom fuel r.zone r.cursor).failure = none ∧
      (scanFrom fuel r.zone r.cursor).tokens.foldlM (Builder.add limit) r.builder = .ok s.builder := by
  induction h using Relation.ReflTransGen.head_induction_on generalizing fuel with
  | refl =>
    obtain ⟨fuel, rfl⟩ := Nat.exists_eq_succ_of_ne_zero (Nat.ne_of_gt (Nat.zero_lt_of_lt hfuel))
    rw [scanFrom, hend]
    exact ⟨rfl, rfl⟩
  | head hstep _ ih =>
    obtain ⟨fuel, rfl⟩ := Nat.exists_eq_succ_of_ne_zero (Nat.ne_of_gt (Nat.zero_lt_of_lt hfuel))
    obtain ⟨token, hnext, hadd⟩ := hstep.read
    obtain ⟨hfailure, htokens⟩ := ih (Nat.lt_of_lt_of_le hstep.progress (Nat.le_of_lt_succ hfuel))
    simp only [scanFrom, hnext, List.foldlM_cons, hadd]
    exact ⟨hfailure, htokens⟩

/-- Blanks before the root element are skipped. -/
theorem next_skipSpaces (k : Cursor) : next .beforeRoot k.skipSpaces = next .beforeRoot k := by
  have hhead : ∀ c ∈ k.skipSpaces.rest.head?, isSpace c = false := by
    intro c hc
    have := List.head?_dropWhile_not isSpace k.rest
    rw [show (k.rest.dropWhile isSpace).head? = some c from hc] at this
    exact this
  have hskip : k.skipSpaces.skipSpaces = k.skipSpaces := Cursor.skipSpaces_of_head hhead
  rw [next, next, hskip]

/-- Steps to the end of a text and to a finished tree give its root element. -/
theorem root?_eq_ok {cs : List Char} {k : Cursor} {e : Element} (hopening : opening cs = .ok k)
    (hreaches : Reaches limit ⟨.beforeRoot, k.skipSpaces, .start⟩ s)
    (hend : next s.zone s.cursor = .ok none) (hfinish : s.builder.finish = .ok e) :
    root? limit cs = .ok e := by
  have hlength : k.skipSpaces.rest.length < k.rest.length + 1 :=
    Nat.lt_succ_of_le (length_dropWhile_le isSpace k.rest)
  obtain ⟨hfailure, htokens⟩ := scanFrom_of_reaches hreaches hend hlength
  have hscan : scanFrom (k.rest.length + 1) .beforeRoot k =
      scanFrom (k.rest.length + 1) .beforeRoot k.skipSpaces := by
    rw [scanFrom, scanFrom, next_skipSpaces]
  rw [root?, scan, hopening]
  simp only [hscan, htokens, hfailure]
  exact hfinish

end Reading

/-! ## Start tags -/

/-- Attributes that stand at a place, as they are kept until the tag ends. -/
def openPairs (p : Place) : List (String × String) → List OpenPair
  | [] => []
  | q :: qs => ⟨⟨"", q.1⟩, q.2, p.after ' '⟩ :: openPairs (p.afterAll (pairText q)) qs

/-- Attributes with different names are resolved as they are. -/
theorem foldlM_resolvePair (scope : List Binding) {qs : List (String × String)}
    (hqs : (qs.map Prod.fst).Nodup) (p : Place) {done : List Pair}
    (hdone : ∀ q ∈ qs, ∀ d ∈ done, d.name ≠ ⟨none, q.1⟩) :
    (openPairs p qs).foldlM (resolvePair scope) done = .ok (done ++ qs.map plainPair) := by
  induction qs generalizing p done with
  | nil => rw [List.map_nil, List.append_nil]; rfl
  | cons q qs ih =>
    rw [List.map_cons, List.nodup_cons] at hqs
    obtain ⟨hq, hdone⟩ := List.forall_mem_cons.mp hdone
    have hresolve : resolvePair scope done ⟨⟨"", q.1⟩, q.2, p.after ' '⟩ =
        .ok (done ++ [plainPair q]) := by
      have hnew : ¬ (done.any (·.name = (plainPair q).name)) = true := by
        rw [List.any_eq_true]
        rintro ⟨d, hd, heq⟩
        exact hq d hd (of_decide_eq_true heq)
      have hexpand : (⟨⟨"", q.1⟩, q.2, p.after ' '⟩ : OpenPair).expand scope =
          .ok (plainPair q).name := rfl
      rw [resolvePair, hexpand]
      exact if_neg hnew
    -- The attribute that was added has another name than all that follow.
    have hrest : ∀ q' ∈ qs, ∀ d ∈ done ++ [plainPair q], d.name ≠ ⟨none, q'.1⟩ := by
      intro q' hq' d hd
      rcases List.mem_append.mp hd with hd | hd
      · exact hdone q' hq' d hd
      · rw [List.mem_singleton.mp hd]
        intro heq
        have hkey : q.1 = q'.1 := congrArg ExpandedName.base heq
        exact hqs.1 (hkey ▸ List.mem_map_of_mem hq')
    rw [openPairs, List.foldlM_cons, hresolve]
    refine (ih hqs.2 _ hrest).trans ?_
    rw [List.append_assoc, List.singleton_append, List.map_cons]

namespace StartTag

variable (t : StartTag)

/-- The tag at a place, when all of it was read but its end. -/
def tag (p : Place) : Tag where
  name := ⟨"", t.name⟩
  place := p
  declared := t.space.toList.map (⟨none, ·⟩)
  pairs := openPairs ((p.afterAll ('<' :: t.name.toList)).afterAll (t.declaration.flatMap pairText))
    t.pairs

/-- The open element that the tag at a place makes. -/
def frame (outer : List Binding) (p : Place) : Frame where
  written := ⟨"", t.name⟩
  name := ⟨uriOf? (t.scope outer) none, t.name⟩
  pairs := t.pairs.map plainPair
  scope := t.scope outer
  children := []
  place := p

end StartTag

namespace Frame

/-- Adds nodes behind the children so far. -/
def addAll (f : Frame) (ns : List Node) : Frame := { f with children := ns.reverse ++ f.children }

theorem scope_addAll_add (f : Frame) (ms : List Node) (n : Node) :
    ((f.addAll ms).add n).scope = f.scope := rfl

theorem addAll_add (f : Frame) (ms : List Node) (n : Node) (ns : List Node) :
    ((f.addAll ms).add n).addAll ns = f.addAll (ms ++ n :: ns) := by
  simp [addAll, add]

end Frame

/-! ## Tokens and the tree -/

section

variable {limit : Nat} {b : Builder} {p : Place} {cs : List Char}

/-- An attribute without references is added to the tag with its value as it is written. -/
theorem add_pair {t t' : Tag} (htag : b.tag = some t) {q : String × String}
    (hvalue : isPlainValue q.2 = true) {place valuePlace : Place}
    (hadd : t.addPair ⟨"", q.1⟩ q.2 place = .ok t') :
    b.add limit (.pair ⟨"", q.1⟩ q.2.toList place valuePlace) = .ok { b with tag := some t' } := by
  have hplain : ∀ c ∈ q.2.toList, c ≠ '&' ∧ c ≠ '\r' ∧ c ≠ '\n' ∧ c ≠ '\t' := by
    intro c hc
    have hplain := List.all_eq_true.mp hvalue c hc
    exact ⟨ne_of_class hplain (by decide), ne_of_class hplain (by decide),
      ne_of_class hplain (by decide), ne_of_class hplain (by decide)⟩
  have hpieces : pieces valuePlace q.2.toList = .ok (q.2.toList.map .plain) :=
    pieces_plain (fun h => (hplain '&' h).1 rfl) valuePlace
  simp only [Builder.add, hpieces, htag, spaced_plain fun c hc => (hplain c hc).2, String.ofList_toList,
    hadd, bind, Except.bind, pure, Except.pure]

/-- The end of a written tag opens its element, or adds it at once. -/
theorem add_tagEnd {t : StartTag} (htag : b.tag = some (t.tag p)) (hlimit : b.nodes < limit) :
    b.add limit (.tagEnd true) = .ok (({ b with
      tag := none, afterText := false, nodes := b.nodes + 1 } : Builder).addElement
        (t.element b.scope [] p)) ∧
    b.add limit (.tagEnd false) = .ok { b with
      tag := none, afterText := false, nodes := b.nodes + 1, frames := t.frame b.scope p :: b.frames } := by
  have hresolve : (t.tag p).pairs.foldlM (resolvePair (t.scope b.scope)) [] =
      .ok (t.pairs.map plainPair) := foldlM_resolvePair _ t.keys_nodup _ nofun
  have huri : uriFor (t.scope b.scope) (t.tag p).name.qualifier ((t.tag p).place.after '<') =
      .ok (uriOf? (t.scope b.scope) none) := rfl
  have hgrow : b.grow limit = .ok { b with nodes := b.nodes + 1 } := if_neg (Nat.not_le.mpr hlimit)
  have hscope : scopeWithin b.scope (t.tag p).declared = t.scope b.scope := rfl
  constructor
  · simp only [Builder.add, Builder.endTag, htag, hscope, hresolve, huri, hgrow, bind, Except.bind, pure,
      Except.pure, if_true]
    rfl
  · simp only [Builder.add, Builder.endTag, htag, hscope, hresolve, huri, hgrow, bind, Except.bind, pure,
      Except.pure, Bool.false_eq_true, if_false]
    rfl

/-- Blanks are added as text behind what the innermost element holds. -/
theorem add_gap {g : List Char} (hg : g.all isGap = true) {f : Frame} {fs : List Frame}
    (hframes : b.frames = f :: fs) (hafter : b.afterText = false) (hlimit : b.nodes < limit) :
    b.add limit (.text g p) = .ok { b with
      frames := f.add (.text (String.ofList g) p) :: fs, nodes := b.nodes + 1, afterText := true } := by
  have hplain : ∀ c ∈ g, c ≠ '&' ∧ c ≠ '\r' := of_isGap hg (by decide)
  have hpieces : pieces p g = .ok (g.map .plain) := pieces_plain (fun h => (hplain '&' h).1 rfl) p
  have hgrow : b.grow limit = .ok { b with nodes := b.nodes + 1 } := if_neg (Nat.not_le.mpr hlimit)
  simp only [Builder.add, hpieces, lineEnds_plain fun h => (hplain '\r' h).2 rfl, Builder.addText,
    hframes, hafter, hgrow, bind, Except.bind, pure, Except.pure]

end

/-! ## Steps -/

open Reading

variable {limit : Nat}

/-- An attribute is read and added to the tag. -/
theorem advances_pair (outer : Nat) {q : String × String} (hname : isPlainName q.1 = true)
    (hvalue : isPlainValue q.2 = true) {b : Builder} {t t' : Tag} {p : Place}
    (hadd : t.addPair ⟨"", q.1⟩ q.2 (p.after ' ') = .ok t') (cs : List Char) :
    Advances limit ⟨.tag outer, ⟨pairText q ++ cs, p⟩, { b with tag := some t }⟩
      ⟨.tag outer, ⟨cs, p.afterAll (pairText q)⟩, { b with tag := some t' }⟩ := by
  obtain ⟨valuePlace, hnext⟩ := next_pair hname hvalue outer
  exact advances_append _ cs (List.cons_ne_nil _ _) hnext (add_pair rfl hvalue hadd)

/-- Attributes are read one after the other. -/
theorem reaches_pairs (outer : Nat) {qs : List (String × String)}
    (hqs : ∀ q ∈ qs, isPlainName q.1 = true ∧ q.1 ≠ "xmlns" ∧ isPlainValue q.2 = true) (b : Builder)
    (t : Tag) (p : Place) (cs : List Char) :
    Reaches limit ⟨.tag outer, ⟨qs.flatMap pairText ++ cs, p⟩, { b with tag := some t }⟩
      ⟨.tag outer, ⟨cs, p.afterAll (qs.flatMap pairText)⟩,
        { b with tag := some { t with pairs := t.pairs ++ openPairs p qs } }⟩ := by
  induction qs generalizing t p with
  | nil =>
    rw [openPairs, List.append_nil]
    exact .refl
  | cons q qs ih =>
    obtain ⟨⟨hname, hne, hvalue⟩, hqs⟩ := List.forall_mem_cons.mp hqs
    have hadd : t.addPair ⟨"", q.1⟩ q.2 (p.after ' ') =
        .ok { t with pairs := t.pairs ++ [⟨⟨"", q.1⟩, q.2, p.after ' '⟩] } :=
      (if_neg (by simp)).trans (if_neg hne)
    rw [List.flatMap_cons, List.append_assoc, Place.afterAll_append]
    refine .head (advances_pair outer hname hvalue hadd _) ?_
    have hrest := ih hqs { t with pairs := t.pairs ++ [⟨⟨"", q.1⟩, q.2, p.after ' '⟩] }
      (p.afterAll (pairText q))
    rwa [List.append_assoc] at hrest

namespace StartTag

variable (t : StartTag)

/-- The declaration of a namespace is read, if there is one. -/
theorem reaches_space (outer : Nat) (b : Builder) (p p' : Place) (cs : List Char) :
    Reaches limit
      ⟨.tag outer, ⟨t.declaration.flatMap pairText ++ cs, p'⟩,
        { b with tag := some ⟨⟨"", t.name⟩, p, [], []⟩ }⟩
      ⟨.tag outer, ⟨cs, p'.afterAll (t.declaration.flatMap pairText)⟩,
        { b with tag := some ⟨⟨"", t.name⟩, p, t.space.toList.map (⟨none, ·⟩), []⟩ }⟩ := by
  rw [declaration]
  cases h : t.space with
  | none => exact .refl
  | some uri =>
    obtain ⟨hplain, hxml, hxmlns⟩ := t.space_plain uri h
    have hadd : (⟨⟨"", t.name⟩, p, [], []⟩ : Tag).addPair ⟨"", "xmlns"⟩ uri (p'.after ' ') =
        .ok ⟨⟨"", t.name⟩, p, [⟨none, uri⟩], []⟩ :=
      (if_neg (by simp)).trans ((if_pos rfl).trans ((if_neg hxml).trans (if_neg hxmlns)))
    have hname : isPlainName "xmlns" = true := by decide
    simp only [Option.toList_some, List.map_cons, List.map_nil, List.flatMap_singleton]
    exact .single (advances_pair outer (q := ("xmlns", uri)) hname hplain hadd cs)

theorem delimited_pairs {cs : List Char} (hcs : Cursor.Delimited cs) (qs : List (String × String)) :
    Cursor.Delimited (qs.flatMap pairText ++ cs) := by
  cases qs with
  | nil => exact hcs
  | cons q qs => exact Cursor.delimited_cons (by decide) _

/-- A start tag is read up to its end. -/
theorem reaches (outer : Nat) (b : Builder) (p : Place) {cs : List Char} (hcs : Cursor.Delimited cs) :
    Reaches limit ⟨.within outer, ⟨t.text ++ cs, p⟩, b⟩
      ⟨.tag outer, ⟨cs, p.afterAll t.text⟩, { b with tag := some (t.tag p), afterText := false }⟩ := by
  have hadd : b.add limit (.tagStart ⟨"", t.name⟩ p) =
      .ok { b with tag := some ⟨⟨"", t.name⟩, p, [], []⟩, afterText := false } := by
    rw [Builder.add, if_neg (show ¬ ("" : String) = "xmlns" by decide)]
  have hdelimited := delimited_pairs (delimited_pairs hcs t.pairs) t.declaration
  have hstart := advances_append ('<' :: t.name.toList) _ (List.cons_ne_nil _ _)
    (next_tagStart (p := p) t.name_plain hdelimited outer) hadd
  have hspace : Reaches limit _ _ := t.reaches_space outer { b with afterText := false } p
    (p.afterAll ('<' :: t.name.toList)) (t.pairs.flatMap pairText ++ cs)
  have hpairs : Reaches limit _ _ := reaches_pairs outer t.pairs_plain { b with afterText := false }
    ⟨⟨"", t.name⟩, p, t.space.toList.map (⟨none, ·⟩), []⟩
    ((p.afterAll ('<' :: t.name.toList)).afterAll (t.declaration.flatMap pairText)) cs
  rw [text, ← List.cons_append, List.append_assoc, List.append_assoc, Place.afterAll_append,
    Place.afterAll_append]
  exact .head hstart (hspace.trans hpairs)

/-- A tag that closes itself is read as an element without children. -/
theorem reaches_closed (outer : Nat) (b : Builder) (p : Place) (cs : List Char)
    (hlimit : b.nodes < limit) :
    Reaches limit ⟨.within outer, ⟨t.text ++ '/' :: '>' :: cs, p⟩, b⟩
      ⟨.leaving outer, ⟨cs, (p.afterAll t.text).afterAll ['/', '>']⟩,
        ({ b with tag := none, nodes := b.nodes + 1, afterText := false } : Builder).addElement
          (t.element b.scope [] p)⟩ :=
  (t.reaches outer b p (Cursor.delimited_cons (by decide) _)).tail
    (advances_append ['/', '>'] cs (List.cons_ne_nil _ _) (next_tagEnd_closed outer)
      (add_tagEnd (b := { b with tag := some (t.tag p), afterText := false }) rfl hlimit).1)

/-- A start tag opens its element. -/
theorem reaches_opened (outer : Nat) (b : Builder) (p : Place) (cs : List Char)
    (hlimit : b.nodes < limit) :
    Reaches limit ⟨.within outer, ⟨t.text ++ '>' :: cs, p⟩, b⟩
      ⟨.content outer, ⟨cs, (p.afterAll t.text).after '>'⟩,
        ⟨t.frame b.scope p :: b.frames, none, b.root, b.nodes + 1, false⟩⟩ :=
  (t.reaches outer b p (Cursor.delimited_cons (by decide) _)).tail
    (advances_append ['>'] cs (List.cons_ne_nil _ _) (next_tagEnd_opened outer)
      (add_tagEnd (b := { b with tag := some (t.tag p), afterText := false }) rfl hlimit).2)

/-- A close tag closes the innermost element, which has the same name. -/
theorem reaches_close (inner : Nat) (outer : List Binding) (p p' : Place) (ns : List Node) (cs : List Char)
    (fs : List Frame) (root : Option Element) (k : Nat) (afterText : Bool) :
    Reaches limit
      ⟨.content inner, ⟨'<' :: '/' :: (t.name.toList ++ '>' :: cs), p'⟩,
        ⟨(t.frame outer p).addAll ns :: fs, none, root, k, afterText⟩⟩
      ⟨.leaving inner, ⟨cs, p'.afterAll ('<' :: '/' :: (t.name.toList ++ ['>']))⟩,
        (⟨fs, none, root, k, false⟩ : Builder).addElement (t.element outer ns p)⟩ := by
  have helement : ((t.frame outer p).addAll ns).element = t.element outer ns p := by
    simp [Frame.addAll, Frame.element, frame, element]
  have hadd : (⟨(t.frame outer p).addAll ns :: fs, none, root, k, afterText⟩ : Builder).add limit
      (.close ⟨"", t.name⟩ p') =
        .ok ((⟨fs, none, root, k, false⟩ : Builder).addElement (t.element outer ns p)) := by
    rw [← helement]
    exact if_pos rfl
  have hclose := advances_append ('<' :: '/' :: (t.name.toList ++ ['>'])) cs (List.cons_ne_nil _ _)
    (p := p')
    (by simpa using next_close t.name_plain inner) hadd
  simpa using Relation.ReflTransGen.single hclose

end StartTag

/-- An element starts with `<` and a name. -/
theorem Markup.exists_text (m : Markup) : ∃ c r, isNameStart c = true ∧ m.text = '<' :: c :: r := by
  obtain ⟨t, cs, hm⟩ : ∃ (t : StartTag) (cs : List Char), m.text = t.text ++ cs := by
    cases m with
    | closed t => exact ⟨t, _, rfl⟩
    | opened t c => exact ⟨t, _, rfl⟩
  obtain ⟨c, r, hr, hc⟩ := isPlainName_head t.name_plain
  exact ⟨c, _, hc, by rw [hm, StartTag.text, hr]; rfl⟩

/-- Blanks before a tag are read as text, if there are any. -/
theorem Gap.reaches (g : Gap) (n : Nat) (p : Place) (cs : List Char) (f : Frame) (fs : List Frame)
    (root : Option Element) {k : Nat} (hlimit : k + g.size ≤ limit) :
    ∃ afterText, Reaches limit
      ⟨.content n, ⟨g.val ++ '<' :: cs, p⟩, ⟨f :: fs, none, root, k, false⟩⟩
      ⟨.content n, ⟨'<' :: cs, p.afterAll g.val⟩,
        ⟨f.addAll (g.nodes p) :: fs, none, root, k + g.size, afterText⟩⟩ := by
  obtain ⟨g, hg⟩ := g
  by_cases hne : g = []
  · subst hne
    exact ⟨false, .refl⟩
  · rw [Gap.size, if_neg hne] at hlimit
    simp only [Gap.size, Gap.nodes, if_neg hne]
    exact ⟨true, .single (advances_append g _ hne (next_text hg hne n) (add_gap hg rfl rfl hlimit))⟩

mutual

/-- An element is read as the element that it stands for. -/
theorem Markup.reaches (m : Markup) (outer : Nat) (b : Builder) (p : Place) (cs : List Char)
    (hlimit : b.nodes + m.size ≤ limit) :
    Reaches limit ⟨.within outer, ⟨m.text ++ cs, p⟩, b⟩
      ⟨.leaving outer, ⟨cs, p.afterAll m.text⟩,
        ({ b with tag := none, nodes := b.nodes + m.size, afterText := false } : Builder).addElement
          (m.element b.scope p)⟩ := by
  cases m with
  | closed t =>
    rw [Markup.text, List.append_assoc, Place.afterAll_append]
    exact t.reaches_closed outer b p cs hlimit
  | opened t c =>
    rw [Markup.size, ← Nat.add_assoc] at hlimit
    -- The start tag, the contents and the end tag, one after the other.
    have hopen := t.reaches_opened outer b p (c.text ++ '<' :: '/' :: (t.name.toList ++ '>' :: cs))
      (Nat.lt_of_lt_of_le (Nat.lt_succ_self _) (Nat.le_trans (Nat.le_add_right _ _) hlimit))
    obtain ⟨afterText, hcontents⟩ := c.reaches outer ((p.afterAll t.text).after '>')
      ('/' :: (t.name.toList ++ '>' :: cs)) (t.frame b.scope p) b.frames b.root hlimit
    have hclose : Reaches limit _ _ := t.reaches_close outer b.scope p
      (((p.afterAll t.text).after '>').afterAll c.text)
      (c.nodes (t.scope b.scope) ((p.afterAll t.text).after '>')) cs b.frames b.root (b.nodes + 1 + c.size)
      afterText
    have hplace : p.afterAll (t.text ++ ['>']) = (p.afterAll t.text).after '>' :=
      Place.afterAll_append p t.text ['>']
    simpa only [Markup.text, Markup.element, Markup.size, hplace, Place.afterAll_append,
      Place.afterAll_cons, List.append_assoc, List.cons_append, List.nil_append, Nat.add_assoc] using
      (hopen.trans hcontents).trans hclose

/-- What stands in an element is read as the nodes that it stands for. -/
theorem Contents.reaches (c : Contents) (n : Nat) (p : Place) (cs : List Char) (f : Frame)
    (fs : List Frame) (root : Option Element) {k : Nat} (hlimit : k + c.size ≤ limit) :
    ∃ afterText, Reaches limit
      ⟨.content n, ⟨c.text ++ '<' :: cs, p⟩, ⟨f :: fs, none, root, k, false⟩⟩
      ⟨.content n, ⟨'<' :: cs, p.afterAll c.text⟩,
        ⟨f.addAll (c.nodes f.scope p) :: fs, none, root, k + c.size, afterText⟩⟩ := by
  cases c with
  | last g => exact g.reaches n p cs f fs root hlimit
  | child g m c =>
    rw [Contents.size] at hlimit
    -- The text of an element begins with `<`, which ends the gap before it.
    obtain ⟨a, r, -, hr⟩ := m.exists_text
    obtain ⟨afterGap, hgap⟩ := g.reaches n p (a :: r ++ (c.text ++ '<' :: cs)) f fs root (k := k)
      (Nat.le_trans (by omega) hlimit)
    have hfirst : Reaches limit
        ⟨.content n, ⟨m.text ++ (c.text ++ '<' :: cs), p.afterAll g.val⟩,
          ⟨f.addAll (g.nodes p) :: fs, none, root, k + g.size, afterGap⟩⟩
        ⟨.content n, ⟨c.text ++ '<' :: cs, (p.afterAll g.val).afterAll m.text⟩,
          ⟨(f.addAll (g.nodes p)).add (m.element f.scope (p.afterAll g.val)).toNode :: fs, none, root,
            k + g.size + m.size, false⟩⟩ :=
      m.reaches (n + 1) ⟨f.addAll (g.nodes p) :: fs, none, root, k + g.size, afterGap⟩ (p.afterAll g.val)
        (c.text ++ '<' :: cs) (Nat.le_trans (by simp only; omega) hlimit)
    obtain ⟨afterText, hrest⟩ := c.reaches n ((p.afterAll g.val).afterAll m.text) cs
      ((f.addAll (g.nodes p)).add (m.element f.scope (p.afterAll g.val)).toNode) fs root
      (k := k + g.size + m.size) (Nat.le_trans (by omega) hlimit)
    rw [← List.cons_append, ← hr] at hgap
    have hreaches := (hgap.trans hfirst).trans hrest
    rw [Frame.addAll_add, Frame.scope_addAll_add] at hreaches
    refine ⟨afterText, ?_⟩
    simpa only [Contents.text, Contents.nodes, Contents.size, List.append_assoc, Place.afterAll_append,
      Nat.add_assoc] using hreaches

end

end MetaSchema.Xml
