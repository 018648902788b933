import MetaSchema.Proofs.Xml.Steps

/-!
# Whole documents as they are written

* `xmlDeclaration`: the declaration of a document in UTF-8; `declaration_written`: it is read in full.
* `Document`: an element with blanks around it, and perhaps a declaration before it.
* `Document.root?_text`: **the root element of a written document is the element that it stands for**.
-/

namespace MetaSchema.Xml

open Cursor

/-! ## The declaration -/

/-- The XML declaration of a document in UTF-8. -/
def xmlDeclaration : List Char :=
  "<?xml".toList ++ (pairText ("version", "1.0") ++ (pairText ("encoding", "UTF-8") ++ "?>".toList))

section

variable {q : String × String} {p : Place} {cs : List Char}

/-- The space before a part is skipped. -/
theorem declarationGap_pair (hname : isPlainName q.1 = true) :
    declarationGap ⟨pairText q ++ cs, p⟩ = .ok ⟨(pairText q ++ cs).tail, p.after ' '⟩ := by
  obtain ⟨c, r, hr, hc⟩ := isPlainName_head hname
  have hskip : skipSpaces ⟨pairText q ++ cs, p⟩ = ⟨(pairText q ++ cs).tail, p.after ' '⟩ :=
    skipSpaces_append [' '] (List.all_eq_true.mp rfl) (by simp [hr, isSpace_of_isNameStart hc])
  rw [← hskip]
  rfl

theorem startsWith_pair : startsWith q.1 ⟨(pairText q ++ cs).tail, p⟩ = true := by
  have hprefix : q.1.toList <+: (pairText q ++ cs).tail := by
    simp only [pairText, List.cons_append, List.tail_cons, List.append_assoc]
    exact List.prefix_append _ _
  exact List.isPrefixOf_iff_prefix.mpr hprefix

theorem declarationPart_pair (q : String × String) (hname : isPlainName q.1 = true)
    (hvalue : isPlainValue q.2 = true) (cs : List Char) (p : Place) :
    declarationPart q.1 ⟨(pairText q ++ cs).tail, p.after ' '⟩ = .ok ⟨cs, p.afterAll (pairText q)⟩ := by
  rw [declarationPart, if_pos startsWith_pair]
  simp only [pairText, List.cons_append, List.tail_cons, List.append_assoc, List.nil_append,
    qName_written hname (delimited_cons (c := '=') (by decide) _), value_written hvalue, bind,
    Except.bind, pure, Except.pure, Place.afterAll_cons, Place.afterAll_append]

theorem declaration_written : declaration ⟨xmlDeclaration ++ cs, p⟩ =
    .ok ⟨cs, p.afterAll xmlDeclaration⟩ := by
  have hdrop : drop ⟨xmlDeclaration ++ cs, p⟩ 5 =
      ⟨pairText ("version", "1.0") ++ (pairText ("encoding", "UTF-8") ++ '?' :: '>' :: cs),
        p.afterAll "<?xml".toList⟩ := by
    simp [xmlDeclaration, drop]
  have hversion := declarationPart_pair ("version", "1.0") (by decide) (by decide)
  have hencoding := declarationPart_pair ("encoding", "UTF-8") (by decide) (by decide)
  -- Behind the encoding there is the end: no gap, and no `standalone`.
  have hend : ∀ p, declarationGap ⟨'?' :: '>' :: cs, p⟩ = .ok ⟨'?' :: '>' :: cs, p⟩ := fun p => by
    simp [declarationGap, isSpace, startsWith]
  have hlast : ∀ p, startsWith "standalone" ⟨'?' :: '>' :: cs, p⟩ = false := fun p => by
    simp [startsWith, List.isPrefixOf]
  have hliteral : ∀ p, (skipSpaces ⟨'?' :: '>' :: cs, p⟩).literal "?>" =
      .ok ⟨cs, p.afterAll ['?', '>']⟩ := fun p => by
    have hlength : "?>".length = 2 := by decide
    rw [skipSpaces_of_head (by simp [isSpace])]
    simp [literal, startsWith, drop, hlength]
  rw [declaration, hdrop, declarationGap_pair (by decide)]
  simp only [bind, Except.bind, hversion]
  rw [declarationGap_pair (by decide)]
  simp only [startsWith_pair (q := ("encoding", "UTF-8")), if_true, hencoding, hend, hlast, hliteral,
    Bool.false_eq_true, if_false]
  simp only [xmlDeclaration, Place.afterAll_append]
  simp

end

/-! ## Documents -/

/-- A document as it is written. -/
structure Document where
  /-- Whether it starts with an XML declaration. -/
  declared : Bool
  before : Gap
  root : Markup
  behind : Gap

namespace Document

variable (d : Document)

/-- The text before the root element. -/
def head : List Char := (if d.declared then xmlDeclaration else []) ++ d.before.val

def text : List Char := d.head ++ (d.root.text ++ d.behind.val)

/-- The number of nodes, with that of the document itself. -/
def size : Nat := 1 + d.root.size

/-- The root element that the text is read as. -/
def element : Element := d.root.element [] (Place.start.afterAll d.head)

/-- The size counts the nodes of the root element and the document. -/
theorem size_eq : d.size = 1 + d.element.toNode.count :=
  congrArg (1 + ·) (d.root.count_element _ _).symm

/-- What starts with a blank or with a tag starts with no mark and no declaration. -/
theorem startsWith_body (p : Place) :
    startsWith "\ufeff" ⟨d.before.val ++ (d.root.text ++ d.behind.val), p⟩ = false ∧
      startsWith "<?xml " ⟨d.before.val ++ (d.root.text ++ d.behind.val), p⟩ = false := by
  obtain ⟨g, hg⟩ := d.before
  obtain ⟨a, r, ha, hr⟩ := d.root.exists_text
  cases g with
  | nil =>
    have hquestion : a ≠ '?' := ne_of_class ha (by decide)
    simp [startsWith, hr, List.isPrefixOf, hquestion.symm]
  | cons c g =>
    have hgap : ∀ a ∈ c :: g, a ≠ '\ufeff' ∧ a ≠ '<' := of_isGap hg (by decide)
    obtain ⟨hmark, htag⟩ := hgap c List.mem_cons_self
    simp [startsWith, List.isPrefixOf, hmark.symm, htag.symm]

/-- A document starts with no byte order mark. -/
theorem startsWith_text (p : Place) : startsWith "\ufeff" ⟨d.text, p⟩ = false := by
  rw [text, head, List.append_assoc]
  cases d.declared with
  | true => simp [startsWith, xmlDeclaration, List.isPrefixOf]
  | false => exact (d.startsWith_body p).1

/-- Only a declaration is read before the blanks and the root element. -/
theorem opening_text : opening d.text = .ok ⟨d.before.val ++ (d.root.text ++ d.behind.val),
    Place.start.afterAll (if d.declared then xmlDeclaration else [])⟩ := by
  simp only [opening, d.startsWith_text, Bool.false_eq_true, if_false]
  rw [text, head, List.append_assoc]
  cases d.declared with
  | true =>
    have hdeclared : ∀ cs, startsWith "<?xml " ⟨xmlDeclaration ++ cs, .start⟩ = true := fun cs => by
      simp [startsWith, xmlDeclaration, pairText]
    simp only [if_true, hdeclared, declaration_written]
  | false =>
    simp only [Bool.false_eq_true, if_false, List.nil_append, (d.startsWith_body _).2]
    rfl

theorem head?_text : d.text.head? ≠ some '\ufeff' := by
  intro h
  obtain ⟨cs, hcs⟩ : ∃ cs, d.text = '\ufeff' :: cs := by
    cases htext : d.text with
    | nil => rw [htext] at h; cases h
    | cons c cs => rw [htext] at h; cases h; exact ⟨cs, rfl⟩
  have := d.startsWith_text .start
  rw [hcs] at this
  simp [startsWith, List.isPrefixOf] at this

/-- A document is read as its root element, if it has no more nodes than the limit. -/
theorem root?_text {limit : Nat} (hlimit : d.size ≤ limit) : root? limit d.text = .ok d.element := by
  have hblank : ∀ g : Gap, ∀ c ∈ g.val, isSpace c = true := fun g => of_isGap g.property (by decide)
  obtain ⟨a, r, -, hr⟩ := d.root.exists_text
  have hskip : ∀ p, skipSpaces ⟨d.before.val ++ (d.root.text ++ d.behind.val), p⟩ =
      ⟨d.root.text ++ d.behind.val, p.afterAll d.before.val⟩ := fun p =>
    skipSpaces_append _ (hblank d.before) (by simp [hr, isSpace])
  have hend : ∀ p, next .afterRoot ⟨d.behind.val, p⟩ = .ok none := by
    intro p
    have hskipped : skipSpaces ⟨d.behind.val ++ [], p⟩ = ⟨[], p.afterAll d.behind.val⟩ :=
      skipSpaces_append d.behind.val (hblank d.behind) (by simp)
    rw [List.append_nil] at hskipped
    rw [next, hskipped]
    rfl
  have hreaches := d.root.reaches 0 .start (Place.start.afterAll d.head) d.behind.val hlimit
  rw [head, Place.afterAll_append, ← hskip] at hreaches
  rw [element, head, Place.afterAll_append]
  exact Reading.root?_eq_ok d.opening_text hreaches (hend _) rfl

end Document

end MetaSchema.Xml
