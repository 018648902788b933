import MetaSchema.Xml.Tree

/-!
# XML as it is written

Elements written without prefixes, references, comments and CDATA sections, with blanks between them,
and the elements that such a text is read as.

* `isPlainName`, `isPlainValue`, `Gap`: texts that stand for themselves as a name, as the value of an
  attribute and between elements.
* `StartTag`, `Markup`, `Contents`: start tags, elements and what stands in an element.
* `Markup.text`, `Markup.size`: the text of an element, and the number of nodes that it takes.
* `Markup.element`: the element that the text is read as, where it stands; `Markup.count_element`: the
  size is the number of its nodes.
-/

namespace MetaSchema.Xml

/-! ## Texts that stand for themselves -/

/-- A name without a prefix. -/
def isPlainName (s : String) : Bool := Cursor.startsName s.toList && s.toList.all isNamePart

/-- The characters that do not stand for themselves in a value between double quotes. -/
def reserved : List Char := ['<', '&', '"', '\t', '\n', '\r']

/-- A character that stands for itself in a value between double quotes. -/
def isPlain (c : Char) : Bool := isChar c && !reserved.contains c

/-- A value that stands for itself. -/
def isPlainValue (s : String) : Bool := s.toList.all isPlain

/-- A blank that stands for itself. -/
def isGap (c : Char) : Bool := c == ' ' || c == '\t' || c == '\n'

/-- Characters of different classes differ. -/
theorem ne_of_class {q : Char → Bool} {c d : Char} (hc : q c = true) (hd : q d = false) : c ≠ d := by
  rintro rfl
  rw [hc] at hd
  cases hd

/-- What holds of the three blanks holds of all characters of a gap. -/
theorem of_isGap {P : Char → Prop} {g : List Char} (hg : g.all isGap = true)
    (h : P ' ' ∧ P '\t' ∧ P '\n') : ∀ c ∈ g, P c := by
  intro c hc
  have hgap := List.all_eq_true.mp hg c hc
  simp only [isGap, Bool.or_eq_true, beq_iff_eq] at hgap
  obtain ⟨hspace, htab, hline⟩ := h
  rcases hgap with (rfl | rfl) | rfl
  · exact hspace
  · exact htab
  · exact hline

/-- Blanks between tags. -/
abbrev Gap := { cs : List Char // cs.all isGap = true }

namespace Gap

/-- No blanks. -/
def empty : Gap := ⟨[], rfl⟩

/-- The nodes that blanks at a place make: one text, if there are any. -/
def nodes (g : Gap) (p : Place) : List Node :=
  if g.val = [] then [] else [.text (String.ofList g.val) p]

/-- The number of nodes that blanks make. -/
def size (g : Gap) : Nat := if g.val = [] then 0 else 1

end Gap

/-! ## Elements -/

/-- A start tag without prefixes. -/
structure StartTag where
  name : String
  /-- The default namespace that the tag declares. -/
  space : Option String
  pairs : List (String × String)
  name_plain : isPlainName name = true
  space_plain : ∀ uri ∈ space, isPlainValue uri = true ∧ uri ≠ xmlUri ∧ uri ≠ xmlnsUri
  pairs_plain : ∀ p ∈ pairs, isPlainName p.1 = true ∧ p.1 ≠ "xmlns" ∧ isPlainValue p.2 = true
  keys_nodup : (pairs.map Prod.fst).Nodup

mutual

/-- An element as it is written. -/
inductive Markup where
  /-- A tag that closes itself. -/
  | closed (tag : StartTag)
  /-- A start tag, what the element holds, and the close tag. -/
  | opened (tag : StartTag) (contents : Contents)

/-- What stands in an element: elements with blanks around them. -/
inductive Contents where
  | last (gap : Gap)
  | child (gap : Gap) (first : Markup) (rest : Contents)

end

/-- An attribute as it is written. -/
def pairText (p : String × String) : List Char :=
  ' ' :: (p.1.toList ++ '=' :: '"' :: (p.2.toList ++ ['"']))

/-- An attribute as it is read. -/
def plainPair (p : String × String) : Pair := ⟨⟨none, p.1⟩, p.2⟩

namespace StartTag

/-- The declaration of the namespace, if there is one, as it is written. -/
def declaration (t : StartTag) : List (String × String) := t.space.toList.map ("xmlns", ·)

/-- A tag without its end. -/
def text (t : StartTag) : List Char :=
  '<' :: (t.name.toList ++ (t.declaration.flatMap pairText ++ t.pairs.flatMap pairText))

/-- The namespaces in an element with this tag. -/
def scope (outer : List Binding) (t : StartTag) : List Binding :=
  scopeWithin outer (t.space.toList.map (⟨none, ·⟩))

/-- The element that a tag makes. -/
def element (outer : List Binding) (t : StartTag) (children : List Node) (p : Place) : Element :=
  ⟨⟨uriOf? (t.scope outer) none, t.name⟩, t.pairs.map plainPair, children, p⟩

end StartTag

mutual

/-- The text of an element. -/
def Markup.text : Markup → List Char
  | .closed t => t.text ++ ['/', '>']
  | .opened t c => t.text ++ '>' :: (c.text ++ '<' :: '/' :: (t.name.toList ++ ['>']))

/-- The text of what stands in an element. -/
def Contents.text : Contents → List Char
  | .last g => g.val
  | .child g m c => g.val ++ (m.text ++ c.text)

end

mutual

/-- The number of nodes of an element. -/
def Markup.size : Markup → Nat
  | .closed _ => 1
  | .opened _ c => 1 + c.size

/-- The number of nodes in an element. -/
def Contents.size : Contents → Nat
  | .last g => g.size
  | .child g m c => g.size + m.size + c.size

end

mutual

/-- The element that a text at a place is read as, within other elements. -/
def Markup.element (outer : List Binding) (p : Place) : Markup → Element
  | .closed t => t.element outer [] p
  | .opened t c => t.element outer (c.nodes (t.scope outer) (p.afterAll (t.text ++ ['>']))) p

/-- The nodes that a text at a place is read as, within other elements. -/
def Contents.nodes (outer : List Binding) (p : Place) : Contents → List Node
  | .last g => g.nodes p
  | .child g m c => g.nodes p ++ (m.element outer (p.afterAll g.val)).toNode ::
      c.nodes outer ((p.afterAll g.val).afterAll m.text)

end

/-! ## The number of nodes -/

mutual

/-- The number of nodes in a tree. -/
def Node.count : Node → Nat
  | .element _ _ children _ => 1 + Node.countAll children
  | .text _ _ => 1

/-- The number of nodes in several trees. -/
def Node.countAll : List Node → Nat
  | [] => 0
  | n :: ns => n.count + Node.countAll ns

end

theorem Node.countAll_append (ms ns : List Node) :
    Node.countAll (ms ++ ns) = Node.countAll ms + Node.countAll ns := by
  induction ms with
  | nil => rw [List.nil_append, Node.countAll, Nat.zero_add]
  | cons m ms ih => rw [List.cons_append, Node.countAll, Node.countAll, ih, Nat.add_assoc]

theorem Gap.countAll_nodes (g : Gap) (p : Place) : Node.countAll (g.nodes p) = g.size := by
  rw [nodes, size]
  split <;> rfl

mutual

/-- An element has as many nodes as it is said to take. -/
theorem Markup.count_element (m : Markup) (outer : List Binding) (p : Place) :
    (m.element outer p).toNode.count = m.size := by
  cases m with
  | closed t => rfl
  | opened t c => exact congrArg (1 + ·) (c.countAll_nodes _ _)

theorem Contents.countAll_nodes (c : Contents) (outer : List Binding) (p : Place) :
    Node.countAll (c.nodes outer p) = c.size := by
  cases c with
  | last g => exact g.countAll_nodes p
  | child g m c =>
    rw [Contents.nodes, Node.countAll_append, g.countAll_nodes, Node.countAll, m.count_element,
      c.countAll_nodes, Contents.size, Nat.add_assoc]

end

end MetaSchema.Xml
