import MetaSchema.Proofs.Syntax.Exact
import MetaSchema.Proofs.Text.Encoding
import MetaSchema.Proofs.Syntax.Written

/-!
# Written schema documents are read back

What the grammar of version 1 reads from the elements that statements are written as, from the attributes up.

* `languageScope`: the namespaces in a schema element.
* `value?_element`, `checkPairs_element`, `requiredName_element`, `version_element`: attributes.
* `contentElements`: the elements among the nodes that written contents make; `elements_written`: they
  are all that is read.
* `reference_written`, `child_written`, `childrenOf_written`: type references, one row, all rows.
* `Parser.parse_written`: **a written schema document is read back**, without diagnostics.
-/

namespace MetaSchema

open Xml (Place StartTag Contents Element Node Markup plainPair)

namespace Grammar

/-- The namespaces in a schema element. -/
def languageScope : List Xml.Binding := [⟨none, languageUri⟩]

section

variable {uri : String} {t : StartTag} {outer : List Xml.Binding} {ns : List Node} {p : Place}

/-! ## Names and attributes -/

theorem scope_schemaTag (id : SchemaIdentifier) : id.schemaTag.scope [] = languageScope := rfl

/-- A tag without a declaration changes no namespaces. -/
theorem scope_inner (h : t.space = none) : t.scope languageScope = languageScope := by
  simp [StartTag.scope, h, Xml.scopeWithin]

theorem tag?_element (h : t.scope outer = languageScope) :
    tag? (t.element outer ns p) = some t.name := by
  rw [tag?, StartTag.element, h]
  exact if_pos rfl

theorem value?_element (key : String) : value? (t.element outer ns p) key = t.pairs.lookup key := by
  rw [value?, StartTag.element]
  induction t.pairs with
  | nil => rfl
  | cons q qs ih =>
    rw [List.map_cons, List.find?_cons, List.lookup_cons]
    by_cases hq : key = q.1
    · simp [plainPair, hq]
    · have hname : decide ((plainPair q).name = ⟨none, key⟩) = false := by
        simp [plainPair, Ne.symm hq]
      rw [hname, beq_eq_false_iff_ne.mpr hq]
      exact ih

theorem checkPairs_element {allowed : List String} (h : ∀ q ∈ t.pairs, q.1 ∈ allowed) :
    checkPairs uri (t.element outer ns p) allowed = pure () := by
  have hnone : (t.pairs.map plainPair).filterMap (pairIssue? uri (t.element outer ns p) allowed) = [] := by
    rw [List.filterMap_eq_nil_iff]
    intro pair hpair
    obtain ⟨q, hq, rfl⟩ := List.mem_map.mp hpair
    exact if_pos (h q hq)
  exact congrArg (Reported.mk ()) hnone

theorem required_element {key v : String} (h : t.pairs.lookup key = some v) :
    required uri (t.element outer ns p) key = pure (some v) := by
  rw [required, value?_element, h]

theorem requiredName_element {k : NameKind} {key : String} {n : Name k}
    (h : t.pairs.lookup key = some n.text) :
    requiredName uri (t.element outer ns p) k key = pure (some n) := by
  rw [requiredName, required_element h, Reported.pure_bind]
  simp only [nameOf, n.ofString?_text]

theorem requiredNumber_element {key : String} {n : Nat} (h : t.pairs.lookup key = some (numberText n)) :
    requiredNumber uri (t.element outer ns p) key = pure (some n) := by
  have htrim : Text.trimBlank (numberText n).toList = Text.naturalText n := by
    rw [numberText, String.toList_ofList, Text.trimBlank_naturalText]
  rw [requiredNumber, required_element h, Reported.pure_bind]
  simp only [htrim, Text.natural?_naturalText]

theorem version_element {id : SchemaIdentifier} (h : t.pairs = id.pairs) :
    version uri (t.element outer ns p) = pure (some id.version) := by
  have hmajor : t.pairs.lookup "versionMajor" = some (numberText id.version.major) := by
    rw [h]; rfl
  have hminor : t.pairs.lookup "versionMinor" = some (numberText id.version.minor) := by
    rw [h]; rfl
  rw [version, requiredNumber_element hmajor, Reported.pure_bind, requiredNumber_element hminor]
  rfl

end

/-! ## Children -/

/-- The elements among the nodes that contents at a place make. -/
def contentElements (outer : List Xml.Binding) (p : Place) : Contents → List Element
  | .last _ => []
  | .child g m c => m.element outer (p.afterAll g.val) ::
      contentElements outer ((p.afterAll g.val).afterAll m.text) c

/-- Blanks are neither elements nor stray text. -/
theorem filterMap_gap (uri : String) (e : Element) (g : Xml.Gap) (p : Place) :
    (g.nodes p).filterMap element? = [] ∧ (g.nodes p).filterMap (strayText? uri e) = [] := by
  obtain ⟨g, hg⟩ := g
  by_cases hne : g = []
  · simp [Xml.Gap.nodes, hne]
  · have hblank : Text.allBlank g = true := List.all_eq_true.mpr (Xml.of_isGap hg (by decide))
    simp [Xml.Gap.nodes, hne, element?, strayText?, hblank]

theorem element?_toNode (e : Element) : element? e.toNode = some e := rfl

theorem filterMap_nodes (uri : String) (e : Element) (outer : List Xml.Binding) :
    ∀ (c : Contents) (p : Place), (c.nodes outer p).filterMap element? = contentElements outer p c ∧
      (c.nodes outer p).filterMap (strayText? uri e) = []
  | .last g, p => filterMap_gap uri e g p
  | .child g m c, p => by
    obtain ⟨hgap, hgapText⟩ := filterMap_gap uri e g p
    obtain ⟨hrest, hrestText⟩ := filterMap_nodes uri e outer c ((p.afterAll g.val).afterAll m.text)
    constructor
    · rw [Contents.nodes, List.filterMap_append, hgap, List.filterMap_cons_some (element?_toNode _), hrest]
      rfl
    · rw [Contents.nodes, List.filterMap_append, hgapText, List.filterMap_cons_none rfl, hrestText]
      rfl

/-- The children of an element are the elements that its contents are written with. -/
theorem elements_written {uri : String} {e : Element} {p : Place} (c : Contents)
    (outer : List Xml.Binding) (h : e.children = c.nodes outer p) :
    elements uri e = pure (contentElements outer p c) := by
  obtain ⟨helements, htexts⟩ := filterMap_nodes uri e outer c p
  rw [elements, h, helements, htexts]
  rfl

section

variable {uri : String} {p : Place}

theorem checkEmpty_element (t : StartTag) (outer : List Xml.Binding) :
    checkEmpty uri (t.element outer [] p) = pure () := rfl

/-! ## Rows -/

theorem importNode_written (id : SchemaIdentifier) :
    importNode uri (id.importTag.element languageScope [] p) =
      pure (some ⟨position uri p, (), id.name, id.version⟩) := by
  have hpairs : checkPairs uri (id.importTag.element languageScope [] p)
      ["name", "versionMajor", "versionMinor"] = pure () := checkPairs_element id.mem_keys
  have hname : requiredName uri (id.importTag.element languageScope [] p) .schema "name" =
      pure (some id.name) := requiredName_element rfl
  rw [importNode, hpairs, Reported.pure_bind, checkEmpty_element, Reported.pure_bind, hname,
    Reported.pure_bind, version_element rfl]
  rfl

theorem writtenReference_written (parent : Element) (r : WrittenReference) :
    writtenReference uri parent (r.tag.element languageScope [] p) = pure (some r) := by
  cases r with
  | primitive k =>
    have htag : tag? ((WrittenReference.primitive k).tag.element languageScope [] p) =
        some "TypeReferencePrimitive" := tag?_element (scope_inner rfl)
    have hpairs : checkPairs uri ((WrittenReference.primitive k).tag.element languageScope [] p)
        ["type"] = pure () := checkPairs_element (by simp [WrittenReference.tag])
    have hkeyword : required uri ((WrittenReference.primitive k).tag.element languageScope [] p) "type" =
        pure (some k.keyword) := required_element rfl
    simp only [writtenReference, htag, primitiveReference, hpairs, checkEmpty_element, hkeyword,
      Reported.pure_bind, Primitive.ofKeyword?_keyword]
  | named qualifier n =>
    have htag : tag? ((WrittenReference.named qualifier n).tag.element languageScope [] p) =
        some "TypeReferenceNamed" := tag?_element (scope_inner rfl)
    have hpairs : checkPairs uri ((WrittenReference.named qualifier n).tag.element languageScope [] p)
        ["schema", "name"] = pure () :=
      checkPairs_element (by cases qualifier <;> simp [WrittenReference.tag])
    have hqualifier : Grammar.qualifier uri
        ((WrittenReference.named qualifier n).tag.element languageScope [] p) = pure (some qualifier) := by
      rw [Grammar.qualifier, value?_element]
      cases qualifier with
      | none => rfl
      | some q =>
        -- The qualifier is the text of a name, and is read as that name.
        have hlookup : (WrittenReference.named (some q) n).tag.pairs.lookup "schema" = some q.text := rfl
        rw [hlookup]
        simp only [nameOf, q.ofString?_text]
        rfl
    have hname : requiredName uri ((WrittenReference.named qualifier n).tag.element languageScope [] p)
        .type "name" = pure (some n) := requiredName_element (by cases qualifier <;> rfl)
    simp only [writtenReference, htag, namedReference, hpairs, checkEmpty_element, hqualifier, hname,
      Reported.pure_bind]
    rfl

theorem reference_written (parent : Element) (r : WrittenReference) :
    reference uri parent (r.tag.element languageScope [] p) =
      pure (some ⟨position uri p, (), r⟩) := by
  rw [reference, writtenReference_written]
  rfl

/-- The reference in a type or an attribute is its only child. -/
theorem elements_reference (uri : String) (p : Place) (l : Row) (r : WrittenReference) (t : StartTag)
    (h : t.space = none) :
    ∃ q, elements uri ((Markup.opened t (l.contents r)).element languageScope p) =
      pure [r.tag.element languageScope [] q] := by
  refine ⟨(p.afterAll (t.text ++ ['>'])).afterAll l.within.val, ?_⟩
  refine (elements_written (l.contents r) (t.scope languageScope) rfl).trans ?_
  rw [scope_inner h]
  rfl

section

variable {ns : List Node} {q : Place} {r : WrittenReference}

theorem typeNode_element {n : TypeName}
    (h : elements uri (n.typeTag.element languageScope ns p) = pure [r.tag.element languageScope [] q]) :
    typeNode uri (n.typeTag.element languageScope ns p) =
      pure (some ⟨position uri p, (), n, ⟨position uri q, (), r⟩, none⟩) := by
  have hpairs : checkPairs uri (n.typeTag.element languageScope ns p) ["name"] = pure () :=
    checkPairs_element (by simp [Name.typeTag])
  have hname : requiredName uri (n.typeTag.element languageScope ns p) .type "name" = pure (some n) :=
    requiredName_element rfl
  simp only [typeNode, hpairs, hname, h, leadingReference, reference_written, Reported.pure_bind]
  rfl

theorem cardinality_element {n : AttributeName} {c : Cardinality} :
    cardinality uri ((n.attributeTag c).element languageScope ns p) = pure (some c.token) := by
  have htoken : required uri ((n.attributeTag c).element languageScope ns p) "cardinality" =
      pure (some c.token) := required_element rfl
  rw [cardinality, htoken, Reported.pure_bind]
  simp only [c.ofToken?_token, Option.isSome_some, if_true]

theorem attributeNode_element {n : AttributeName} {c : Cardinality}
    (h : elements uri ((n.attributeTag c).element languageScope ns p) =
      pure [r.tag.element languageScope [] q]) :
    attributeNode uri ((n.attributeTag c).element languageScope ns p) =
      pure (some ⟨position uri p, (), n, ⟨position uri q, (), r⟩, c.token⟩) := by
  have hpairs : checkPairs uri ((n.attributeTag c).element languageScope ns p) ["name", "cardinality"] =
      pure () := checkPairs_element (by simp [Name.attributeTag])
  have hname : requiredName uri ((n.attributeTag c).element languageScope ns p) .attribute "name" =
      pure (some n) := requiredName_element rfl
  simp only [attributeNode, hpairs, hname, cardinality_element, h, leadingReference, reference_written,
    Reported.pure_bind]
  rfl

end

/-- The element of a row is read as a declaration that says what the row does. -/
theorem child_written (uri : String) (p : Place) (root : Element) (l : Row) : ∃ d, l.statement.Says d ∧
    child uri root (l.markup.element languageScope p) = pure (some (.declaration d)) := by
  cases h : l.statement with
  | importing target =>
    have htag : tag? (target.importTag.element languageScope [] p) = some "Import" :=
      tag?_element (scope_inner rfl)
    refine ⟨_, .importing ⟨position uri p, (), target.name, target.version⟩, ?_⟩
    simp only [Row.markup, h, Markup.element, child, htag, importNode_written, Reported.pure_bind]
    rfl
  | type name base =>
    -- The reference is the only element in there. `q` is where it begins, behind the gap.
    obtain ⟨q, hchildren⟩ := elements_reference uri p l base name.typeTag rfl
    have htag : tag? ((Markup.opened name.typeTag (l.contents base)).element languageScope p) =
        some "Type" := tag?_element (scope_inner rfl)
    have hread : typeNode uri ((Markup.opened name.typeTag (l.contents base)).element languageScope p) =
        pure (some ⟨position uri p, (), name, ⟨position uri q, (), base⟩, none⟩) :=
      typeNode_element hchildren
    refine ⟨_, .type ⟨position uri p, (), name, ⟨position uri q, (), base⟩, none⟩ rfl, ?_⟩
    simp only [Row.markup, h, child, htag, hread, Reported.pure_bind]
    rfl
  | «attribute» name reference cardinality =>
    obtain ⟨q, hchildren⟩ :=
      elements_reference uri p l reference (name.attributeTag cardinality) rfl
    have htag : tag? ((Markup.opened (name.attributeTag cardinality) (l.contents reference)).element
        languageScope p) = some "Attribute" := tag?_element (scope_inner rfl)
    have hread : attributeNode uri ((Markup.opened (name.attributeTag cardinality)
        (l.contents reference)).element languageScope p) = pure (some ⟨position uri p, (), name,
          ⟨position uri q, (), reference⟩, cardinality.token⟩) := attributeNode_element hchildren
    refine ⟨_, .attribute ⟨position uri p, (), name, ⟨position uri q, (), reference⟩,
      cardinality.token⟩ rfl, ?_⟩
    simp only [Row.markup, h, child, htag, hread, Reported.pure_bind]
    rfl

/-- The elements of rows are read one by one, in order. -/
theorem childrenOf_written (uri : String) (root : Element) (closing : Xml.Gap) (ls : List Row) (p : Place) :
    ∃ ds, List.Forall₂ Statement.Says (ls.map Row.statement) ds ∧
      childrenOf uri root (contentElements languageScope p (Row.all closing ls)) =
        pure (ds.map .declaration) := by
  induction ls generalizing p with
  | nil => exact ⟨[], .nil, rfl⟩
  | cons l ls ih =>
    obtain ⟨d, hd, hchild⟩ := child_written uri (p.afterAll l.before.val) root l
    obtain ⟨ds, hds, hrest⟩ := ih ((p.afterAll l.before.val).afterAll l.markup.text)
    refine ⟨d :: ds, .cons hd hds, ?_⟩
    rw [Row.all, contentElements, childrenOf, hchild, Reported.pure_bind, hrest]
    rfl

/-! ## Schemas -/

/-- Declarations that say what distinct statements do are distinct. -/
theorem distinct_of_forall₂ {es : List Statement} {ds : List (Declaration .parsed)}
    (hes : Statement.Distinct es) (h : List.Forall₂ Statement.Says es ds) : Declarations.Distinct ds := by
  have himports : ∀ e d, Statement.Says e d → d.import?.map ImportNode.target = e.import? := by
    rintro _ _ (_ | _ | _) <;> rfl
  have htypes : ∀ e d, Statement.Says e d → d.type?.map TypeNode.name = e.type? := by
    rintro _ _ (_ | _ | _) <;> rfl
  have hattributes : ∀ e d, Statement.Says e d → d.attribute?.map AttributeNode.name = e.attribute? := by
    rintro _ _ (_ | _ | _) <;> rfl
  constructor
  · rw [List.map_filterMap, filterMap_eq_of_forall₂ h himports]
    exact hes.imports
  · rw [List.map_filterMap, filterMap_eq_of_forall₂ h htypes]
    exact hes.types
  · rw [List.map_filterMap, filterMap_eq_of_forall₂ h hattributes]
    exact hes.attributes

theorem content_written (uri : String) (p : Place) (d : SchemaDocument) :
    ∃ ds, List.Forall₂ Statement.Says d.statements ds ∧
      content uri (d.document.root.element [] p) =
        pure ⟨some d.identifier.name, some d.identifier.version, ds.map .declaration⟩ := by
  obtain ⟨ds, hds, hchildren⟩ := childrenOf_written uri (d.document.root.element [] p) d.closing
    d.rows (p.afterAll (d.identifier.schemaTag.text ++ ['>']))
  have hpairs : checkPairs uri (d.document.root.element [] p)
      ["name", "versionMajor", "versionMinor"] = pure () := checkPairs_element d.identifier.mem_keys
  have hname : requiredName uri (d.document.root.element [] p) .schema "name" =
      pure (some d.identifier.name) := requiredName_element rfl
  have hversion : version uri (d.document.root.element [] p) = pure (some d.identifier.version) :=
    version_element rfl
  have helements : elements uri (d.document.root.element [] p) =
      pure (contentElements languageScope (p.afterAll (d.identifier.schemaTag.text ++ ['>']))
        (Row.all d.closing d.rows)) := elements_written _ _ rfl
  refine ⟨ds, hds, ?_⟩
  rw [content, hpairs, Reported.pure_bind, hname, Reported.pure_bind, hversion, Reported.pure_bind,
    helements, Reported.pure_bind, hchildren, Reported.pure_bind]

/-- A written schema is read as a tree of its statements. -/
theorem schema_written (uri : String) (p : Place) (d : SchemaDocument)
    (hdistinct : Statement.Distinct d.statements) :
    ∃ t, schema uri (d.document.root.element [] p) = pure (some t) ∧ t.identifier = d.identifier ∧
      List.Forall₂ Statement.Says d.statements t.declarations.items := by
  obtain ⟨ds, hds, hcontent⟩ := content_written uri p d
  obtain ⟨declarations, hdeclarations⟩ :=
    Declarations.ofChildren?_of_distinct (distinct_of_forall₂ hdistinct hds)
  have htag : tag? (d.document.root.element [] p) = some "Schema" :=
    tag?_element (scope_schemaTag d.identifier)
  have hitems : declarations.items = ds :=
    (List.map_inj_right fun _ _ => Child.declaration.inj).mp
      (Declarations.items_ofChildren? hdeclarations).symm
  refine ⟨⟨position uri p, (), d.identifier.name, d.identifier.version, declarations⟩, ?_, rfl,
    hitems ▸ hds⟩
  rw [schema, if_pos htag, hcontent]
  simp only [Reported.hasErrors, Reported.issues_pure, List.any_nil, Bool.false_eq_true, if_false,
    Reported.pure_bind, treeOf, Tree.ofChildren?, hdeclarations]
  rfl

end

end Grammar

/-- **A written schema document is read back**: with distinct names and enough nodes, there is a tree of
the identifier and the statements, in order, and there are no diagnostics. -/
theorem Parser.parse_written (d : SchemaDocument) (hdistinct : Statement.Distinct d.statements) {limit : Nat}
    (hlimit : d.document.size ≤ limit) (uri : String) :
    ∃ t, ({ nodesLimit := limit } : Parser).parse uri d.octets = ⟨some t, []⟩ ∧
      t.identifier = d.identifier ∧ List.Forall₂ Statement.Says d.statements t.declarations.items := by
  obtain ⟨t, ht, hidentifier, hsays⟩ := Grammar.schema_written uri
    (Place.start.afterAll d.document.head) d hdistinct
  have hdecode : Text.decodeDocument d.octets = .ok d.document.text :=
    Text.decodeDocument_encode (Text.Encoding.selected_utf8Octets d.document.head?_text)
  have hpositive : 0 < limit := Nat.lt_of_lt_of_le (Nat.add_pos_left Nat.one_pos _) hlimit
  have hroot : ({ nodesLimit := limit } : Parser).root? uri d.octets = .ok d.document.element :=
    Parser.root?_eq_ok.mpr ⟨hpositive, _, hdecode, d.document.root?_text hlimit⟩
  refine ⟨t, ?_, hidentifier, hsays⟩
  rw [Parser.parse, hroot]
  exact ht

theorem Parser.parse_written_holdings : Statement.Distinct SchemaDocument.holdings.statements ∧
    SchemaDocument.holdings.document.size ≤ 11 ∧
    ∃ t, ({ nodesLimit := 11 } : Parser).parse "memory:holdings" SchemaDocument.holdings.octets = ⟨some t, []⟩ ∧
      t.identifier = SchemaDocument.holdings.identifier ∧
      List.Forall₂ Statement.Says SchemaDocument.holdings.statements t.declarations.items :=
  have hdistinct : Statement.Distinct SchemaDocument.holdings.statements :=
    ⟨by decide, by decide, by decide⟩
  have hlimit : SchemaDocument.holdings.document.size ≤ 11 := by decide
  ⟨hdistinct, hlimit, Parser.parse_written SchemaDocument.holdings hdistinct hlimit "memory:holdings"⟩

end MetaSchema
