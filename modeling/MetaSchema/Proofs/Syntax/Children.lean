import MetaSchema.Proofs.Syntax.Declarations

/-!
# Which children make a tree

* `Child.Admissible`: no child is a schema or a type reference that stands alone, and no two declare
  one name of a kind.
* `Child.Violates`: what is wrong with a child behind others.
* `Declarations.add?_eq_error`: a child cannot be added just if there is something wrong with it.
* `Declarations.exists_ofChildren?_iff`, `Declarations.ofChildren?_eq_error`: which children make
  declarations, and at which child it fails otherwise.
* `Tree.Presents`: what a tree shows of the children that it was made of.
* `Tree.ofChildren?_exact`: **making a tree** succeeds just for admissible children, and shows them.
-/

namespace MetaSchema

variable {φ : Phase}

theorem Declaration.import?_eq_some {d : Declaration φ} {n : ImportNode φ} :
    d.import? = some n ↔ d = .importing n := by
  cases d <;> simp [import?]

theorem Declaration.type?_eq_some {d : Declaration φ} {n : TypeNode φ} :
    d.type? = some n ↔ d = .type n := by
  cases d <;> simp [type?]

theorem Declaration.attribute?_eq_some {d : Declaration φ} {n : AttributeNode φ} :
    d.attribute? = some n ↔ d = .attribute n := by
  cases d <;> simp [attribute?]

namespace Child

/-- The declaration that a child is. -/
def declaration? : Child φ → Option (Declaration φ)
  | declaration d => some d
  | _ => none

/-- Children that are declarations, no two of one kind and name. -/
structure Admissible (cs : List (Child φ)) : Prop where
  no_schema : ∀ t, schema t ∉ cs
  no_reference : ∀ n, reference n ∉ cs
  distinct : Declarations.Distinct (cs.filterMap declaration?)

/-- What is wrong with a child behind others: it is no declaration, or one before it is of the same
kind and name. -/
inductive Violates (before : List (Child φ)) : Child φ → StructuralError → Prop
  | schema (t : Tree φ) : Violates before (schema t) (.illegalDeclaration .schema t.position)
  | reference (n : ReferenceNode φ) :
      Violates before (reference n) (.illegalDeclaration .reference n.position)
  | duplicateImport {n m : ImportNode φ} (hm : declaration (.importing m) ∈ before)
      (hname : m.target = n.target) :
      Violates before (declaration (.importing n)) (.duplicateImport n.target n.position)
  | duplicateType {n m : TypeNode φ} (hm : declaration (.type m) ∈ before) (hname : m.name = n.name) :
      Violates before (declaration (.type n)) (.duplicateType n.name n.position)
  | duplicateAttribute {n m : AttributeNode φ} (hm : declaration (.attribute m) ∈ before)
      (hname : m.name = n.name) :
      Violates before (declaration (.attribute n)) (.duplicateAttribute n.name n.position)

theorem filterMap_declaration? (items : List (Declaration φ)) :
    (items.map declaration).filterMap declaration? = items := by
  rw [List.filterMap_map]
  exact List.filterMap_some

theorem Admissible.eq_map {cs : List (Child φ)} (h : Admissible cs) :
    cs = (cs.filterMap declaration?).map declaration := by
  obtain ⟨hschema, hreference, -⟩ := h
  induction cs with
  | nil => rfl
  | cons c cs ih =>
    have hrest := ih (fun t ht => hschema t (.tail _ ht)) fun n hn => hreference n (.tail _ hn)
    cases c with
    | declaration d => exact congrArg _ hrest
    | reference n => exact (hreference n List.mem_cons_self).elim
    | schema t => exact (hschema t List.mem_cons_self).elim

theorem admissible_map {items : List (Declaration φ)} :
    Admissible (items.map declaration) ↔ Declarations.Distinct items := by
  constructor
  · rintro ⟨-, -, hdistinct⟩
    rwa [filterMap_declaration?] at hdistinct
  · exact fun h => ⟨by simp, by simp, by rwa [filterMap_declaration?]⟩

end Child

/-! ## Adding children -/

namespace Declarations

variable {ds : Declarations φ}

theorem mem_imports {n : ImportNode φ} :
    n ∈ ds.imports ↔ .declaration (.importing n) ∈ ds.items.map Child.declaration := by
  simp [imports, Declaration.import?_eq_some]

theorem mem_types {n : TypeNode φ} :
    n ∈ ds.types ↔ .declaration (.type n) ∈ ds.items.map Child.declaration := by
  simp [types, Declaration.type?_eq_some]

theorem mem_attributes {n : AttributeNode φ} :
    n ∈ ds.attributes ↔ .declaration (.attribute n) ∈ ds.items.map Child.declaration := by
  simp [attributes, Declaration.attribute?_eq_some]

theorem mem_keys_importIndex {q : SchemaName} : q ∈ ds.importIndex.map Prod.fst ↔
    ∃ m, .declaration (.importing m) ∈ ds.items.map Child.declaration ∧ m.target = q := by
  rw [map_fst_importIndex, List.mem_map]
  exact exists_congr fun _ => and_congr_left' mem_imports

theorem mem_keys_typeIndex {name : TypeName} : name ∈ ds.typeIndex.map Prod.fst ↔
    ∃ m, .declaration (.type m) ∈ ds.items.map Child.declaration ∧ m.name = name := by
  rw [map_fst_typeIndex, List.mem_map]
  exact exists_congr fun _ => and_congr_left' mem_types

theorem mem_keys_attributeIndex {name : AttributeName} : name ∈ ds.attributeIndex.map Prod.fst ↔
    ∃ m, .declaration (.attribute m) ∈ ds.items.map Child.declaration ∧ m.name = name := by
  rw [map_fst_attributeIndex, List.mem_map]
  exact exists_congr fun _ => and_congr_left' mem_attributes

/-- A check whether a name has a place. -/
theorem dite_eq_error {p : Prop} [Decidable p] {e e' : StructuralError}
    {added : ¬ p → Declarations φ} :
    (if h : p then .error e' else .ok (added h) : Except StructuralError (Declarations φ)) = .error e ↔
      p ∧ e' = e := by
  by_cases h : p <;> simp [h]

/-- **A child cannot be added** just if there is something wrong with it behind the declarations. -/
theorem add?_eq_error {c : Child φ} {e : StructuralError} :
    ds.add? c = .error e ↔ c.Violates (ds.items.map .declaration) e := by
  constructor
  · intro h
    rcases c with (n | n | n | n) | n | t
    · obtain ⟨hmem, rfl⟩ := dite_eq_error.mp h
      obtain ⟨m, hm, hname⟩ := mem_keys_importIndex.mp hmem
      exact .duplicateImport hm hname
    · obtain ⟨hmem, rfl⟩ := dite_eq_error.mp h
      obtain ⟨m, hm, hname⟩ := mem_keys_typeIndex.mp hmem
      exact .duplicateType hm hname
    · obtain ⟨hmem, rfl⟩ := dite_eq_error.mp h
      obtain ⟨m, hm, hname⟩ := mem_keys_attributeIndex.mp hmem
      exact .duplicateAttribute hm hname
    · cases h
    · cases h
      exact .reference n
    · cases h
      exact .schema t
  · intro h
    cases h with
    | schema t => rfl
    | reference n => rfl
    | duplicateImport hm hname =>
      exact dite_eq_error.mpr ⟨mem_keys_importIndex.mpr ⟨_, hm, hname⟩, rfl⟩
    | duplicateType hm hname =>
      exact dite_eq_error.mpr ⟨mem_keys_typeIndex.mpr ⟨_, hm, hname⟩, rfl⟩
    | duplicateAttribute hm hname =>
      exact dite_eq_error.mpr ⟨mem_keys_attributeIndex.mpr ⟨_, hm, hname⟩, rfl⟩

theorem exists_ofChildren?_iff {cs : List (Child φ)} :
    (∃ ds, ofChildren? cs = .ok ds) ↔ Child.Admissible cs := by
  constructor
  · rintro ⟨ds, h⟩
    rw [items_ofChildren? h]
    exact Child.admissible_map.mpr ds.distinct
  · intro h
    rw [h.eq_map]
    exact ofChildren?_of_distinct h.distinct

/-- The children before the first one that violates the structure are admissible. -/
theorem ofChildren?_eq_error {cs : List (Child φ)} {e : StructuralError} :
    ofChildren? cs = .error e ↔
      ∃ before c after, cs = before ++ c :: after ∧ Child.Admissible before ∧ c.Violates before e := by
  unfold ofChildren?
  rw [foldlM_eq_error]
  constructor
  · rintro ⟨before, c, after, ds, rfl, hds, he⟩
    have hitems := items_ofChildren? hds
    refine ⟨before, c, after, rfl, exists_ofChildren?_iff.mp ⟨ds, hds⟩, ?_⟩
    rw [hitems]
    exact add?_eq_error.mp he
  · rintro ⟨before, c, after, rfl, hbefore, hc⟩
    obtain ⟨ds, hds⟩ := exists_ofChildren?_iff.mpr hbefore
    rw [items_ofChildren? hds] at hc
    exact ⟨before, c, after, ds, rfl, hds, add?_eq_error.mpr hc⟩

end Declarations

/-! ## Trees -/

namespace Tree

/-- The tree has these children as its declarations, in order. Each declaration is found by its name,
and nothing else is, and each kind is counted. -/
structure Presents (t : Tree φ) (cs : List (Child φ)) : Prop where
  items : t.declarations.items.map .declaration = cs
  importOf?_eq_some : ∀ q n,
    t.importOf? q = some n ↔ .declaration (.importing n) ∈ cs ∧ n.target = q
  typeNamed?_eq_some : ∀ name n,
    t.typeNamed? name = some n ↔ .declaration (.type n) ∈ cs ∧ n.name = name
  attributeNamed?_eq_some : ∀ name n,
    t.attributeNamed? name = some n ↔ .declaration (.attribute n) ∈ cs ∧ n.name = name
  counts_eq : t.counts =
    { imports := (cs.filterMap Child.declaration?).countP (·.import?.isSome)
      types := (cs.filterMap Child.declaration?).countP (·.type?.isSome)
      attributes := (cs.filterMap Child.declaration?).countP (·.attribute?.isSome) }

theorem presents (t : Tree φ) : t.Presents (t.declarations.items.map .declaration) where
  items := rfl
  importOf?_eq_some q n := by rw [importOf?_eq_some, ← Declarations.mem_imports]; rfl
  typeNamed?_eq_some name n := by rw [typeNamed?_eq_some, ← Declarations.mem_types]; rfl
  attributeNamed?_eq_some name n := by
    rw [attributeNamed?_eq_some, ← Declarations.mem_attributes]
    rfl
  counts_eq := by
    rw [counts_eq_lengths, Child.filterMap_declaration?]
    simp only [← List.length_filterMap_eq_countP]
    rfl

/-- **Making a tree.** Children make a tree just if none of them is a schema or a type reference that
stands alone and no two declare the same import target, the same type or the same attribute. Otherwise
the error is about the first child that breaks this. The tree has the children in order, finds each by
its name, and counts them by kind. -/
theorem ofChildren?_exact (position : Position) (data : φ.SchemaData) (name : SchemaName)
    (version : Version) (cs : List (Child φ)) :
    ((∃ t, Tree.ofChildren? position data name version cs = .ok t) ↔ Child.Admissible cs) ∧
    (∀ e, Tree.ofChildren? position data name version cs = .error e ↔
      ∃ before c after, cs = before ++ c :: after ∧ Child.Admissible before ∧ c.Violates before e) ∧
    ∀ t, Tree.ofChildren? position data name version cs = .ok t →
      t.position = position ∧ t.data = data ∧ t.name = name ∧ t.version = version ∧
        t.Presents cs := by
  refine ⟨?_, fun e => ?_, fun t ht => ?_⟩
  · rw [← Declarations.exists_ofChildren?_iff]
    constructor
    · rintro ⟨t, ht⟩
      obtain ⟨ds, hds, -⟩ := map_eq_ok ht
      exact ⟨ds, hds⟩
    · rintro ⟨ds, hds⟩
      exact ⟨_, by rw [Tree.ofChildren?, hds]; rfl⟩
  · rw [Tree.ofChildren?, map_eq_error, Declarations.ofChildren?_eq_error]
  · obtain ⟨hposition, hdata, hname, hversion, rfl⟩ := ofChildren?_eq_ok ht
    exact ⟨hposition, hdata, hname, hversion, t.presents⟩

end Tree

namespace Sample

def captionType : TypeNode .parsed :=
  ⟨.zero, (), ⟨"caption", by decide, by decide⟩, ⟨.zero, (), .primitive .string⟩, none⟩

def captionAttribute : AttributeNode .parsed :=
  ⟨.zero, (), ⟨"caption", by decide, by decide⟩, ⟨.zero, (), .named none captionType.name⟩, "1"⟩

def baseImport : ImportNode .parsed := ⟨.zero, (), ⟨"Base", by decide, by decide⟩, ⟨2, 1⟩⟩

/-- A type and an attribute of one name, behind a comment. -/
def captioned : List (Child .parsed) :=
  [.declaration (.comment ⟨.zero, "Captions"⟩), .declaration (.type captionType),
    .declaration (.attribute captionAttribute), .declaration (.importing baseImport)]

end Sample

open Sample in
/-- The type and the attribute share their name, and each is found by it. -/
theorem Tree.ofChildren?_exact_captioned :
    ∃ t, Tree.ofChildren? .zero () baseImport.target ⟨1, 0⟩ captioned = .ok t ∧
      t.typeNamed? captionType.name = some captionType ∧
      t.attributeNamed? captionAttribute.name = some captionAttribute ∧ t.counts = ⟨1, 1, 1⟩ := by
  obtain ⟨-, -, hmade⟩ := ofChildren?_exact .zero () baseImport.target ⟨1, 0⟩ captioned
  obtain ⟨-, -, -, -, ht⟩ := hmade _ rfl
  refine ⟨_, rfl, (ht.typeNamed?_eq_some _ _).mpr ⟨?_, rfl⟩,
    (ht.attributeNamed?_eq_some _ _).mpr ⟨?_, rfl⟩, ht.counts_eq⟩
  · exact .tail _ (.head _)
  · exact .tail _ (.tail _ (.head _))

end MetaSchema
