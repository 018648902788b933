import MetaSchema.Syntax.Node

/-!
# Schema trees

* `Declarations`: a list of declarations in which import targets, type names and attribute names
  are each declared once, with an index of each. A type and an attribute may share a name.
* `places`: what an index holds, the place in the list of each name.
* `Child`: what a document may hold in the place of a declaration.
* `StructuralError`: why a child cannot be added.
* `Declarations.add?`, `Declarations.ofChildren?`: adding one child, or all in order. The first
  child that cannot be added is the error.
* `Tree`: a schema with its declarations, and look-up by name.
-/

namespace MetaSchema

/-- The names that declarations have under `name?`, each with the place of its declaration. -/
def places {φ : Phase} {κ : Type} (name? : Declaration φ → Option κ)
    (items : List (Declaration φ)) : List (κ × Nat) :=
  items.zipIdx.filterMap fun e => (name? e.1).map (·, e.2)

/-- Declarations in source order, without two of one kind and name, and the place of each by its
name. -/
structure Declarations (φ : Phase) where
  items : List (Declaration φ)
  importIndex : List (SchemaName × Nat) := places Declaration.importTarget? items
  typeIndex : List (TypeName × Nat) := places Declaration.typeName? items
  attributeIndex : List (AttributeName × Nat) := places Declaration.attributeName? items
  imports_nodup : ((items.filterMap Declaration.import?).map ImportNode.target).Nodup
  types_nodup : ((items.filterMap Declaration.type?).map TypeNode.name).Nodup
  attributes_nodup : ((items.filterMap Declaration.attribute?).map AttributeNode.name).Nodup
  importIndex_eq : importIndex = places Declaration.importTarget? items := by rfl
  typeIndex_eq : typeIndex = places Declaration.typeName? items := by rfl
  attributeIndex_eq : attributeIndex = places Declaration.attributeName? items := by rfl

/-- The number of declarations of each kind. -/
structure DeclarationCounts where
  imports : Nat
  types : Nat
  attributes : Nat
deriving DecidableEq, Repr

instance : ToString DeclarationCounts where
  toString c := s!"{c.imports} imports, {c.types} types, {c.attributes} attributes"

/-- A schema document as a tree. -/
structure Tree (φ : Phase) where
  position : Position
  data : φ.SchemaData
  name : SchemaName
  version : Version
  declarations : Declarations φ

/-- A node in the place of a declaration. -/
inductive Child (φ : Phase) where
  | declaration (d : Declaration φ)
  /-- A type reference that stands alone. -/
  | reference (n : ReferenceNode φ)
  /-- A schema within a schema. -/
  | schema (t : Tree φ)

/-- Nodes that cannot be declarations. -/
inductive StrayKind where
  | schema
  | reference
deriving DecidableEq, Repr

def StrayKind.word : StrayKind → String
  | schema => "schema"
  | reference => "type reference"

/-- Why a child cannot be added to the declarations before it. -/
inductive StructuralError where
  | illegalDeclaration (kind : StrayKind) (position : Position)
  | duplicateType (name : TypeName) (position : Position)
  | duplicateAttribute (name : AttributeName) (position : Position)
  | duplicateImport (name : SchemaName) (position : Position)
deriving DecidableEq

namespace StructuralError

def message : StructuralError → String
  | illegalDeclaration kind _ => s!"a {kind.word} cannot be a schema declaration"
  | duplicateType name _ => s!"type {name} is declared more than once"
  | duplicateAttribute name _ => s!"attribute {name} is declared more than once"
  | duplicateImport name _ => s!"schema {name} is imported more than once"

def position : StructuralError → Position
  | illegalDeclaration _ p => p
  | duplicateType _ p => p
  | duplicateAttribute _ p => p
  | duplicateImport _ p => p

end StructuralError

/-! ## Places -/

section Places

variable {φ : Phase} {κ : Type} {name? : Declaration φ → Option κ}

theorem places_snoc_of_some {items : List (Declaration φ)} {d : Declaration φ} {k : κ}
    (h : name? d = some k) :
    places name? (items ++ [d]) = places name? items ++ [(k, items.length)] := by
  simp [places, List.zipIdx_append, h]

theorem places_snoc_of_none {items : List (Declaration φ)} {d : Declaration φ}
    (h : name? d = none) : places name? (items ++ [d]) = places name? items := by
  simp [places, List.zipIdx_append, h]

theorem map_fst_places (items : List (Declaration φ)) :
    (places name? items).map Prod.fst = items.filterMap name? := by
  have hname : ∀ e : Declaration φ × Nat,
      ((name? e.1).map (·, e.2)).map Prod.fst = (name? ∘ Prod.fst) e := by
    intro e
    cases h : name? e.1 <;> simp [h]
  unfold places
  simp only [List.map_filterMap, hname]
  rw [← List.filterMap_map, List.zipIdx_map_fst]

end Places

namespace Declarations

variable {φ : Phase}

def imports (ds : Declarations φ) : List (ImportNode φ) := ds.items.filterMap Declaration.import?

def types (ds : Declarations φ) : List (TypeNode φ) := ds.items.filterMap Declaration.type?

def attributes (ds : Declarations φ) : List (AttributeNode φ) :=
  ds.items.filterMap Declaration.attribute?

def comments (ds : Declarations φ) : List CommentNode := ds.items.filterMap Declaration.comment?

def counts (ds : Declarations φ) : DeclarationCounts :=
  ⟨ds.importIndex.length, ds.typeIndex.length, ds.attributeIndex.length⟩

/-- What stands at the place that an index has for a name. -/
def node? {κ ν : Type} [DecidableEq κ] (ds : Declarations φ) (index : List (κ × Nat))
    (kind? : Declaration φ → Option ν) (name : κ) : Option ν :=
  (index.lookup name).bind fun i => ds.items[i]?.bind kind?

theorem map_fst_importIndex (ds : Declarations φ) :
    ds.importIndex.map Prod.fst = ds.imports.map ImportNode.target := by
  rw [ds.importIndex_eq, map_fst_places, imports, List.map_filterMap]
  rfl

theorem map_fst_typeIndex (ds : Declarations φ) :
    ds.typeIndex.map Prod.fst = ds.types.map TypeNode.name := by
  rw [ds.typeIndex_eq, map_fst_places, types, List.map_filterMap]
  rfl

theorem map_fst_attributeIndex (ds : Declarations φ) :
    ds.attributeIndex.map Prod.fst = ds.attributes.map AttributeNode.name := by
  rw [ds.attributeIndex_eq, map_fst_places, attributes, List.map_filterMap]
  rfl

/-! ## Adding -/

/-- No declarations. -/
def empty : Declarations φ where
  items := []
  imports_nodup := by simp
  types_nodup := by simp
  attributes_nodup := by simp

theorem nodup_snoc {α : Type} {l : List α} {a : α} (hl : l.Nodup) (ha : a ∉ l) :
    (l ++ [a]).Nodup := by
  refine List.nodup_append.2 ⟨hl, by simp, fun x hx y hy => ?_⟩
  rw [List.mem_singleton.1 hy]
  exact fun h => ha (h ▸ hx)

def addImport? (ds : Declarations φ) (n : ImportNode φ) :
    Except StructuralError (Declarations φ) :=
  if h : n.target ∈ ds.importIndex.map Prod.fst then
    .error (.duplicateImport n.target n.position)
  else .ok { ds with
    items := ds.items ++ [.importing n]
    importIndex := ds.importIndex ++ [(n.target, ds.items.length)]
    imports_nodup := by
      rw [map_fst_importIndex] at h
      simpa [List.filterMap_cons, Declaration.import?] using nodup_snoc ds.imports_nodup h
    types_nodup := by simpa [List.filterMap_cons, Declaration.type?] using ds.types_nodup
    attributes_nodup := by
      simpa [List.filterMap_cons, Declaration.attribute?] using ds.attributes_nodup
    importIndex_eq := by rw [ds.importIndex_eq]; exact (places_snoc_of_some (by rfl)).symm
    typeIndex_eq := by rw [ds.typeIndex_eq]; exact (places_snoc_of_none (by rfl)).symm
    attributeIndex_eq := by rw [ds.attributeIndex_eq]; exact (places_snoc_of_none (by rfl)).symm }

def addType? (ds : Declarations φ) (n : TypeNode φ) : Except StructuralError (Declarations φ) :=
  if h : n.name ∈ ds.typeIndex.map Prod.fst then .error (.duplicateType n.name n.position)
  else .ok { ds with
    items := ds.items ++ [.type n]
    typeIndex := ds.typeIndex ++ [(n.name, ds.items.length)]
    imports_nodup := by simpa [List.filterMap_cons, Declaration.import?] using ds.imports_nodup
    types_nodup := by
      rw [map_fst_typeIndex] at h
      simpa [List.filterMap_cons, Declaration.type?] using nodup_snoc ds.types_nodup h
    attributes_nodup := by
      simpa [List.filterMap_cons, Declaration.attribute?] using ds.attributes_nodup
    importIndex_eq := by rw [ds.importIndex_eq]; exact (places_snoc_of_none (by rfl)).symm
    typeIndex_eq := by rw [ds.typeIndex_eq]; exact (places_snoc_of_some (by rfl)).symm
    attributeIndex_eq := by rw [ds.attributeIndex_eq]; exact (places_snoc_of_none (by rfl)).symm }

def addAttribute? (ds : Declarations φ) (n : AttributeNode φ) :
    Except StructuralError (Declarations φ) :=
  if h : n.name ∈ ds.attributeIndex.map Prod.fst then
    .error (.duplicateAttribute n.name n.position)
  else .ok { ds with
    items := ds.items ++ [.attribute n]
    attributeIndex := ds.attributeIndex ++ [(n.name, ds.items.length)]
    imports_nodup := by simpa [List.filterMap_cons, Declaration.import?] using ds.imports_nodup
    types_nodup := by simpa [List.filterMap_cons, Declaration.type?] using ds.types_nodup
    attributes_nodup := by
      rw [map_fst_attributeIndex] at h
      simpa [List.filterMap_cons, Declaration.attribute?] using nodup_snoc ds.attributes_nodup h
    importIndex_eq := by rw [ds.importIndex_eq]; exact (places_snoc_of_none (by rfl)).symm
    typeIndex_eq := by rw [ds.typeIndex_eq]; exact (places_snoc_of_none (by rfl)).symm
    attributeIndex_eq := by rw [ds.attributeIndex_eq]; exact (places_snoc_of_some (by rfl)).symm }

def addComment (ds : Declarations φ) (n : CommentNode) : Declarations φ :=
  { ds with
    items := ds.items ++ [.comment n]
    imports_nodup := by simpa [List.filterMap_cons, Declaration.import?] using ds.imports_nodup
    types_nodup := by simpa [List.filterMap_cons, Declaration.type?] using ds.types_nodup
    attributes_nodup := by
      simpa [List.filterMap_cons, Declaration.attribute?] using ds.attributes_nodup
    importIndex_eq := by rw [ds.importIndex_eq]; exact (places_snoc_of_none (by rfl)).symm
    typeIndex_eq := by rw [ds.typeIndex_eq]; exact (places_snoc_of_none (by rfl)).symm
    attributeIndex_eq := by rw [ds.attributeIndex_eq]; exact (places_snoc_of_none (by rfl)).symm }

/-- The declarations with one more child after them. -/
def add? (ds : Declarations φ) : Child φ → Except StructuralError (Declarations φ)
  | .declaration (.importing n) => ds.addImport? n
  | .declaration (.type n) => ds.addType? n
  | .declaration (.attribute n) => ds.addAttribute? n
  | .declaration (.comment n) => .ok (ds.addComment n)
  | .reference n => .error (.illegalDeclaration .reference n.position)
  | .schema t => .error (.illegalDeclaration .schema t.position)

/-- The declarations that these children make, or the error at the first that cannot be added. -/
def ofChildren? (cs : List (Child φ)) : Except StructuralError (Declarations φ) :=
  cs.foldlM add? empty

end Declarations

namespace Tree

variable {φ : Phase}

def identifier (t : Tree φ) : SchemaIdentifier := ⟨t.name, t.version⟩

def imports (t : Tree φ) : List (ImportNode φ) := t.declarations.imports

def types (t : Tree φ) : List (TypeNode φ) := t.declarations.types

def attributes (t : Tree φ) : List (AttributeNode φ) := t.declarations.attributes

def comments (t : Tree φ) : List CommentNode := t.declarations.comments

def counts (t : Tree φ) : DeclarationCounts := t.declarations.counts

/-- The import of the schema of this name. -/
def importOf? (t : Tree φ) (target : SchemaName) : Option (ImportNode φ) :=
  t.declarations.node? t.declarations.importIndex Declaration.import? target

def typeNamed? (t : Tree φ) (name : TypeName) : Option (TypeNode φ) :=
  t.declarations.node? t.declarations.typeIndex Declaration.type? name

def attributeNamed? (t : Tree φ) (name : AttributeName) : Option (AttributeNode φ) :=
  t.declarations.node? t.declarations.attributeIndex Declaration.attribute? name

/-- A tree with these children. -/
def ofChildren? (position : Position) (data : φ.SchemaData) (name : SchemaName)
    (version : Version) (cs : List (Child φ)) : Except StructuralError (Tree φ) :=
  (Declarations.ofChildren? cs).map (⟨position, data, name, version, ·⟩)

end Tree

end MetaSchema
