import MetaSchema.Issue.Basic
import MetaSchema.Proofs.Syntax.Declarations

/-!
# Forgetting where a document comes from

The uri of a document stands in the positions of its tree and of the issues that it has. Here it is
taken out of them.

* `Position.anonymous`, and the same for nodes, declarations and trees: the lines and columns stay.
* `Tree.ofChildren?_anonymous`: children are put together in the same way without it.
* `Issue.anonymous`: an issue without the uri, and also without what a source said when it failed to
  open a schema, as far as `f` forgets that.
* `diagnostic_anonymous`: only the position of a diagnostic shows the uri.
* `Reported.anonymous`: a result without it.
-/

namespace MetaSchema

/-! ## Nodes -/

/-- The same place, in no matter which document. -/
def Position.anonymous (p : Position) : Position := { p with uri := "" }

variable {φ : Phase}

def ReferenceNode.anonymous (n : ReferenceNode φ) : ReferenceNode φ :=
  { n with position := n.position.anonymous }

def ImportNode.anonymous (n : ImportNode φ) : ImportNode φ :=
  { n with position := n.position.anonymous }

def CommentNode.anonymous (n : CommentNode) : CommentNode :=
  { n with position := n.position.anonymous }

def TypeNode.anonymous (n : TypeNode φ) : TypeNode φ :=
  { n with
    position := n.position.anonymous
    base := n.base.anonymous
    comment := n.comment.map CommentNode.anonymous }

def AttributeNode.anonymous (n : AttributeNode φ) : AttributeNode φ :=
  { n with
    position := n.position.anonymous
    reference := n.reference.anonymous }

namespace Declaration

def anonymous : Declaration φ → Declaration φ
  | .importing n => .importing n.anonymous
  | .type n => .type n.anonymous
  | .attribute n => .attribute n.anonymous
  | .comment n => .comment n.anonymous

theorem filterMap_anonymous {α : Type} {f : Declaration φ → Option α} {g : α → α}
    (h : ∀ d, f d.anonymous = (f d).map g) (ds : List (Declaration φ)) :
    (ds.map anonymous).filterMap f = (ds.filterMap f).map g := by
  rw [List.filterMap_map, List.map_filterMap]
  congr
  funext d
  exact h d

theorem imports_anonymous (ds : List (Declaration φ)) :
    (ds.map anonymous).filterMap import? = (ds.filterMap import?).map ImportNode.anonymous :=
  filterMap_anonymous (fun d => by cases d <;> rfl) ds

theorem types_anonymous (ds : List (Declaration φ)) :
    (ds.map anonymous).filterMap type? = (ds.filterMap type?).map TypeNode.anonymous :=
  filterMap_anonymous (fun d => by cases d <;> rfl) ds

theorem attributes_anonymous (ds : List (Declaration φ)) :
    (ds.map anonymous).filterMap attribute? =
      (ds.filterMap attribute?).map AttributeNode.anonymous :=
  filterMap_anonymous (fun d => by cases d <;> rfl) ds

end Declaration

/-! ## Trees -/

def StructuralError.anonymous : StructuralError → StructuralError
  | illegalDeclaration kind p => illegalDeclaration kind p.anonymous
  | duplicateType name p => duplicateType name p.anonymous
  | duplicateAttribute name p => duplicateAttribute name p.anonymous
  | duplicateImport name p => duplicateImport name p.anonymous

namespace Declarations

def anonymous (ds : Declarations φ) : Declarations φ where
  items := ds.items.map Declaration.anonymous
  imports_nodup := by
    rw [Declaration.imports_anonymous, List.map_map]
    exact ds.imports_nodup
  types_nodup := by
    rw [Declaration.types_anonymous, List.map_map]
    exact ds.types_nodup
  attributes_nodup := by
    rw [Declaration.attributes_anonymous, List.map_map]
    exact ds.attributes_nodup

variable (ds : Declarations φ)

@[simp] theorem anonymous_imports : ds.anonymous.imports = ds.imports.map ImportNode.anonymous :=
  Declaration.imports_anonymous ds.items

@[simp] theorem anonymous_types : ds.anonymous.types = ds.types.map TypeNode.anonymous :=
  Declaration.types_anonymous ds.items

@[simp] theorem anonymous_attributes :
    ds.anonymous.attributes = ds.attributes.map AttributeNode.anonymous :=
  Declaration.attributes_anonymous ds.items

end Declarations

namespace Tree

def anonymous (t : Tree φ) : Tree φ :=
  { t with
    position := t.position.anonymous
    declarations := t.declarations.anonymous }

variable (t : Tree φ)

@[simp] theorem anonymous_imports : t.anonymous.imports = t.imports.map ImportNode.anonymous :=
  t.declarations.anonymous_imports

@[simp] theorem anonymous_types : t.anonymous.types = t.types.map TypeNode.anonymous :=
  t.declarations.anonymous_types

@[simp] theorem anonymous_attributes :
    t.anonymous.attributes = t.attributes.map AttributeNode.anonymous :=
  t.declarations.anonymous_attributes

@[simp] theorem anonymous_counts : t.anonymous.counts = t.counts := by
  simp [counts_eq_lengths]

theorem anonymous_typeNamed? (name : TypeName) :
    t.anonymous.typeNamed? name = (t.typeNamed? name).map TypeNode.anonymous := by
  rw [typeNamed?_eq_find?, typeNamed?_eq_find?, anonymous_types, List.find?_map]
  rfl

theorem anonymous_importOf? (target : SchemaName) :
    t.anonymous.importOf? target = (t.importOf? target).map ImportNode.anonymous := by
  rw [importOf?_eq_find?, importOf?_eq_find?, anonymous_imports, List.find?_map]
  rfl

end Tree

def Child.anonymous : Child φ → Child φ
  | declaration d => declaration d.anonymous
  | reference n => reference n.anonymous
  | schema t => schema t.anonymous

namespace Declarations

/-- The indices are those of the list. -/
theorem ext_items {ds ds' : Declarations φ} (h : ds.items = ds'.items) : ds = ds' := by
  have hi := ds.importIndex_eq
  have ht := ds.typeIndex_eq
  have ha := ds.attributeIndex_eq
  rw [h, ← ds'.importIndex_eq] at hi
  rw [h, ← ds'.typeIndex_eq] at ht
  rw [h, ← ds'.attributeIndex_eq] at ha
  cases ds
  cases ds'
  cases h
  cases hi
  cases ht
  cases ha
  rfl

/-- A check that comes out the same before something is added. -/
theorem dite_anonymous {p p' : Prop} [Decidable p] [Decidable p'] (hp : p' ↔ p)
    (e : StructuralError)
    {added : ¬ p → Declarations φ} {added' : ¬ p' → Declarations φ}
    (hadded : ∀ h h', (added' h').items = (added h).anonymous.items) :
    (if h : p' then .error e.anonymous else .ok (added' h)) =
      ((if h : p then .error e else .ok (added h) : Except StructuralError (Declarations φ)).map
        anonymous).mapError StructuralError.anonymous := by
  by_cases h : p
  · rw [dif_pos h, dif_pos (hp.mpr h)]
    rfl
  · rw [dif_neg h, dif_neg (mt hp.mp h)]
    exact congrArg Except.ok (ext_items (hadded h _))

/-- **Adding a child**, or the error that it cannot be added. -/
theorem add?_anonymous (ds : Declarations φ) (c : Child φ) :
    ds.anonymous.add? c.anonymous =
      ((ds.add? c).map anonymous).mapError StructuralError.anonymous := by
  have hitems : ∀ d, (ds.items ++ [d]).map Declaration.anonymous =
      ds.anonymous.items ++ [d.anonymous] := fun d => List.map_append
  rcases c with (n | n | n | n) | n | t
  · refine dite_anonymous ?_ (.duplicateImport n.target n.position) fun _ _ =>
      (hitems (.importing n)).symm
    rw [map_fst_importIndex, map_fst_importIndex, anonymous_imports, List.map_map]
    rfl
  · refine dite_anonymous ?_ (.duplicateType n.name n.position) fun _ _ => (hitems (.type n)).symm
    rw [map_fst_typeIndex, map_fst_typeIndex, anonymous_types, List.map_map]
    rfl
  · refine dite_anonymous ?_ (.duplicateAttribute n.name n.position) fun _ _ =>
      (hitems (.attribute n)).symm
    rw [map_fst_attributeIndex, map_fst_attributeIndex, anonymous_attributes, List.map_map]
    rfl
  · exact congrArg Except.ok (ext_items (hitems (.comment n)).symm)
  · rfl
  · rfl

theorem ofChildren?_anonymous (cs : List (Child φ)) :
    ofChildren? (cs.map Child.anonymous) =
      ((ofChildren? cs).map anonymous).mapError StructuralError.anonymous := by
  have hfold : ∀ ds : Declarations φ, (cs.map Child.anonymous).foldlM add? ds.anonymous =
      ((cs.foldlM add? ds).map anonymous).mapError StructuralError.anonymous := by
    induction cs with
    | nil => exact fun ds => rfl
    | cons c cs ih =>
      intro ds
      rw [List.map_cons, List.foldlM_cons, List.foldlM_cons, add?_anonymous]
      cases ds.add? c with
      | ok ds' => exact ih ds'
      | error e => rfl
  exact hfold empty

end Declarations

theorem Tree.ofChildren?_anonymous (position : Position) (data : φ.SchemaData) (name : SchemaName)
    (version : Version) (cs : List (Child φ)) :
    Tree.ofChildren? position.anonymous data name version (cs.map Child.anonymous) =
      ((Tree.ofChildren? position data name version cs).map anonymous).mapError
        StructuralError.anonymous := by
  unfold Tree.ofChildren?
  rw [Declarations.ofChildren?_anonymous]
  cases Declarations.ofChildren? cs <;> rfl

/-! ## Issues -/

def Violation.anonymous : Violation → Violation
  | structural e => structural e.anonymous
  | v => v

def ParseError.anonymous : ParseError → ParseError
  | malformed e p => malformed e p.anonymous
  | undecodable e p => undecodable e p.anonymous
  | unreadable message p => unreadable message p.anonymous
  | unusable config p => unusable config p.anonymous
  | invalid v p => invalid v.anonymous p.anonymous

def BindError.anonymous : BindError → BindError
  | typeUnbound schema name p => typeUnbound schema name p.anonymous
  | importUnbound schema qualifier p => importUnbound schema qualifier p.anonymous
  | importSelf schema p => importSelf schema p.anonymous
  | typeCyclic name cycle p => typeCyclic name cycle p.anonymous

def Defect.anonymous : Defect → Defect
  | malformedTree e => malformedTree e.anonymous
  | d => d

/-- The error of a load, with another one of the source. -/
def LoadError.mapSource (f : SourceError → SourceError) : LoadError → LoadError
  | source schema e => source schema (f e)
  | e => e

def Diagnostic.anonymous (d : Diagnostic) : Diagnostic :=
  { d with position := d.position.anonymous }

variable (f : SourceError → SourceError)

def Issue.anonymous : Issue → Issue
  | parse e => parse e.anonymous
  | foreignAttribute a => foreignAttribute { a with position := a.position.anonymous }
  | bind e => bind e.anonymous
  | load e p => load (e.mapSource f) p.anonymous
  | resolve e => resolve e
  | validate e => validate e
  | defect d => defect d.anonymous

theorem StructuralError.message_anonymous (e : StructuralError) :
    e.anonymous.message = e.message := by
  cases e <;> rfl

theorem Violation.message_anonymous (v : Violation) : v.anonymous.message = v.message := by
  cases v with
  | structural e => exact e.message_anonymous
  | _ => exact congrArg message rfl

theorem ParseError.message_anonymous (e : ParseError) : e.anonymous.message = e.message := by
  cases e with
  | invalid v p =>
    show (invalid v.anonymous p.anonymous).message = _
    unfold message
    dsimp only
    rw [v.message_anonymous]
  | _ => rfl

theorem ParseError.diagnostic_anonymous (e : ParseError) :
    e.anonymous.diagnostic = e.diagnostic.anonymous := by
  have hcode : e.anonymous.code = e.code := by cases e <;> rfl
  have hposition : e.anonymous.position = e.position.anonymous := by cases e <;> rfl
  unfold diagnostic
  rw [hcode, e.message_anonymous, hposition]
  rfl

theorem Defect.message_anonymous (d : Defect) : d.anonymous.message = d.message := by
  cases d with
  | malformedTree e =>
    show (malformedTree e.anonymous).message = _
    unfold message
    dsimp only
    rw [e.message_anonymous]
  | _ => rfl

/-- **Only the position of a diagnostic** shows where a document comes from. -/
theorem Issue.diagnostic_anonymous (i : Issue) :
    (i.anonymous id).diagnostic = i.diagnostic.anonymous := by
  cases i with
  | parse e => exact e.diagnostic_anonymous
  | foreignAttribute a => rfl
  | bind e => cases e <;> rfl
  | load e p => cases e <;> rfl
  | resolve e => cases e <;> rfl
  | validate e => cases e <;> rfl
  | defect d =>
    show (⟨_, _, d.anonymous.message, _, _⟩ : Diagnostic) = _
    rw [d.message_anonymous]
    rfl

theorem Issue.isError_anonymous (i : Issue) : (i.anonymous id).isError = i.isError :=
  (congrArg Diagnostic.isError i.diagnostic_anonymous).trans rfl

/-! ## Results -/

namespace Reported

variable {α α' β β' : Type}

/-- A result without where it comes from; `g` takes that out of the value. -/
def anonymous (g : α → α') (x : Reported α) : Reported α' :=
  ⟨g x.value, x.issues.map (Issue.anonymous f)⟩

variable {f}

theorem anonymous_bind {g : α → α'} {h : β → β'} {x : Reported α} {x' : Reported α'}
    {k : α → Reported β} {k' : α' → Reported β'} (hx : x.anonymous f g = x')
    (hk : ∀ a, (k a).anonymous f h = k' (g a)) : (x >>= k).anonymous f h = x' >>= k' := by
  subst hx
  have hrest := hk x.value
  have hvalue := congrArg value hrest
  have hissues := congrArg issues hrest
  show (⟨_, _⟩ : Reported β') = ⟨_, _⟩
  rw [Reported.mk.injEq]
  refine ⟨hvalue, ?_⟩
  rw [issues_bind, List.map_append]
  exact congrArg _ hissues

theorem anonymous_fail (g : α → β) (i : Issue) :
    (fail i : Reported (Option α)).anonymous f (Option.map g) = fail (i.anonymous f) := rfl

end Reported

end MetaSchema
