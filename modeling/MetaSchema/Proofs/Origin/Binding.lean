import MetaSchema.Binding
import MetaSchema.Proofs.Origin.Anonymous

/-!
# Binding without a uri

Names are bound alike wherever the tree comes from.

* `bindDeclaration_anonymous`, `cyclesFrom_anonymous`: declarations and cycles of bases.
* `bind_anonymous`: the bound tree.
-/

namespace MetaSchema

namespace Tree

variable (t : Tree .parsed)

/-! ## Declarations -/

theorem referent?_anonymous (p : Position) (r : WrittenReference) :
    t.anonymous.referent? p.anonymous r = (t.referent? p r).mapError BindError.anonymous := by
  cases r with
  | primitive _ => rfl
  | named qualifier name =>
    unfold referent?
    have hforeign : t.anonymous.foreignQualifier? qualifier = t.foreignQualifier? qualifier := rfl
    simp only [hforeign, t.anonymous_typeNamed? name, Option.isSome_map]
    cases t.foreignQualifier? qualifier with
    | none =>
      dsimp only
      split <;> rfl
    | some q =>
      simp only [t.anonymous_importOf? q]
      cases t.importOf? q <;> rfl

theorem bindReference_anonymous (n : ReferenceNode .parsed) :
    t.anonymous.bindReference n.anonymous =
      ((t.bindReference n).map ReferenceNode.anonymous).mapError BindError.anonymous := by
  have hreferent := t.referent?_anonymous n.position n.written
  unfold bindReference
  show Except.map _ (t.anonymous.referent? n.position.anonymous n.written) = _
  rw [hreferent]
  cases t.referent? n.position n.written <;> rfl

theorem bindImport_anonymous (n : ImportNode .parsed) :
    t.anonymous.bindImport n.anonymous =
      ((t.bindImport n).map ImportNode.anonymous).mapError BindError.anonymous := by
  unfold bindImport
  show (if n.target = t.name then _ else _) = _
  split <;> rfl

theorem bindType_anonymous (n : TypeNode .parsed) :
    t.anonymous.bindType n.anonymous =
      ((t.bindType n).map TypeNode.anonymous).mapError BindError.anonymous := by
  unfold bindType
  show Except.map _ (t.anonymous.bindReference n.base.anonymous) = _
  rw [bindReference_anonymous]
  cases t.bindReference n.base <;> rfl

theorem bindAttribute_anonymous (n : AttributeNode .parsed) :
    t.anonymous.bindAttribute n.anonymous =
      ((t.bindAttribute n).map AttributeNode.anonymous).mapError BindError.anonymous := by
  unfold bindAttribute
  show Except.map _ (t.anonymous.bindReference n.reference.anonymous) = _
  rw [bindReference_anonymous]
  cases t.bindReference n.reference <;> rfl

/-- **Binding a declaration**, or the error that it does not bind. -/
theorem bindDeclaration_anonymous (d : Declaration .parsed) :
    t.anonymous.bindDeclaration d.anonymous =
      ((t.bindDeclaration d).map Declaration.anonymous).mapError BindError.anonymous := by
  rcases d with n | n | n | n
  · show Except.map _ (t.anonymous.bindImport n.anonymous) =
      ((Except.map _ (t.bindImport n)).map _).mapError _
    rw [bindImport_anonymous]
    cases t.bindImport n <;> rfl
  · show Except.map _ (t.anonymous.bindType n.anonymous) =
      ((Except.map _ (t.bindType n)).map _).mapError _
    rw [bindType_anonymous]
    cases t.bindType n <;> rfl
  · show Except.map _ (t.anonymous.bindAttribute n.anonymous) =
      ((Except.map _ (t.bindAttribute n)).map _).mapError _
    rw [bindAttribute_anonymous]
    cases t.bindAttribute n <;> rfl
  · rfl

theorem boundDeclarations_anonymous :
    t.anonymous.boundDeclarations = t.boundDeclarations.map Declaration.anonymous := by
  unfold boundDeclarations
  show ((t.declarations.items.map Declaration.anonymous).filterMap _) = _
  rw [List.filterMap_map, List.map_filterMap]
  refine congrArg (List.filterMap · t.declarations.items) (funext fun d => ?_)
  show (t.anonymous.bindDeclaration d.anonymous).toOption = _
  rw [bindDeclaration_anonymous]
  cases t.bindDeclaration d <;> rfl

theorem bindErrors_anonymous : t.anonymous.bindErrors = t.bindErrors.map BindError.anonymous := by
  unfold bindErrors
  show ((t.declarations.items.map Declaration.anonymous).filterMap _) = _
  rw [List.filterMap_map, List.map_filterMap]
  refine congrArg (List.filterMap · t.declarations.items) (funext fun d => ?_)
  simp only [Function.comp_apply, bindDeclaration_anonymous]
  cases t.bindDeclaration d <;> rfl

/-! ## Cycles of bases -/

theorem ownBase?_anonymous (name : TypeName) : t.anonymous.ownBase? name = t.ownBase? name := by
  unfold ownBase?
  rw [anonymous_typeNamed?]
  cases t.typeNamed? name <;> rfl

theorem followBases_anonymous (first : TypeName) (fuel : Nat) (chain : List TypeName)
    (current : TypeName) :
    t.anonymous.followBases first fuel chain current = t.followBases first fuel chain current := by
  induction fuel generalizing chain current with
  | zero => rfl
  | succ fuel ih =>
    rw [followBases_succ, followBases_succ, ownBase?_anonymous]
    simp only [ih]

theorem cycleFrom?_anonymous (first : TypeName) :
    t.anonymous.cycleFrom? first = t.cycleFrom? first := by
  unfold cycleFrom?
  rw [followBases_anonymous, anonymous_types, List.length_map]

/-- **The cycles of bases** from some types on. -/
theorem cyclesFrom_anonymous (found : List TypeName) (ns : List (TypeNode .parsed)) :
    t.anonymous.cyclesFrom found (ns.map TypeNode.anonymous) =
      (t.cyclesFrom found ns).map BindError.anonymous := by
  induction ns generalizing found with
  | nil => rfl
  | cons n ns ih =>
    have hname : n.anonymous.name = n.name := rfl
    rw [List.map_cons, cyclesFrom_cons, cyclesFrom_cons, hname, cycleFrom?_anonymous]
    by_cases h : n.name ∈ found
    · simp only [h, ↓reduceIte]
      exact ih found
    · simp only [h, ↓reduceIte]
      cases t.cycleFrom? n.name with
      | none => exact ih found
      | some cycle =>
        rw [List.map_cons, ← ih]
        rfl

theorem cycles_anonymous : t.anonymous.cycles = t.cycles.map BindError.anonymous := by
  unfold cycles
  rw [anonymous_types]
  exact t.cyclesFrom_anonymous [] t.types

/-! ## The bound tree -/

/-- **Binding.** -/
theorem bind_anonymous (f : SourceError → SourceError) :
    t.bind.anonymous f (Option.map Tree.anonymous) = t.anonymous.bind := by
  have herrors : t.anonymous.bindErrors ++ t.anonymous.cycles =
      (t.bindErrors ++ t.cycles).map BindError.anonymous := by
    rw [bindErrors_anonymous, cycles_anonymous, List.map_append]
  unfold bind
  rw [herrors]
  cases t.bindErrors ++ t.cycles with
  | nil =>
    -- Without errors the bound declarations are the children of a new tree, in both.
    have hchildren : t.anonymous.boundDeclarations.map (Child.declaration (φ := .bound)) =
        (t.boundDeclarations.map Child.declaration).map Child.anonymous := by
      rw [boundDeclarations_anonymous, List.map_map, List.map_map]
      rfl
    have htree : Tree.ofChildren? t.anonymous.position t.anonymous.identifier t.anonymous.name
        t.anonymous.version (t.anonymous.boundDeclarations.map .declaration) =
          ((Tree.ofChildren? t.position t.identifier t.name t.version
            (t.boundDeclarations.map .declaration)).map Tree.anonymous).mapError
              StructuralError.anonymous := by
      rw [hchildren]
      exact ofChildren?_anonymous t.position (φ := .bound) t.identifier t.name t.version _
    rw [List.map_nil, htree]
    cases Tree.ofChildren? t.position t.identifier t.name t.version
        (t.boundDeclarations.map .declaration) <;> rfl
  | cons e es =>
    show (⟨none, _⟩ : Reported (Option (Tree .bound))) = ⟨none, _⟩
    rw [List.map_map, List.map_map]
    rfl

end Tree

end MetaSchema
