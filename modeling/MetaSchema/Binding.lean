import MetaSchema.Issue.Basic

/-!
# Binding names

From a parsed tree to a bound one: each declaration gets its identifier, and each type reference
the thing it stands for. Whether an imported schema declares a type is not asked here.

* `Tree.referent?`: what a written reference stands for in a tree, or why it stands for nothing.
* `Tree.ownBase?`: the base relation between the types of one schema.
* `Tree.cycleFrom?`, `Tree.cycles`: the cycles of that relation, each once, from the member that is
  declared first.
* `Tree.bind`: the bound tree, if nothing is wrong.
-/

namespace MetaSchema

namespace Tree

variable (t : Tree .parsed)

/-! ## References -/

/-- The schema that a qualifier names, unless it is the tree's own. -/
def foreignQualifier? : Option SchemaName → Option SchemaName
  | none => none
  | some q => if q = t.name then none else some q

/-- What a reference at a position stands for. -/
def referent? (position : Position) : WrittenReference → Except BindError BoundReference
  | .primitive p => .ok (.primitive p)
  | .named qualifier name =>
    match t.foreignQualifier? qualifier with
    | none =>
      if (t.typeNamed? name).isSome then .ok (.own ⟨t.name, name⟩)
      else .error (.typeUnbound t.name name position)
    | some q =>
      match t.importOf? q with
      | some n => .ok (.imported n.identifier name)
      | none => .error (.importUnbound t.name q position)

def bindReference (n : ReferenceNode .parsed) : Except BindError (ReferenceNode .bound) :=
  (t.referent? n.position n.written).map (⟨n.position, ·, n.written⟩)

/-! ## Declarations -/

def bindImport (n : ImportNode .parsed) : Except BindError (ImportNode .bound) :=
  if n.target = t.name then .error (.importSelf n.target n.position)
  else .ok ⟨n.position, n.identifier, n.target, n.version⟩

def bindType (n : TypeNode .parsed) : Except BindError (TypeNode .bound) :=
  (t.bindReference n.base).map fun base =>
    { position := n.position, data := ⟨t.name, n.name⟩, name := n.name, base, comment := n.comment }

def bindAttribute (n : AttributeNode .parsed) : Except BindError (AttributeNode .bound) :=
  (t.bindReference n.reference).map fun reference =>
    { position := n.position, data := ⟨t.name, n.name⟩, name := n.name, reference,
      cardinality := n.cardinality }

def bindDeclaration : Declaration .parsed → Except BindError (Declaration .bound)
  | .importing n => (t.bindImport n).map .importing
  | .type n => (t.bindType n).map .type
  | .attribute n => (t.bindAttribute n).map .attribute
  | .comment n => .ok (.comment n)

/-- The declarations that bind. -/
def boundDeclarations : List (Declaration .bound) :=
  t.declarations.items.filterMap fun d => (t.bindDeclaration d).toOption

/-- The errors of the declarations that do not bind. -/
def bindErrors : List BindError :=
  t.declarations.items.filterMap fun d =>
    match t.bindDeclaration d with
    | .ok _ => none
    | .error e => some e

/-! ## Cycles of bases -/

/-- The type of the same schema that a reference names, declared or not. -/
def ownType? : WrittenReference → Option TypeName
  | .primitive _ => none
  | .named qualifier name => if t.foreignQualifier? qualifier = none then some name else none

/-- The base of a type, if it is of the same schema. -/
def ownBase? (name : TypeName) : Option TypeName :=
  (t.typeNamed? name).bind fun n => t.ownType? n.base.written

/-- Follows bases from the last type of a chain, which is in reverse, until they lead back to
`first`. A chain that ends, or that comes back to another of its types, is no cycle of `first`. -/
def followBases (first : TypeName) : Nat → List TypeName → TypeName → Option (List TypeName)
  | 0, _, _ => none
  | fuel + 1, chain, current =>
    match t.ownBase? current with
    | none => none
    | some next =>
      if next = first then some (next :: chain).reverse
      else if next ∈ chain then none
      else followBases first fuel (next :: chain) next

theorem followBases_succ (first : TypeName) (fuel : Nat) (chain : List TypeName)
    (current : TypeName) : t.followBases first (fuel + 1) chain current =
      match t.ownBase? current with
      | none => none
      | some next =>
        if next = first then some (next :: chain).reverse
        else if next ∈ chain then none
        else t.followBases first fuel (next :: chain) next := rfl

/-- The cycle of bases through a type, from that type back to itself. A chain of different types is
no longer than the number of types. -/
def cycleFrom? (first : TypeName) : Option (List TypeName) :=
  t.followBases first t.types.length [first] first

/-- The cycles that start at these types; members of one that was found are passed over. -/
def cyclesFrom (found : List TypeName) : List (TypeNode .parsed) → List BindError
  | [] => []
  | n :: ns =>
    if n.name ∈ found then cyclesFrom found ns
    else
      match t.cycleFrom? n.name with
      | none => cyclesFrom found ns
      | some cycle =>
        .typeCyclic ⟨t.name, n.name⟩ cycle n.position :: cyclesFrom (found ++ cycle) ns

theorem cyclesFrom_cons (found : List TypeName) (n : TypeNode .parsed)
    (ns : List (TypeNode .parsed)) : t.cyclesFrom found (n :: ns) =
      if n.name ∈ found then t.cyclesFrom found ns
      else
        match t.cycleFrom? n.name with
        | none => t.cyclesFrom found ns
        | some cycle =>
          .typeCyclic ⟨t.name, n.name⟩ cycle n.position :: t.cyclesFrom (found ++ cycle) ns := rfl

/-- The cycles of bases, each once, in the order of their first members. -/
def cycles : List BindError := t.cyclesFrom [] t.types

/-! ## The bound tree -/

/-- The bound tree, or everything that keeps the names from being bound. -/
def bind : Reported (Option (Tree .bound)) :=
  match t.bindErrors ++ t.cycles with
  | [] =>
    match Tree.ofChildren? t.position t.identifier t.name t.version
        (t.boundDeclarations.map .declaration) with
    | .ok bound => pure (some bound)
    | .error e => .fail (.defect (.malformedTree e))
  | errors => ⟨none, errors.map .bind⟩

end Tree

end MetaSchema
