import MetaSchema.Proofs.Binding.Cycles

/-!
# What a bound tree is

* `Tree.BoundTo`: a bound tree is its parsed tree with every declaration bound, in order.
* `bind_eq_some`: binding gives such a tree.
* `BoundTo.imports`, `BoundTo.types`, `BoundTo.attributes`: the same for the declarations of one kind.
* `BoundTo.mem_import`, `BoundTo.referred`: what an import and a reference of a bound tree name.
-/

namespace MetaSchema.Tree

/-- `b` is `t` with every declaration bound, and the bases of `t` have no cycle. -/
structure BoundTo (t : Tree .parsed) (b : Tree .bound) : Prop where
  data_eq : b.data = t.identifier
  name_eq : b.name = t.name
  version_eq : b.version = t.version
  declarations : List.Forall₂ (fun d d' => t.bindDeclaration d = .ok d')
    t.declarations.items b.declarations.items
  cycles_eq : t.cycles = []

variable {t : Tree .parsed} {b : Tree .bound}

/-- If no declaration fails, the bound declarations are those of the tree one by one. -/
theorem forall₂_boundDeclarations (h : t.bindErrors = []) :
    List.Forall₂ (fun d d' => t.bindDeclaration d = .ok d')
      t.declarations.items t.boundDeclarations := by
  unfold bindErrors at h
  unfold boundDeclarations
  generalize t.declarations.items = ds at h
  induction ds with
  | nil => exact .nil
  | cons d ds ih =>
    cases hd : t.bindDeclaration d with
    | error e => simp [hd] at h
    | ok d' =>
      rw [List.filterMap_cons_some (b := d') (by simp [hd, Except.toOption])]
      exact .cons hd (ih (by simpa [hd] using h))

/-- **Binding** gives the tree with every declaration bound. -/
theorem bind_eq_some (h : t.bind.value = some b) : t.BoundTo b := by
  unfold bind at h
  split at h
  · rename_i hnil
    obtain ⟨herrors, hcycles⟩ := List.append_eq_nil_iff.mp hnil
    split at h
    · rename_i bound hbound
      cases h
      obtain ⟨-, hdata, hname, hversion, hitems⟩ := ofChildren?_eq_ok hbound
      have hitems : t.boundDeclarations = b.declarations.items :=
        List.map_injective_iff.mpr (fun d d' hd => by cases hd; rfl) hitems
      exact ⟨hdata, hname, hversion, hitems ▸ forall₂_boundDeclarations herrors, hcycles⟩
    · cases h
  · cases h

theorem issues_of_bind_eq_some (h : t.bind.value = some b) : t.bind.issues = [] := by
  unfold bind at h ⊢
  split at h
  · split at h
    · rfl
    · cases h
  · cases h

/-! ## Declarations of one kind -/

/-- A declaration binds to one of its own kind. -/
theorem bindDeclaration_eq_ok {d : Declaration .parsed} {d' : Declaration .bound}
    (h : t.bindDeclaration d = .ok d') :
    (∃ n n', d = .importing n ∧ d' = .importing n' ∧ t.bindImport n = .ok n') ∨
    (∃ n n', d = .type n ∧ d' = .type n' ∧ t.bindType n = .ok n') ∨
    (∃ n n', d = .attribute n ∧ d' = .attribute n' ∧ t.bindAttribute n = .ok n') ∨
    ∃ n, d = .comment n ∧ d' = .comment n := by
  rcases d with n | n | n | n
  · obtain ⟨n', hn, rfl⟩ := map_eq_ok h
    exact .inl ⟨n, n', rfl, rfl, hn⟩
  · obtain ⟨n', hn, rfl⟩ := map_eq_ok h
    exact .inr (.inl ⟨n, n', rfl, rfl, hn⟩)
  · obtain ⟨n', hn, rfl⟩ := map_eq_ok h
    exact .inr (.inr (.inl ⟨n, n', rfl, rfl, hn⟩))
  · cases h
    exact .inr (.inr (.inr ⟨n, rfl, rfl⟩))

namespace BoundTo

theorem imports (hb : t.BoundTo b) :
    List.Forall₂ (fun n n' => t.bindImport n = .ok n') t.imports b.imports := by
  refine List.rel_filterMap (fun d d' h => ?_) hb.declarations
  rcases bindDeclaration_eq_ok h with ⟨n, n', rfl, rfl, hn⟩ | ⟨n, n', rfl, rfl, -⟩ |
    ⟨n, n', rfl, rfl, -⟩ | ⟨n, rfl, rfl⟩
  · exact .some hn
  all_goals exact .none

theorem types (hb : t.BoundTo b) :
    List.Forall₂ (fun n n' => t.bindType n = .ok n') t.types b.types := by
  refine List.rel_filterMap (fun d d' h => ?_) hb.declarations
  rcases bindDeclaration_eq_ok h with ⟨n, n', rfl, rfl, -⟩ | ⟨n, n', rfl, rfl, hn⟩ |
    ⟨n, n', rfl, rfl, -⟩ | ⟨n, rfl, rfl⟩
  · exact .none
  · exact .some hn
  all_goals exact .none

theorem attributes (hb : t.BoundTo b) :
    List.Forall₂ (fun n n' => t.bindAttribute n = .ok n') t.attributes b.attributes := by
  refine List.rel_filterMap (fun d d' h => ?_) hb.declarations
  rcases bindDeclaration_eq_ok h with ⟨n, n', rfl, rfl, -⟩ | ⟨n, n', rfl, rfl, -⟩ |
    ⟨n, n', rfl, rfl, hn⟩ | ⟨n, rfl, rfl⟩
  · exact .none
  · exact .none
  · exact .some hn
  · exact .none

/-- Binding keeps the number of declarations of each kind. -/
theorem counts_eq (hb : t.BoundTo b) : b.counts = t.counts := by
  have hi := hb.imports.length_eq
  have ht := hb.types.length_eq
  have ha := hb.attributes.length_eq
  rw [counts_eq_lengths, counts_eq_lengths, hi, ht, ha]

end BoundTo

/-! ## What the names stand for -/

theorem bindImport_eq_ok {n : ImportNode .parsed} {n' : ImportNode .bound}
    (h : t.bindImport n = .ok n') :
    n.target ≠ t.name ∧ n'.data = n.identifier ∧ n'.target = n.target := by
  unfold bindImport at h
  split at h
  · cases h
  · rename_i hne
    cases h
    exact ⟨hne, rfl, rfl⟩

theorem bindReference_eq_ok {n : ReferenceNode .parsed} {n' : ReferenceNode .bound}
    (h : t.bindReference n = .ok n') :
    t.referent? n.position n.written = .ok n'.data ∧ n'.written = n.written := by
  obtain ⟨data, hdata, rfl⟩ := map_eq_ok h
  exact ⟨hdata, rfl⟩

theorem bindType_eq_ok {n : TypeNode .parsed} {n' : TypeNode .bound}
    (h : t.bindType n = .ok n') :
    n'.name = n.name ∧ t.bindReference n.base = .ok n'.base := by
  obtain ⟨base, hbase, rfl⟩ := map_eq_ok h
  exact ⟨rfl, hbase⟩

theorem bindAttribute_eq_ok {n : AttributeNode .parsed} {n' : AttributeNode .bound}
    (h : t.bindAttribute n = .ok n') :
    n'.name = n.name ∧ n'.cardinality = n.cardinality ∧
      t.bindReference n.reference = .ok n'.reference := by
  obtain ⟨reference, hreference, rfl⟩ := map_eq_ok h
  exact ⟨rfl, rfl, hreference⟩

/-- A qualifier that names no other schema is missing or the own name. -/
theorem foreignQualifier?_eq_none {q : Option SchemaName} :
    t.foreignQualifier? q = none ↔ q = none ∨ q = some t.name := by
  cases q with
  | none => simp [foreignQualifier?]
  | some q => simp [foreignQualifier?]

theorem foreignQualifier?_eq_some {q : Option SchemaName} {other : SchemaName} :
    t.foreignQualifier? q = some other ↔ q = some other ∧ other ≠ t.name := by
  cases q with
  | none => simp [foreignQualifier?]
  | some q =>
    simp only [foreignQualifier?, Option.ite_none_left_eq_some, Option.some.injEq]
    constructor
    · rintro ⟨hne, rfl⟩
      exact ⟨rfl, hne⟩
    · rintro ⟨rfl, hne⟩
      exact ⟨hne, rfl⟩

/-- What a written reference stands for in a tree. -/
inductive Refers (t : Tree .parsed) : WrittenReference → BoundReference → Prop
  | primitive (p : Primitive) : Refers t (.primitive p) (.primitive p)
  | own {q : Option SchemaName} {name : TypeName} (hq : t.foreignQualifier? q = none)
      (hn : name ∈ t.types.map TypeNode.name) :
      Refers t (.named q name) (.own ⟨t.name, name⟩)
  | imported {q : Option SchemaName} {name : TypeName} {n : ImportNode .parsed}
      (hq : t.foreignQualifier? q = some n.target) (hn : n ∈ t.imports) :
      Refers t (.named q name) (.imported n.identifier name)

theorem referent?_eq_ok {position : Position} {w : WrittenReference} {r : BoundReference}
    (h : t.referent? position w = .ok r) : t.Refers w r := by
  unfold referent? at h
  split at h
  · cases h
    exact .primitive _
  · split at h
    · rename_i hq
      split at h
      · rename_i hn
        cases h
        exact .own hq (typeNamed?_isSome.mp hn)
      · cases h
    · rename_i q hq
      split at h
      · rename_i n hn
        cases h
        obtain ⟨hmem, rfl⟩ := importOf?_eq_some.mp hn
        exact .imported hq hmem
      · cases h

namespace BoundTo

/-- An import of a bound tree is bound to the identifier that it names, of another schema. -/
theorem mem_import (hb : t.BoundTo b) {n' : ImportNode .bound} (hn : n' ∈ b.imports) :
    n'.data.name = n'.target ∧ n'.target ≠ b.name := by
  obtain ⟨n, -, h⟩ := forall₂_exists_left hb.imports hn
  obtain ⟨hne, hdata, htarget⟩ := bindImport_eq_ok h
  rw [hdata, htarget, hb.name_eq]
  exact ⟨rfl, hne⟩

/-- The bound types have the names of the parsed ones. -/
theorem types_names (hb : t.BoundTo b) :
    b.types.map TypeNode.name = t.types.map TypeNode.name := by
  have h := hb.types
  generalize b.types = ns', t.types = ns at h
  induction h with
  | nil => rfl
  | cons hn _ ih => rw [List.map_cons, List.map_cons, ih, (bindType_eq_ok hn).1]

theorem refers_base (hb : t.BoundTo b) {n' : TypeNode .bound} (hn : n' ∈ b.types) :
    t.Refers n'.base.written n'.base.data := by
  obtain ⟨n, -, h⟩ := forall₂_exists_left hb.types hn
  obtain ⟨hdata, hwritten⟩ := bindReference_eq_ok (bindType_eq_ok h).2
  exact hwritten ▸ referent?_eq_ok hdata

theorem refers_reference (hb : t.BoundTo b) {n' : AttributeNode .bound}
    (hn : n' ∈ b.attributes) : t.Refers n'.reference.written n'.reference.data := by
  obtain ⟨n, -, h⟩ := forall₂_exists_left hb.attributes hn
  obtain ⟨hdata, hwritten⟩ := bindReference_eq_ok (bindAttribute_eq_ok h).2.2
  exact hwritten ▸ referent?_eq_ok hdata

/-- A reference of a bound tree names one of its own types, or an import. -/
theorem referred (hb : t.BoundTo b) {w : WrittenReference} {r : BoundReference}
    (h : t.Refers w r) :
    (∃ p, r = .primitive p) ∨
    (∃ name, r = .own ⟨b.name, name⟩ ∧ name ∈ b.types.map TypeNode.name) ∨
    ∃ n ∈ b.imports, ∃ name, r = .imported n.data name := by
  rcases h with p | ⟨-, hn⟩ | ⟨-, hn⟩
  · exact .inl ⟨p, rfl⟩
  · exact .inr (.inl ⟨_, by rw [hb.name_eq], hb.types_names ▸ hn⟩)
  · obtain ⟨n', hn', h⟩ := forall₂_exists_right hb.imports hn
    exact .inr (.inr ⟨n', hn', _, by rw [(bindImport_eq_ok h).2.1]⟩)

/-- The base of a bound type in the same schema is its base in the parsed tree. -/
theorem ownBase (hb : t.BoundTo b) {n' : TypeNode .bound} (hn : n' ∈ b.types)
    {q : QualifiedTypeName} (hq : n'.base.data = .own q) : t.OwnBase n'.name q.name := by
  obtain ⟨n, hmem, h⟩ := forall₂_exists_left hb.types hn
  obtain ⟨hname, hbase⟩ := bindType_eq_ok h
  have hr := hb.refers_base hn
  rw [hq, (bindReference_eq_ok hbase).2] at hr
  rw [OwnBase, hname, ownBase?, typeNamed?_of_mem hmem, Option.bind_some]
  generalize n.base.written = w at hr
  rcases hr with _ | ⟨hqualifier, -⟩
  simp [ownType?, hqualifier]

end BoundTo

end MetaSchema.Tree
