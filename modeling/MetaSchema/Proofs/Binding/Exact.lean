import MetaSchema.Proofs.Binding.Round

/-!
# What binding gives

Binding said declaration by declaration, without the order in which names are looked up.

* `Tree.Means`, `Tree.Unbound`: what a written reference stands for, or why it stands for nothing.
* `Tree.BindsTo`, `Tree.Fails`: the bound form of a declaration, or what is wrong with it.
* `Tree.InScope`, `Tree.Bindable`: the names of a tree all stand for something.
* `Tree.BoundAs`: a bound tree has the declarations of its parsed tree in their bound forms.
* `bind_exact`: binding gives such a tree if the tree is bindable, and reports just these errors.
-/

namespace MetaSchema.Tree

open Relation (TransGen)

variable (t : Tree .parsed)

/-- What a written reference stands for. An imported schema may not declare the type. -/
inductive Means : WrittenReference → BoundReference → Prop
  | primitive (p : Primitive) : Means (.primitive p) (.primitive p)
  | own {q : Option SchemaName} {name : TypeName} (hq : t.Local q)
      (hn : name ∈ t.types.map TypeNode.name) : Means (.named q name) (.own ⟨t.name, name⟩)
  | imported {n : ImportNode .parsed} {name : TypeName} (hn : n ∈ t.imports)
      (hne : n.target ≠ t.name) :
      Means (.named (some n.target) name) (.imported ⟨n.target, n.version⟩ name)

/-- Why a reference at a position stands for nothing. -/
inductive Unbound (position : Position) : WrittenReference → BindError → Prop
  | type {q : Option SchemaName} {name : TypeName} (hq : t.Local q)
      (hn : name ∉ t.types.map TypeNode.name) :
      Unbound position (.named q name) (.typeUnbound t.name name position)
  | schema {q : SchemaName} {name : TypeName} (hq : q ≠ t.name)
      (hi : q ∉ t.imports.map ImportNode.target) :
      Unbound position (.named (some q) name) (.importUnbound t.name q position)

/-- The bound form of a declaration. -/
inductive BindsTo : Declaration .parsed → Declaration .bound → Prop
  | importing {n : ImportNode .parsed} (hne : n.target ≠ t.name) :
      BindsTo (.importing n)
        (.importing ⟨n.position, ⟨n.target, n.version⟩, n.target, n.version⟩)
  | type {n : TypeNode .parsed} {r : BoundReference} (h : t.Means n.base.written r) :
      BindsTo (.type n) (.type ⟨n.position, ⟨t.name, n.name⟩, n.name,
        ⟨n.base.position, r, n.base.written⟩, n.comment⟩)
  | attribute {n : AttributeNode .parsed} {r : BoundReference} (h : t.Means n.reference.written r) :
      BindsTo (.attribute n) (.attribute ⟨n.position, ⟨t.name, n.name⟩, n.name,
        ⟨n.reference.position, r, n.reference.written⟩, n.cardinality⟩)
  | comment {n : CommentNode} : BindsTo (.comment n) (.comment n)

/-- What is wrong with a declaration. -/
inductive Fails : Declaration .parsed → BindError → Prop
  | importing {n : ImportNode .parsed} (h : n.target = t.name) :
      Fails (.importing n) (.importSelf t.name n.position)
  | type {n : TypeNode .parsed} {e : BindError} (h : t.Unbound n.base.position n.base.written e) :
      Fails (.type n) e
  | attribute {n : AttributeNode .parsed} {e : BindError}
      (h : t.Unbound n.reference.position n.reference.written e) : Fails (.attribute n) e

/-- A reference to the schema itself is to a declared type, and any other is to an imported schema. -/
structure InScope (w : WrittenReference) : Prop where
  own : ∀ q name, w = .named q name → t.Local q → name ∈ t.types.map TypeNode.name
  foreign : ∀ q name, w = .named (some q) name → q ≠ t.name → q ∈ t.imports.map ImportNode.target

/-- The names of the tree stand for something, and no type is defined in terms of itself. -/
structure Bindable : Prop where
  imports : ∀ n ∈ t.imports, n.target ≠ t.name
  types : ∀ n ∈ t.types, t.InScope n.base.written
  attributes : ∀ n ∈ t.attributes, t.InScope n.reference.written
  acyclic : ∀ name, ¬ TransGen t.BasedOn name name

/-- `b` is `t` with its declarations in their bound forms, in order. -/
structure BoundAs (b : Tree .bound) : Prop where
  position_eq : b.position = t.position
  data_eq : b.data = ⟨t.name, t.version⟩
  name_eq : b.name = t.name
  version_eq : b.version = t.version
  declarations : List.Forall₂ t.BindsTo t.declarations.items b.declarations.items
  counts_eq : b.counts = t.counts

variable {t} {position : Position} {w : WrittenReference} {r : BoundReference} {e : BindError}
  {d : Declaration .parsed} {d' : Declaration .bound}

/-! ## References -/

theorem importOf?_of_mem {n : ImportNode .parsed} (h : n ∈ t.imports) :
    t.importOf? n.target = some n :=
  importOf?_eq_some.mpr ⟨h, rfl⟩

theorem importOf?_eq_none {q : SchemaName} :
    t.importOf? q = none ↔ q ∉ t.imports.map ImportNode.target := by
  simp [importOf?_eq_find?]

theorem referent?_iff_means : t.referent? position w = .ok r ↔ t.Means w r := by
  constructor
  · intro h
    rcases referent?_eq_ok h with p | ⟨hq, hn⟩ | ⟨hq, hn⟩
    · exact .primitive p
    · exact .own (foreignQualifier?_eq_none.mp hq) hn
    · obtain ⟨rfl, hne⟩ := foreignQualifier?_eq_some.mp hq
      exact .imported hn hne
  · rintro (p | ⟨hq, hn⟩ | ⟨hn, hne⟩)
    · rfl
    · simp only [referent?, foreignQualifier?_eq_none.mpr hq, typeNamed?_isSome.mpr hn, if_true]
    · simp only [referent?, foreignQualifier?_eq_some.mpr ⟨rfl, hne⟩, importOf?_of_mem hn]
      rfl

theorem referent?_iff_unbound : t.referent? position w = .error e ↔ t.Unbound position w e := by
  constructor
  · intro h
    unfold referent? at h
    split at h
    · cases h
    · split at h
      · rename_i hq
        split at h
        · cases h
        · rename_i hn
          cases h
          exact .type (foreignQualifier?_eq_none.mp hq) (mt typeNamed?_isSome.mpr hn)
      · rename_i q hq
        obtain ⟨rfl, hne⟩ := foreignQualifier?_eq_some.mp hq
        split at h
        · cases h
        · rename_i hi
          cases h
          exact .schema hne (importOf?_eq_none.mp hi)
  · rintro (⟨hq, hn⟩ | ⟨hne, hi⟩)
    · simp only [referent?, foreignQualifier?_eq_none.mpr hq, mt typeNamed?_isSome.mp hn,
        Bool.false_eq_true, if_false]
    · simp only [referent?, foreignQualifier?_eq_some.mpr ⟨rfl, hne⟩, importOf?_eq_none.mpr hi]

/-- A reference that is in scope is one that does not fail to bind. -/
theorem inScope_iff : t.InScope w ↔ ∀ e, ¬ t.Unbound position w e := by
  constructor
  · rintro ⟨hown, hforeign⟩ e (⟨hq, hn⟩ | ⟨hne, hi⟩)
    · exact hn (hown _ _ rfl hq)
    · exact hi (hforeign _ _ rfl hne)
  · intro h
    refine ⟨fun q name hw hq => ?_, fun q name hw hne => ?_⟩
    · subst hw
      exact not_not.mp fun hn => h _ (.type hq hn)
    · subst hw
      exact not_not.mp fun hi => h _ (.schema hne hi)

/-! ## Declarations -/

theorem bindReference_iff_means {n : ReferenceNode .parsed} {n' : ReferenceNode .bound} :
    t.bindReference n = .ok n' ↔ ∃ r, t.Means n.written r ∧ n' = ⟨n.position, r, n.written⟩ := by
  constructor
  · intro h
    obtain ⟨r, hr, rfl⟩ := map_eq_ok h
    exact ⟨r, referent?_iff_means.mp hr, rfl⟩
  · rintro ⟨r, hr, rfl⟩
    rw [bindReference, referent?_iff_means.mpr hr]
    rfl

theorem bindReference_iff_unbound {n : ReferenceNode .parsed} :
    t.bindReference n = .error e ↔ t.Unbound n.position n.written e := by
  rw [bindReference, map_eq_error, referent?_iff_unbound]

theorem bindDeclaration_iff_bindsTo : t.bindDeclaration d = .ok d' ↔ t.BindsTo d d' := by
  constructor
  · intro h
    rcases bindDeclaration_eq_ok h with ⟨n, n', rfl, rfl, hn⟩ | ⟨n, n', rfl, rfl, hn⟩ |
      ⟨n, n', rfl, rfl, hn⟩ | ⟨n, rfl, rfl⟩
    · unfold bindImport at hn
      split at hn <;> cases hn
      exact .importing ‹_›
    · obtain ⟨base, hbase, rfl⟩ := map_eq_ok hn
      obtain ⟨r, hr, rfl⟩ := bindReference_iff_means.mp hbase
      exact .type hr
    · obtain ⟨reference, hreference, rfl⟩ := map_eq_ok hn
      obtain ⟨r, hr, rfl⟩ := bindReference_iff_means.mp hreference
      exact .attribute hr
    · exact .comment
  · rintro (hne | hr | hr | _)
    · simp only [bindDeclaration, bindImport, if_neg hne]
      rfl
    · simp only [bindDeclaration, bindType, bindReference_iff_means.mpr ⟨_, hr, rfl⟩]
      rfl
    · simp only [bindDeclaration, bindAttribute, bindReference_iff_means.mpr ⟨_, hr, rfl⟩]
      rfl
    · rfl

theorem bindDeclaration_iff_fails : t.bindDeclaration d = .error e ↔ t.Fails d e := by
  constructor
  · intro h
    rcases d with n | n | n | n
    · have h : t.bindImport n = .error e := map_eq_error.mp h
      unfold bindImport at h
      split at h <;> cases h
      rename_i heq
      exact heq ▸ .importing heq
    · exact .type (bindReference_iff_unbound.mp (map_eq_error.mp (map_eq_error.mp h)))
    · exact .attribute (bindReference_iff_unbound.mp (map_eq_error.mp (map_eq_error.mp h)))
    · cases h
  · rintro (heq | h | h)
    · simp only [bindDeclaration, bindImport, heq, if_true]
      rfl
    · exact map_eq_error.mpr (map_eq_error.mpr (bindReference_iff_unbound.mpr h))
    · exact map_eq_error.mpr (map_eq_error.mpr (bindReference_iff_unbound.mpr h))

/-- The errors of declarations are reported in their order. -/
theorem bindErrors_picks (t : Tree .parsed) : Picks t.Fails t.declarations.items t.bindErrors := by
  refine picks_filterMap (fun d e => ?_) _
  rw [← bindDeclaration_iff_fails]
  cases t.bindDeclaration d <;> simp

/-! ## Bindable trees -/

theorem bindErrors_eq_nil : t.bindErrors = [] ↔ ∀ d ∈ t.declarations.items, ∀ e, ¬ t.Fails d e := by
  rw [bindErrors, List.filterMap_eq_nil_iff]
  refine forall₂_congr fun d _ => ?_
  simp only [← bindDeclaration_iff_fails]
  cases t.bindDeclaration d <;> simp

theorem bindable_iff : t.Bindable ↔ t.bindErrors ++ t.cycles = [] := by
  rw [List.append_eq_nil_iff, cycles_eq_nil, bindErrors_eq_nil]
  constructor
  · rintro ⟨himports, htypes, hattributes, hacyclic⟩
    refine ⟨?_, hacyclic⟩
    rintro d hd e (h | h | h)
    · exact himports _ (List.mem_filterMap.mpr ⟨_, hd, rfl⟩) h
    · exact inScope_iff.mp (htypes _ (List.mem_filterMap.mpr ⟨_, hd, rfl⟩)) e h
    · exact inScope_iff.mp (hattributes _ (List.mem_filterMap.mpr ⟨_, hd, rfl⟩)) e h
  · rintro ⟨hfails, hacyclic⟩
    refine ⟨fun n hn heq => ?_, fun n hn => ?_, fun n hn => ?_, hacyclic⟩
    · obtain ⟨d, hd, hsome⟩ := List.mem_filterMap.mp hn
      -- `n` comes from a declaration of its own kind, so the three other kinds drop out.
      cases d <;> cases hsome
      exact hfails _ hd _ (.importing heq)
    · obtain ⟨d, hd, hsome⟩ := List.mem_filterMap.mp hn
      cases d <;> cases hsome
      exact inScope_iff.mpr fun e he => hfails _ hd e (.type he)
    · obtain ⟨d, hd, hsome⟩ := List.mem_filterMap.mp hn
      cases d <;> cases hsome
      exact inScope_iff.mpr fun e he => hfails _ hd e (.attribute he)

/-! ## The bound tree -/

/-- Binding leaves the names of declarations as they are. -/
theorem distinct_of_bindsTo {items : List (Declaration .parsed)} {items' : List (Declaration .bound)}
    (h : List.Forall₂ t.BindsTo items items') (hd : Declarations.Distinct items) :
    Declarations.Distinct items' := by
  have hnames : (items'.filterMap Declaration.import?).map ImportNode.target =
        (items.filterMap Declaration.import?).map ImportNode.target ∧
      (items'.filterMap Declaration.type?).map TypeNode.name =
        (items.filterMap Declaration.type?).map TypeNode.name ∧
      (items'.filterMap Declaration.attribute?).map AttributeNode.name =
        (items.filterMap Declaration.attribute?).map AttributeNode.name := by
    clear hd
    induction h with
    | nil => exact ⟨rfl, rfl, rfl⟩
    | cons hd _ ih =>
      obtain ⟨himports, htypes, hattributes⟩ := ih
      rcases hd with _ | _ | _ | _ <;> simp [List.filterMap_cons, Declaration.import?,
        Declaration.type?, Declaration.attribute?, himports, htypes, hattributes]
  obtain ⟨himports, htypes, hattributes⟩ := hnames
  exact ⟨himports ▸ hd.imports, htypes ▸ hd.types, hattributes ▸ hd.attributes⟩

/-- Bound declarations always make a tree. -/
theorem exists_bind (h : t.bindErrors ++ t.cycles = []) : ∃ b, t.bind.value = some b := by
  have hbound : List.Forall₂ t.BindsTo t.declarations.items t.boundDeclarations :=
    (forall₂_boundDeclarations (List.append_eq_nil_iff.mp h).1).imp fun _ _ =>
      bindDeclaration_iff_bindsTo.mp
  obtain ⟨ds, hds⟩ :=
    Declarations.ofChildren?_of_distinct (distinct_of_bindsTo hbound t.declarations.distinct)
  refine ⟨⟨t.position, t.identifier, t.name, t.version, ds⟩, ?_⟩
  simp only [bind, h, Tree.ofChildren?, hds]
  rfl

theorem boundAs {b : Tree .bound} (h : t.bind.value = some b) : t.BoundAs b := by
  have hb := bind_eq_some h
  refine ⟨?_, hb.data_eq, hb.name_eq, hb.version_eq, ?_, hb.counts_eq⟩
  · unfold bind at h
    split at h
    · split at h
      · rename_i hbound
        cases h
        exact (ofChildren?_eq_ok hbound).1
      · cases h
    · cases h
  · exact hb.declarations.imp fun _ _ => bindDeclaration_iff_bindsTo.mp

/-- If nothing is wrong with the names of a tree, nothing is reported of it, a defect neither. -/
theorem issues_bind : t.bind.issues = (t.bindErrors ++ t.cycles).map .bind := by
  cases h : t.bindErrors ++ t.cycles with
  | nil =>
    obtain ⟨b, hb⟩ := exists_bind h
    rw [issues_of_bind_eq_some hb]
    rfl
  | cons e es =>
    unfold bind
    rw [h]

theorem isSome_bind : t.bind.value.isSome = true ↔ t.bindErrors ++ t.cycles = [] := by
  constructor
  · intro h
    obtain ⟨b, hb⟩ := Option.isSome_iff_exists.mp h
    have hissues := issues_of_bind_eq_some hb
    rwa [issues_bind, List.map_eq_nil_iff] at hissues
  · intro h
    exact Option.isSome_iff_exists.mpr (exists_bind h)

/-- **Binding is exact.** It succeeds just if the names of the tree all stand for something and no type is
defined in terms of itself; it gives the tree with its declarations in their bound forms, in order; and it
reports the errors of the declarations, in order, and then the cycles. -/
theorem bind_exact (t : Tree .parsed) :
    (t.bind.value.isSome = true ↔ t.Bindable) ∧
    (∀ b, t.bind.value = some b → t.BoundAs b) ∧
    ∃ failures cycles, t.bind.issues = (failures ++ cycles).map .bind ∧
      Picks t.Fails t.declarations.items failures ∧ Picks t.Cyclic t.types cycles :=
  ⟨isSome_bind.trans bindable_iff.symm, fun _ => boundAs,
    t.bindErrors, t.cycles, issues_bind, bindErrors_picks t, cycles_picks t⟩

end MetaSchema.Tree
