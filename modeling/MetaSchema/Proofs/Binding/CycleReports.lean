import Mathlib.Data.List.Nodup
import Mathlib.Data.Set.Basic
import MetaSchema.Proofs.Binding.Exact

/-!
# Every cycle of bases is reported once

* `Tree.Walks`, `Tree.Searches`: the walk along the bases and the search through the types, with a
  rule for each way in which they go on or end and no bound on their length.
* `walks_iff`, `searches_iff`: both end, with what `cycleFrom?` and `cyclesFrom` give.
* `Tree.IsCycle`: a cycle, as the set of the types on it.
* `Tree.Reports`: the diagnostic of a cycle, made at the type on it that is declared first.
* `cycles_reported_once`: the diagnostics are those of the cycles, one for each.
-/

namespace MetaSchema.Tree

open Relation (ReflTransGen TransGen)

variable (t : Tree .parsed)

/-! ## The search ends -/

/-- A walk along the bases, from the last type of a chain, which is in reverse: it ends at a type
without a base in the schema or at one that it has passed, and finds a cycle at the type that it
started from. -/
inductive Walks (first : TypeName) : List TypeName → TypeName → Option (List TypeName) → Prop
  | ended {chain : List TypeName} {current : TypeName} (hbase : t.ownBase? current = none) :
      Walks first chain current none
  | back {chain : List TypeName} {current : TypeName} (hbase : t.ownBase? current = some first) :
      Walks first chain current (some (first :: chain).reverse)
  | passed {chain : List TypeName} {current next : TypeName}
      (hbase : t.ownBase? current = some next) (hne : next ≠ first) (hmem : next ∈ chain) :
      Walks first chain current none
  | on {chain : List TypeName} {current next : TypeName} {r : Option (List TypeName)}
      (hbase : t.ownBase? current = some next) (hne : next ≠ first) (hmem : next ∉ chain)
      (rest : Walks first (next :: chain) next r) : Walks first chain current r

/-- The search for cycles through some types, and what it reports: a walk from each of them that
is not on a cycle found before. -/
inductive Searches : List TypeName → List (TypeNode .parsed) → List BindError → Prop
  | done {found : List TypeName} : Searches found [] []
  | found {found : List TypeName} {n : TypeNode .parsed} {ns : List (TypeNode .parsed)}
      {es : List BindError} (hmem : n.name ∈ found) (rest : Searches found ns es) :
      Searches found (n :: ns) es
  | none {found : List TypeName} {n : TypeNode .parsed} {ns : List (TypeNode .parsed)}
      {es : List BindError} (hmem : n.name ∉ found) (walk : t.Walks n.name [n.name] n.name none)
      (rest : Searches found ns es) : Searches found (n :: ns) es
  | cycle {found cycle : List TypeName} {n : TypeNode .parsed} {ns : List (TypeNode .parsed)}
      {es : List BindError} (hmem : n.name ∉ found)
      (walk : t.Walks n.name [n.name] n.name (some cycle)) (rest : Searches (found ++ cycle) ns es) :
      Searches found (n :: ns) (.typeCyclic ⟨t.name, n.name⟩ cycle n.position :: es)

variable {t} {first current : TypeName} {chain : List TypeName} {r : Option (List TypeName)}

/-- One step of a walk. -/
theorem walks_step : t.Walks first chain current r ↔
    match t.ownBase? current with
    | none => r = none
    | some next =>
      if next = first then r = some (next :: chain).reverse
      else if next ∈ chain then r = none
      else t.Walks first (next :: chain) next r := by
  constructor
  · intro h
    cases h with
    | ended hbase => simp only [hbase]
    | back hbase => simp only [hbase, if_true]
    | passed hbase hne hmem => simp only [hbase, if_neg hne, if_pos hmem]
    | on hbase hne hmem rest =>
      simp only [hbase, if_neg hne, if_neg hmem]
      exact rest
  · intro h
    split at h
    · rename_i hbase
      exact h ▸ .ended hbase
    · rename_i next hbase
      split at h
      · rename_i heq
        subst heq
        exact h ▸ .back hbase
      · rename_i hne
        split at h
        · rename_i hmem
          exact h ▸ .passed hbase hne hmem
        · rename_i hmem
          exact .on hbase hne hmem h

/-- **A walk ends,** before it has more types than are declared. -/
theorem walks_iff_followBases {fuel : Nat} (hc : t.Chain first chain current)
    (hf : t.types.length < fuel + chain.length) :
    t.Walks first chain current r ↔ r = t.followBases first fuel chain current := by
  induction fuel generalizing chain current with
  | zero =>
    -- Another base would be one more declared type than there are.
    have hbase : t.ownBase? current = none := by
      rw [Option.eq_none_iff_forall_ne_some]
      intro next hbase
      have hbase : t.OwnBase current next := hbase
      have hle := hc.length_le hbase
      omega
    rw [walks_step, hbase]
    exact Iff.rfl
  | succ fuel ih =>
    rw [walks_step, followBases_succ]
    cases hbase : t.ownBase? current with
    | none => exact Iff.rfl
    | some next =>
      dsimp only
      split
      · exact Iff.rfl
      · rename_i hne
        split
        · exact Iff.rfl
        · rename_i hmem
          refine ih (hc.cons hbase hne hmem) ?_
          rw [List.length_cons]
          omega

theorem walks_iff : t.Walks first [first] first r ↔ r = t.cycleFrom? first :=
  walks_iff_followBases (.singleton first) (by rw [List.length_singleton]; omega)

/-- **The search ends,** and what it reports is determined. -/
theorem searches_iff {found : List TypeName} {ns : List (TypeNode .parsed)} {es : List BindError} :
    t.Searches found ns es ↔ es = t.cyclesFrom found ns := by
  constructor
  · intro h
    -- A walk from one type has fuel enough, so `followBases` finds what the walk does.
    induction h with
    | done => rfl
    | found hmem _ ih => rw [cyclesFrom_cons, if_pos hmem, ih]
    | none hmem walk _ ih => rw [cyclesFrom_cons, if_neg hmem, ← walks_iff.mp walk, ih]
    | cycle hmem walk _ ih => rw [cyclesFrom_cons, if_neg hmem, ← walks_iff.mp walk, ih]
  · rintro rfl
    induction ns generalizing found with
    | nil => exact .done
    | cons n ns ih =>
      rw [cyclesFrom_cons]
      split
      · rename_i hmem
        exact .found hmem ih
      · rename_i hmem
        split
        · rename_i hwalk
          exact .none hmem (walks_iff.mpr hwalk.symm) ih
        · rename_i hwalk
          exact .cycle hmem (walks_iff.mpr hwalk.symm) ih

/-! ## Cycles and their reports -/

variable (t) in
/-- The types of a cycle: some types, of which each leads to just them. -/
structure IsCycle (c : Set TypeName) : Prop where
  nonempty : c.Nonempty
  leads : ∀ m ∈ c, ∀ n, TransGen t.BasedOn m n ↔ n ∈ c

variable (t) in
/-- The report of a cycle: at the type on it that is declared first, with the way from it along
all the types of the cycle and back to it. -/
inductive Reports (c : Set TypeName) : Diagnostic → Prop
  | intro {before after : List (TypeNode .parsed)} {node : TypeNode .parsed} {path : List TypeName}
      {name : QualifiedTypeName} (hname : name = ⟨t.name, node.name⟩)
      (htypes : t.types = before ++ node :: after) (hfirst : ∀ n ∈ before, n.name ∉ c)
      (hr : t.Round node.name path) (hmem : ∀ m, m ∈ node.name :: path ↔ m ∈ c) :
      Reports c
        { code := .bindTypeCyclic
          severity := .error
          message := s!"type {name} is defined in terms of itself " ++
            "(" ++ " -> ".intercalate ((node.name :: path ++ [node.name]).map toString) ++ ")"
          position := node.position
          details := [] }

/-- The types that the report of a cycle lists. -/
def members : BindError → Set TypeName
  | .typeCyclic _ cycle _ => {m | m ∈ cycle}
  | _ => ∅

namespace Cyclic

variable {node : TypeNode .parsed} {e : BindError} {m : TypeName}

theorem members_iff (h : t.Cyclic node e) : m ∈ members e ↔ TransGen t.BasedOn node.name m := by
  obtain ⟨hr, -⟩ := h
  exact hr.mem_snoc_iff

theorem transGen (h : t.Cyclic node e) : TransGen t.BasedOn node.name node.name := by
  obtain ⟨hr, -⟩ := h
  exact hr.transGen

theorem isCycle (h : t.Cyclic node e) : t.IsCycle (members e) where
  nonempty := ⟨node.name, h.members_iff.mpr h.transGen⟩
  leads := by
    intro m hm n
    have hto := h.members_iff.mp hm
    rw [h.members_iff]
    exact ⟨hto.trans, (transGen_back h.transGen hto).trans⟩

/-- A cycle is reported at the first type that is declared on it. -/
theorem exists_first (h : t.Cyclic node e) : ∃ before after, t.types = before ++ node :: after ∧
    node.name ∈ members e ∧ ∀ n ∈ before, n.name ∉ members e := by
  have hnode := h.members_iff.mpr h.transGen
  obtain ⟨hr, hfirst⟩ := h
  obtain ⟨-, before, after, htypes, hbefore⟩ := List.find?_eq_some_iff_append.mp hfirst
  refine ⟨before, after, htypes, hnode, fun n hn hmem => ?_⟩
  have hpath := hr.mem_iff.mpr (hr.mem_snoc_iff.mp hmem)
  simpa [hpath] using hbefore n hn

theorem reports (h : t.Cyclic node e) : t.Reports (members e) e.diagnostic := by
  obtain ⟨before, after, htypes, -, hbefore⟩ := h.exists_first
  have hmem := fun m => h.members_iff (m := m)
  obtain ⟨hr, -⟩ := h
  exact .intro rfl htypes hbefore hr fun m => hr.mem_iff.trans (hmem m).symm

end Cyclic

/-- Before the first member of some kind stand only others. -/
theorem first_unique {c : Set TypeName} {before before' after after' : List (TypeNode .parsed)}
    {node node' : TypeNode .parsed} (h : before ++ node :: after = before' ++ node' :: after')
    (hnode : node.name ∈ c) (hnode' : node'.name ∈ c) (hbefore : ∀ n ∈ before, n.name ∉ c)
    (hbefore' : ∀ n ∈ before', n.name ∉ c) : node = node' := by
  rcases List.append_eq_append_iff.mp h with ⟨l, rfl, hl⟩ | ⟨l, rfl, hl⟩
  · cases l with
    | nil => exact (List.cons.inj hl).1
    | cons n l =>
      obtain ⟨rfl, -⟩ := List.cons.inj hl
      exact (hbefore' node (by simp) hnode).elim
  · cases l with
    | nil => exact (List.cons.inj hl).1.symm
    | cons n l =>
      obtain ⟨rfl, -⟩ := List.cons.inj hl
      exact (hbefore node' (by simp) hnode').elim

/-- Two reports of one cycle are made at one type. -/
theorem Cyclic.node_unique {node node' : TypeNode .parsed} {e e' : BindError} (h : t.Cyclic node e)
    (h' : t.Cyclic node' e') (hmem : members e = members e') : node = node' := by
  obtain ⟨before, after, htypes, hnode, hbefore⟩ := h.exists_first
  obtain ⟨before', after', htypes', hnode', hbefore'⟩ := h'.exists_first
  rw [← hmem] at hnode' hbefore'
  exact first_unique (htypes.symm.trans htypes') hnode hnode' hbefore hbefore'

/-- A type on a cycle has a way round the cycle. -/
theorem exists_round {m : TypeName} (h : TransGen t.BasedOn m m) : ∃ path, t.Round m path := by
  cases hcycle : t.cycleFrom? m with
  | none => exact absurd (ownBase_eq_basedOn ▸ h) (cycleFrom?_eq_none hcycle)
  | some cycle =>
    obtain ⟨path, hr, -⟩ := cycleFrom?_eq_some hcycle
    exact ⟨path, hr⟩

/-- **Every cycle is reported.** -/
theorem IsCycle.exists_report {c : Set TypeName} (hc : t.IsCycle c) :
    ∃ e ∈ t.cycles, members e = c := by
  classical
  obtain ⟨m, hm⟩ := hc.nonempty
  have hround : TransGen t.BasedOn m m := (hc.leads m hm m).mpr hm
  obtain ⟨n, hbase, -⟩ := TransGen.head'_iff.mp hround
  obtain ⟨declared, hdeclared, rfl, -⟩ := hbase
  obtain ⟨node, hnode⟩ : ∃ node, t.types.find? (·.name ∈ c) = some node :=
    Option.isSome_iff_exists.mp (List.find?_isSome.mpr ⟨declared, hdeclared, decide_eq_true hm⟩)
  have hfirst : node.name ∈ c := by simpa using List.find?_some hnode
  obtain ⟨path, hr⟩ := exists_round ((hc.leads _ hfirst _).mpr hfirst)
  have hpath : ∀ m, m ∈ node.name :: path ↔ m ∈ c := fun m =>
    hr.mem_iff.trans (hc.leads _ hfirst m)
  have hcyclic : t.Cyclic node _ := .intro hr (by simpa only [hpath] using hnode)
  obtain ⟨e, he, hreport⟩ := (cycles_picks t).exists_mem (List.mem_of_find?_eq_some hnode)
    ⟨_, hcyclic⟩
  refine ⟨e, he, Set.ext fun m => ?_⟩
  rw [hreport.members_iff]
  exact hc.leads _ hfirst m

/-- A type whose base is not declared is not on a cycle. -/
theorem not_transGen_of_undeclared {m n : TypeName} (hbase : t.BasedOn m n)
    (hn : n ∉ t.types.map TypeNode.name) : ¬ TransGen t.BasedOn m m := by
  intro h
  obtain ⟨n', hbase', hrest⟩ := TransGen.head'_iff.mp h
  obtain rfl := hbase.eq hbase'
  obtain ⟨k, node, hnode, hname, -⟩ : ∃ k, t.BasedOn n k := by
    rcases Relation.reflTransGen_iff_eq_or_transGen.mp hrest with heq | hrest
    · exact ⟨n, heq ▸ hbase⟩
    · obtain ⟨k, hk, -⟩ := TransGen.head'_iff.mp hrest
      exact ⟨k, hk⟩
  exact hn (hname ▸ List.mem_map_of_mem hnode)

/-- The sets of the types on the cycles that are reported differ. -/
theorem nodup_members (t : Tree .parsed) : (t.cycles.map members).Nodup := by
  have hnodup : t.types.Pairwise (· ≠ ·) := List.Nodup.of_map _ t.declarations.types_nodup
  refine List.pairwise_map.mpr ((cycles_picks t).pairwise ?_ hnodup)
  intro node node' e e' hne h h' hmem
  exact hne (h.node_unique h' hmem)

theorem mem_members_iff {c : Set TypeName} : c ∈ t.cycles.map members ↔ t.IsCycle c := by
  constructor
  · intro hc
    obtain ⟨e, he, rfl⟩ := List.mem_map.mp hc
    obtain ⟨node, -, h⟩ := (cycles_picks t).exists_mem_left he
    exact h.isCycle
  · intro hc
    obtain ⟨e, he, rfl⟩ := hc.exists_report
    exact List.mem_map_of_mem he

theorem forall₂_reports (t : Tree .parsed) :
    List.Forall₂ t.Reports (t.cycles.map members) (t.cycles.map BindError.diagnostic) := by
  rw [List.forall₂_map_left_iff, List.forall₂_map_right_iff, List.forall₂_same]
  intro e he
  obtain ⟨node, -, h⟩ := (cycles_picks t).exists_mem_left he
  exact h.reports

/-- A type is listed in a report if it is on a cycle. -/
theorem exists_listed_iff {m : TypeName} :
    (∃ e ∈ t.cycles, m ∈ members e) ↔ TransGen t.BasedOn m m := by
  constructor
  · rintro ⟨e, he, hm⟩
    obtain ⟨node, -, h⟩ := (cycles_picks t).exists_mem_left he
    have hto := h.members_iff.mp hm
    exact (transGen_back h.transGen hto).trans hto
  · intro hm
    have hc : t.IsCycle {n | TransGen t.BasedOn m n} :=
      ⟨⟨m, hm⟩, fun k hk n => ⟨hk.trans, (transGen_back hm hk).trans⟩⟩
    obtain ⟨e, he, hmem⟩ := hc.exists_report
    exact ⟨e, he, hmem ▸ hm⟩

theorem Unbound.code_ne {position : Position} {w : WrittenReference} {e : BindError}
    (h : t.Unbound position w e) : e.code ≠ .bindTypeCyclic := by
  cases h <;> exact nofun

theorem Fails.code_ne {d : Declaration .parsed} {e : BindError} (h : t.Fails d e) :
    e.code ≠ .bindTypeCyclic := by
  rcases h with - | h | h
  · exact nofun
  · exact h.code_ne
  · exact h.code_ne

/-- Of what binding reports, just the reports of cycles have their code. -/
theorem filter_issues_bind (t : Tree .parsed) :
    (t.bind.issues.map Issue.diagnostic).filter (·.code = .bindTypeCyclic) =
      t.cycles.map BindError.diagnostic := by
  have hfailures : (t.bindErrors.map BindError.diagnostic).filter (·.code = .bindTypeCyclic) = [] := by
    refine List.filter_eq_nil_iff.mpr fun d hd => ?_
    obtain ⟨e, he, rfl⟩ := List.mem_map.mp hd
    obtain ⟨_, -, h⟩ := (bindErrors_picks t).exists_mem_left he
    rw [decide_eq_true_iff]
    exact h.code_ne
  have hcycles : (t.cycles.map BindError.diagnostic).filter (·.code = .bindTypeCyclic) =
      t.cycles.map BindError.diagnostic := by
    refine List.filter_eq_self.mpr fun d hd => decide_eq_true ?_
    obtain ⟨e, he, rfl⟩ := List.mem_map.mp hd
    obtain ⟨_, -, h⟩ := (cycles_picks t).exists_mem_left he
    cases h
    rfl
  rw [issues_bind, List.map_map, List.map_append, List.filter_append]
  exact (congrArg₂ (· ++ ·) hfailures hcycles).trans (List.nil_append _)

/-- **Every cycle of bases is reported once.** The search for cycles ends on every tree. The
diagnostics that it makes, and no others that binding makes of this kind, are one for each cycle,
at the type on it that is declared first and with the way round the cycle from there. Just the
types on a cycle are listed: not those that lead into one, nor one whose base is not declared. -/
theorem cycles_reported_once (t : Tree .parsed) :
    (∀ es, t.Searches [] t.types es ↔ es = t.cycles) ∧
    (t.bind.issues.map Issue.diagnostic).filter (·.code = .bindTypeCyclic) =
      t.cycles.map BindError.diagnostic ∧
    (∃ cs : List (Set TypeName), cs.Nodup ∧ (∀ c, c ∈ cs ↔ t.IsCycle c) ∧
      List.Forall₂ t.Reports cs (t.cycles.map BindError.diagnostic)) ∧
    (∀ m, (∃ e ∈ t.cycles, m ∈ members e) ↔ TransGen t.BasedOn m m) ∧
    ¬ ∃ m n e, t.BasedOn m n ∧ n ∉ t.types.map TypeNode.name ∧ e ∈ t.cycles ∧ m ∈ members e := by
  refine ⟨fun es => searches_iff, filter_issues_bind t, ⟨t.cycles.map members, nodup_members t,
    fun c => mem_members_iff, forall₂_reports t⟩, fun m => exists_listed_iff, ?_⟩
  rintro ⟨m, n, e, hbase, hn, he, hm⟩
  exact not_transGen_of_undeclared hbase hn (exists_listed_iff.mp ⟨e, he, hm⟩)

end MetaSchema.Tree
