import MetaSchema.Binding
import MetaSchema.Proofs.Syntax.Declarations
import Mathlib.Logic.Relation

/-!
# Cycles of bases are found

* `Tree.Chain`: the invariant of a walk along the bases: the types on the way are different, each is
  the base of the one before, and none but the first is the type that the walk started from.
* `followBases_eq_none`: a walk that finds no cycle started from a type that is not on one. The
  number of types is fuel enough.
* `not_transGen_ownBase`: a tree without reported cycles has no cycle of bases.
-/

namespace MetaSchema.Tree

open Relation (ReflTransGen TransGen)

variable (t : Tree .parsed)

/-- A type and its base in the same schema. -/
def OwnBase (m n : TypeName) : Prop := t.ownBase? m = some n

variable {t}

theorem OwnBase.mem_types {m n : TypeName} (h : t.OwnBase m n) :
    m ∈ t.types.map TypeNode.name := by
  rw [← typeNamed?_isSome]
  obtain ⟨node, hnode, -⟩ := Option.bind_eq_some_iff.mp h
  rw [hnode]
  rfl

/-- The types on the way from `first` to `current`, the last first. -/
structure Chain (t : Tree .parsed) (first : TypeName) (chain : List TypeName)
    (current : TypeName) : Prop where
  nodup : chain.Nodup
  current_mem : current ∈ chain
  step : ∀ m ∈ chain, m ≠ current → ∃ n ∈ chain, n ≠ first ∧ t.OwnBase m n

theorem Chain.singleton (first : TypeName) : t.Chain first [first] first where
  nodup := by simp
  current_mem := by simp
  step := fun m hm hne => (hne (List.mem_singleton.mp hm)).elim

theorem Chain.cons {first current next : TypeName} {chain : List TypeName}
    (hc : t.Chain first chain current) (hb : t.OwnBase current next) (hne : next ≠ first)
    (hnext : next ∉ chain) : t.Chain first (next :: chain) next where
  nodup := List.nodup_cons.mpr ⟨hnext, hc.nodup⟩
  current_mem := List.mem_cons_self
  step := by
    intro m hm hmn
    have hm := (List.mem_cons.mp hm).resolve_left hmn
    by_cases h : m = current
    · exact ⟨next, List.mem_cons_self, hne, h ▸ hb⟩
    · obtain ⟨n, hn, hnf, hmb⟩ := hc.step m hm h
      exact ⟨n, .tail _ hn, hnf, hmb⟩

/-- A chain has at most one type more than are declared: all but the last have a base. -/
theorem Chain.length_le {first current next : TypeName} {chain : List TypeName}
    (hc : t.Chain first chain current) (hb : t.OwnBase current next) :
    chain.length ≤ t.types.length := by
  rw [← List.length_map (f := TypeNode.name)]
  refine hc.nodup.length_le_of_subset fun m hm => ?_
  by_cases h : m = current
  · exact h ▸ hb.mem_types
  · obtain ⟨n, -, -, hmb⟩ := hc.step m hm h
    exact hmb.mem_types

/-- If the chain comes back to one of its types other than the first, it goes round there for ever
and never leads to the first. -/
theorem Chain.not_reaches {first current next : TypeName} {chain : List TypeName}
    (hc : t.Chain first chain current) (hb : t.OwnBase current next) (hne : next ≠ first)
    (hnext : next ∈ chain) : ¬ TransGen t.OwnBase current first := by
  have hclosed : ∀ m n, m ∈ chain → t.OwnBase m n → n ∈ chain ∧ n ≠ first := by
    intro m n hm hmn
    by_cases h : m = current
    · subst h
      obtain rfl : next = n := Option.some.inj (hb.symm.trans hmn)
      exact ⟨hnext, hne⟩
    · obtain ⟨n', hn', hf, hmb⟩ := hc.step m hm h
      obtain rfl : n' = n := Option.some.inj (hmb.symm.trans hmn)
      exact ⟨hn', hf⟩
  have hlast : ∀ m, TransGen t.OwnBase current m → m ∈ chain ∧ m ≠ first := by
    intro m hm
    induction hm with
    | single h => exact hclosed _ _ hc.current_mem h
    | tail _ h ih => exact hclosed _ _ ih.1 h
  exact fun h => (hlast first h).2 rfl

/-- A walk that finds no way back to where it started shows that there is none. -/
theorem followBases_eq_none {first : TypeName} {fuel : Nat} {chain : List TypeName}
    {current : TypeName} (hc : t.Chain first chain current)
    (hf : t.types.length < fuel + chain.length)
    (h : t.followBases first fuel chain current = none) : ¬ TransGen t.OwnBase current first := by
  induction fuel generalizing chain current with
  | zero =>
    intro hr
    obtain ⟨next, hb, -⟩ := TransGen.head'_iff.mp hr
    have := hc.length_le hb
    omega
  | succ fuel ih =>
    intro hr
    obtain ⟨next, hb, hrest⟩ := TransGen.head'_iff.mp hr
    have hbase : t.ownBase? current = some next := hb
    simp only [followBases_succ, hbase] at h
    split at h
    · cases h
    · rename_i hne
      split at h
      · rename_i hmem
        -- The chain goes round without coming back to `first`, and has no other way to go.
        exact hc.not_reaches hb hne hmem hr
      · rename_i hmem
        refine ih (hc.cons hb hne hmem) (by simpa [Nat.add_assoc, Nat.add_comm 1] using hf) h ?_
        rcases Relation.reflTransGen_iff_eq_or_transGen.mp hrest with heq | hrest
        · exact (hne heq.symm).elim
        · exact hrest

theorem cycleFrom?_eq_none {first : TypeName} (h : t.cycleFrom? first = none) :
    ¬ TransGen t.OwnBase first first :=
  followBases_eq_none (.singleton first) (by simp) h

theorem cyclesFrom_eq_nil {ns : List (TypeNode .parsed)} (h : t.cyclesFrom [] ns = []) :
    ∀ n ∈ ns, t.cycleFrom? n.name = none := by
  induction ns with
  | nil => simp
  | cons n ns ih =>
    cases hn : t.cycleFrom? n.name with
    | none =>
      rw [cyclesFrom_cons, if_neg List.not_mem_nil, hn] at h
      rintro m (_ | ⟨_, hm⟩)
      · exact hn
      · exact ih h m hm
    | some cycle => simp [cyclesFrom_cons, hn] at h

/-- **No cycle goes unreported.** -/
theorem not_transGen_ownBase (h : t.cycles = []) (n : TypeName) : ¬ TransGen t.OwnBase n n := by
  intro hn
  obtain ⟨m, hb, -⟩ := TransGen.head'_iff.mp hn
  obtain ⟨node, hnode, rfl⟩ := List.mem_map.mp hb.mem_types
  exact cycleFrom?_eq_none (cyclesFrom_eq_nil h node hnode) hn

end MetaSchema.Tree
