import MetaSchema.Proofs.Binding.Bound
import Mathlib.Data.List.Chain

/-!
# Which cycles of bases are reported

* `Tree.Local`, `Tree.BasedOn`: a qualifier that means the schema itself, and the base of a type in it.
* `Tree.Round`: the different types on a way along the bases from a type back to itself.
* `Round.mem_iff`: they are all the types that the bases lead to.
* `Tree.Cyclic`: the report of such a way, made at the type on it that is declared first.
* `cycles_picks`: these are the reports that are made.
-/

namespace MetaSchema.Tree

open Relation (ReflTransGen TransGen)

variable (t : Tree .parsed)

/-- A reference without a qualifier, or with the schema's own name, is to the schema itself. -/
def Local (qualifier : Option SchemaName) : Prop := qualifier = none ∨ qualifier = some t.name

/-- The type `m` is declared with the type `n` of the same schema as its base. `n` may not be declared. -/
def BasedOn (m n : TypeName) : Prop :=
  ∃ node ∈ t.types, node.name = m ∧ ∃ q, t.Local q ∧ node.base.written = .named q n

/-- From `first` along the types of `path`, which are all different, and back. -/
structure Round (first : TypeName) (path : List TypeName) : Prop where
  nodup : (first :: path).Nodup
  chain : (first :: path ++ [first]).IsChain t.BasedOn

/-- The report of a cycle at the type on it that is declared first. -/
inductive Cyclic (node : TypeNode .parsed) : BindError → Prop
  | intro {path : List TypeName} (hr : t.Round node.name path)
      (hfirst : t.types.find? (·.name ∈ node.name :: path) = some node) :
      Cyclic node (.typeCyclic ⟨t.name, node.name⟩ (node.name :: path ++ [node.name]) node.position)

variable {t} {first m n : TypeName} {path : List TypeName}

/-! ## The base of a type -/

theorem ownType?_eq_some {w : WrittenReference} :
    t.ownType? w = some n ↔ ∃ q, t.Local q ∧ w = .named q n := by
  cases w with
  | primitive p => simp [ownType?]
  | named q name => simp [ownType?, foreignQualifier?_eq_none, Local, and_comm]

theorem ownBase_eq_basedOn : t.OwnBase = t.BasedOn := by
  funext m n
  refine propext ⟨fun h => ?_, fun ⟨node, hnode, hname, hw⟩ => ?_⟩
  · obtain ⟨node, hnode, hw⟩ := Option.bind_eq_some_iff.mp h
    obtain ⟨hmem, hname⟩ := typeNamed?_eq_some.mp hnode
    exact ⟨node, hmem, hname, ownType?_eq_some.mp hw⟩
  · rw [OwnBase, ownBase?, ← hname, typeNamed?_of_mem hnode]
    exact ownType?_eq_some.mpr hw

/-- A type has one base. -/
theorem BasedOn.eq {n' : TypeName} (h : t.BasedOn m n) (h' : t.BasedOn m n') : n = n' := by
  rw [← ownBase_eq_basedOn] at h h'
  exact Option.some.inj (h.symm.trans h')

/-- Every way from a type on a cycle leads back to it. -/
theorem transGen_back (hm : TransGen t.BasedOn m m) (h : TransGen t.BasedOn m n) :
    TransGen t.BasedOn n m := by
  have next : ∀ {k l}, TransGen t.BasedOn k m → t.BasedOn k l → TransGen t.BasedOn l m := by
    intro k l hk hl
    obtain ⟨l', hl', hrest⟩ := TransGen.head'_iff.mp hk
    obtain rfl := hl.eq hl'
    rcases Relation.reflTransGen_iff_eq_or_transGen.mp hrest with rfl | hrest
    · exact hm
    · exact hrest
  induction h with
  | single h => exact next hm h
  | tail _ h ih => exact next ih h

/-! ## Rounds -/

theorem Round.pairwise (hr : t.Round first path) :
    (first :: path ++ [first]).Pairwise (TransGen t.BasedOn) :=
  (hr.chain.imp fun _ _ h => TransGen.single h).pairwise

theorem Round.transGen (hr : t.Round first path) : TransGen t.BasedOn first first :=
  (List.pairwise_append.mp hr.pairwise).2.2 first List.mem_cons_self first (by simp)

/-- On a chain, every type but the last has its base behind it. -/
private theorem exists_base {l : List TypeName} (h : (l ++ [first]).IsChain t.BasedOn) (hm : m ∈ l) :
    ∃ n ∈ l ++ [first], t.BasedOn m n := by
  obtain ⟨l₁, l₂, rfl⟩ := List.mem_iff_append.mp hm
  rw [List.append_assoc, List.cons_append, List.isChain_split] at h
  obtain ⟨n, rest, hrest⟩ := List.exists_cons_of_ne_nil (l := l₂ ++ [first]) (by simp)
  rw [hrest, List.isChain_cons_cons] at h
  have hn : n ∈ l₂ ++ [first] := hrest ▸ List.mem_cons_self
  refine ⟨n, ?_, h.2.1⟩
  rcases List.mem_append.mp hn with hn | hn
  · simp [hn]
  · exact List.mem_append_right _ hn

/-- A round passes all the types that the bases lead to. -/
theorem Round.mem_iff (hr : t.Round first path) :
    m ∈ first :: path ↔ TransGen t.BasedOn first m := by
  constructor
  · intro hm
    rcases List.mem_cons.mp hm with rfl | hm
    · exact hr.transGen
    · exact (List.pairwise_cons.mp hr.pairwise).1 m (List.mem_append_left _ hm)
  · have hclosed : ∀ m n, m ∈ first :: path → t.BasedOn m n → n ∈ first :: path := by
      intro m n hm hmn
      obtain ⟨n', hn', hb⟩ := exists_base hr.chain hm
      obtain rfl := hmn.eq hb
      rcases List.mem_append.mp hn' with hn' | hn'
      · exact hn'
      · exact List.mem_singleton.mp hn' ▸ List.mem_cons_self
    intro h
    induction h with
    | single h => exact hclosed _ _ List.mem_cons_self h
    | tail _ h ih => exact hclosed _ _ ih h

theorem Round.mem_snoc_iff (hr : t.Round first path) :
    m ∈ first :: path ++ [first] ↔ TransGen t.BasedOn first m := by
  rw [← hr.mem_iff, List.mem_append, List.mem_singleton]
  exact or_iff_left_of_imp fun h => h ▸ List.mem_cons_self

/-- A walk along the bases that comes back has gone round. -/
theorem followBases_eq_some {fuel : Nat} {current : TypeName} {cycle : List TypeName}
    (hlast : (first :: path).getLast? = some current) (hnodup : (first :: path).Nodup)
    (hchain : (first :: path).IsChain t.BasedOn)
    (h : t.followBases first fuel (first :: path).reverse current = some cycle) :
    ∃ rest, t.Round first rest ∧ cycle = first :: rest ++ [first] := by
  induction fuel generalizing path current with
  | zero => cases h
  | succ fuel ih =>
    rw [followBases_succ] at h
    split at h
    · cases h
    · rename_i next hbase
      replace hbase : t.BasedOn current next := ownBase_eq_basedOn ▸ hbase
      have hnext : (first :: path ++ [next]).IsChain t.BasedOn := by
        refine hchain.append (List.isChain_singleton _) fun x hx y hy => ?_
        obtain rfl : current = x := Option.some.inj (hlast.symm.trans hx)
        obtain rfl : next = y := by simpa using hy
        exact hbase
      split at h
      · rename_i heq
        refine ⟨path, ⟨hnodup, heq ▸ hnext⟩, ?_⟩
        rw [← Option.some.inj h, heq, List.reverse_cons, List.reverse_reverse]
      · split at h
        · cases h
        · rename_i hmem
          rw [List.mem_reverse] at hmem
          have hreverse : next :: (first :: path).reverse = (first :: (path ++ [next])).reverse := by
            simp
          have hlast : (first :: (path ++ [next])).getLast? = some next := by
            rw [← List.cons_append, List.getLast?_concat]
          exact ih hlast (Declarations.nodup_snoc hnodup hmem) hnext (hreverse ▸ h)

theorem cycleFrom?_eq_some {cycle : List TypeName} (h : t.cycleFrom? first = some cycle) :
    ∃ path, t.Round first path ∧ cycle = first :: path ++ [first] := by
  have hnodup : [first].Nodup := by simp
  exact followBases_eq_some rfl hnodup (List.isChain_singleton _) h

/-! ## Reports -/

/-- Before the types `rest` of a schema, just those types are `found` that are on a cycle with one of the
types `done`. -/
structure Passed (t : Tree .parsed) (done rest : List (TypeNode .parsed)) (found : List TypeName) :
    Prop where
  types_eq : t.types = done ++ rest
  mem_iff : ∀ m, m ∈ found ↔
    ∃ p ∈ done, TransGen t.BasedOn p.name p.name ∧ TransGen t.BasedOn p.name m

namespace Passed

variable {done rest : List (TypeNode .parsed)} {found : List TypeName} {node : TypeNode .parsed}

/-- A type whose cycle was found is not the first of a cycle. -/
theorem not_cyclic (hp : t.Passed done (node :: rest) found) (hmem : node.name ∈ found)
    (e : BindError) : ¬ t.Cyclic node e := by
  rintro @⟨path, hr, hfirst⟩
  obtain ⟨p, hdone, hcycle, hto⟩ := (hp.mem_iff _).mp hmem
  have hround := hr.mem_iff.mpr (transGen_back hcycle hto)
  obtain ⟨x, hx⟩ : ∃ x, done.find? (·.name ∈ node.name :: path) = some x :=
    Option.isSome_iff_exists.mp (List.find?_isSome.mpr ⟨p, hdone, decide_eq_true hround⟩)
  rw [hp.types_eq, List.find?_append, hx] at hfirst
  obtain rfl : x = node := Option.some.inj hfirst
  have hnodup := t.declarations.types_nodup
  change (t.types.map TypeNode.name).Nodup at hnodup
  rw [hp.types_eq, List.map_append] at hnodup
  exact (List.nodup_append.mp hnodup).2.2 _
    (List.mem_map_of_mem (List.mem_of_find?_eq_some hx)) _ (by simp) rfl

/-- A round through a type whose cycle was not found starts with it. -/
theorem cyclic (hp : t.Passed done (node :: rest) found) (hmem : node.name ∉ found)
    (hr : t.Round node.name path) :
    t.Cyclic node (.typeCyclic ⟨t.name, node.name⟩ (node.name :: path ++ [node.name])
      node.position) := by
  refine .intro hr ?_
  have hnone : done.find? (·.name ∈ node.name :: path) = none := by
    rw [List.find?_eq_none]
    intro p hdone hround
    have hto := hr.mem_iff.mp (by simpa using hround)
    have hback := transGen_back hr.transGen hto
    exact hmem ((hp.mem_iff _).mpr ⟨p, hdone, hback.trans hto, hback⟩)
  rw [hp.types_eq, List.find?_append, hnone, Option.none_or, List.find?_cons_of_pos (by simp)]

/-- A type that is passed over adds nothing to what was found. -/
theorem skip (hp : t.Passed done (node :: rest) found)
    (h : ∀ m, TransGen t.BasedOn node.name node.name → TransGen t.BasedOn node.name m → m ∈ found) :
    t.Passed (done ++ [node]) rest found where
  types_eq := by rw [hp.types_eq, List.append_assoc, List.singleton_append]
  mem_iff := by
    intro m
    constructor
    · intro hm
      obtain ⟨p, hdone, hcycle⟩ := (hp.mem_iff m).mp hm
      exact ⟨p, List.mem_append_left _ hdone, hcycle⟩
    · rintro ⟨p, hdone, hcycle, hto⟩
      rcases List.mem_append.mp hdone with hdone | hdone
      · exact (hp.mem_iff m).mpr ⟨p, hdone, hcycle, hto⟩
      · obtain rfl := List.mem_singleton.mp hdone
        exact h m hcycle hto

theorem report (hp : t.Passed done (node :: rest) found) (hr : t.Round node.name path) :
    t.Passed (done ++ [node]) rest (found ++ (node.name :: path ++ [node.name])) where
  types_eq := by rw [hp.types_eq, List.append_assoc, List.singleton_append]
  mem_iff := by
    intro m
    simp only [List.mem_append, List.mem_singleton, or_and_right, exists_or, exists_eq_left,
      hr.transGen, true_and]
    rw [← List.mem_singleton, ← List.mem_append, hr.mem_snoc_iff, hp.mem_iff]

end Passed

theorem cyclesFrom_picks {done rest : List (TypeNode .parsed)} {found : List TypeName}
    (hp : t.Passed done rest found) : Picks t.Cyclic rest (t.cyclesFrom found rest) := by
  induction rest generalizing done found with
  | nil => exact .nil
  | cons node rest ih =>
    rw [cyclesFrom_cons]
    split
    · rename_i hmem
      refine .skip (hp.not_cyclic hmem) (ih (hp.skip fun m _ hto => ?_))
      -- A type is found if a reported circle leads to it, and so is all that it leads to.
      obtain ⟨p, hdone, hcycle, hp'⟩ := (hp.mem_iff _).mp hmem
      exact (hp.mem_iff m).mpr ⟨p, hdone, hcycle, hp'.trans hto⟩
    · rename_i hmem
      split
      · rename_i hnone
        -- The bases do not lead back, so `node` is on no circle.
        have hno : ¬ TransGen t.BasedOn node.name node.name :=
          ownBase_eq_basedOn ▸ cycleFrom?_eq_none hnone
        refine .skip ?_ (ih (hp.skip fun _ hcycle => absurd hcycle hno))
        rintro _ ⟨hr, -⟩
        exact hno hr.transGen
      · rename_i hsome
        obtain ⟨path, hr, rfl⟩ := cycleFrom?_eq_some hsome
        exact .pick (hp.cyclic hmem hr) (ih (hp.report hr))

/-- **The cycles that are reported** are those of the types that are the first declared on a cycle. -/
theorem cycles_picks (t : Tree .parsed) : Picks t.Cyclic t.types t.cycles := by
  have hstart : t.Passed [] t.types [] := ⟨rfl, by simp⟩
  exact cyclesFrom_picks hstart

/-- Some cycle is reported if there is one. -/
theorem cycles_eq_nil : t.cycles = [] ↔ ∀ m, ¬ TransGen t.BasedOn m m := by
  constructor
  · intro h
    exact ownBase_eq_basedOn ▸ not_transGen_ownBase h
  · intro h
    have hpicks := cycles_picks t
    generalize t.cycles = es, t.types = nodes at hpicks
    induction hpicks with
    | nil => rfl
    | pick hc _ _ =>
      obtain ⟨hr, -⟩ := hc
      exact (h _ hr.transGen).elim
    | skip _ _ ih => exact ih

end MetaSchema.Tree
