import MetaSchema.Proofs.Lists
import MetaSchema.Resolution.ResolvedSet
import Mathlib.Data.Fintype.Card
import Mathlib.Data.Set.Finite.Basic
import Mathlib.Order.WellFounded

/-!
# Following bases

* `ResolvedSet.Leads`: a reference leads over bases to a primitive type.
* `ResolvedSet.Next`: the base of a type is another type.
* `primitiveOf?_of_leads`: the rounds that are followed are enough for every chain that ends, since it
  goes through no type twice.
* `exists_leads`: if every base is known and none leads back, every chain ends.
* `ResolvedSet.Step`: from a reference to the base of the type that it names.
* `Leads.acc`, `Leads.not_dangles`, `leads_or_dangles`: a chain that leads to a primitive type ends, and
  every other one that ends does so in a type that is not in the set.
* `primitiveOf?_exact`: **the primitive type of a reference** is the end of its chain of steps, and there
  is none just if the chain meets an unknown type or goes on for ever.
-/

namespace MetaSchema.ResolvedSet

open Relation (ReflTransGen TransGen)

variable {r : ResolvedSet}

/-- Bases lead from a reference to a primitive type. -/
inductive Leads (r : ResolvedSet) : TypeReference → Primitive → Prop
  | primitive (p : Primitive) : Leads r (.primitive p) p
  | named {q : QualifiedTypeName} {base : TypeReference} {p : Primitive}
      (hq : r.base? q = some base) (hp : Leads r base p) : Leads r (.named q) p

/-- The base of the type `q` is the type `q'`. -/
def Next (r : ResolvedSet) (q q' : QualifiedTypeName) : Prop := r.base? q = some (.named q')

/-- A chain that ends does not come back to where it was. -/
theorem Leads.not_transGen {ref : TypeReference} {p : Primitive} (h : r.Leads ref p)
    {q : QualifiedTypeName} (hq : ref = .named q) : ¬ TransGen r.Next q q := by
  induction h generalizing q with
  | primitive p => cases hq
  | named hbase _ ih =>
    cases hq
    intro hcycle
    obtain ⟨q', hnext, hback⟩ := TransGen.head'_iff.mp hcycle
    have hsame := hbase.symm.trans hnext
    exact ih (Option.some.inj hsame) (.tail' hback hnext)

theorem mem_keys {q : QualifiedTypeName} {base : TypeReference} (h : r.base? q = some base) :
    q ∈ r.bases.map Prod.fst :=
  List.mem_map.mpr ⟨_, mem_of_lookup h, rfl⟩

/-- The types that a chain went through are different types of the set, so there are rounds left. -/
theorem followBases_of_leads {ref : TypeReference} {p : Primitive} (h : r.Leads ref p)
    {rounds : Nat} {seen : List QualifiedTypeName} (hseen : seen.Nodup)
    (hkeys : seen ⊆ r.bases.map Prod.fst)
    (hback : ∀ x ∈ seen, ∀ q, ref = .named q → TransGen r.Next x q)
    (hrounds : r.bases.length < rounds + seen.length) : r.followBases rounds ref = some p := by
  have hle : seen.length ≤ r.bases.length := by
    simpa using hseen.length_le_of_subset hkeys
  obtain ⟨rounds, rfl⟩ : ∃ n, rounds = n + 1 := ⟨rounds - 1, by omega⟩
  induction h generalizing rounds seen with
  | primitive p => rfl
  | @named q base p hq hp ih =>
    -- A chain that ends does not come back to a type that it went through.
    have hnew : q ∉ seen := fun hmem =>
      (Leads.named hq hp).not_transGen rfl (hback q hmem q rfl)
    have hkeys' : q :: seen ⊆ r.bases.map Prod.fst := List.cons_subset.mpr ⟨mem_keys hq, hkeys⟩
    have hseen' : (q :: seen).Nodup := List.nodup_cons.mpr ⟨hnew, hseen⟩
    have hle' : (q :: seen).length ≤ r.bases.length := by
      simpa using hseen'.length_le_of_subset hkeys'
    rw [List.length_cons] at hle'
    rw [followBases, hq, Option.bind_some]
    obtain ⟨rounds, rfl⟩ : ∃ n, rounds = n + 1 := ⟨rounds - 1, by omega⟩
    refine ih hseen' hkeys' (fun x hx q' heq => ?_) (by simpa using hle') rounds
      (by rw [List.length_cons]; omega)
    subst heq
    rcases List.mem_cons.mp hx with rfl | hx
    · exact .single hq
    · exact (hback x hx q rfl).tail hq

/-- **Following bases** finds the primitive type that they lead to. -/
theorem primitiveOf?_of_leads {ref : TypeReference} {p : Primitive} (h : r.Leads ref p) :
    r.primitiveOf? ref = some p :=
  followBases_of_leads h .nil (List.nil_subset _) (fun _ hx => by cases hx) (by simp)

/-- There are finitely many types, so bases that do not lead back end; and if every base is a type of
the set, they end in a primitive type. -/
theorem exists_leads (hknown : ∀ q q', r.Next q q' → ∃ base, r.base? q' = some base)
    (hacyclic : ∀ q, ¬ TransGen r.Next q q) {q : QualifiedTypeName} {base : TypeReference}
    (hq : r.base? q = some base) : ∃ p, r.Leads (.named q) p := by
  let next (x y : {q // q ∈ r.bases.map Prod.fst}) : Prop := r.Next y.1 x.1
  have hback : ∀ {x y}, TransGen next x y → TransGen r.Next y.1 x.1 := by
    intro x y h
    induction h with
    | single h => exact .single h
    | tail _ h ih => exact .head h ih
  -- On finitely many types, an acyclic relation is well founded. That carries the induction.
  have hwf : WellFounded next := by
    have : Finite {q // q ∈ r.bases.map Prod.fst} := List.finite_toSet _
    have : IsTrans _ (TransGen next) := ⟨fun _ _ _ => TransGen.trans⟩
    have : Std.Irrefl (TransGen next) := ⟨fun x h => hacyclic x.1 (hback h)⟩
    exact Subrelation.wf (fun h => TransGen.single h)
      (Finite.wellFounded_of_trans_of_irrefl (TransGen next))
  have hends : ∀ x : {q // q ∈ r.bases.map Prod.fst}, ∀ base, r.base? x.1 = some base →
      ∃ p, r.Leads (.named x.1) p := by
    intro x
    induction x using hwf.induction with
    | _ x ih =>
      intro base hx
      cases base with
      | primitive p => exact ⟨p, .named hx (.primitive p)⟩
      | named q' =>
        obtain ⟨base', hq'⟩ := hknown x.1 q' hx
        obtain ⟨p, hp⟩ := ih ⟨q', mem_keys hq'⟩ hx base' hq'
        exact ⟨p, .named hx hp⟩
  exact hends ⟨q, mem_keys hq⟩ base hq

/-! ## Chains of any kind -/

/-- A step from a reference to the base of the type that it names. -/
inductive Step (r : ResolvedSet) : TypeReference → TypeReference → Prop
  | base {q : QualifiedTypeName} {base : TypeReference} (hq : r.base? q = some base) :
      Step r (.named q) base

/-- The type at the end of a chain of steps is not in the set. -/
def Dangles (r : ResolvedSet) (ref : TypeReference) : Prop :=
  ∃ q, ReflTransGen r.Step ref (.named q) ∧ r.base? q = none

theorem Leads.step {ref ref' : TypeReference} {p : Primitive} (h : r.Leads ref p)
    (hstep : r.Step ref ref') : r.Leads ref' p := by
  obtain ⟨hq⟩ := hstep
  obtain _ | ⟨hbase, hp⟩ := h
  cases hbase.symm.trans hq
  exact hp

theorem Leads.steps {ref ref' : TypeReference} {p : Primitive} (h : r.Leads ref p)
    (hsteps : ReflTransGen r.Step ref ref') : r.Leads ref' p := by
  induction hsteps with
  | refl => exact h
  | tail _ hstep ih => exact ih.step hstep

theorem leads_iff {ref : TypeReference} {p : Primitive} :
    r.Leads ref p ↔ ReflTransGen r.Step ref (.primitive p) := by
  constructor
  · intro h
    induction h with
    | primitive p => exact .refl
    | named hq _ ih => exact .head (.base hq) ih
  · intro h
    induction h using ReflTransGen.head_induction_on with
    | refl => exact .primitive p
    | head hstep _ ih =>
      obtain ⟨hq⟩ := hstep
      exact .named hq ih

theorem Leads.acc {ref : TypeReference} {p : Primitive} (h : r.Leads ref p) :
    Acc (fun a b => r.Step b a) ref := by
  induction h with
  | primitive p => exact .intro _ nofun
  | named hq _ ih =>
    refine .intro _ fun base hstep => ?_
    obtain ⟨hq'⟩ := hstep
    cases hq.symm.trans hq'
    exact ih

theorem Leads.not_dangles {ref : TypeReference} {p : Primitive} (h : r.Leads ref p) :
    ¬ r.Dangles ref := by
  rintro ⟨q, hreach, hq⟩
  obtain _ | ⟨hbase, -⟩ := h.steps hreach
  cases hq.symm.trans hbase

/-- A chain that ends does so in a primitive type or in a type that is not in the set. -/
theorem leads_or_dangles {ref : TypeReference} (h : Acc (fun a b => r.Step b a) ref) :
    (∃ p, r.Leads ref p) ∨ r.Dangles ref := by
  induction h with
  | intro ref _ ih =>
    cases ref with
    | primitive p => exact .inl ⟨p, .primitive p⟩
    | named q =>
      cases hq : r.base? q with
      | none => exact .inr ⟨q, .refl, hq⟩
      | some base =>
        rcases ih base (.base hq) with ⟨p, hp⟩ | ⟨q', hreach, hq'⟩
        · exact .inl ⟨p, .named hq hp⟩
        · exact .inr ⟨q', .head (.base hq) hreach, hq'⟩

/-- What is found in some rounds is where bases lead. -/
theorem leads_of_followBases {rounds : Nat} {ref : TypeReference} {p : Primitive}
    (h : r.followBases rounds ref = some p) : r.Leads ref p := by
  induction rounds generalizing ref with
  | zero => cases h
  | succ rounds ih =>
    cases ref with
    | primitive p' =>
      cases h
      exact .primitive p
    | named q =>
      obtain ⟨base, hq, hbase⟩ := Option.bind_eq_some_iff.mp h
      exact .named hq (ih hbase)

theorem primitiveOf?_iff_leads {ref : TypeReference} {p : Primitive} :
    r.primitiveOf? ref = some p ↔ r.Leads ref p :=
  ⟨leads_of_followBases, primitiveOf?_of_leads⟩

/-- **The primitive type of a reference** is found just if finitely many steps from bases to bases lead
to it, however many they are. None is found just if the steps lead to a type that is not in the set, or
never end. -/
theorem primitiveOf?_exact (r : ResolvedSet) (ref : TypeReference) :
    (∀ p, r.primitiveOf? ref = some p ↔ ReflTransGen r.Step ref (.primitive p)) ∧
    (r.primitiveOf? ref = none ↔
      (∃ q, ReflTransGen r.Step ref (.named q) ∧ r.base? q = none) ∨
      ∃ chain : ℕ → TypeReference, chain 0 = ref ∧ ∀ n, r.Step (chain n) (chain (n + 1))) := by
  refine ⟨fun p => primitiveOf?_iff_leads.trans leads_iff, ?_⟩
  have hnone : r.primitiveOf? ref = none ↔ ¬ ∃ p, r.Leads ref p := by
    simp [Option.eq_none_iff_forall_ne_some, primitiveOf?_iff_leads]
  rw [hnone, ← not_acc_iff_exists_descending_chain (r := fun a b => r.Step b a)]
  constructor
  · intro hno
    by_cases hends : Acc (fun a b => r.Step b a) ref
    · exact .inl ((leads_or_dangles hends).resolve_left hno)
    · exact .inr hends
  · rintro (hdangles | hendless) ⟨p, hp⟩
    · exact hp.not_dangles hdangles
    · exact hendless hp.acc

/-- One round less would not reach the end of a chain through every type of a set. -/
example :
    let name (n : TypeName) : QualifiedTypeName := ⟨⟨"Core", by decide, by decide⟩, n⟩
    let title := name ⟨"Title", by decide, by decide⟩
    let label := name ⟨"Label", by decide, by decide⟩
    let r : ResolvedSet := ⟨.empty, [], [(title, .named label), (label, .primitive .string)]⟩
    r.followBases 2 (.named title) = none ∧ r.primitiveOf? (.named title) = some .string := by
  decide

end MetaSchema.ResolvedSet
