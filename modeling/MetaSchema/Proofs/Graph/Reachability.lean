import MetaSchema.Graph.Basic
import Mathlib.Logic.Relation

/-!
# Reachability in the import graph

* `ImportGraph.Edge`, `ImportGraph.Reaches`, `ImportGraph.Acyclic`: the edges as a relation, paths of
  any length, and that no path of at least one edge comes back to its start.
* `reflTransGen_mem`: what is reached from a closed set lies in it.
* `reflTransGen_line`, `not_transGen_line`: where things lead from one to the next only.
-/

namespace MetaSchema

open Relation (ReflTransGen TransGen)

/-- A set that a relation does not leave holds everything that is reached from its members. -/
theorem reflTransGen_mem {α : Type} {r : α → α → Prop} {p : α → Prop}
    (hp : ∀ a b, p a → r a b → p b) {a b : α} (ha : p a) (h : ReflTransGen r a b) : p b := by
  induction h with
  | refl => exact ha
  | tail _ hbc ih => exact hp _ _ ih hbc

/-- Where each of `n + 1` things leads to the next one at most, and the last to none, they lead down the
line. -/
theorem reflTransGen_line {α : Type} {r : α → α → Prop} {f : Nat → α} {n : Nat}
    (hr : ∀ i ≤ n, ∀ b, r (f i) b → i < n ∧ b = f (i + 1)) {i : Nat} (hi : i ≤ n) {b : α}
    (h : ReflTransGen r (f i) b) : ∃ j, i ≤ j ∧ j ≤ n ∧ b = f j := by
  induction h with
  | refl => exact ⟨i, Nat.le_refl i, hi, rfl⟩
  | tail _ hbc ih =>
    obtain ⟨j, hij, hjn, rfl⟩ := ih
    obtain ⟨hlt, rfl⟩ := hr j hjn _ hbc
    exact ⟨j + 1, by omega, hlt, rfl⟩

/-- If they are different, none of them leads back to itself. -/
theorem not_transGen_line {α : Type} {r : α → α → Prop} {f : Nat → α} {n : Nat}
    (hf : ∀ i ≤ n, ∀ j ≤ n, f i = f j → i = j)
    (hr : ∀ i ≤ n, ∀ b, r (f i) b → i < n ∧ b = f (i + 1)) {i : Nat} (hi : i ≤ n) :
    ¬ TransGen r (f i) (f i) := by
  intro hcircle
  obtain ⟨next, hnext, hback⟩ := TransGen.head'_iff.mp hcircle
  obtain ⟨hlt, rfl⟩ := hr i hi next hnext
  obtain ⟨j, hij, hjn, heq⟩ := reflTransGen_line hr hlt hback
  have := hf i hi j hjn heq
  omega

namespace ImportGraph

variable (g : ImportGraph)

/-- `a` imports `b`. -/
def Edge (a b : SchemaIdentifier) : Prop := (a, b) ∈ g.edges

/-- Edges lead from `a` to `b`. -/
def Reaches : SchemaIdentifier → SchemaIdentifier → Prop := ReflTransGen g.Edge

/-- No schema imports itself, however many schemas stand between. -/
def Acyclic : Prop := ∀ v, ¬ TransGen g.Edge v v

variable {g}

theorem mem_successors {v w : SchemaIdentifier} : w ∈ g.successors v ↔ g.Edge v w := by
  simp [successors, Edge]

theorem Reaches.mono {h : ImportGraph} (he : ∀ a b, g.Edge a b → h.Edge a b)
    {a b : SchemaIdentifier} (hr : g.Reaches a b) : h.Reaches a b :=
  ReflTransGen.mono he _ _ hr

end ImportGraph

end MetaSchema
