import MetaSchema.Graph.Frontier

/-!
# The entries of a frontier

No entry of a frontier is lost or made up, whatever order the heap keeps them in.

* `siftUp_perm`, `sink_perm`: moving an entry within the heap permutes the entries.
* `push_perm`: adding an entry adds just that one.
* `pop?_perm`: taking an entry out removes just that one.
* `pop?_eq_none`: there is nothing to take out of an empty frontier only.
-/

namespace MetaSchema.Frontier

variable {α : Type}

open List

theorem siftUp_perm (h : Frontier α) (i : Nat) : (siftUp h i).toList ~ h.toList := by
  fun_induction siftUp h i with
  | case1 => exact .refl _
  | case2 h i hi parent bound hp hlt ih => exact ih.trans (Array.swap_perm bound hp).toList
  | case3 => exact .refl _
  | case4 => exact .refl _

theorem sink_perm (h : Frontier α) (i : Nat) : (sink h i).1.toList ~ h.toList := by
  fun_induction sink h i with
  | case1 h i left both child hc ih => exact ih.trans (Array.swap_perm (by omega) hc).toList
  | case2 h i left both one => exact (Array.swap_perm (by omega) one).toList
  | case3 => exact .refl _

/-- The entries after `push` are the one pushed and those before. -/
theorem push_perm (h : Frontier α) (e : Nat × α) : (push h e).toList ~ e :: h.toList := by
  unfold push
  refine (siftUp_perm _ _).trans ?_
  rw [Array.toList_push]
  exact perm_append_singleton e h.toList

theorem pop?_eq_none {h : Frontier α} : pop? h = none ↔ h.toList = [] := by
  unfold pop?
  split
  · rename_i hs
    simp only [reduceCtorEq, Array.toList_eq_nil_iff, false_iff]
    rintro rfl
    simp at hs
  · rename_i hs
    simp only [Array.toList_eq_nil_iff, true_iff]
    exact Array.size_eq_zero_iff.mp (by omega)

/-- A nonempty frontier is its last entry behind all the others. -/
private theorem toList_eq_pop (h : Frontier α) (hs : 0 < h.size) :
    h.toList = h.pop.toList ++ [h[h.size - 1]] := by
  have hne : h.toList ≠ [] := by
    rw [ne_eq, Array.toList_eq_nil_iff]
    rintro rfl
    simp at hs
  rw [Array.toList_pop]
  have hl := dropLast_concat_getLast hne
  rw [getLast_eq_getElem] at hl
  simpa using hl.symm

/-- The entries before `pop?` are the one popped and those after. -/
theorem pop?_perm {h rest : Frontier α} {e : Nat × α} (hp : pop? h = some (e, rest)) :
    h.toList ~ e :: rest.toList := by
  unfold pop? at hp
  split at hp
  · rename_i hs
    simp only [Option.some.injEq, Prod.mk.injEq] at hp
    obtain ⟨rfl, rfl⟩ := hp
    have hlast := toList_eq_pop (h.swap 0 (h.size - 1)) (by simpa using hs)
    simp only [Array.size_swap, Array.getElem_swap_right] at hlast
    have hswap := (Array.swap_perm hs (show h.size - 1 < h.size by omega)).toList
    refine hswap.symm.trans ?_
    rw [hlast]
    refine (perm_append_singleton _ _).trans (.cons _ ?_)
    exact ((siftUp_perm _ _).trans (sink_perm _ _)).symm
  · cases hp

end MetaSchema.Frontier
