import MetaSchema.Proofs.Graph.Frontier

/-!
# A frontier gives out its nearest entry

* `Frontier.distance`: the distance of the entry in a place.
* `Frontier.Ordered`: no entry is nearer than its parent.
* `Frontier.OrderedBut`: the same, with one entry left out of account that is being moved.
* `siftUp_ordered`, `sink_ordered`: moving that entry puts it in order.
* `push_ordered`, `pop?_ordered`: adding an entry and taking one out keep the order.
* `pop?_le`: the entry taken out is no farther than any other.
-/

namespace MetaSchema.Frontier

variable {α : Type}

/-- The distance of the entry in a place. -/
def distance (h : Frontier α) (i : Nat) : Nat := (h[i]?.map Prod.fst).getD 0

theorem distance_eq {h : Frontier α} {i : Nat} (hi : i < h.size) : h.distance i = h[i].1 := by
  simp [distance, hi]

theorem distance_swap {h : Frontier α} {i j : Nat} (hi : i < h.size) (hj : j < h.size) (k : Nat) :
    distance (h.swap i j) k =
      if k = j then h.distance i else if k = i then h.distance j else h.distance k := by
  simp only [distance, Array.getElem?_swap, Array.getElem?_eq_getElem hi,
    Array.getElem?_eq_getElem hj, @eq_comm _ k]
  split
  · rfl
  · split <;> rfl

/-- No entry is nearer than its parent. -/
def Ordered (h : Frontier α) : Prop :=
  ∀ j, 0 < j → j < h.size → h.distance ((j - 1) / 2) ≤ h.distance j

/-- All pairs of an entry and its parent without entry `i` are in order, and so are the parent and
the children of entry `i`. -/
structure OrderedBut (h : Frontier α) (i : Nat) : Prop where
  others : ∀ j, 0 < j → j < h.size → j ≠ i → (j - 1) / 2 ≠ i →
    h.distance ((j - 1) / 2) ≤ h.distance j
  around : 0 < i → ∀ j, 0 < j → j < h.size → (j - 1) / 2 = i →
    h.distance ((i - 1) / 2) ≤ h.distance j

/-! ## Moving an entry -/

/-- An entry that is no farther than its children is put in order by moving it up. -/
theorem siftUp_ordered (h : Frontier α) (i : Nat) (hbut : h.OrderedBut i)
    (hbelow : ∀ j, 0 < j → j < h.size → (j - 1) / 2 = i → h.distance i ≤ h.distance j) :
    (siftUp h i).Ordered := by
  fun_induction siftUp h i with
  | case1 h =>
    intro j hj hsize
    by_cases hparent : (j - 1) / 2 = 0
    · exact hparent ▸ hbelow j hj hsize hparent
    · exact hbut.others j hj hsize (by omega) hparent
  | case2 h i hi parent bound hp hlt ih =>
    rw [← distance_eq bound, ← distance_eq hp] at hlt
    have hswap := distance_swap bound hp
    -- The sibling was in order with `parent`, so it is with the entry that takes its place.
    have hpp : ∀ j, 0 < j → j < h.size → (j - 1) / 2 = parent → j ≠ i →
        h.distance parent ≤ h.distance j := by
      -- The entry is no nearer than its parent: it stays, and so does the rest.
      intro j hj hsize hparent hne
      exact hparent ▸ hbut.others j hj hsize hne (by omega)
    refine ih ⟨fun j hj hsize hne hparent => ?_, fun hpos j hj hsize hparent => ?_⟩
      fun j hj hsize hparent => ?_
    all_goals rw [Array.size_swap] at hsize
    · rw [hswap, hswap, if_neg hparent, if_neg hne]
      by_cases hji : j = i
      · exact absurd (hji ▸ rfl : (j - 1) / 2 = parent) hparent
      · rw [if_neg hji]
        split
        · rename_i h1
          exact hbut.around (by omega) j hj hsize h1
        · rename_i h1
          exact hbut.others j hj hsize hji h1
    · have hup : h.distance ((parent - 1) / 2) ≤ h.distance parent :=
        hbut.others parent hpos hp (by omega) (by omega)
      rw [hswap, hswap, if_neg (by omega), if_neg (by omega), if_neg (by omega)]
      split
      · exact hup
      · rename_i hji
        exact Nat.le_trans hup (hpp j hj hsize hparent hji)
    · rw [hswap, hswap, if_pos rfl, if_neg (by omega)]
      split
      · exact Nat.le_of_lt hlt
      · rename_i hji
        exact Nat.le_trans (Nat.le_of_lt hlt) (hpp j hj hsize hparent hji)
  | case3 h i hi parent bound hp hlt =>
    rw [← distance_eq bound, ← distance_eq hp, Nat.not_lt] at hlt
    intro j hj hsize
    by_cases hji : j = i
    · exact hji ▸ hlt
    · by_cases hparent : (j - 1) / 2 = i
      · exact hparent ▸ hbelow j hj hsize hparent
      · exact hbut.others j hj hsize hji hparent
  | case4 h i hi bound =>
    exact fun j hj hsize => hbut.others j hj hsize (by omega) (by omega)

/-- Moving an entry to the bottom along the nearer children leaves only that entry to be put in
order. -/
theorem sink_ordered (h : Frontier α) (i : Nat) (hbut : h.OrderedBut i) :
    (sink h i).1.OrderedBut (sink h i).2 ∧ (sink h i).1.size ≤ 2 * (sink h i).2 + 1 := by
  fun_induction sink h i with
  | case1 h i left both child hchild ih =>
    have hi : i < h.size := by omega
    have hplace : 0 < child ∧ (child - 1) / 2 = i := by
      simp only [child, left]
      split <;> omega
    -- The nearer child moves up, so it may stand above its sibling.
    have hnearer : ∀ j, 0 < j → (j - 1) / 2 = i → h.distance child ≤ h.distance j := by
      have hleft := distance_eq (show left < h.size by omega)
      have hright := distance_eq both
      intro j hj hparent
      obtain rfl | rfl : j = left ∨ j = left + 1 := by omega
      all_goals
        simp only [child]
        split <;> omega
    have hswap := distance_swap hi hchild
    refine ih ⟨fun j hj hsize hne hparent => ?_, fun _ j hj hsize hparent => ?_⟩
    all_goals rw [Array.size_swap] at hsize
    · rw [hswap, hswap, if_neg hparent, if_neg hne]
      split
      · rename_i hji
        split
        · rename_i hj'
          omega
        · exact hnearer j hj hji
      · rename_i hji
        split
        · rename_i hj'
          subst hj'
          exact hbut.around hj child hplace.1 hchild hplace.2
        · rename_i hj'
          exact hbut.others j hj hsize hj' hji
    · rw [hswap, hswap, hplace.2, if_neg (by omega), if_pos rfl, if_neg (by omega),
        if_neg (by omega)]
      exact hparent ▸ hbut.others j hj hsize (by omega) (by omega)
  | case2 h i left both one =>
    -- The only child is a leaf, so the entry comes to rest in its place.
    have hi : i < h.size := by omega
    have hswap := distance_swap hi one
    refine ⟨⟨fun j hj hsize hne hparent => ?_, fun _ j hj hsize hparent => ?_⟩, ?_⟩
    all_goals simp only [Array.size_swap] at *
    · rw [hswap, hswap, if_neg hparent, if_neg hne]
      split
      · omega
      · rename_i hji
        split
        · rename_i hj'
          subst hj'
          exact hbut.around hj left (by omega) one (by omega)
        · rename_i hj'
          exact hbut.others j hj hsize hj' hji
    · omega
    · omega
  | case3 h i left both one =>
    refine ⟨hbut, ?_⟩
    simp only
    omega

/-! ## Adding an entry and taking one out -/

theorem push_ordered {h : Frontier α} (ho : h.Ordered) (e : Nat × α) : (push h e).Ordered := by
  have hold : ∀ j, j < h.size → distance (Array.push h e) j = h.distance j := by
    intro j hj
    rw [distance, distance, Array.getElem?_push_lt hj, Array.getElem?_eq_getElem hj]
  refine siftUp_ordered _ _ ⟨fun j hj hsize hne hparent => ?_, ?_⟩ ?_
  · rw [Array.size_push] at hsize
    rw [hold j (by omega), hold _ (by omega)]
    exact ho j hj (by omega)
  · intro _ j hj hsize hparent
    rw [Array.size_push] at hsize
    omega
  · intro j hj hsize hparent
    rw [Array.size_push] at hsize
    omega

theorem pop?_ordered {h rest : Frontier α} {e : Nat × α} (ho : h.Ordered)
    (hp : pop? h = some (e, rest)) : rest.Ordered := by
  unfold pop? at hp
  split at hp
  · rename_i hs
    simp only [Option.some.injEq, Prod.mk.injEq] at hp
    obtain ⟨-, rfl⟩ := hp
    have hsize : ((h.swap 0 (h.size - 1)).pop).size = h.size - 1 := by simp
    have hold : ∀ j, 0 < j → j < h.size - 1 →
        distance (h.swap 0 (h.size - 1)).pop j = h.distance j := by
      intro j hj hlt
      have hswap := distance_swap hs (show h.size - 1 < h.size by omega) j
      rw [if_neg (by omega), if_neg (by omega)] at hswap
      rw [← hswap, distance, distance, Array.getElem?_pop, if_pos (by simpa using hlt)]
    -- Only the entry that was put to the top can be out of order.
    have hbut : OrderedBut (h.swap 0 (h.size - 1)).pop 0 := by
      refine ⟨fun j hj hlt hne hparent => ?_, fun h0 => absurd h0 (Nat.lt_irrefl 0)⟩
      rw [hsize] at hlt
      rw [hold j hj hlt, hold _ (by omega) (by omega)]
      exact ho j hj (by omega)
    -- It comes to rest where nothing is below it, so that it can be moved up from there.
    obtain ⟨hsunk, hleaf⟩ := sink_ordered _ 0 hbut
    refine siftUp_ordered _ _ hsunk fun j hj hlt hparent => ?_
    omega
  · cases hp

/-- The first entry of an ordered frontier is no farther than any other. -/
theorem Ordered.distance_zero_le {h : Frontier α} (ho : h.Ordered) (i : Nat) (hi : i < h.size) :
    h.distance 0 ≤ h.distance i := by
  induction i using Nat.strongRecOn with
  | ind i ih =>
    by_cases h0 : i = 0
    · exact Nat.le_of_eq (h0 ▸ rfl)
    · exact Nat.le_trans (ih ((i - 1) / 2) (by omega) (by omega)) (ho i (by omega) hi)

/-- **The nearest entry** is taken out first. -/
theorem pop?_le {h rest : Frontier α} {e : Nat × α} (ho : h.Ordered)
    (hp : pop? h = some (e, rest)) : ∀ x ∈ h.toList, e.1 ≤ x.1 := by
  unfold pop? at hp
  split at hp
  · rename_i hs
    simp only [Option.some.injEq, Prod.mk.injEq] at hp
    obtain ⟨rfl, -⟩ := hp
    intro x hx
    obtain ⟨i, hi, rfl⟩ := Array.mem_iff_getElem.mp (Array.mem_toList_iff.mp hx)
    have hle := ho.distance_zero_le i hi
    rwa [distance_eq hs, distance_eq hi] at hle
  · cases hp

end MetaSchema.Frontier
