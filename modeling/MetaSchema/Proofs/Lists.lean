import Mathlib.Data.List.Forall2
import Mathlib.Data.List.ReduceOption
import Mathlib.Data.Set.Basic

/-!
# Lists by element and by key

* `forall₂_exists_left`, `forall₂_exists_right`, `map_eq_of_forall₂`, `filterMap_eq_of_forall₂`,
  `exists_forall₂`: lists that correspond element by element, and the partners of their members.
* `Picks`: a list of the partners of those members of another list that have one; `First`: the first of
  them.
* `map_eq_ok`, `bind_eq_ok`, `pure_eq_ok`, `exists_eq_ok`, `mapM_eq_ok`: where the results of composed
  computations come from; `map_eq_error`, `bind_eq_error`, `mapM_eq_error`, `foldlM_eq_error`: where
  their errors do.
* `find?_of_nodup`, `find?_eq_some_of_nodup`, `lookup_of_nodup`: a key that occurs once leads to its
  entry.
* `lookup_map_keys`: keys may be renamed, if different keys stay different.
* `Enumerates`: a list of the members of a set in ascending order; `enumerates_mergeSort`: sorting gives it.
-/

namespace MetaSchema

variable {ε α β : Type}

theorem map_eq_ok {f : α → β} {x : Except ε α} {b : β} (h : x.map f = .ok b) :
    ∃ a, x = .ok a ∧ f a = b := by
  cases x with
  | error e => cases h
  | ok a =>
    cases h
    exact ⟨a, rfl, rfl⟩

theorem map_eq_error {f : α → β} {x : Except ε α} {e : ε} : x.map f = .error e ↔ x = .error e := by
  cases x <;> simp [Except.map]

theorem bind_eq_ok {x : Except ε α} {f : α → Except ε β} {b : β} :
    (x >>= f) = .ok b ↔ ∃ a, x = .ok a ∧ f a = .ok b := by
  cases x with
  | error e =>
    constructor
    · intro h
      cases h
    · rintro ⟨_, h, -⟩
      cases h
  | ok a =>
    constructor
    · exact fun h => ⟨a, rfl, h⟩
    · rintro ⟨_, h, hb⟩
      cases h
      exact hb

theorem bind_eq_error {x : Except ε α} {f : α → Except ε β} {e : ε} :
    (x >>= f) = .error e ↔ x = .error e ∨ ∃ a, x = .ok a ∧ f a = .error e := by
  cases x with
  | error e' =>
    constructor
    · exact fun h => by cases h; exact .inl rfl
    · rintro (h | ⟨_, h, -⟩) <;> cases h
      rfl
  | ok a =>
    constructor
    · exact fun h => .inr ⟨a, rfl, h⟩
    · rintro (h | ⟨_, h, he⟩) <;> cases h
      exact he

theorem pure_eq_ok {a b : α} : (pure a : Except ε α) = .ok b ↔ b = a :=
  ⟨fun h => by cases h; rfl, fun h => by rw [h]; rfl⟩

theorem exists_eq_ok {x : Except ε α} (h : x.toOption.isSome = true) : ∃ a, x = .ok a := by
  cases x with
  | error e => cases h
  | ok a => exact ⟨a, rfl⟩

/-- A member of the first list has a partner in the second. -/
theorem forall₂_exists_right {r : α → β → Prop} {l : List α} {m : List β}
    (h : List.Forall₂ r l m) {a : α} (ha : a ∈ l) : ∃ b ∈ m, r a b := by
  induction h with
  | nil => cases ha
  | cons hab _ ih =>
    rcases List.mem_cons.mp ha with rfl | ha
    · exact ⟨_, List.mem_cons_self, hab⟩
    · obtain ⟨b, hb, h⟩ := ih ha
      exact ⟨b, .tail _ hb, h⟩

/-- A member of the second list has a partner in the first. -/
theorem forall₂_exists_left {r : α → β → Prop} {l : List α} {m : List β}
    (h : List.Forall₂ r l m) {b : β} (hb : b ∈ m) : ∃ a ∈ l, r a b :=
  forall₂_exists_right (r := fun b a => r a b) h.flip hb

/-- What partners have in common, the lists have in common. -/
theorem map_eq_of_forall₂ {γ : Type} {r : α → β → Prop} {f : α → γ} {g : β → γ} {l : List α}
    {m : List β} (h : List.Forall₂ r l m) (hr : ∀ a ∈ l, ∀ b, r a b → g b = f a) :
    m.map g = l.map f := by
  induction h with
  | nil => rfl
  | cons hab _ ih =>
    rw [List.map_cons, List.map_cons, hr _ List.mem_cons_self _ hab,
      ih fun a ha => hr a (List.mem_cons_of_mem _ ha)]

/-- What partners have in common, if they have it, the lists have in common. -/
theorem filterMap_eq_of_forall₂ {γ : Type} {r : α → β → Prop} {f : α → Option γ} {g : β → Option γ}
    {l : List α} {m : List β} (h : List.Forall₂ r l m) (hr : ∀ a b, r a b → g b = f a) :
    m.filterMap g = l.filterMap f := by
  induction h with
  | nil => rfl
  | cons hab _ ih => rw [List.filterMap_cons, List.filterMap_cons, hr _ _ hab, ih]

/-- If every member has a partner, they make a list. -/
theorem exists_forall₂ {r : α → β → Prop} {l : List α} (h : ∀ a ∈ l, ∃ b, r a b) :
    ∃ m, List.Forall₂ r l m := by
  induction l with
  | nil => exact ⟨[], .nil⟩
  | cons a l ih =>
    obtain ⟨b, hb⟩ := h a List.mem_cons_self
    obtain ⟨m, hm⟩ := ih fun a' ha => h a' (List.mem_cons_of_mem _ ha)
    exact ⟨b :: m, .cons hb hm⟩

/-- `bs` has a partner of each member of `as` that has one, in the same order. -/
inductive Picks (r : α → β → Prop) : List α → List β → Prop
  | nil : Picks r [] []
  | pick {a : α} {b : β} {as : List α} {bs : List β} (h : r a b) (rest : Picks r as bs) :
      Picks r (a :: as) (b :: bs)
  | skip {a : α} {as : List α} {bs : List β} (h : ∀ b, ¬ r a b) (rest : Picks r as bs) :
      Picks r (a :: as) bs

theorem picks_filterMap {r : α → β → Prop} {f : α → Option β} (hf : ∀ a b, f a = some b ↔ r a b)
    (l : List α) : Picks r l (l.filterMap f) := by
  induction l with
  | nil => exact .nil
  | cons a l ih =>
    cases ha : f a with
    | none =>
      rw [List.filterMap_cons_none ha]
      refine .skip (fun b hb => ?_) ih
      rw [(hf a b).mpr hb] at ha
      cases ha
    | some b =>
      rw [List.filterMap_cons_some ha]
      exact .pick ((hf a b).mp ha) ih

theorem Picks.exists_mem {r : α → β → Prop} {as : List α} {bs : List β} (h : Picks r as bs) {a : α}
    (ha : a ∈ as) (hr : ∃ b, r a b) : ∃ b ∈ bs, r a b := by
  induction h with
  | nil => cases ha
  | @pick _ b _ _ hab _ ih =>
    rcases List.mem_cons.mp ha with rfl | ha
    · exact ⟨b, List.mem_cons_self, hab⟩
    · obtain ⟨b', hb', h⟩ := ih ha
      exact ⟨b', List.mem_cons_of_mem _ hb', h⟩
  | skip hno _ ih =>
    rcases List.mem_cons.mp ha with rfl | ha
    · obtain ⟨b, hb⟩ := hr
      exact (hno b hb).elim
    · exact ih ha

theorem Picks.exists_mem_left {r : α → β → Prop} {as : List α} {bs : List β} (h : Picks r as bs)
    {b : β} (hb : b ∈ bs) : ∃ a ∈ as, r a b := by
  induction h with
  | nil => cases hb
  | @pick a _ _ _ hab _ ih =>
    rcases List.mem_cons.mp hb with rfl | hb
    · exact ⟨a, List.mem_cons_self, hab⟩
    · obtain ⟨a', ha', h⟩ := ih hb
      exact ⟨a', List.mem_cons_of_mem _ ha', h⟩
  | skip _ _ ih =>
    obtain ⟨a', ha', h⟩ := ih hb
    exact ⟨a', List.mem_cons_of_mem _ ha', h⟩

/-- What holds between the members of a list holds between their partners. -/
theorem Picks.pairwise {r : α → β → Prop} {p : α → α → Prop} {q : β → β → Prop}
    (hr : ∀ a a' b b', p a a' → r a b → r a' b' → q b b') {as : List α} {bs : List β}
    (h : Picks r as bs) (hp : as.Pairwise p) : bs.Pairwise q := by
  induction h with
  | nil => exact .nil
  | pick hab rest ih =>
    obtain ⟨hfirst, hp⟩ := List.pairwise_cons.mp hp
    refine List.pairwise_cons.mpr ⟨fun b' hb' => ?_, ih hp⟩
    obtain ⟨a', ha', hab'⟩ := rest.exists_mem_left hb'
    exact hr _ _ _ _ (hfirst a' ha') hab hab'
  | skip _ _ ih => exact ih (List.pairwise_cons.mp hp).2

/-- Members that have the same single partner give the same list. -/
theorem Picks.eq_of_forall₂ {r r' : α → β → Prop} (hr : ∀ a b b', r a b → r a b' → b = b')
    {as as' : List α} {bs bs' : List β} (h : Picks r as bs) (h' : Picks r' as' bs')
    (hp : List.Forall₂ (fun a a' => ∀ b, r a b ↔ r' a' b) as as') : bs = bs' := by
  induction hp generalizing bs bs' with
  | nil =>
    cases h
    cases h'
    rfl
  | cons hab _ ih =>
    rcases h with - | ⟨h, rest⟩ | ⟨h, rest⟩ <;> rcases h' with - | ⟨h', rest'⟩ | ⟨h', rest'⟩
    · rw [hr _ _ _ h ((hab _).mpr h'), ih rest rest']
    · exact (h' _ ((hab _).mp h)).elim
    · exact (h _ ((hab _).mpr h')).elim
    · exact ih rest rest'

/-- `b` is the partner of the first member of `as` that has one. -/
inductive First (r : α → β → Prop) : List α → β → Prop
  | here {a : α} {b : β} {as : List α} (h : r a b) : First r (a :: as) b
  | later {a : α} {b : β} {as : List α} (h : ∀ b, ¬ r a b) (rest : First r as b) : First r (a :: as) b

theorem First.exists_mem {r : α → β → Prop} {as : List α} {b : β} (h : First r as b) :
    ∃ a ∈ as, r a b := by
  induction h with
  | here h => exact ⟨_, List.mem_cons_self, h⟩
  | later _ _ ih =>
    obtain ⟨a, ha, h⟩ := ih
    exact ⟨a, List.mem_cons_of_mem _ ha, h⟩

/-- If some member has a partner, some member is the first that has one. -/
theorem exists_first {r : α → β → Prop} {as : List α} (h : ∃ a ∈ as, ∃ b, r a b) :
    ∃ b, First r as b := by
  induction as with
  | nil =>
    obtain ⟨a, ha, -⟩ := h
    cases ha
  | cons a as ih =>
    by_cases hfirst : ∃ b, r a b
    · obtain ⟨b, hb⟩ := hfirst
      exact ⟨b, .here hb⟩
    · obtain ⟨a', ha', b', hb'⟩ := h
      rcases List.mem_cons.mp ha' with rfl | ha'
      · exact (hfirst ⟨b', hb'⟩).elim
      · obtain ⟨b, hb⟩ := ih ⟨a', ha', b', hb'⟩
        exact ⟨b, .later (not_exists.mp hfirst) hb⟩

theorem first_append {r : α → β → Prop} {as as' : List α} {b : β} :
    First r (as ++ as') b ↔ First r as b ∨ (∀ a ∈ as, ∀ b, ¬ r a b) ∧ First r as' b := by
  induction as with
  | nil =>
    constructor
    · exact fun h => .inr ⟨nofun, h⟩
    · rintro (h | ⟨-, h⟩)
      · cases h
      · exact h
  | cons a as ih =>
    constructor
    · rintro (h | ⟨hno, rest⟩)
      · exact .inl (.here h)
      · rcases ih.mp rest with h | ⟨hnone, h⟩
        · exact .inl (.later hno h)
        · exact .inr ⟨List.forall_mem_cons.mpr ⟨hno, hnone⟩, h⟩
    · rintro ((h | ⟨hno, rest⟩) | ⟨hnone, h⟩)
      · exact .here h
      · exact .later hno (ih.mpr (.inl rest))
      · obtain ⟨hno, hnone⟩ := List.forall_mem_cons.mp hnone
        exact .later hno (ih.mpr (.inr ⟨hnone, h⟩))

theorem first_map {γ : Type} {r : α → β → Prop} {f : γ → α} {cs : List γ} {b : β} :
    First r (cs.map f) b ↔ First (fun c => r (f c)) cs b := by
  induction cs with
  | nil => exact ⟨nofun, nofun⟩
  | cons c cs ih =>
    constructor
    · rintro (h | ⟨hno, rest⟩)
      · exact .here h
      · exact .later hno (ih.mp rest)
    · rintro (h | ⟨hno, rest⟩)
      · exact .here h
      · exact .later hno (ih.mpr rest)

theorem First.of_iff {r r' : α → β → Prop} {as : List α} {b : β}
    (h : ∀ a ∈ as, ∀ b, r a b ↔ r' a b) (hr : First r as b) : First r' as b := by
  induction hr with
  | here hr => exact .here ((h _ List.mem_cons_self _).mp hr)
  | later hno _ ih =>
    obtain ⟨ha, has⟩ := List.forall_mem_cons.mp h
    exact .later (fun b hb => hno b ((ha b).mpr hb)) (ih has)

theorem first_congr {r r' : α → β → Prop} {as : List α} {b : β}
    (h : ∀ a ∈ as, ∀ b, r a b ↔ r' a b) : First r as b ↔ First r' as b :=
  ⟨.of_iff h, .of_iff fun a ha b => (h a ha b).symm⟩

theorem sublist_flatMap {f : α → List β} {l m : List α} (h : l.Sublist m) :
    (l.flatMap f).Sublist (m.flatMap f) := by
  induction h with
  | slnil => exact .refl _
  | cons a _ ih =>
    rw [List.flatMap_cons]
    exact ih.trans (List.sublist_append_right _ _)
  | cons_cons a _ ih =>
    rw [List.flatMap_cons, List.flatMap_cons]
    exact (List.Sublist.refl _).append ih

theorem mapM_eq_ok {f : α → Except ε β} {l : List α} {m : List β} :
    l.mapM f = .ok m ↔ List.Forall₂ (fun a b => f a = .ok b) l m := by
  induction l generalizing m with
  | nil =>
    rw [List.mapM_nil, List.forall₂_nil_left_iff]
    exact ⟨fun h => by cases h; rfl, fun h => by rw [h]; rfl⟩
  | cons a l ih =>
    rw [List.mapM_cons, List.forall₂_cons_left_iff]
    constructor
    · intro h
      obtain ⟨b, hb, h⟩ := bind_eq_ok.mp h
      obtain ⟨bs, hbs, h⟩ := bind_eq_ok.mp h
      cases h
      exact ⟨b, bs, hb, ih.mp hbs, rfl⟩
    · rintro ⟨b, bs, hb, hbs, rfl⟩
      rw [hb, ih.mpr hbs]
      rfl

/-- The error of a list is that of the first of its members that has one. -/
theorem mapM_eq_error {f : α → Except ε β} {l : List α} {e : ε} :
    l.mapM f = .error e ↔ First (fun a e => f a = .error e) l e := by
  induction l with
  | nil => exact ⟨nofun, nofun⟩
  | cons a l ih =>
    rw [List.mapM_cons]
    cases ha : f a with
    | error e' =>
      constructor
      · intro h
        cases h
        exact .here ha
      · rintro (h | ⟨hno, -⟩)
        · cases ha.symm.trans h
          rfl
        · exact (hno e' ha).elim
    | ok b =>
      have hno : ∀ e, ¬ f a = .error e := fun e he => by rw [ha] at he; cases he
      constructor
      · intro h
        rcases bind_eq_error.mp h with h | ⟨_, -, h⟩
        · cases h
        · rcases bind_eq_error.mp h with h | ⟨_, -, h⟩
          · exact .later hno (ih.mp h)
          · cases h
      · rintro (h | ⟨-, rest⟩)
        · exact (hno e h).elim
        · rw [ih.mpr rest]
          rfl

/-- A fold that can fail fails at the first member that its step fails at. -/
theorem foldlM_eq_error {f : β → α → Except ε β} {l : List α} {b : β} {e : ε} :
    l.foldlM f b = .error e ↔ ∃ before a after b', l = before ++ a :: after ∧
      before.foldlM f b = .ok b' ∧ f b' a = .error e := by
  induction l generalizing b with
  | nil =>
    constructor
    · intro h
      cases h
    · rintro ⟨before, a, after, b', hl, -⟩
      cases before <;> cases hl
  | cons a l ih =>
    rw [List.foldlM_cons, bind_eq_error]
    constructor
    · rintro (h | ⟨b', hb, h⟩)
      · exact ⟨[], a, l, b, rfl, rfl, h⟩
      · obtain ⟨before, a', after, b'', rfl, hbefore, he⟩ := ih.mp h
        exact ⟨a :: before, a', after, b'', rfl, bind_eq_ok.mpr ⟨b', hb, hbefore⟩, he⟩
    · rintro ⟨before, a', after, b', hl, hbefore, he⟩
      cases before with
      | nil =>
        cases hl
        cases hbefore
        exact .inl he
      | cons c before =>
        cases hl
        rw [List.foldlM_cons] at hbefore
        obtain ⟨b'', hb, hbefore⟩ := bind_eq_ok.mp hbefore
        exact .inr ⟨b'', hb, ih.mpr ⟨before, a', after, b', rfl, hbefore, he⟩⟩

/-- A list of options that are all there is a list of members. -/
theorem eq_map_some {l : List (Option α)} (h : l.all Option.isSome = true) :
    l = l.reduceOption.map some := by
  induction l with
  | nil => rfl
  | cons a l ih =>
    rw [List.all_cons, Bool.and_eq_true] at h
    obtain ⟨a, rfl⟩ := Option.isSome_iff_exists.mp h.1
    rw [List.reduceOption_cons_of_some, List.map_cons, ← ih h.2]

theorem reduceOption_map_some (l : List α) : (l.map some).reduceOption = l := by
  simp [List.reduceOption, List.filterMap_map]

/-! ## Keys -/

variable {κ : Type} [DecidableEq κ]

/-- Among members with different keys, each is found by its key. -/
theorem find?_of_nodup {f : α → κ} {l : List α} (h : (l.map f).Nodup) {a : α} (ha : a ∈ l) :
    l.find? (fun x => f x = f a) = some a := by
  induction l with
  | nil => cases ha
  | cons b l ih =>
    rw [List.map_cons, List.nodup_cons] at h
    rcases List.mem_cons.mp ha with rfl | ha
    · simp
    · have hne : f b ≠ f a := fun heq => h.1 (heq ▸ List.mem_map_of_mem ha)
      rw [List.find?_cons_of_neg (by simpa using hne)]
      exact ih h.2 ha

/-- Among members with different keys, what is found by a key is the member of that key. -/
theorem find?_eq_some_of_nodup {f : α → κ} {l : List α} (h : (l.map f).Nodup) {k : κ} {a : α} :
    l.find? (fun x => f x = k) = some a ↔ a ∈ l ∧ f a = k := by
  constructor
  · intro ha
    exact ⟨List.mem_of_find?_eq_some ha, by simpa using List.find?_some ha⟩
  · rintro ⟨ha, rfl⟩
    exact find?_of_nodup h ha

theorem mem_of_lookup {l : List (κ × α)} {k : κ} {a : α} (h : l.lookup k = some a) :
    (k, a) ∈ l := by
  obtain ⟨l₁, l₂, rfl, -⟩ := List.lookup_eq_some_iff.mp h
  simp

/-- Among entries with different keys, each is looked up by its key. -/
theorem lookup_of_nodup {l : List (κ × α)} (h : (l.map Prod.fst).Nodup) {k : κ} {a : α}
    (ha : (k, a) ∈ l) : l.lookup k = some a := by
  induction l with
  | nil => cases ha
  | cons e l ih =>
    rw [List.map_cons, List.nodup_cons] at h
    rcases List.mem_cons.mp ha with rfl | ha
    · simp
    · have hne : k ≠ e.1 := by
        rintro rfl
        exact h.1 (List.mem_map.mpr ⟨_, ha, rfl⟩)
      rw [List.lookup_cons, beq_eq_false_iff_ne.mpr hne]
      exact ih h.2 ha

/-- Keys may be renamed, each in its own way. -/
theorem lookup_map_keys {κ' : Type} [DecidableEq κ'] {f : κ → κ'} (hf : Function.Injective f)
    (l : List (κ × α)) (k : κ) : (l.map fun e => (f e.1, e.2)).lookup (f k) = l.lookup k := by
  induction l with
  | nil => rfl
  | cons e l ih =>
    rw [List.map_cons]
    by_cases h : k = e.1
    · subst h
      rw [List.lookup_cons_self, List.lookup_cons_self]
    · rw [List.lookup_cons, List.lookup_cons, beq_eq_false_iff_ne.mpr h,
        beq_eq_false_iff_ne.mpr (hf.ne h)]
      exact ih

/-- Removing the entries of one key leaves those of the others. -/
theorem lookup_filter_ne {l : List (κ × α)} {k k' : κ} (h : k ≠ k') :
    (l.filter (·.1 ≠ k')).lookup k = l.lookup k := by
  induction l with
  | nil => rfl
  | cons e l ih =>
    by_cases he : e.1 = k'
    · rw [List.filter_cons_of_neg (by simpa using he), ih, List.lookup_cons,
        beq_eq_false_iff_ne.mpr (he ▸ h)]
    · rw [List.filter_cons_of_pos (by simpa using he), List.lookup_cons, List.lookup_cons, ih]

/-! ## Order -/

variable {cmp : α → α → Ordering} {l m : List α} {s t : Set α}

/-- A list has each member of a set once, in ascending order. -/
structure Enumerates (cmp : α → α → Ordering) (l : List α) (s : Set α) : Prop where
  ascending : l.Pairwise fun a b => cmp a b = .lt
  mem_iff : ∀ a, a ∈ l ↔ a ∈ s

theorem Enumerates.nodup [Std.ReflCmp cmp] (h : Enumerates cmp l s) : l.Nodup := by
  refine h.ascending.imp fun {a b} hlt heq => ?_
  subst heq
  have hself : cmp a a = .eq := Std.ReflCmp.compare_self
  cases hself.symm.trans hlt

theorem pairwise_mergeSort_isLE [Std.TransCmp cmp] (l : List α) :
    (l.mergeSort fun a b => (cmp a b).isLE).Pairwise fun a b => (cmp a b).isLE = true := by
  refine List.pairwise_mergeSort (fun _ _ _ => Std.TransCmp.isLE_trans) (fun a b => ?_) l
  rw [(Std.OrientedCmp.eq_swap : cmp b a = _)]
  cases cmp a b <;> rfl

/-- Members that are there once are sorted in ascending order. -/
theorem enumerates_mergeSort [Std.TransCmp cmp] [Std.LawfulEqCmp cmp] (hl : l.Nodup)
    (hs : ∀ a, a ∈ l ↔ a ∈ s) : Enumerates cmp (l.mergeSort fun a b => (cmp a b).isLE) s where
  ascending := by
    have hdifferent := (List.mergeSort_perm l fun a b => (cmp a b).isLE).nodup_iff.mpr hl
    refine ((pairwise_mergeSort_isLE l).and hdifferent).imp fun {a b} hab => ?_
    rcases Ordering.isLE_iff_eq_lt_or_eq_eq.mp hab.1 with hlt | heq
    · exact hlt
    · exact (hab.2 (Std.LawfulEqCmp.eq_of_compare heq)).elim
  mem_iff a := by rw [List.mem_mergeSort, hs]

/-- Sets that are listed alike are the same. -/
theorem Enumerates.eq_iff [Std.OrientedCmp cmp] (hl : Enumerates cmp l s)
    (hm : Enumerates cmp m t) : l = m ↔ s = t := by
  constructor
  · rintro rfl
    exact Set.ext fun a => (hl.mem_iff a).symm.trans (hm.mem_iff a)
  · rintro rfl
    have hperm : l.Perm m := (List.perm_ext_iff_of_nodup hl.nodup hm.nodup).mpr fun a =>
      (hl.mem_iff a).trans (hm.mem_iff a).symm
    refine hperm.eq_of_pairwise (fun a b _ _ hab hba => ?_) hl.ascending hm.ascending
    exact (Std.OrientedCmp.not_lt_of_lt hab hba).elim

theorem eraseDups_of_nodup [BEq α] [LawfulBEq α] (h : l.Nodup) : l.eraseDups = l := by
  induction l with
  | nil => rfl
  | cons a l ih =>
    obtain ⟨ha, hl⟩ := List.nodup_cons.mp h
    have hkeep : l.filter (fun b => !b == a) = l := by
      refine List.filter_eq_self.mpr fun b hb => ?_
      have hne : b ≠ a := fun heq => ha (heq ▸ hb)
      simpa using hne
    rw [List.eraseDups_cons, hkeep, ih hl]

end MetaSchema
