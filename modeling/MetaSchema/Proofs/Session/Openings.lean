import MetaSchema.Proofs.Session.Chain
import MetaSchema.Proofs.Session.WriteOnce
import Mathlib.Data.Set.Card

/-!
# Which schemas are opened

A schema that compiled is not opened again. One that failed is, where another chain of imports leads to it.

* `Environment.unfolded`: the schemas that chains of imports lead to, once for each chain.
* `Session.Opens`: the schemas that were opened from one session to another, with what was counted and
  reported of them. They follow the chains, and none was cached before; after a success none was opened
  twice.
* `loadImports_opens`, `compileTree_opens`, `fetchWith_opens`: what one level of loading opens.
* `load_opens`: so it is at every level, by induction on the number of levels that are left.
* `compiled_once`: what the first operation of a session opens. `not_compiled_once`: a schema that fails may be
  opened twice.
-/

namespace MetaSchema

open Relation (ReflTransGen)

open Session

namespace Environment

/-- The schemas that chains of imports lead to from a schema, itself included, down to a number of levels.
A chain has no schema twice and none from `above`. A schema is listed once for each chain. -/
def unfolded (env : Environment) : Nat → List SchemaIdentifier → SchemaIdentifier → List SchemaIdentifier
  | 0, _, _ => []
  | levels + 1, above, id =>
    if id ∈ above then []
    else id :: (env.importsOf id).flatMap (unfolded env levels (id :: above))

/-- Whether the source opens anything for a schema. -/
def opens (env : Environment) (id : SchemaIdentifier) : Bool := (env.source id).toBool

variable {env : Environment} {id x : SchemaIdentifier} {above : List SchemaIdentifier}

theorem mem_closure_of_mem_unfolded {levels : Nat} (h : x ∈ env.unfolded levels above id) :
    x ∈ env.closure id := by
  induction levels generalizing above id with
  | zero => cases h
  | succ levels ih =>
    rw [unfolded] at h
    split at h
    · cases h
    · rcases List.mem_cons.mp h with rfl | h
      · exact mem_closure_self
      · obtain ⟨i, hi, h⟩ := List.mem_flatMap.mp h
        exact closure_subset (mem_importsOf.mp hi) (ih h)

theorem notMem_of_mem_unfolded {levels : Nat} (h : x ∈ env.unfolded levels above id) : x ∉ above := by
  induction levels generalizing above id with
  | zero => cases h
  | succ levels ih =>
    rw [unfolded] at h
    split at h
    · cases h
    · rename_i hid
      rcases List.mem_cons.mp h with rfl | h
      · exact hid
      · obtain ⟨i, -, h⟩ := List.mem_flatMap.mp h
        exact fun hx => ih h (List.mem_cons_of_mem id hx)

end Environment

namespace Session

/-- From the session `s` to the session `s'` the schemas `opened` were opened, in this order. They are some
of those in `chains`, in the same order, and none of them was cached. Each of them that its source had a
document for was counted, and what there is to report of it was reported. If it was a success, none of them
was opened twice, and all are cached. -/
structure Opens (env : Environment) (chains : List SchemaIdentifier) (success : Prop) (s s' : Session)
    (issues : List Issue) (opened : List SchemaIdentifier) : Prop where
  openings_eq : s'.openings.map Opening.schema = opened.reverse ++ s.openings.map Opening.schema
  sublist : opened.Sublist chains
  uncached : ∀ id ∈ opened, s.cached? id = none
  compilations_eq : s'.compilations = s.compilations + opened.countP env.opens
  issues_eq : issues.filter Issue.isOfDocument = opened.flatMap env.reports
  once : success → opened.Nodup ∧ ∀ id ∈ opened, (s'.cached? id).isSome = true

variable {env : Environment} {chains chains' : List SchemaIdentifier} {success success' : Prop}
  {s s₀ s' s'' : Session} {issues issues' : List Issue} {opened opened' : List SchemaIdentifier}

theorem Opens.refl (s : Session) : Opens env chains success s s [] [] where
  openings_eq := rfl
  sublist := List.nil_sublist chains
  uncached := by simp
  compilations_eq := rfl
  issues_eq := rfl
  once := by simp

/-- One after the other: what is cached after the first success is not opened by the second. -/
theorem Opens.trans (h : Opens env chains success s s' issues opened)
    (h' : Opens env chains' success' s' s'' issues' opened') (hgrows : s.Extends s')
    (hgrows' : s'.Extends s'') : Opens env (chains ++ chains') (success ∧ success') s s''
      (issues ++ issues') (opened ++ opened') where
  openings_eq := by
    rw [h'.openings_eq, h.openings_eq, List.reverse_append, List.append_assoc]
  sublist := h.sublist.append h'.sublist
  uncached := by
    intro id hid
    -- The second opens only what is not cached after the first, so it was not cached before.
    rcases List.mem_append.mp hid with hid | hid
    · exact h.uncached id hid
    · cases hc : s.cached? id with
      | none => rfl
      | some schema =>
        have hstill := hgrows.cached id schema hc
        rw [h'.uncached id hid] at hstill
        cases hstill
  compilations_eq := by
    rw [h'.compilations_eq, h.compilations_eq, List.countP_append, Nat.add_assoc]
  issues_eq := by
    rw [List.filter_append, h.issues_eq, h'.issues_eq, List.flatMap_append]
  once := by
    rintro ⟨hs, hs'⟩
    obtain ⟨hnodup, hcached⟩ := h.once hs
    obtain ⟨hnodup', hcached'⟩ := h'.once hs'
    refine ⟨List.nodup_append.mpr ⟨hnodup, hnodup', ?_⟩, fun id hid => ?_⟩
    · -- What the first has opened it has cached, as it succeeded; the second cannot open it.
      rintro id hid _ hid' rfl
      have hsome := hcached id hid
      rw [h'.uncached id hid'] at hsome
      cases hsome
    · rcases List.mem_append.mp hid with hid | hid
      · obtain ⟨schema, hc⟩ := Option.isSome_iff_exists.mp (hcached id hid)
        exact Option.isSome_iff_exists.mpr ⟨schema, hgrows'.cached id schema hc⟩
      · exact hcached' id hid

/-- The same in other words: sessions that opened and counted the same, and other issues. -/
theorem Opens.congr (h : Opens env chains success s s' issues opened)
    (hopened : s₀.openings = s.openings) (hcount : s₀.compilations = s.compilations)
    (hcached : ∀ id, s.cached? id = none → s₀.cached? id = none)
    (hopened' : s''.openings = s'.openings) (hcount' : s''.compilations = s'.compilations)
    (hgrows : ∀ id, (s'.cached? id).isSome = true → (s''.cached? id).isSome = true)
    (hissues : issues'.filter Issue.isOfDocument = issues.filter Issue.isOfDocument)
    (hsuccess : success' → success) : Opens env chains success' s₀ s'' issues' opened where
  openings_eq := by rw [hopened', hopened, h.openings_eq]
  sublist := h.sublist
  uncached := fun id hid => hcached id (h.uncached id hid)
  compilations_eq := by rw [hcount', hcount, h.compilations_eq]
  issues_eq := hissues.trans h.issues_eq
  once := fun hs => ⟨(h.once (hsuccess hs)).1, fun id hid => hgrows id ((h.once (hsuccess hs)).2 id hid)⟩

end Session

/-- Loading opens schemas that chains of imports lead to, down to a number of levels. No chain goes through
the schemas `above`, if the import graph leads from them to the requester. -/
def Loading.Opens (env : Environment) (levels : Nat) (load : Loading) : Prop :=
  ∀ above requester target (s : Session), s.Valid → (∀ x ∈ above, s.graph.Reaches x requester) →
    ∃ opened, Session.Opens env (env.unfolded levels above target)
      (∃ schema, (load requester target s).value = .ok schema) s (load requester target s).state
      (load requester target s).issues opened

variable {env : Environment} {load : Loading} {levels : Nat} {above : List SchemaIdentifier} {s : Session}

/-! ## One level of loading -/

theorem loadImports_opens (hk : load.Keeps) (hl : load.Opens env levels) (owner : SchemaIdentifier)
    (ns : List (ImportNode .bound)) (hs : s.Valid) (habove : ∀ x ∈ above, s.graph.Reaches x owner) :
    ∃ opened, Opens env ((ns.map (·.data)).flatMap (env.unfolded levels above))
      ((loadImports load owner ns s).failed = false) s (loadImports load owner ns s).session
      (loadImports load owner ns s).issues opened := by
  induction ns generalizing s with
  | nil => exact ⟨[], .refl s⟩
  | cons n ns ih =>
    obtain ⟨hadv, -⟩ := hk owner n.data s hs
    obtain ⟨opened, hfirst⟩ := hl above owner n.data s hs habove
    obtain ⟨opened', hrest⟩ := ih hadv.valid fun x hx => hadv.grows.reaches (habove x hx)
    have hgrows := (loadImports_advances hk owner ns _ hadv.valid).1.grows
    -- Whatever became of this import, the others are loaded after it.
    have hboth := hfirst.trans hrest hadv.grows hgrows
    refine ⟨opened ++ opened', ?_⟩
    rw [List.map_cons, List.flatMap_cons, loadImports]
    split
    · rename_i schema hvalue
      exact hboth.congr rfl rfl (fun _ h => h) rfl rfl (fun _ h => h) rfl fun h => ⟨⟨schema, hvalue⟩, h⟩
    · refine hboth.congr rfl rfl (fun _ h => h) rfl rfl (fun _ h => h) ?_ fun h => by cases h
      -- That an import failed is not about a document.
      simp only [List.filter_append, List.append_assoc]
      split <;> rfl

/-- The imports of a tree, if it binds. -/
def Tree.importsBound (tree : Tree .parsed) : List SchemaIdentifier :=
  match tree.bind.value with
  | none => []
  | some b => b.imports.map (·.data)

theorem Environment.importsOf_eq {id : SchemaIdentifier} {tree : Tree .parsed}
    (h : env.served? id = some tree) : env.importsOf id = tree.importsBound := by
  have hb : env.bound? id = tree.bind.value := by rw [bound?, h, Option.bind_some]
  cases hv : tree.bind.value <;> simp only [importsOf, Tree.importsBound, hb, hv]

/-- Typing reports nothing of a document but what loading its imports does. -/
theorem Tree.filter_issues_typeWith (b : Tree .bound) :
    (b.typeWith load s).issues.filter Issue.isOfDocument =
      (loadImports load b.data b.imports s).issues.filter Issue.isOfDocument := by
  unfold typeWith
  simp only
  split
  · rw [List.filter_append]
    exact List.append_nil _
  · rfl
  · split <;> rfl

/-- Compiling a tree opens what its imports lead to. -/
theorem compileTree_opens (hk : load.Keeps) (hl : load.Opens env levels) (tree : Tree .parsed)
    (above : List SchemaIdentifier) (hs : s.Valid) (hnew : s.cached? tree.identifier = none)
    (habove : ∀ x ∈ above, s.graph.Reaches x tree.identifier) :
    ∃ opened issues, (s.compileTree load tree).issues = tree.bind.issues ++ issues ∧
      Opens env (tree.importsBound.flatMap (env.unfolded levels above))
        (∃ schema, (s.compileTree load tree).value = .ok (some schema)) s
        (s.compileTree load tree).state issues opened := by
  unfold Tree.importsBound
  have hc := compilesTree load tree s
  generalize s.compileTree load tree = o at hc
  -- A tree that was bound ends in one of three ways, and has opened what its imports lead to.
  have hloads : ∀ {b : Tree .bound}, tree.bind.value = some b → tree.bind.issues = [] ∧
      (b.typeWith load s).state.cached? tree.identifier = none ∧ ∃ opened, Opens env
        ((b.imports.map (·.data)).flatMap (env.unfolded levels above))
        ((loadImports load b.data b.imports s).failed = false) s (b.typeWith load s).state
        (b.typeWith load s).issues opened := by
    intro b hb
    have hdata := (Tree.bind_eq_some hb).data_eq
    rw [← hdata] at habove hnew ⊢
    obtain ⟨opened, hopens⟩ := loadImports_opens hk hl b.data b.imports hs habove
    have hquiet := (loadImports_advances hk b.data b.imports s hs).1.quiet _ .refl hnew
    rw [Tree.state_typeWith]
    exact ⟨Tree.issues_of_bind_eq_some hb, hquiet, opened, hopens.congr rfl rfl (fun _ h => h) rfl rfl
      (fun _ h => h) b.filter_issues_typeWith id⟩
  rcases hc with hb | @⟨b, schema, hb, ht⟩ | @⟨b, hb, ht⟩ | @⟨b, hb, ht⟩
  · exact ⟨[], [], (List.append_nil _).symm, .refl s⟩
  all_goals
    obtain ⟨hquiet, hstill, opened, hopens⟩ := hloads hb
    refine ⟨opened, (b.typeWith load s).issues, by rw [hquiet]; rfl, ?_⟩
    simp only [hb]
  · refine hopens.congr rfl rfl (fun _ h => h) rfl rfl (fun id hid => ?_) rfl fun _ =>
      (Tree.typeWith_eq_ok.mp ht).1
    obtain ⟨old, hold⟩ := Option.isSome_iff_exists.mp hid
    exact Option.isSome_iff_exists.mpr ⟨old, (extends_store hstill).cached id old hold⟩
  · refine hopens.congr rfl rfl (fun _ h => h) (by simp [blame]; split <;> rfl)
      (by simp [blame]; split <;> rfl) (fun id hid => ?_) rfl (by simp)
    rwa [cached?_blame]
  · exact hopens.congr rfl rfl (fun _ h => h) rfl rfl (fun _ h => h) rfl (by simp)

/-- A schema that its source does not serve is opened, and nothing else happens. -/
theorem fetchWith_of_unserved (load : Loading) (s : Session) {target : SchemaIdentifier}
    (h : env.served? target = none) (level : Nat) :
    ∃ e, s.fetchWith env load target level =
      ⟨if env.opens target then (s.recordOpening target level).countCompilation
        else s.recordOpening target level, .error e, env.remarks target⟩ := by
  unfold fetchWith Environment.remarks Environment.opens
  unfold Environment.served? at h
  cases hsource : env.source target with
  | error e => exact ⟨_, rfl⟩
  | ok opened =>
    simp only [hsource, compileWith] at h ⊢
    split
    · exact ⟨_, rfl⟩
    · rename_i tree hparse
      have hid : target ≠ tree.identifier := by
        rintro rfl
        simp [hparse] at h
      simp only [compileParsed, ne_eq, hid, not_false_eq_true, ↓reduceIte, List.append_nil]
      exact ⟨_, rfl⟩

/-- **Opening a schema** and compiling it, which is not cached and was not opened `above`. -/
theorem fetchWith_opens (henv : env.parser.languages = [.version1]) (hk : load.Keeps)
    (hl : load.Opens env levels) (target : SchemaIdentifier) (level : Nat)
    (above : List SchemaIdentifier) (hs : s.Valid) (hnew : s.cached? target = none)
    (habove : ∀ x ∈ above, s.graph.Reaches x target) :
    ∃ opened, Opens env
      (target :: (env.importsOf target).flatMap (env.unfolded levels (target :: above)))
      (∃ schema, (s.fetchWith env load target level).value = .ok schema) s
      (s.fetchWith env load target level).state (s.fetchWith env load target level).issues
      (target :: opened) := by
  cases hserved : env.served? target with
  | none =>
    -- There is no tree of this schema, so none of its imports is opened.
    obtain ⟨e, hfetch⟩ := fetchWith_of_unserved load s hserved level
    rw [hfetch]
    refine ⟨[], ?_, by simp, by simpa using hnew, ?_, ?_, fun ⟨_, h⟩ => by cases h⟩
    · split <;> rfl
    · by_cases hopens : env.opens target = true <;> simp [hopens, recordOpening, countCompilation]
    · rw [(Environment.remarks_ofDocument henv target).filter_eq]
      simp [Environment.reports, hserved]
  | some tree =>
    obtain ⟨hid, opened, hopened, -⟩ := Environment.served?_eq_some hserved
    subst hid
    have hrecorded : Advances (fun _ => False) s
        (s.recordOpening tree.identifier level).countCompilation := .of_eq hs rfl rfl
    obtain ⟨opened, issues, hissues, hopens⟩ := compileTree_opens hk hl tree
      (tree.identifier :: above) hrecorded.valid hnew (by
        intro x hx
        rcases List.mem_cons.mp hx with rfl | hx
        · exact .refl
        · exact habove x hx)
    have hcached := (compileTree_advances hk tree hrecorded.valid hnew).2
    rw [fetchWith_of_served hserved]
    simp only [Environment.importsOf_eq hserved, loaded_eq_ok]
    refine ⟨opened, ?_, hopens.sublist.cons_cons _, ?_, ?_, ?_, ?_⟩
    · rw [hopens.openings_eq]
      simp [recordOpening, countCompilation]
    · intro id hmem
      rcases List.mem_cons.mp hmem with rfl | hmem
      · exact hnew
      · exact hopens.uncached id hmem
    · have hsource : env.opens tree.identifier = true := by rw [Environment.opens, hopened]; rfl
      rw [hopens.compilations_eq, List.countP_cons_of_pos hsource]
      simp only [recordOpening, countCompilation]
      omega
    · rw [hissues, ← List.append_assoc, List.filter_append, hopens.issues_eq, List.flatMap_cons]
      have hreports : env.reports tree.identifier = env.remarks tree.identifier ++ tree.bind.issues := by
        simp only [Environment.reports, hserved]
      rw [← hreports, (Environment.reports_ofDocument henv tree.identifier).filter_eq]
    · rintro ⟨schema, hok⟩
      obtain ⟨hnodup, hall⟩ := hopens.once ⟨schema, hok⟩
      refine ⟨List.nodup_cons.mpr ⟨fun hmem => ?_, hnodup⟩, fun id hmem => ?_⟩
      · -- The schema itself is above its imports, so no chain from them leads back to it.
        obtain ⟨i, -, hi⟩ := List.mem_flatMap.mp (hopens.sublist.subset hmem)
        exact Environment.notMem_of_mem_unfolded hi List.mem_cons_self
      · rcases List.mem_cons.mp hmem with rfl | hmem
        · exact Option.isSome_iff_exists.mpr ⟨schema, hcached schema hok⟩
        · exact hall id hmem

/-! ## Every level of loading -/

/-- **Loading an import** opens what chains of imports lead to, and nothing that was cached or is being
compiled. -/
theorem load_opens (henv : env.parser.languages = [.version1]) (levels : Nat) :
    (Session.load env levels).Opens env levels := by
  induction levels with
  | zero =>
    intro above requester target s hs habove
    simp only [Session.load]
    split
    · exact ⟨[], .refl s⟩
    · exact ⟨[], .refl s⟩
  | succ levels ih =>
    intro above requester target s hs habove
    simp only [Session.load]
    split
    · exact ⟨[], .refl s⟩
    · rename_i hnew
      split
      · exact ⟨[], .refl s⟩
      · rename_i g hg
        obtain ⟨hback, hi⟩ := ImportGraph.inserted_of_addEdge? hs.graph hg
        have hrecorded : Advances (fun _ => False) s { s with graph := g } := hs.advances_edge hg
        obtain ⟨opened, hopens⟩ := fetchWith_opens henv (load_keeps env levels) ih target
          (env.maxImportDepth - levels) above hrecorded.valid hnew
          fun x hx => (hi.reaches (habove x hx)).tail hi.edge
        refine ⟨target :: opened, ?_⟩
        -- The edge would have been refused if the target were above.
        rw [Environment.unfolded, if_neg fun hmem => hback (habove target hmem)]
        exact hopens.congr rfl rfl (fun _ h => h) rfl rfl (fun _ h => h) rfl id

/-! ## Operations -/

/-- What is reported while a document is parsed and bound. -/
def Parser.reports (p : Parser) (uri : String) (document : Text.Octets) : List Issue :=
  (p.parse uri document).issues ++
    match (p.parse uri document).value with
    | none => []
    | some tree => tree.bind.issues

/-- The imports of a document, if it parses and binds. -/
def Parser.imports (p : Parser) (uri : String) (document : Text.Octets) : List SchemaIdentifier :=
  match (p.parse uri document).value with
  | none => []
  | some tree => tree.importsBound

/-- The schema of a document, if it parses. -/
def Parser.schema? (p : Parser) (uri : String) (document : Text.Octets) : Option SchemaIdentifier :=
  (p.parse uri document).value.map (·.identifier)

/-- The number of schemas compiled is at most that of different schemas reached, if none is opened twice. -/
theorem Session.Opens.compilations_le {chains : List SchemaIdentifier} {success : Prop} {s s' : Session}
    {issues : List Issue} {opened : List SchemaIdentifier} (h : Opens env chains success s s' issues opened)
    {reached : Set SchemaIdentifier} (hreached : ∀ x ∈ chains, x ∈ reached) (hnodup : opened.Nodup) :
    (s'.compilations : ℕ∞) ≤ s.compilations + reached.encard := by
  have hsub : ((opened.toFinset : Finset SchemaIdentifier) : Set SchemaIdentifier) ⊆ reached := by
    intro x hx
    exact hreached x (h.sublist.subset (by simpa using hx))
  have hcard : (opened.length : ℕ∞) ≤ reached.encard := by
    refine le_trans ?_ (Set.encard_le_encard hsub)
    rw [Set.encard_coe_eq_coe_finsetCard, List.toFinset_card_of_nodup hnodup]
  have hcount : (opened.countP env.opens : ℕ∞) ≤ opened.length := by
    exact_mod_cast List.countP_le_length
  rw [h.compilations_eq, Nat.cast_add]
  exact add_le_add_right (hcount.trans hcard) _

theorem loadRoot_opens (henv : env.parser.languages = [.version1]) (target : SchemaIdentifier)
    (hs : s.Valid) : ∃ opened, Opens env (env.unfolded (env.maxImportDepth + 1) [] target)
      (∃ schema, (s.loadRoot env target).value = .ok schema) s (s.loadRoot env target).state
      (s.loadRoot env target).issues opened := by
  unfold loadRoot
  split
  · exact ⟨[], .refl s⟩
  · rename_i hnew
    obtain ⟨opened, hopens⟩ := fetchWith_opens henv (load_keeps env env.maxImportDepth)
      (load_opens henv env.maxImportDepth) target 0 [] (mention_advances hs target).valid hnew (by simp)
    rw [Environment.unfolded, if_neg List.not_mem_nil]
    exact ⟨_, hopens.congr rfl rfl (fun _ h => h) rfl rfl (fun _ h => h) rfl id⟩

/-- Compiling a document whose schema is not cached counts it, and opens what its imports lead to. -/
theorem compileDocument_opens (henv : env.parser.languages = [.version1]) (uri : String)
    (document : Text.Octets) (hs : s.Valid)
    (hnew : ∀ id, env.parser.schema? uri document = some id → s.cached? id = none) :
    ∃ opened issues, (s.compileDocument env uri document).issues =
        env.parser.reports uri document ++ issues ∧
      Opens env ((env.parser.imports uri document).flatMap
          (env.unfolded env.maxImportDepth (env.parser.schema? uri document).toList))
        (∃ schema, (s.compileDocument env uri document).value = some schema) s.countCompilation
        (s.compileDocument env uri document).state issues opened := by
  unfold compileDocument compileWith Parser.reports Parser.imports Parser.schema?
  simp only [parseOpened]
  cases hparse : (env.parser.parse uri document).value with
  | none => exact ⟨[], [], by simp, .refl _⟩
  | some tree =>
    have hcounted : Advances (fun _ => False) s s.countCompilation := .of_eq hs rfl rfl
    have hnew' : s.countCompilation.cached? tree.identifier = none :=
      hnew tree.identifier (by simp [Parser.schema?, hparse])
    simp only [compileParsed, hnew', Option.map_some, Option.toList_some]
    obtain ⟨opened, issues, hissues, hopens⟩ := compileTree_opens
      (load_keeps env env.maxImportDepth) (load_opens henv env.maxImportDepth) tree [tree.identifier]
      (mention_advances hcounted.valid tree.identifier).valid hnew' (by simpa using .refl)
    have hc := compilesTree (Session.load env env.maxImportDepth) tree
      (s.countCompilation.mention tree.identifier)
    generalize (s.countCompilation.mention tree.identifier).compileTree
      (Session.load env env.maxImportDepth) tree = o at hissues hopens hc
    -- Compiling a tree gives a schema or nothing; it has no error of its own.
    obtain ⟨result, hresult⟩ : ∃ result, o.value = .ok result := by
      cases hc <;> exact ⟨_, rfl⟩
    simp only [hresult, Except.ok.injEq] at hopens ⊢
    refine ⟨opened, issues, by rw [hissues, List.append_assoc], ?_⟩
    exact hopens.congr rfl rfl (fun _ h => h) rfl rfl (fun _ h => h) rfl id

/-- **Compiled once.** In the first operation of a session, whenever a schema is about to be compiled, it is
not cached, and it is not being compiled already. So nothing that has compiled is compiled again; what has
failed may be. Loading a schema, or compiling a document, opens schemas along the chains of imports, each at
most once for each chain, and reports what there is to report of their documents as often as they are
opened. None is opened twice if the operation succeeds, or if no two chains lead to one schema. Then no more
schemas are compiled than different ones are reached, besides the document itself. -/
theorem compiled_once (source : Source) (nodesLimit maxImportDepth : Nat) :
    let env := source.environment nodesLimit maxImportDepth
    (∀ stack levels tree s, Compiling env fresh stack levels tree s →
      stack.head? = some tree.identifier ∧ stack.Nodup ∧ ∀ x ∈ stack, s.cached? x = none) ∧
    (∀ target,
      let o := fresh.loadRoot env target
      let success := ∃ schema, o.value = .ok schema
      let chains := env.unfolded (maxImportDepth + 1) [] target
      ∃ opened, Opens env chains success fresh o.state o.issues opened ∧
        (success ∨ chains.Nodup →
          opened.Nodup ∧ (o.state.compilations : ℕ∞) ≤ (env.closure target).encard)) ∧
    ∀ uri document,
      let o := fresh.compileDocument env uri document
      let success := ∃ schema, o.value = some schema
      let own := env.parser.schema? uri document
      let imports := env.parser.imports uri document
      let chains := imports.flatMap (env.unfolded maxImportDepth own.toList)
      ∃ opened issues, o.issues = env.parser.reports uri document ++ issues ∧
        Opens env chains success fresh.countCompilation o.state issues opened ∧
        (∀ id ∈ own, id ∉ opened) ∧
        (success ∨ chains.Nodup → opened.Nodup ∧
          (o.state.compilations : ℕ∞) ≤ 1 + {x | ∃ i ∈ imports, x ∈ env.closure i}.encard) := by
  intro env
  have henv : env.parser.languages = [.version1] := rfl
  refine ⟨fun stack levels tree s hc => ?_, fun target => ?_, fun uri document => ?_⟩
  · obtain ⟨hunderway, -⟩ := hc.underWay valid_fresh
    exact ⟨hunderway.head, hunderway.nodup, hunderway.uncached⟩
  · intro o success chains
    obtain ⟨opened, hopens⟩ := loadRoot_opens henv target valid_fresh
    refine ⟨opened, hopens, fun h => ?_⟩
    have hnodup : opened.Nodup := h.elim (fun hs => (hopens.once hs).1) fun hc => hc.sublist hopens.sublist
    have hle := hopens.compilations_le (fun x => Environment.mem_closure_of_mem_unfolded) hnodup
    rw [show fresh.compilations = 0 from rfl, Nat.cast_zero, zero_add] at hle
    exact ⟨hnodup, hle⟩
  · intro o success own imports chains
    obtain ⟨opened, issues, hissues, hopens⟩ :=
      compileDocument_opens henv uri document valid_fresh fun _ _ => rfl
    refine ⟨opened, issues, hissues, hopens, fun id hid hmem => ?_, fun h => ?_⟩
    · obtain ⟨i, -, hi⟩ := List.mem_flatMap.mp (hopens.sublist.subset hmem)
      exact Environment.notMem_of_mem_unfolded hi (Option.mem_toList.mpr hid)
    · have hnodup : opened.Nodup := h.elim (fun hs => (hopens.once hs).1) fun hc => hc.sublist hopens.sublist
      refine ⟨hnodup, hopens.compilations_le (fun x hx => ?_) hnodup⟩
      obtain ⟨i, hi, hx⟩ := List.mem_flatMap.mp hx
      exact ⟨i, hi, Environment.mem_closure_of_mem_unfolded hx⟩

/-! ## A schema that fails and is imported twice -/

namespace Sample

/-- Serves the reader, which imports Dublin and Core, Dublin, which imports Core, and for Core a document
that breaks off. -/
def diamondSource : Source := fun id =>
  if id = reader then
    .ok ⟨"memory:reader", .ok (octets (document "Reader" (importOf "Dublin" ++ importOf "Core")))⟩
  else if id = dublin then .ok ⟨"memory:dublin", .ok (octets dublinDocument)⟩
  else if id = core then .ok ⟨"memory:core", .ok (octets ["<Schema"])⟩
  else .error .notFound

theorem diamond_closure_le : ((diamondSource.environment 1000 2).closure reader).encard ≤ 3 := by
  have hclosed : ∀ a ∈ [reader, dublin, core], ∀ b ∈ (diamondSource.environment 1000 2).importsOf a,
      b ∈ [reader, dublin, core] := by
    decide +kernel
  have hle := (diamondSource.environment 1000 2).encard_closure_le_length _ List.mem_cons_self hclosed
  simpa using hle

end Sample

/-- A schema that failed is opened and compiled again, and its document is reported again. -/
theorem not_compiled_once :
    let env := Sample.diamondSource.environment 1000 2
    let o := fresh.loadRoot env Sample.reader
    ¬ (o.state.openings.map Opening.schema).Nodup ∧
      ¬ (o.state.compilations : ℕ∞) ≤ (env.closure Sample.reader).encard ∧
      ∃ i, env.reports Sample.core = [i] ∧ ¬ o.issues.count i ≤ 1 := by
  intro env o
  have hopened : o.state.openings.map Opening.schema =
      [Sample.core, Sample.core, Sample.dublin, Sample.reader] := by
    decide +kernel
  have hcompiled : o.state.compilations = 4 := by decide +kernel
  have hreported : (env.reports Sample.core).length = 1 ∧
      ∀ i ∈ env.reports Sample.core, o.issues.count i = 2 := by
    decide +kernel
  refine ⟨by rw [hopened]; decide, fun hle => ?_, ?_⟩
  · rw [hcompiled] at hle
    exact absurd (hle.trans Sample.diamond_closure_le) (by decide)
  · obtain ⟨i, hi⟩ := List.length_eq_one_iff.mp hreported.1
    have hcount := hreported.2 i (by rw [hi]; exact List.mem_singleton_self i)
    exact ⟨i, hi, by omega⟩

end MetaSchema
