import MetaSchema.Proofs.Session.Operation
import Mathlib.Data.List.Induction

/-!
# Compilations under way

While a schema is compiled its imports are loaded, and each of them may be compiled in turn. So inside
an operation there is a stack of schemas whose compilation has begun and not ended.

* `Enters`: a session goes on to compile an import that it has just recorded.
* `Compiling`: a tree is about to be bound and typed, with a stack of compilations under way.
* `UnderWay`: the invariant. No schema is twice on the stack, none is cached, and all of them lead to the
  innermost one in the import graph, so that the graph refuses to import any of them again.
* `Compiling.underWay`, `UnderWay.typeWith`: the invariant holds when a compilation begins and
  when its schema is about to be stored.
* `Stored`: in some operation a compilation gave the schema.
* `accounted_run`: so it is with every cached schema.
-/

namespace MetaSchema.Session

/-- `s` has recorded that `requester` imports `target` and opened it, and goes on to compile `tree` in
`s'`, with `levels` more levels of imports to follow. -/
structure Enters (env : Environment) (levels : Nat) (requester target : SchemaIdentifier)
    (s : Session) (tree : Tree .parsed) (s' : Session) : Prop where
  uncached : s.cached? target = none
  served : env.served? target = some tree
  recorded : ∃ g, s.graph.addEdge? requester target = .ok g ∧
    s' = (({ s with graph := g } : Session).recordOpening target
      (env.maxImportDepth - levels)).countCompilation

/-- In an operation that began with the session `start`, the session `s` is about to compile a tree, with
some more levels of imports to follow. The stack has the schemas whose compilation is under way, that of
the tree first. -/
inductive Compiling (env : Environment) (start : Session) :
    List SchemaIdentifier → Nat → Tree .parsed → Session → Prop
  | document {uri : String} {document : Text.Octets} {tree : Tree .parsed}
      (hparse : (env.parser.parse uri document).value = some tree)
      (hnew : start.cached? tree.identifier = none) :
      Compiling env start [tree.identifier] env.maxImportDepth tree
        (start.countCompilation.mention tree.identifier)
  | root {target : SchemaIdentifier} {tree : Tree .parsed} (hnew : start.cached? target = none)
      (hserved : env.served? target = some tree) :
      Compiling env start [target] env.maxImportDepth tree
        ((start.mention target).recordOpening target 0).countCompilation
  | load {requester target : SchemaIdentifier} {tree : Tree .parsed} {s : Session}
      (henter : Enters env env.maxImportDepth requester target start tree s) :
      Compiling env start [target] env.maxImportDepth tree s
  | nested {stack : List SchemaIdentifier} {levels : Nat} {tree : Tree .parsed} {s : Session}
      {b : Tree .bound} {before after : List (ImportNode .bound)} {n : ImportNode .bound}
      {tree' : Tree .parsed} {s' : Session}
      (houter : Compiling env start stack (levels + 1) tree s) (hbind : tree.bind.value = some b)
      (himports : b.imports = before ++ n :: after)
      (henter : Enters env levels b.data n.data
        (loadImports (Session.load env (levels + 1)) b.data before s).session tree' s') :
      Compiling env start (n.data :: stack) levels tree' s'

/-- What holds of a session while the schemas of the stack are compiled, `current` first. -/
structure UnderWay (stack : List SchemaIdentifier) (current : SchemaIdentifier) (s : Session) :
    Prop where
  valid : s.Valid
  head : stack.head? = some current
  nodup : stack.Nodup
  uncached : ∀ x ∈ stack, s.cached? x = none
  reaches : ∀ x ∈ stack, s.graph.Reaches x current

variable {env : Environment} {start s s' : Session} {stack : List SchemaIdentifier} {levels : Nat}
  {tree : Tree .parsed} {b : Tree .bound} {requester target : SchemaIdentifier}

/-! ## The invariant -/

theorem UnderWay.mem {current : SchemaIdentifier} (h : UnderWay stack current s) : current ∈ stack :=
  List.mem_of_mem_head? h.head

/-- Nothing but one schema is compiled. -/
theorem UnderWay.single (hs : s.Valid) (hnew : s.cached? target = none) :
    UnderWay [target] target s where
  valid := hs
  head := rfl
  nodup := by simp
  uncached := by simpa using hnew
  reaches := by
    intro x hx
    cases List.mem_singleton.mp hx
    exact .refl

theorem Enters.identifier_eq (h : Enters env levels requester target s tree s') :
    tree.identifier = target :=
  (Environment.served?_eq_some h.served).1

/-- Going on to an import records its edge, which leads to no schema that leads to its start. -/
theorem Enters.advances (h : Enters env levels requester target s tree s') (hs : s.Valid) :
    Advances (fun _ => True) s s' ∧ ¬ s.graph.Reaches target requester ∧
      s'.graph.Edge requester target := by
  obtain ⟨g, hg, rfl⟩ := h.recorded
  obtain ⟨hback, hi⟩ := ImportGraph.inserted_of_addEdge? hs.graph hg
  have hrecorded : Advances (fun _ => True) s { s with graph := g } := hs.advances_edge hg
  exact ⟨hrecorded.trans (.of_eq hrecorded.valid rfl rfl), hback, hi.edge⟩

/-- Loading the imports of the innermost schema leaves all schemas of the stack uncached. -/
theorem UnderWay.loadImports {load : Loading} (hl : load.Keeps) {current : SchemaIdentifier}
    (h : UnderWay stack current s) (ns : List (ImportNode .bound)) :
    UnderWay stack current (loadImports load current ns s).session ∧
      s.Extends (loadImports load current ns s).session := by
  obtain ⟨hadv, -⟩ := loadImports_advances hl current ns s h.valid
  refine ⟨⟨hadv.valid, h.head, h.nodup, fun x hx => ?_, fun x hx => ?_⟩, hadv.grows⟩
  · exact hadv.quiet x (h.reaches x hx) (h.uncached x hx)
  · exact hadv.grows.reaches (h.reaches x hx)

/-- An import of the innermost schema is put on the stack. It was not there, or the graph would have
refused it. -/
theorem UnderWay.push (h : UnderWay stack requester s)
    (henter : Enters env levels requester target s tree s') :
    UnderWay (target :: stack) target s' := by
  obtain ⟨hadv, hback, hedge⟩ := henter.advances h.valid
  refine ⟨hadv.valid, rfl, List.nodup_cons.mpr ⟨?_, h.nodup⟩, fun x hx => ?_, fun x hx => ?_⟩
  · exact fun hmem => hback (h.reaches target hmem)
  · refine hadv.quiet x trivial ?_
    rcases List.mem_cons.mp hx with rfl | hx
    · exact henter.uncached
    · exact h.uncached x hx
  · rcases List.mem_cons.mp hx with rfl | hx
    · exact .refl
    · exact (hadv.grows.reaches (h.reaches x hx)).tail hedge

/-- **When a compilation begins**, the invariant holds and nothing is lost since the operation
began. -/
theorem Compiling.underWay (hstart : start.Valid) (h : Compiling env start stack levels tree s) :
    UnderWay stack tree.identifier s ∧ start.Extends s := by
  induction h with
  | @document _ _ tree _ hnew =>
    have hcounted : Advances (fun _ => False) start start.countCompilation := .of_eq hstart rfl rfl
    have hadv := hcounted.trans (mention_advances hcounted.valid tree.identifier)
    exact ⟨.single hadv.valid hnew, hadv.grows⟩
  | @root target _ hnew hserved =>
    have hmention := mention_advances hstart target
    have hopened : Advances (fun _ => False) (start.mention target)
        ((start.mention target).recordOpening target 0).countCompilation :=
      .of_eq hmention.valid rfl rfl
    rw [(Environment.served?_eq_some hserved).1]
    exact ⟨.single hopened.valid hnew, (hmention.trans hopened).grows⟩
  | load henter =>
    obtain ⟨hadv, -⟩ := henter.advances hstart
    rw [henter.identifier_eq]
    exact ⟨.single hadv.valid (hadv.quiet _ trivial henter.uncached), hadv.grows⟩
  | @nested _ levels _ _ _ before _ _ _ _ _ hbind _ henter ih =>
    obtain ⟨houter, hgrows⟩ := ih
    rw [henter.identifier_eq]
    rw [← (Tree.bind_eq_some hbind).data_eq] at houter
    -- The imports before this one are loaded under the same stack, which it is then put on.
    obtain ⟨hloaded, hloads⟩ := houter.loadImports (load_keeps env (levels + 1)) before
    obtain ⟨hadv, -⟩ := henter.advances hloaded.valid
    exact ⟨hloaded.push henter, hgrows.trans (hloads.trans hadv.grows)⟩

/-- **When its schema is about to be stored**, no schema of the stack is cached. -/
theorem UnderWay.typeWith (h : UnderWay stack tree.identifier s) (hbind : tree.bind.value = some b)
    (levels : Nat) : UnderWay stack tree.identifier (b.typeWith (Session.load env levels) s).state ∧
      s.Extends (b.typeWith (Session.load env levels) s).state := by
  rw [Tree.state_typeWith, (Tree.bind_eq_some hbind).data_eq]
  exact h.loadImports (load_keeps env levels) b.imports

/-! ## Where the cached schemas come from -/

/-- In an operation that began with `start`, a compilation gave the schema of an identifier. -/
def Stores (env : Environment) (start : Session) (id : SchemaIdentifier) (schema : Schema) : Prop :=
  ∃ stack levels tree s b, Compiling env start stack levels tree s ∧ tree.identifier = id ∧
    tree.bind.value = some b ∧ (b.typeWith (Session.load env levels) s).value = .ok schema

/-- In some operation a compilation gave the schema of an identifier. -/
def Stored (env : Environment) (id : SchemaIdentifier) (schema : Schema) : Prop :=
  ∃ ops, Stores env (run env ops) id schema

/-- Every cached schema has a property. -/
def CachedAll (p : SchemaIdentifier → Schema → Prop) (s : Session) : Prop :=
  ∀ id schema, s.cached? id = some schema → p id schema

variable {p : SchemaIdentifier → Schema → Prop}

theorem CachedAll.of_cache_eq (h : CachedAll p s) (hc : s'.cache = s.cache) : CachedAll p s' := by
  intro id schema hid
  rw [cached?, hc] at hid
  exact h id schema hid

theorem CachedAll.store (h : CachedAll p s) {schema : Schema} (hp : p target schema) :
    CachedAll p (s.store target schema) := by
  intro id other hid
  by_cases heq : id = target
  · subst heq
    rw [cached?_store_self] at hid
    cases hid
    exact hp
  · rw [cached?_store_ne heq] at hid
    exact h id other hid

/-- Loading an import leaves the cache alone, or goes on to compile the import. -/
theorem load_enters (env : Environment) (levels : Nat) (requester target : SchemaIdentifier)
    (s : Session) :
    (Session.load env levels requester target s).state.cache = s.cache ∨
    ∃ below tree s', levels = below + 1 ∧ Enters env below requester target s tree s' ∧
      (Session.load env levels requester target s).state =
        (s'.compileTree (Session.load env below) tree).state := by
  cases levels with
  | zero =>
    simp only [Session.load]
    split <;> exact .inl rfl
  | succ below =>
    simp only [Session.load]
    split
    · exact .inl rfl
    · rename_i hnew
      split
      · exact .inl rfl
      · rename_i g hg
        have hf := fetches env (Session.load env below) target (env.maxImportDepth - below)
          { s with graph := g }
        generalize fetchWith env (Session.load env below) target _ _ = o at hf
        rcases hf with ⟨-, hcache, -⟩ | ⟨hserved, -, -, rfl⟩
        · exact .inl hcache
        · exact .inr ⟨below, _, _, rfl, ⟨hnew, hserved, g, hg, rfl⟩, rfl⟩

/-- What compiling a tree caches, a compilation of the operation gave. -/
theorem Compiling.cachedAll (hp : ∀ id schema, Stores env start id schema → p id schema)
    (hc : Compiling env start stack levels tree s) (hs : CachedAll p s) :
    CachedAll p (s.compileTree (Session.load env levels) tree).state := by
  induction levels using Nat.strongRecOn generalizing stack tree s with
  | ind levels ih =>
  -- The imports are loaded one after the other, each in the session that the ones before it left.
  have himports : ∀ {b : Tree .bound}, tree.bind.value = some b → ∀ before after,
      b.imports = before ++ after →
      CachedAll p (loadImports (Session.load env levels) b.data before s).session := by
    intro b hbind before
    induction before using List.reverseRecOn with
    | nil => exact fun _ _ => hs
    | append_singleton before n ihbefore =>
      intro after hsplit
      have hsplit : b.imports = before ++ n :: after := by simpa using hsplit
      have hbefore := ihbefore _ hsplit
      rw [session_loadImports_concat]
      -- An import that changes the cache was itself compiled, with fewer levels left.
      rcases load_enters env levels b.data n.data
        (loadImports (Session.load env levels) b.data before s).session with
        hcache | ⟨below, tree', s', rfl, henter, hstate⟩
      · exact hbefore.of_cache_eq hcache
      · rw [hstate]
        refine ih below (by omega) (hc.nested hbind hsplit henter) (hbefore.of_cache_eq ?_)
        obtain ⟨g, -, rfl⟩ := henter.recorded
        rfl
  have htyped : ∀ {b : Tree .bound}, tree.bind.value = some b →
      CachedAll p (b.typeWith (Session.load env levels) s).state := by
    intro b hbind
    rw [Tree.state_typeWith]
    exact himports hbind b.imports [] (by simp)
  have ho := compilesTree (Session.load env levels) tree s
  generalize s.compileTree (Session.load env levels) tree = o at ho
  rcases ho with - | ⟨hbind, ht⟩ | ⟨hbind, -⟩ | ⟨hbind, -⟩
  · exact hs
  · exact (htyped hbind).store (hp _ _ ⟨stack, levels, tree, s, _, hc, rfl, hbind, ht⟩)
  · exact (htyped hbind).of_cache_eq cache_blame
  · exact htyped hbind

/-- A session that operations led to, with nothing cached but what compilations gave. -/
structure Accounted (env : Environment) (s : Session) : Prop where
  reached : ∃ ops, run env ops = s
  cached : CachedAll (Stored env) s

theorem Accounted.of_stores (hs : Accounted env s) :
    ∀ id schema, Stores env s id schema → Stored env id schema := by
  obtain ⟨ops, rfl⟩ := hs.reached
  exact fun _ _ h => ⟨ops, h⟩

theorem Accounted.after (hs : Accounted env s) (op : Operation)
    (hc : CachedAll (Stored env) (s.after env op)) : Accounted env (s.after env op) := by
  obtain ⟨ops, rfl⟩ := hs.reached
  exact ⟨⟨ops ++ [op], by simp [run]⟩, hc⟩

theorem Accounted.load (hs : Accounted env s) (requester target : SchemaIdentifier) :
    Accounted env (loadImport env requester target s).state := by
  refine hs.after (.load requester target) ?_
  rcases load_enters env (env.maxImportDepth + 1) requester target s with
    hcache | ⟨below, tree, s', hlevels, henter, hstate⟩
  · exact hs.cached.of_cache_eq hcache
  · obtain rfl : env.maxImportDepth = below := by omega
    have hs' : CachedAll (Stored env) s' := by
      obtain ⟨g, -, rfl⟩ := henter.recorded
      exact hs.cached.of_cache_eq rfl
    have hc := (Compiling.load henter).cachedAll hs.of_stores hs'
    rwa [← hstate] at hc

theorem Accounted.loadRoot (hs : Accounted env s) (target : SchemaIdentifier) :
    Accounted env (s.loadRoot env target).state := by
  refine hs.after (.loadRoot target) ?_
  simp only [Session.after, Session.loadRoot]
  split
  · exact hs.cached
  · rename_i hnew
    have hf := fetches env (Session.load env env.maxImportDepth) target 0 (s.mention target)
    generalize fetchWith env (Session.load env env.maxImportDepth) target _ _ = o at hf
    rcases hf with ⟨-, hcache, -⟩ | ⟨hserved, -, -, rfl⟩
    · exact hs.cached.of_cache_eq hcache
    · exact (Compiling.root hnew hserved).cachedAll hs.of_stores hs.cached

theorem Accounted.compileDocument (hs : Accounted env s) (uri : String) (document : Text.Octets) :
    Accounted env (s.compileDocument env uri document).state := by
  refine hs.after (.compileDocument uri document) ?_
  have hcompiled : CachedAll (Stored env) (s.compileWith env.parser
      (Session.load env env.maxImportDepth) ⟨uri, .ok document⟩ none).state := by
    unfold compileWith
    simp only
    split
    · exact hs.cached
    · rename_i tree hparse
      unfold compileParsed
      simp only
      split
      · exact hs.cached
      · rename_i hnew
        have hc : Compiling env s [tree.identifier] env.maxImportDepth tree
            (s.countCompilation.mention tree.identifier) := .document hparse hnew
        exact hc.cachedAll hs.of_stores hs.cached
  simp only [Session.after, Session.compileDocument]
  split <;> exact hcompiled

theorem Accounted.loadImports (hs : Accounted env s) (owner : SchemaIdentifier)
    (ns : List (ImportNode .bound)) :
    Accounted env (loadImports (loadImport env) owner ns s).session := by
  induction ns using List.reverseRecOn with
  | nil => exact hs
  | append_singleton ns n ih =>
    rw [session_loadImports_concat]
    exact ih.load owner n.data

/-- **Every cached schema was stored by a compilation**, whatever was asked of the session. -/
theorem accounted_run (env : Environment) (ops : List Operation) : Accounted env (run env ops) := by
  induction ops using List.reverseRecOn with
  | nil => exact ⟨⟨[], rfl⟩, fun _ _ h => by cases h⟩
  | append_singleton ops op ih =>
    have hrun : run env (ops ++ [op]) = (run env ops).after env op := by simp [run]
    rw [hrun]
    refine ih.after op ?_
    cases op with
    | load requester target => exact (ih.load requester target).cached
    | loadRoot target => exact (ih.loadRoot target).cached
    | compileDocument uri document => exact (ih.compileDocument uri document).cached
    | typeTree tree =>
      simp only [Session.after, Session.typeTree, Tree.state_typeWith]
      exact (ih.loadImports tree.data tree.imports).cached
    | find target => exact (ih.loadRoot target).cached
    | resolve table =>
      have h := Walk.resolve_keeps (d := directory env) (p := Accounted env)
        (fun id s hs => hs.loadRoot id) table ih
      exact h.cached

end MetaSchema.Session
