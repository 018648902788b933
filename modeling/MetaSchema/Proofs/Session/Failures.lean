import MetaSchema.Proofs.Session.Compilable
import MetaSchema.Proofs.Session.WriteOnce

/-!
# Sessions after failures

What failed operations leave behind are edges in the graph, some of them from documents that the source
does not provide. Here a session in that state loads a schema side by side with a fresh one, which loads it
with success.

* `Joined`, `Circular`: the edges that the two sessions have together, and that these lead in a circle.
* `Shadows`: the invariant. The follower has cached what the leader has, besides what it began with, and has
  their edges together.
* `Follows`: the follower gives the same schema and still shadows the leader, or it gives none and the edges
  lead in a circle.
* `load_follows`: loading follows, by induction on the number of levels that are left.
* `AfterFailures`: a session in which nothing succeeded so far.
* `loadRoot_after_failures`: what then becomes of a schema that a fresh session can load.
-/

namespace MetaSchema

open Relation (ReflTransGen TransGen)

namespace Session

/-- An edge that was there at the start, or one of the leader to a schema that was not cached at the
start. -/
def Joined (start leader : Session) (a b : SchemaIdentifier) : Prop :=
  start.graph.Edge a b ∨ leader.graph.Edge a b ∧ start.cached? b = none

/-- These edges lead from some schema back to it. -/
def Circular (start leader : Session) : Prop := ∃ a, TransGen (Joined start leader) a a

/-- The follower was in the state `start` when the leader began, and has done what the leader did. -/
structure Shadows (env : Environment) (start leader follower : Session) : Prop where
  leader_faithful : leader.Faithful env
  follower_faithful : follower.Faithful env
  cached : ∀ id, (follower.cached? id).isSome ↔ (start.cached? id).isSome ∨ (leader.cached? id).isSome
  edges : ∀ a b, follower.graph.Edge a b ↔ Joined start leader a b

/-- Where the leader gives a schema, the follower gives it too, and has done what the leader did; or it gives
none, and the edges lead in a circle. -/
def Follows {ε : Type} (env : Environment) (start : Session)
    (o o' : Outcome Session (Except ε Schema)) : Prop :=
  ∀ schema, o.value = .ok schema →
    (o'.value = .ok schema ∧ Shadows env start o.state o'.state) ∨
    ((∀ schema', o'.value ≠ .ok schema') ∧ Circular start o.state)

variable {env : Environment} {start f f' p p' : Session} {id : SchemaIdentifier}

theorem Joined.mono (h : f.Extends f') {a b : SchemaIdentifier} (hj : Joined start f a b) :
    Joined start f' a b :=
  hj.imp_right fun hf => ⟨h.edges a b hf.1, hf.2⟩

theorem Circular.mono (h : f.Extends f') : Circular start f → Circular start f' := by
  rintro ⟨a, ha⟩
  exact ⟨a, TransGen.mono (fun _ _ => Joined.mono h) _ _ ha⟩

namespace Shadows

/-- Changes that touch neither the caches nor the graphs. -/
theorem of_eq (h : Shadows env start f p) (hfc : f'.cache = f.cache) (hfg : f'.graph = f.graph)
    (hpc : p'.cache = p.cache) (hpg : p'.graph = p.graph) : Shadows env start f' p' where
  leader_faithful := h.leader_faithful.of_eq hfc hfg
  follower_faithful := h.follower_faithful.of_eq hpc hpg
  cached := by
    intro id
    have hcached := h.cached id
    rwa [cached?, cached?, cached?, ← hfc, ← hpc] at hcached
  edges := by
    intro a b
    rw [hpg, h.edges, Joined, Joined, hfg]

/-- Both record an edge to a schema that was not cached at the start. -/
theorem with_graph (h : Shadows env start f p) {a b : SchemaIdentifier} {g g' : ImportGraph}
    (hnew : start.cached? b = none) (hg : ImportGraph.Inserted f.graph a b g)
    (hg' : ImportGraph.Inserted p.graph a b g') :
    Shadows env start { f with graph := g } { p with graph := g' } where
  leader_faithful := h.leader_faithful.with_graph hg.wellFormed
    fun x y he => (hg.edge_iff x y).mpr (.inl he)
  follower_faithful := h.follower_faithful.with_graph hg'.wellFormed
    fun x y he => (hg'.edge_iff x y).mpr (.inl he)
  cached := h.cached
  edges := by
    intro x y
    rw [hg'.edge_iff, h.edges, Joined, Joined, hg.edge_iff]
    constructor
    · rintro ((he | ⟨he, hy⟩) | ⟨rfl, rfl⟩)
      · exact .inl he
      · exact .inr ⟨.inl he, hy⟩
      · exact .inr ⟨.inr ⟨rfl, rfl⟩, hnew⟩
    · rintro (he | ⟨he | ⟨rfl, rfl⟩, hy⟩)
      · exact .inl (.inl he)
      · exact .inl (.inr ⟨he, hy⟩)
      · exact .inr ⟨rfl, rfl⟩

/-- Both store the schema of a served document. -/
theorem store (h : Shadows env start f p) {schema : Schema}
    (hf : (f.store id schema).Faithful env) (hp : (p.store id schema).Faithful env) :
    Shadows env start (f.store id schema) (p.store id schema) where
  leader_faithful := hf
  follower_faithful := hp
  cached := by
    intro other
    by_cases ho : other = id
    · subst ho
      simp
    · rw [cached?_store_ne ho, cached?_store_ne ho]
      exact h.cached other
  edges := h.edges

/-- The leader explores what the follower had cached at the start. -/
theorem skip (h : Shadows env start f p) (hstart : start.Faithful env)
    (hcached : (start.cached? id).isSome) {q : SchemaIdentifier → SchemaIdentifier → Prop}
    (hq : ∀ a b, q a b → b ∈ env.closure id) (hf : Explores env (· ∈ env.closure id) q f f') :
    Shadows env start f' p where
  leader_faithful := hf.faithful
  follower_faithful := h.follower_faithful
  cached := by
    intro other
    rw [h.cached]
    constructor
    · refine Or.imp_right fun ho => ?_
      obtain ⟨schema, hc⟩ := Option.isSome_iff_exists.mp ho
      exact Option.isSome_iff_exists.mpr ⟨schema, hf.grows.cached _ _ hc⟩
    · -- What the leader caches on the way is imported from `id`, and `start` had cached all that.
      rintro (ho | ho)
      · exact .inl ho
      · exact (hf.cached other ho).symm.imp_left (hstart.cached_closure hcached)
  edges := by
    intro a b
    rw [h.edges]
    constructor
    · exact Joined.mono hf.grows
    · rintro (he | ⟨he, hb⟩)
      · exact .inl he
      · -- A new edge leads to a schema that `start` had cached, and such edges do not count.
        refine .inr ⟨(hf.edges a b he).resolve_right fun hab => ?_, hb⟩
        have hmem := hstart.cached_closure hcached (hq a b hab)
        simp [hb] at hmem

/-- What the leader has cached, the follower has too. -/
theorem cached_of_leader (h : Shadows env start f p) {schema : Schema}
    (hc : f.cached? id = some schema) : p.cached? id = some schema := by
  obtain ⟨schema', hc'⟩ := Option.isSome_iff_exists.mp ((h.cached id).mpr (.inr (by rw [hc]; rfl)))
  rw [hc', h.leader_faithful.cached_unique h.follower_faithful hc hc']

end Shadows

end Session

open Session

/-! ## Loading -/

/-- Loading an import follows. -/
def Loading.Follows (env : Environment) (start : Session) (load : Loading) : Prop :=
  ∀ requester target f p, Shadows env start f p →
    Session.Follows env start (load requester target f) (load requester target p)

variable {env : Environment} {start f p : Session} {load : Loading}

/-- Loading the imports of a schema one by one. -/
theorem loadImports_follows (hk : load.Keeps) (hl : load.Follows env start) (owner : SchemaIdentifier)
    (ns : List (ImportNode .bound)) (h : Shadows env start f p)
    (hok : (loadImports load owner ns f).failed = false) :
    ((loadImports load owner ns p).failed = false ∧
      (loadImports load owner ns p).schemas = (loadImports load owner ns f).schemas ∧
      Shadows env start (loadImports load owner ns f).session (loadImports load owner ns p).session) ∨
    ((loadImports load owner ns p).failed = true ∧
      Circular start (loadImports load owner ns f).session) := by
  induction ns generalizing f p with
  | nil => exact .inl ⟨rfl, rfl, h⟩
  | cons n ns ih =>
    cases hv : (load owner n.data f).value with
    | error e => simp [loadImports, hv] at hok
    | ok schema =>
      simp only [loadImports, hv] at hok ⊢
      rcases hl owner n.data f p h schema hv with ⟨hv', hfirst⟩ | ⟨hv', hcircular⟩
      · simp only [hv']
        rcases ih hfirst hok with ⟨hrest, hschemas, hshadows⟩ | hrest
        · exact .inl ⟨hrest, by rw [hschemas], hshadows⟩
        · exact .inr hrest
      · -- The rest is loaded nevertheless, and no edge is lost.
        have hfirst := (hk owner n.data f h.leader_faithful.valid).1
        have hrest := (loadImports_advances hk owner ns _ hfirst.valid).1
        refine .inr ⟨?_, hcircular.mono hrest.grows⟩
        cases hp : (load owner n.data p).value with
        | ok schema' => exact absurd hp (hv' schema')
        | error e => rfl

theorem typeWith_follows (hk : load.Keeps) (hl : load.Follows env start) (b : Tree .bound)
    (h : Shadows env start f p) : Follows env start (b.typeWith load f) (b.typeWith load p) := by
  intro schema hok
  obtain ⟨hfailed, hdeclared, hcompiled⟩ := Tree.typeWith_eq_ok.mp hok
  rw [Tree.state_typeWith, Tree.state_typeWith]
  rcases loadImports_follows hk hl b.data b.imports h hfailed with
    ⟨hfailed', hschemas, hshadows⟩ | ⟨hfailed', hcircular⟩
  · exact .inl ⟨Tree.typeWith_eq_ok.mpr ⟨hfailed', hschemas ▸ hdeclared, hcompiled⟩, hshadows⟩
  · refine .inr ⟨fun schema' hok' => ?_, hcircular⟩
    rw [(Tree.typeWith_eq_ok.mp hok').1] at hfailed'
    cases hfailed'

/-- Compiling the tree of a served document, which neither has cached. -/
theorem compileTree_follows (hk : load.Keeps) (he : load.Explores env) (hl : load.Follows env start)
    {tree : Tree .parsed} (hserved : env.served? tree.identifier = some tree)
    (h : Shadows env start f p) (hf : f.cached? tree.identifier = none)
    (hp : p.cached? tree.identifier = none) {schema : Schema}
    (hok : (f.compileTree load tree).value = .ok (some schema)) :
    ((p.compileTree load tree).value = .ok (some schema) ∧
      Shadows env start (f.compileTree load tree).state (p.compileTree load tree).state) ∨
    ((∀ schema', (p.compileTree load tree).value ≠ .ok (some schema')) ∧
      Circular start (f.compileTree load tree).state) := by
  have hleader := (compileTree_explores hk he hserved h.leader_faithful hf).faithful
  have hfollower := (compileTree_explores hk he hserved h.follower_faithful hp).faithful
  have hof := compilesTree load tree f
  have hop := compilesTree load tree p
  generalize f.compileTree load tree = o at *
  generalize p.compileTree load tree = o' at *
  rcases hof with - | @⟨b, stored, hb, ht⟩ | - | -
  · cases hok
  · cases hok
    have htyped := typeWith_follows hk hl b h schema ht
    -- The tree binds in the same way for both.
    rcases hop with hb' | @⟨b', schema', hb', ht'⟩ | @⟨b', hb', ht'⟩ | @⟨b', hb', ht'⟩ <;>
      rw [hb] at hb' <;> cases hb'
    · rcases htyped with ⟨ht'', hshadows⟩ | ⟨hno, -⟩
      · rw [ht', Except.ok.injEq] at ht''
        subst ht''
        exact .inl ⟨rfl, hshadows.store hleader hfollower⟩
      · exact absurd ht' (hno schema')
    all_goals
      rcases htyped with ⟨ht'', -⟩ | ⟨-, hcircular⟩
      · rw [ht'] at ht''
        cases ht''
      · exact .inr ⟨fun _ h => (by cases h), hcircular⟩
  · cases hok
  · cases hok

/-- Opening and compiling a schema that neither has cached. -/
theorem fetchWith_follows (hk : load.Keeps) (he : load.Explores env) (hl : load.Follows env start)
    (target : SchemaIdentifier) (level : Nat) (h : Shadows env start f p)
    (hf : f.cached? target = none) (hp : p.cached? target = none) :
    Follows env start (f.fetchWith env load target level) (p.fetchWith env load target level) := by
  intro schema hok
  have hof := fetches env load target level f
  have hop := fetches env load target level p
  generalize f.fetchWith env load target level = o at *
  generalize p.fetchWith env load target level = o' at *
  rcases hof with - | @⟨_, tree, _, hserved, rfl, -, rfl⟩
  · cases hok
  · rcases hop with ⟨hserved', -, -⟩ | @⟨_, tree', _, hserved', -, -, rfl⟩
    · rw [hserved] at hserved'
      cases hserved'
    · rw [hserved, Option.some.injEq] at hserved'
      subst hserved'
      have hopened : Shadows env start (f.recordOpening tree.identifier level).countCompilation
          (p.recordOpening tree.identifier level).countCompilation := h.of_eq rfl rfl rfl rfl
      refine (compileTree_follows hk he hl hserved hopened hf hp (loaded_eq_ok.mp hok)).imp ?_ ?_
      · exact fun ⟨hvalue, hshadows⟩ => ⟨loaded_eq_ok.mpr hvalue, hshadows⟩
      · exact fun ⟨hno, hcircular⟩ => ⟨fun schema' h => hno schema' (loaded_eq_ok.mp h), hcircular⟩

/-- What the follower has cached since the start, it gives as it is. -/
theorem load_follows_cached (hstart : start.Faithful env) (levels : Nat)
    (requester target : SchemaIdentifier) (h : Shadows env start f p)
    (hp : (p.cached? target).isSome) :
    Follows env start (Session.load env levels requester target f)
      (Session.load env levels requester target p) := by
  intro schema hok
  obtain ⟨old, hold⟩ := Option.isSome_iff_exists.mp hp
  have hkept := (load_keeps env levels requester target f h.leader_faithful.valid).2 schema hok
  have hexplored := load_explores env levels requester target f h.leader_faithful
  obtain rfl : schema = old := hexplored.faithful.cached_unique h.follower_faithful hkept hold
  rw [load_of_cached levels requester hold]
  refine .inl ⟨rfl, ?_⟩
  cases hf : f.cached? target with
  | some _ => rwa [load_of_cached levels requester hf]
  | none =>
    -- The leader has to do what was done before the start.
    have hcached : (start.cached? target).isSome := by
      simpa [hf] using (h.cached target).mp hp
    refine h.skip hstart hcached ?_ hexplored
    rintro a b (⟨-, rfl⟩ | ⟨ha, hab⟩)
    · exact Environment.mem_closure_self
    · exact ReflTransGen.tail ha hab

/-- The follower is refused an edge that the leader records: it closes a circle of edges of both. -/
theorem circular_of_refused (h : Shadows env start f p) {requester target : SchemaIdentifier}
    (hs : start.cached? target = none) (hf : f.cached? target = none) {g : ImportGraph}
    (hg : f.graph.addEdge? requester target = .ok g) {path : List SchemaIdentifier}
    (hg' : p.graph.addEdge? requester target = .error path) {levels : Nat} :
    Circular start (Session.load env (levels + 1) requester target f).state := by
  obtain ⟨-, hi⟩ := ImportGraph.inserted_of_addEdge? h.leader_faithful.valid.graph hg
  have hback := ImportGraph.reaches_of_addEdge? h.follower_faithful.valid.graph hg'
  have hsub : ∀ a b, f.graph.Edge a b → g.Edge a b := fun a b he => (hi.edge_iff a b).mpr (.inl he)
  have hrecorded : f.Extends { f with graph := g } := ⟨fun _ _ h => h, hsub⟩
  have hfetched := fetchWith_explores (load_keeps env levels) (load_explores env levels) target
    (env.maxImportDepth - levels) (h.leader_faithful.with_graph hi.wellFormed hsub) hf
  have hpath : ReflTransGen (Joined start (Session.load env (levels + 1) requester target f).state)
      target requester := by
    refine ReflTransGen.mono (fun a b he => ?_) _ _ hback
    simp only [Session.load, hf, hg]
    exact ((h.edges a b).mp he).mono (hrecorded.trans hfetched.grows)
  have hedge : Joined start (Session.load env (levels + 1) requester target f).state
      requester target := by
    simp only [Session.load, hf, hg]
    exact .inr ⟨hfetched.grows.edges _ _ hi.edge, hs⟩
  exact ⟨target, TransGen.tail' hpath hedge⟩

/-- **Loading** follows, however many levels of imports are left. -/
theorem load_follows (hstart : start.Faithful env) (levels : Nat) :
    (Session.load env levels).Follows env start := by
  induction levels with
  | zero =>
    -- With no level left, only what the leader has cached is given, and the follower has that too.
    intro requester target f p h schema hok
    cases hf : f.cached? target with
    | none =>
      simp only [Session.load, hf] at hok
      cases hok
    | some old =>
      exact load_follows_cached hstart 0 requester target h (by rw [h.cached_of_leader hf]; rfl) schema hok
  | succ levels ih =>
    intro requester target f p h schema hok
    cases hp : p.cached? target with
    | some old => exact load_follows_cached hstart _ requester target h (by rw [hp]; rfl) schema hok
    | none =>
      have hnot : ¬ ((start.cached? target).isSome ∨ (f.cached? target).isSome) := by
        rw [← h.cached, hp]
        simp
      obtain ⟨hs, hf⟩ : start.cached? target = none ∧ f.cached? target = none := by
        simpa using hnot
      cases hg : f.graph.addEdge? requester target with
      | error path =>
        simp only [Session.load, hf, hg] at hok
        cases hok
      | ok g =>
        obtain ⟨-, hi⟩ := ImportGraph.inserted_of_addEdge? h.leader_faithful.valid.graph hg
        cases hg' : p.graph.addEdge? requester target with
        | ok g' =>
          obtain ⟨-, hi'⟩ := ImportGraph.inserted_of_addEdge? h.follower_faithful.valid.graph hg'
          simp only [Session.load, hf, hp, hg, hg'] at hok ⊢
          exact fetchWith_follows (load_keeps env levels) (load_explores env levels) ih target _
            (h.with_graph hs hi hi') hf hp schema hok
        | error path =>
          -- The leader records the edge, so the path that forbids it here has edges of `start`.
          refine .inr ⟨fun schema' h' => ?_, circular_of_refused h hs hf hg hg'⟩
          simp only [Session.load, hp, hg'] at h'
          cases h'

namespace Session

/-! ## Operations that failed -/

/-- A session in which no operation succeeded so far. The documents were documents of schemas in
`drafted`. -/
inductive AfterFailures (env : Environment) (drafted : SchemaIdentifier → Prop) : Session → Prop
  | fresh : AfterFailures env drafted fresh
  | loadRoot {s : Session} {target : SchemaIdentifier} (hs : AfterFailures env drafted s)
      (hfailed : ∀ schema, (s.loadRoot env target).value ≠ .ok schema) :
      AfterFailures env drafted (s.loadRoot env target).state
  | compileDocument {s : Session} {uri : String} {document : Text.Octets}
      (hs : AfterFailures env drafted s)
      (hdrafted : ∀ tree, (env.parser.parse uri document).value = some tree → drafted tree.identifier)
      (hfailed : (s.compileDocument env uri document).value = none) :
      AfterFailures env drafted (s.compileDocument env uri document).state

variable {drafted : SchemaIdentifier → Prop} {s : Session} {target : SchemaIdentifier} {schema : Schema}

/-- What is cached is what the source serves, and all edges are imports of its documents or start at a
schema of a document that failed. -/
theorem AfterFailures.faithful (hs : AfterFailures env drafted s) :
    s.Faithful env ∧ ∀ a b, s.graph.Edge a b → drafted a ∨ env.Imports a b := by
  induction hs with
  | fresh => exact ⟨faithful_fresh, fun a b he => by cases he⟩
  | @loadRoot _ target _ _ ih =>
    have hexplored := loadRoot_explores env target ih.1
    refine ⟨hexplored.faithful, fun a b he => ?_⟩
    rcases hexplored.edges a b he with he | ⟨-, he⟩
    · exact ih.2 a b he
    · exact .inr he
  | compileDocument _ hdrafted hfailed ih =>
    have hexplored := compileDocument_failed env ih.1 hfailed
    refine ⟨hexplored.faithful, fun a b he => ?_⟩
    rcases hexplored.edges a b he with he | ⟨tree, hparse, rfl⟩ | he
    · exact ih.2 a b he
    · exact .inl (hdrafted tree hparse)
    · exact .inr he

/-- A session that agrees with its source loads what a fresh one loads, unless the edges of both lead in a
circle. -/
theorem loadRoot_follows (hs : s.Faithful env) (target : SchemaIdentifier) :
    Follows env s (fresh.loadRoot env target) (s.loadRoot env target) := by
  -- The leader begins with nothing, so the follower is just what it was at the start.
  have hstart : Shadows env s fresh s := by
    refine ⟨faithful_fresh, hs, fun id => ?_, fun a b => ?_⟩
    · exact ⟨.inl, fun h => h.resolve_right (by simp [cached?, fresh])⟩
    · exact ⟨.inl, fun h => h.resolve_right fun he => by cases he.1⟩
  have hnew : fresh.cached? target = none := rfl
  cases hc : s.cached? target with
  | some old =>
    intro schema hok
    have hexplored := loadRoot_explores env target faithful_fresh
    have hkept := cached?_loadRoot valid_fresh hok
    obtain rfl : schema = old := hexplored.faithful.cached_unique hs hkept hc
    rw [loadRoot_of_cached hc]
    exact .inl ⟨rfl, hstart.skip hs (by rw [hc]; rfl) (fun a b h => ReflTransGen.tail h.1 h.2) hexplored⟩
  | none =>
    have hmention : Shadows env s (fresh.mention target) (s.mention target) := by
      refine ⟨faithful_fresh.mention target, hs.mention target, hstart.cached, fun a b => ?_⟩
      rw [mention, mention, Joined, ImportGraph.edge_addVertex, ImportGraph.edge_addVertex]
      exact hstart.edges a b
    unfold Session.loadRoot
    simp only [hnew, hc]
    exact fetchWith_follows (load_keeps env _) (load_explores env _) (load_follows hs _) target 0
      hmention hnew hc

/-- Nothing leads in a circle if the edges that start where imports lead to are those of the source. -/
theorem not_circular {clean : Session} (hs : s.Valid) (hclean : clean.Faithful env)
    (hcached : (clean.cached? target).isSome)
    (hedges : ∀ a b, clean.graph.Edge a b → env.ImportsFrom target a b)
    (hsource : ∀ a b, a ∈ env.closure target → s.graph.Edge a b → env.Imports a b) :
    ¬ Circular s clean := by
  rintro ⟨a, ha⟩
  have hjoined : ∀ x y, x ∈ env.closure target → Joined s clean x y → env.Imports x y := by
    rintro x y hx (he | ⟨he, -⟩)
    · exact hsource x y hx he
    · exact (hedges x y he).2
  -- A path that does not stay among the edges of the session ends where imports lead to.
  have hpath : ∀ x y, TransGen (Joined s clean) x y →
      TransGen s.graph.Edge x y ∨ y ∈ env.closure target := by
    intro x y hxy
    induction hxy with
    | single h =>
      rcases h with he | ⟨he, -⟩
      · exact .inl (.single he)
      · exact .inr (ReflTransGen.tail (hedges _ _ he).1 (hedges _ _ he).2)
    | tail _ h ih =>
      rcases ih with hxy | hmem
      · rcases h with he | ⟨he, -⟩
        · exact .inl (hxy.tail he)
        · exact .inr (ReflTransGen.tail (hedges _ _ he).1 (hedges _ _ he).2)
      · exact .inr (ReflTransGen.tail hmem (hjoined _ _ hmem h))
  -- From there a path goes along imports alone, which do not lead in a circle.
  have hstays : ∀ x y, x ∈ env.closure target → TransGen (Joined s clean) x y →
      TransGen env.Imports x y ∧ y ∈ env.closure target := by
    intro x y hx hxy
    induction hxy with
    | single h => exact ⟨.single (hjoined _ _ hx h), ReflTransGen.tail hx (hjoined _ _ hx h)⟩
    | tail _ h ih =>
      exact ⟨ih.1.tail (hjoined _ _ ih.2 h), ReflTransGen.tail ih.2 (hjoined _ _ ih.2 h)⟩
  rcases hpath a a ha with hold | hmem
  · exact hs.graph.acyclic a hold
  · exact (hclean.compilable hcached).acyclic a hmem (hstays a a hmem ha).1

/-- **After failures.** Take a schema that a fresh session can load, and a session in which no operation
succeeded so far. It loads the schema too, and gives the same, exactly if the edges that the failed
operations left behind do not lead in a circle with those that the fresh session records to schemas that are
not cached; otherwise the schema fails to compile. It always loads the schema if no failed document was one
of a schema that imports lead to. -/
theorem loadRoot_after_failures (hs : AfterFailures env drafted s)
    (hclean : (fresh.loadRoot env target).value = .ok schema) :
    ((s.loadRoot env target).value = .ok schema ↔
      ¬ Circular s (fresh.loadRoot env target).state) ∧
    ((s.loadRoot env target).value = .ok schema ∨
      (s.loadRoot env target).value = .error (.compilationFailed target)) ∧
    ((∀ id ∈ env.closure target, ¬ drafted id) → (s.loadRoot env target).value = .ok schema) := by
  obtain ⟨hfaithful, hedges⟩ := hs.faithful
  have hfollows := loadRoot_follows hfaithful target schema hclean
  have hexplored := loadRoot_explores env target faithful_fresh
  have hiff : (s.loadRoot env target).value = .ok schema ↔
      ¬ Circular s (fresh.loadRoot env target).state := by
    rcases hfollows with ⟨hok, hshadows⟩ | ⟨hno, hcircular⟩
    · refine iff_of_true hok ?_
      rintro ⟨a, ha⟩
      refine hshadows.follower_faithful.valid.graph.acyclic a (TransGen.mono ?_ _ _ ha)
      exact fun x y h => (hshadows.edges x y).mpr h
    · exact iff_of_false (hno schema) (not_not_intro hcircular)
  have hcached : ((fresh.loadRoot env target).state.cached? target).isSome := by
    rw [cached?_loadRoot valid_fresh hclean]
    rfl
  refine ⟨hiff, ?_, fun hdrafted => hiff.mpr ?_⟩
  · cases hvalue : (s.loadRoot env target).value with
    | ok schema' =>
      rcases hfollows with ⟨hok, -⟩ | ⟨hno, -⟩
      · exact .inl (hvalue.symm.trans hok)
      · exact absurd hvalue (hno schema')
    | error e =>
      -- The document is served, since a fresh session can load it: what failed is its compilation.
      obtain ⟨b, hb⟩ := (hexplored.faithful.compilable hcached).bound target Environment.mem_closure_self
      obtain ⟨-, tree, hserved, -⟩ := Environment.bound?_eq_some hb
      unfold Session.loadRoot at hvalue
      split at hvalue
      · cases hvalue
      · exact .inr (congrArg Except.error (fetchWith_eq_error hserved hvalue))
  · refine not_circular hfaithful.valid hexplored.faithful hcached ?_ ?_
    · exact fun a b he => (hexplored.edges a b he).resolve_left fun h => by cases h
    · exact fun a b ha he => (hedges a b he).resolve_left (hdrafted a ha)

theorem loadRoot_after_failures_core :
    let env := Sample.source.environment 1000 1
    let s := (fresh.compileDocument env "memory:lost" Sample.lostDocument).state
    AfterFailures env (· = Sample.dublin) s ∧
    (∀ id ∈ env.closure Sample.core, id ≠ Sample.dublin) ∧
    ∃ schema, (fresh.loadRoot env Sample.core).value = .ok schema ∧
      (s.loadRoot env Sample.core).value = .ok schema ∧
      ¬ Circular s (fresh.loadRoot env Sample.core).state := by
  intro env s
  have hparse : (env.parser.parse "memory:lost" Sample.lostDocument).value.map (·.identifier) =
      some Sample.dublin := by
    decide +kernel
  have hfailed : (fresh.compileDocument env "memory:lost" Sample.lostDocument).value = none := by
    decide +kernel
  have hs : AfterFailures env (· = Sample.dublin) s := by
    refine .compileDocument .fresh (fun tree htree => ?_) hfailed
    rw [htree] at hparse
    exact Option.some.inj hparse
  have hclosure : ∀ id ∈ env.closure Sample.core, id = Sample.core := by
    intro id hid
    refine reflTransGen_mem (p := fun x => x = Sample.core) ?_ rfl hid
    rintro a b rfl ⟨t, ht, hb⟩
    have himports := Sample.imports_bound?.2
    rw [ht, Option.map_some, Option.some.injEq] at himports
    rw [himports] at hb
    cases hb
  have hne : ∀ id ∈ env.closure Sample.core, id ≠ Sample.dublin := by
    intro id hid
    rw [hclosure id hid]
    decide
  have hloads : (fresh.loadRoot env Sample.core).value.toOption.isSome = true := by decide +kernel
  obtain ⟨schema, hclean⟩ := exists_eq_ok hloads
  obtain ⟨hiff, -, hok⟩ := loadRoot_after_failures hs hclean
  exact ⟨hs, hne, schema, hclean, hok hne, hiff.mp (hok hne)⟩

/-- A failed document can keep a session from loading what a fresh one loads. -/
theorem not_loads_after_failures :
    ¬ ∀ env drafted s target schema, AfterFailures env drafted s →
      (fresh.loadRoot env target).value = .ok schema → (s.loadRoot env target).value = .ok schema := by
  intro hall
  let env := Sample.source.environment 1000 1
  have hfailed : (fresh.compileDocument env "memory:draft" Sample.draftDocument).value = none := by
    decide +kernel
  have hs : AfterFailures env (fun _ => True) _ :=
    .compileDocument .fresh (fun _ _ => trivial) hfailed
  have hloads : (fresh.loadRoot env Sample.dublin).value.toOption.isSome = true := by decide +kernel
  have hpoisoned : ((fresh.compileDocument env "memory:draft" Sample.draftDocument).state.loadRoot env
      Sample.dublin).value.toOption.isSome = false := by decide +kernel
  obtain ⟨schema, hclean⟩ := exists_eq_ok hloads
  rw [hall env (fun _ => True) _ _ _ hs hclean] at hpoisoned
  cases hpoisoned

end Session

end MetaSchema
