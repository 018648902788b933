import MetaSchema.Proofs.Session.Compiling

/-!
# The cache is write-once

* `load_of_cached`, `compileDocument_of_cached`: a cached schema is given back as it is.
* `not_cached_of_compiling`: a compilation that is about to store its schema finds none in its place.
* `cache_write_once`: what is cached stays, and is all that its identifier ever gives.
-/

namespace MetaSchema.Session

variable {env : Environment} {s : Session} {id : SchemaIdentifier} {schema : Schema}

/-! ## What is cached -/

theorem load_of_cached (levels : Nat) (requester : SchemaIdentifier)
    (h : s.cached? id = some schema) :
    Session.load env levels requester id s = ⟨s, .ok schema, []⟩ := by
  cases levels <;> simp only [Session.load, h]

/-- Of a document of a cached schema only the attempt is counted. -/
theorem compileDocument_of_cached {uri : String} {document : Text.Octets} {tree : Tree .parsed}
    (hparse : (env.parser.parse uri document).value = some tree)
    (h : s.cached? tree.identifier = some schema) :
    s.compileDocument env uri document =
      ⟨s.countCompilation, some schema, (env.parser.parse uri document).issues⟩ := by
  have hcounted : s.countCompilation.cached? tree.identifier = some schema := h
  simp [compileDocument, compileWith, parseOpened, hparse, compileParsed, hcounted]

/-! ## What is stored -/

/-- While a schema is bound and typed nothing is lost and no schema whose compilation is under way is
stored, not even by an import that asks for it. -/
theorem not_cached_of_compiling {start : Session} (hstart : start.Valid)
    {stack : List SchemaIdentifier} {levels : Nat} {tree : Tree .parsed} {b : Tree .bound}
    (hc : Compiling env start stack levels tree s) (hbind : tree.bind.value = some b) :
    stack.Nodup ∧ tree.identifier ∈ stack ∧
      (∀ x ∈ stack, (b.typeWith (Session.load env levels) s).state.cached? x = none) ∧
      start.Extends (b.typeWith (Session.load env levels) s).state := by
  obtain ⟨hbegun, hgrows⟩ := hc.underWay hstart
  obtain ⟨htyped, hgrows'⟩ := hbegun.typeWith hbind levels
  exact ⟨hbegun.nodup, hbegun.mem, htyped.uncached, hgrows.trans hgrows'⟩

/-- **The cache is write-once.** What is cached after some operations is cached after any others, with the
same schema. Whenever a schema is about to be stored, neither it nor another schema whose compilation is
under way is cached, and what was cached before the operation still is; and everything that is cached was
stored like this. In every session, a cached schema is what loading it gives, and nothing happens but
that; and it is what any document of it gives. -/
theorem cache_write_once (env : Environment) :
    (∀ ops more id schema, (run env ops).cached? id = some schema →
      (run env (ops ++ more)).cached? id = some schema) ∧
    (∀ ops stack levels tree s b, Compiling env (run env ops) stack levels tree s →
      tree.bind.value = some b →
      let typed := (b.typeWith (Session.load env levels) s).state
      stack.Nodup ∧ tree.identifier ∈ stack ∧ (∀ x ∈ stack, typed.cached? x = none) ∧
        ∀ id schema, (run env ops).cached? id = some schema → typed.cached? id = some schema) ∧
    (∀ ops id schema, (run env ops).cached? id = some schema → Stored env id schema) ∧
    ∀ s id schema, s.cached? id = some schema →
      (∀ levels requester, Session.load env levels requester id s = ⟨s, .ok schema, []⟩) ∧
      s.loadRoot env id = ⟨s, .ok schema, []⟩ ∧
      ∀ uri document tree, (env.parser.parse uri document).value = some tree →
        tree.identifier = id → s.compileDocument env uri document =
          ⟨s.countCompilation, some schema, (env.parser.parse uri document).issues⟩ := by
  refine ⟨fun ops more id schema h => ?_, fun ops stack levels tree s b hc hbind => ?_,
    fun ops => (accounted_run env ops).cached, fun s id schema h => ⟨?_, ?_, ?_⟩⟩
  · have hmore := foldl_after_advances env more (run_valid env ops)
    rw [run, List.foldl_append]
    exact hmore.grows.cached id schema h
  · obtain ⟨hnodup, hmem, huncached, hgrows⟩ :=
      not_cached_of_compiling (run_valid env ops) hc hbind
    exact ⟨hnodup, hmem, huncached, hgrows.cached⟩
  · exact fun levels requester => load_of_cached levels requester h
  · exact loadRoot_of_cached h
  · rintro uri document tree hparse rfl
    exact compileDocument_of_cached hparse h

/-- The compilation of the one sample schema inside that of the other, which imports it. -/
theorem exists_compiling_core : ∃ inner c s,
    Compiling (Sample.source.environment 1000 1) fresh [Sample.core, Sample.dublin] 0 inner s ∧
      inner.bind.value = some c := by
  let env := Sample.source.environment 1000 1
  have hdublin : (env.bound? Sample.dublin).map (fun b => b.imports.map (·.data)) =
      some [Sample.core] := by decide +kernel
  have hcore : (env.bound? Sample.core).isSome = true := by decide +kernel
  obtain ⟨b, hdublin, himports⟩ := Option.map_eq_some_iff.mp hdublin
  obtain ⟨c, hcore⟩ := Option.isSome_iff_exists.mp hcore
  obtain ⟨tree, hserved, hbind⟩ := Option.bind_eq_some_iff.mp hdublin
  obtain ⟨inner, hserved', hbind'⟩ := Option.bind_eq_some_iff.mp hcore
  obtain ⟨n, himports, hn⟩ := List.map_eq_singleton_iff.mp himports
  cases hedge : (fresh.mention Sample.dublin).graph.addEdge? Sample.dublin Sample.core with
  | error path =>
    have hsome : ((fresh.mention Sample.dublin).graph.addEdge? Sample.dublin
      Sample.core).toOption.isSome = true := by decide +kernel
    rw [hedge] at hsome
    cases hsome
  | ok g =>
    have henter : ∃ s, Enters env 0 b.data n.data (loadImports (Session.load env 1) b.data []
        ((fresh.mention Sample.dublin).recordOpening Sample.dublin 0).countCompilation).session
        inner s := by
      rw [(Environment.bound?_eq_some hdublin).1, hn]
      exact ⟨_, rfl, hserved', g, hedge, rfl⟩
    obtain ⟨s, henter⟩ := henter
    rw [← hn]
    exact ⟨inner, c, s, .nested (.root rfl hserved) hbind himports henter, hbind'⟩

theorem cache_write_once_dublin :
    let env := Sample.source.environment 1000 1
    let document := Sample.octets Sample.dublinDocument
    let after := run env [.loadRoot Sample.dublin]
    ∃ schema tree inner s c,
      after.cached? Sample.dublin = some schema ∧
      (run env ([.loadRoot Sample.dublin] ++ [.find Sample.core])).cached? Sample.dublin =
        some schema ∧
      Compiling env (run env []) [Sample.core, Sample.dublin] 0 inner s ∧
      inner.bind.value = some c ∧
      (c.typeWith (Session.load env 0) s).state.cached? Sample.dublin = none ∧
      Stored env Sample.dublin schema ∧
      Session.load env 0 Sample.core Sample.dublin after = ⟨after, .ok schema, []⟩ ∧
      (env.parser.parse "memory:dublin" document).value = some tree ∧
      tree.identifier = Sample.dublin ∧
      after.compileDocument env "memory:dublin" document =
        ⟨after.countCompilation, some schema,
          (env.parser.parse "memory:dublin" document).issues⟩ := by
  intro env document after
  obtain ⟨hkept, hstored, haccounted, hgiven⟩ := cache_write_once env
  have hcached : (after.cached? Sample.dublin).isSome = true := by decide +kernel
  obtain ⟨schema, hcached⟩ := Option.isSome_iff_exists.mp hcached
  obtain ⟨tree, hparse, hid⟩ := Option.map_eq_some_iff.mp Sample.parse_dublin
  obtain ⟨inner, c, s, hcompiling, hbind⟩ := exists_compiling_core
  obtain ⟨-, -, huncached, -⟩ := hstored [] _ _ _ _ _ hcompiling hbind
  obtain ⟨hload, -, hdocument⟩ := hgiven _ _ _ hcached
  exact ⟨schema, tree, inner, s, c, hcached, hkept _ _ _ _ hcached, hcompiling, hbind,
    huncached _ (by simp), haccounted _ _ _ hcached, hload 0 Sample.core, hparse, hid,
    hdocument _ _ _ hparse hid⟩

end MetaSchema.Session
