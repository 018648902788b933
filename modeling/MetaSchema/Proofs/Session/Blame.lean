import MetaSchema.Proofs.Session.Compiling
import MetaSchema.Proofs.Session.Explained

/-!
# Failures that imports are blamed for

A session marks a schema whose compilation failed by its imports alone. What is marked is not reported
again where it is imported.

* `ImportsFail`: a tree binds, and only its imports keep it from being typed.
* `Loading.Steady`: a way of loading imports that leaves the marks of pending schemas alone.
* `compileTree_marks`: what compiling a tree does to the mark of its schema, and to the marks of the
  schemas that lead to it.
* `load_steady`: every level of loading is steady, by induction on the number of levels that are left.
* `Types`: the imports of a bound tree are about to be loaded.
* `marked_iff`: after a failure the mark says that imports are to blame, now or at an earlier attempt.
-/

namespace MetaSchema

namespace Session

/-- A tree binds, and only its imports keep it from being typed. -/
def ImportsFail (load : Loading) (tree : Tree .parsed) (s : Session) : Prop :=
  ∃ b, tree.bind.value = some b ∧ (b.typeWith load s).value = .error .imports

variable {s : Session} {id x : SchemaIdentifier} {schema : Schema}

theorem mem_failedByImport_blame :
    x ∈ (s.blame id).failedByImport ↔ x = id ∨ x ∈ s.failedByImport := by
  unfold blame
  split
  · rename_i h
    constructor
    · exact .inr
    · rintro (rfl | hx)
      · exact h
      · exact hx
  · exact List.mem_cons

theorem mem_failedByImport_store :
    x ∈ (s.store id schema).failedByImport ↔ x ∈ s.failedByImport ∧ x ≠ id := by
  simp [store]

/-- A session that has recorded an import. -/
theorem Valid.with_edge (hs : s.Valid) {requester target : SchemaIdentifier} {g : ImportGraph}
    (hg : s.graph.addEdge? requester target = .ok g) : Valid { s with graph := g } := by
  have hrecorded : Advances (fun _ => False) s { s with graph := g } := hs.advances_edge hg
  exact hrecorded.valid

end Session

open Session

/-! ## Marks of pending schemas -/

/-- Loading as an import of `requester` neither marks a schema that reaches `requester` nor takes its
mark away. -/
def Loading.Steady (load : Loading) : Prop :=
  ∀ requester target (s : Session), s.Valid → ∀ x, s.graph.Reaches x requester →
    (x ∈ (load requester target s).state.failedByImport ↔ x ∈ s.failedByImport)

variable {load : Loading}

theorem loadImports_steady (hk : load.Keeps) (hl : load.Steady) (owner : SchemaIdentifier)
    (ns : List (ImportNode .bound)) {s : Session} (hs : s.Valid) {x : SchemaIdentifier}
    (hx : s.graph.Reaches x owner) :
    x ∈ (loadImports load owner ns s).session.failedByImport ↔ x ∈ s.failedByImport := by
  induction ns using List.reverseRecOn with
  | nil => rfl
  | append_singleton ns n ih =>
    have hadv := (loadImports_advances hk owner ns s hs).1
    rw [session_loadImports_concat, ← ih]
    exact hl owner n.data _ hadv.valid x (hadv.grows.reaches hx)

/-- **Compiling a tree.** The schemas that lead to its schema keep their marks. If it fails, its schema is
marked exactly if its imports are to blame, or if it was marked before. -/
theorem compileTree_marks (hk : load.Keeps) (hl : load.Steady) (tree : Tree .parsed) {s : Session}
    (hs : s.Valid) :
    (∀ x, x ≠ tree.identifier → s.graph.Reaches x tree.identifier →
      (x ∈ (s.compileTree load tree).state.failedByImport ↔ x ∈ s.failedByImport)) ∧
    ((s.compileTree load tree).value = .ok none →
      (tree.identifier ∈ (s.compileTree load tree).state.failedByImport ↔
        ImportsFail load tree s ∨ tree.identifier ∈ s.failedByImport)) := by
  -- What leads to the schema is not among its imports, so loading those keeps its mark.
  have htyped : ∀ {b : Tree .bound}, tree.bind.value = some b → ∀ x,
      s.graph.Reaches x tree.identifier →
      (x ∈ (b.typeWith load s).state.failedByImport ↔ x ∈ s.failedByImport) := by
    intro b hb x hx
    rw [Tree.state_typeWith, (Tree.bind_eq_some hb).data_eq]
    exact loadImports_steady hk hl _ _ hs hx
  -- It ends in one way only.
  have hblame : ∀ {b : Tree .bound}, tree.bind.value = some b →
      (ImportsFail load tree s ↔ (b.typeWith load s).value = .error .imports) := by
    intro b hb
    constructor
    · rintro ⟨b', hb', h⟩
      rw [hb, Option.some.injEq] at hb'
      exact hb' ▸ h
    · exact fun h => ⟨b, hb, h⟩
  have ho := compilesTree load tree s
  generalize s.compileTree load tree = o at ho
  rcases ho with hb | ⟨hb, ht⟩ | ⟨hb, ht⟩ | ⟨hb, ht⟩
  · refine ⟨fun _ _ _ => .rfl, fun _ => (or_iff_right ?_).symm⟩
    rintro ⟨b, hb', -⟩
    rw [hb] at hb'
    cases hb'
  · refine ⟨fun x hne hx => ?_, fun h => by cases h⟩
    rw [mem_failedByImport_store, htyped hb x hx, and_iff_left hne]
  · refine ⟨fun x hne hx => ?_, fun _ => ?_⟩
    · rw [mem_failedByImport_blame, htyped hb x hx, or_iff_right hne]
    · rw [mem_failedByImport_blame, hblame hb]
      simp [ht]
  · refine ⟨fun x _ hx => htyped hb x hx, fun _ => ?_⟩
    rw [htyped hb _ .refl, hblame hb]
    simp [ht]

/-- Opening and compiling a schema. -/
theorem fetchWith_marks (hk : load.Keeps) (hl : load.Steady) (env : Environment)
    (target : SchemaIdentifier) (level : Nat) {s : Session} (hs : s.Valid) :
    (∀ x, x ≠ target → s.graph.Reaches x target →
      (x ∈ (s.fetchWith env load target level).state.failedByImport ↔ x ∈ s.failedByImport)) ∧
    ((s.fetchWith env load target level).value = .error (.compilationFailed target) →
      (target ∈ (s.fetchWith env load target level).state.failedByImport ↔
        (∃ tree, env.served? target = some tree ∧
          ImportsFail load tree (s.recordOpening target level).countCompilation) ∨
        target ∈ s.failedByImport)) := by
  have hf := fetches env load target level s
  generalize s.fetchWith env load target level = o at hf
  rcases hf with ⟨hserved, -, -, hmarks⟩ | @⟨opened, tree, _, hserved, rfl, -, rfl⟩
  · -- Without a tree of this schema nothing is marked, and there are no imports to blame.
    refine ⟨fun _ _ _ => hmarks ▸ .rfl, fun _ => hmarks ▸ (or_iff_right ?_).symm⟩
    rintro ⟨tree, hserved', -⟩
    rw [hserved] at hserved'
    cases hserved'
  · have hopened : Advances (fun _ => False) s
        (s.recordOpening tree.identifier level).countCompilation := .of_eq hs rfl rfl
    obtain ⟨hothers, hself⟩ := compileTree_marks hk hl tree hopened.valid
    refine ⟨hothers, fun h => (hself (loaded_eq_compilationFailed.mp ⟨_, h⟩)).trans ?_⟩
    refine or_congr_left ⟨fun h => ⟨tree, hserved, h⟩, ?_⟩
    rintro ⟨tree', hserved', h⟩
    rw [hserved, Option.some.injEq] at hserved'
    exact hserved' ▸ h

/-- **Loading** is steady, however many levels of imports are left. -/
theorem load_steady (env : Environment) (levels : Nat) : (Session.load env levels).Steady := by
  induction levels with
  | zero =>
    intro requester target s _ x _
    simp only [Session.load]
    split <;> rfl
  | succ levels ih =>
    intro requester target s hs x hx
    simp only [Session.load]
    split
    · rfl
    · split
      · rfl
      · rename_i g hg
        obtain ⟨hback, hi⟩ := ImportGraph.inserted_of_addEdge? hs.graph hg
        have hfetched := (fetchWith_marks (load_keeps env levels) ih env target
          (env.maxImportDepth - levels) (hs.with_edge hg)).1
        apply hfetched x
        · -- The target does not reach the requester, or the edge would have been refused.
          rintro rfl
          exact hback hx
        · exact (hi.reaches hx).tail hi.edge

namespace Session

/-! ## Failures -/

variable {env : Environment} {start s : Session} {levels : Nat} {b : Tree .bound}

/-- In an operation that began with the session `start`, the imports of a bound tree are about to be
loaded in the session `s`. -/
inductive Types (env : Environment) (start : Session) : Nat → Tree .bound → Session → Prop
  | compiled {stack : List SchemaIdentifier} {levels : Nat} {tree : Tree .parsed} {b : Tree .bound}
      {s : Session} (hc : Compiling env start stack levels tree s)
      (hbind : tree.bind.value = some b) : Types env start levels b s
  | alone (b : Tree .bound) : Types env start (env.maxImportDepth + 1) b start

theorem Types.valid (hstart : start.Valid) (h : Types env start levels b s) : s.Valid := by
  cases h with
  | compiled hc => exact (hc.underWay hstart).1.valid
  | alone => exact hstart

/-- Loading `target` as an import of `requester` goes on to compile it, and only its own imports keep it
from being typed. -/
def BlamesImports (env : Environment) (levels : Nat) (requester target : SchemaIdentifier)
    (s : Session) : Prop :=
  ∃ below tree s', levels = below + 1 ∧ Enters env below requester target s tree s' ∧
    ImportsFail (Session.load env below) tree s'

/-- **A failed import** is marked exactly if its own imports are to blame, or if it was marked before. -/
theorem load_marks {requester target : SchemaIdentifier} (hs : s.Valid)
    (h : (Session.load env levels requester target s).value = .error (.compilationFailed target)) :
    target ∈ (Session.load env levels requester target s).state.failedByImport ↔
      BlamesImports env levels requester target s ∨ target ∈ s.failedByImport := by
  cases levels with
  | zero =>
    simp only [Session.load] at h
    -- With no level left, the failure is not that of a compilation.
    split at h <;> cases h
  | succ below =>
    cases hnew : s.cached? target with
    | some schema =>
      simp only [Session.load, hnew] at h
      cases h
    | none =>
      cases hg : s.graph.addEdge? requester target with
      | error path =>
        simp only [Session.load, hnew, hg] at h
        cases h
      | ok g =>
        simp only [Session.load, hnew, hg] at h ⊢
        have hfetched := (fetchWith_marks (load_keeps env below) (load_steady env below) env target
          (env.maxImportDepth - below) (hs.with_edge hg)).2 h
        refine hfetched.trans (or_congr_left ⟨?_, ?_⟩)
        · rintro ⟨tree, hserved, hfails⟩
          exact ⟨below, tree, _, rfl, ⟨hnew, hserved, g, hg, rfl⟩, hfails⟩
        · rintro ⟨below, tree, s', hlevels, ⟨-, hserved, g', hg', rfl⟩, hfails⟩
          cases hlevels
          rw [hg, Except.ok.injEq] at hg'
          exact ⟨tree, hserved, hg' ▸ hfails⟩

end Session

/-! ## A mark that misleads -/

namespace Sample

/-- A document of Dublin that does not bind. -/
def brokenDocument : Text.Octets :=
  octets (document "Dublin" ["<Type name=\"Title\">", "<TypeReferenceNamed name=\"Text\"/>", "</Type>"])

def reader : SchemaIdentifier := ⟨⟨"Reader", by decide, by decide⟩, ⟨1, 0⟩⟩

/-- A document that imports Dublin. -/
def readerDocument : Text.Octets := octets (document "Reader" (importOf "Dublin"))

/-- After a compilation that failed by an import, the broken document is about to be compiled. -/
theorem compiling_broken :
    let env := source.environment 1000 1
    let ops := [Operation.compileDocument "memory:lost" lostDocument]
    ∃ tree, Compiling env (run env ops) [dublin] 1 tree
        ((run env ops).countCompilation.mention dublin) ∧
      tree.identifier = dublin ∧ tree.bind.value = none ∧
      dublin ∈ ((run env ops).countCompilation.mention dublin).failedByImport := by
  intro env ops
  have hbroken : ((env.parser.parse "memory:broken" brokenDocument).value.map
      fun tree => (tree.identifier, tree.bind.value.isNone)) = some (dublin, true) := by
    decide +kernel
  obtain ⟨tree, hparse, htree⟩ := Option.map_eq_some_iff.mp hbroken
  obtain ⟨hid, hbind⟩ := Prod.mk.inj htree
  have hnew : ((run env ops).cached? dublin).isNone = true := by decide +kernel
  have hmarked : dublin ∈ ((run env ops).countCompilation.mention dublin).failedByImport := by
    decide +kernel
  rw [Option.isNone_iff_eq_none] at hnew hbind
  have hc : Compiling env (run env ops) _ _ tree _ := .document hparse (by rw [hid]; exact hnew)
  rw [hid] at hc
  exact ⟨tree, hc, hid, hbind, hmarked⟩

/-- The import of the reader fails to compile, with no levels left for what it imports. -/
theorem types_reader :
    let env := source.environment 1000 1
    let s := fresh.countCompilation.mention reader
    ∃ b n, Types env fresh 1 b s ∧ b.imports = [n] ∧
      (Session.load env 1 b.data n.data s).value = .error (.compilationFailed n.data) := by
  intro env s
  have hreader : ((env.parser.parse "memory:reader" readerDocument).value.bind fun tree =>
      tree.bind.value.map fun b => (tree.identifier, b.data, b.imports.map (·.data))) =
        some (reader, reader, [dublin]) := by
    decide +kernel
  obtain ⟨tree, hparse, htree⟩ := Option.bind_eq_some_iff.mp hreader
  obtain ⟨b, hbind, hb⟩ := Option.map_eq_some_iff.mp htree
  obtain ⟨hid, hdata, himports⟩ : tree.identifier = reader ∧ b.data = reader ∧
      b.imports.map (·.data) = [dublin] := by
    simpa using hb
  obtain ⟨n, himports, hn⟩ := List.map_eq_singleton_iff.mp himports
  have hc : Compiling env fresh _ _ tree _ := .document hparse rfl
  rw [hid] at hc
  refine ⟨b, n, .compiled hc hbind, himports, ?_⟩
  rw [hdata, hn]
  decide +kernel

end Sample

namespace Session

/-- **Whom a session blames.** Right after a compilation that failed, its schema is marked exactly if this
compilation failed by its imports alone, or the schema was marked before; so the mark tells how it failed
exactly if an old mark does not mislead. A document of another schema than the one that it was opened for
changes no mark. And where a schema is imported that just failed to compile, this is not reported exactly if
its own imports are to blame, or if it was marked before. -/
theorem marked_iff (env : Environment) :
    (∀ ops stack levels tree s, Compiling env (run env ops) stack levels tree s →
      let load := Session.load env levels
      let o := s.compileTree load tree
      o.value = .ok none →
      (tree.identifier ∈ o.state.failedByImport ↔
        ImportsFail load tree s ∨ tree.identifier ∈ s.failedByImport) ∧
      ((tree.identifier ∈ o.state.failedByImport ↔ ImportsFail load tree s) ↔
        (tree.identifier ∈ s.failedByImport → ImportsFail load tree s))) ∧
    (∀ load id (tree : Tree .parsed) (s : Session), id ≠ tree.identifier →
      (s.compileParsed load (some id) tree).state.failedByImport = s.failedByImport) ∧
    ∀ ops levels b s before n after, Types env (run env ops) levels b s →
      b.imports = before ++ n :: after →
      let load := Session.load env levels
      let now := (loadImports load b.data before s).session
      let first := load b.data n.data now
      let rest := loadImports load b.data after first.state
      first.value = .error (.compilationFailed n.data) →
      ∃ own, (loadImports load b.data (n :: after) now).issues = first.issues ++ own ++ rest.issues ∧
        (own = [] ∨ own = [.load (.compilationFailed n.data) n.position]) ∧
        (own = [] ↔ BlamesImports env levels b.data n.data now ∨ n.data ∈ now.failedByImport) := by
  refine ⟨?_, ?_, ?_⟩
  · intro ops stack levels tree s hc load o hfailed
    have hs := (hc.underWay (run_valid env ops)).1.valid
    have hmarked := (compileTree_marks (load_keeps env levels) (load_steady env levels) tree hs).2 hfailed
    refine ⟨hmarked, ?_⟩
    rw [hmarked]
    exact or_iff_left_iff_imp
  · -- A document of another schema is refused before anything of it is compiled.
    intro load id tree s hother
    simp [compileParsed, hother]
  · intro ops levels b s before n after ht _ load now first rest hfailed
    have hs := ht.valid (run_valid env ops)
    have hnow : now.Valid := (loadImports_advances (load_keeps env levels) _ before s hs).1.valid
    have hmarked := load_marks hnow hfailed
    refine ⟨if alreadyReported first.state (.compilationFailed n.data) then []
      else [.load (.compilationFailed n.data) n.position], ?_, ?_, ?_⟩
    · rw [loadImports]
      simp only
      rw [hfailed]
    · split <;> simp
    · rw [← hmarked]
      simp [alreadyReported, first, load]

theorem marked_iff_dublin :
    let env := Sample.source.environment 1000 1
    let load := Session.load env 1
    (∃ ops tree s, Compiling env (run env ops) [Sample.dublin] 1 tree s ∧
      (s.compileTree load tree).value = .ok none ∧
      (Sample.dublin ∈ (s.compileTree load tree).state.failedByImport ↔
        ImportsFail load tree s ∨ Sample.dublin ∈ s.failedByImport) ∧
      (s.compileParsed load (some Sample.core) tree).state.failedByImport = s.failedByImport) ∧
    ∃ b n s, Types env (run env []) 1 b s ∧ b.imports = [n] ∧
      (load b.data n.data s).value = .error (.compilationFailed n.data) ∧
      ∃ own, (loadImports load b.data [n] s).issues = (load b.data n.data s).issues ++ own ∧
        (own = [] ↔ BlamesImports env 1 b.data n.data s ∨ n.data ∈ s.failedByImport) := by
  intro env load
  obtain ⟨hmarked, hother, hreported⟩ := marked_iff env
  constructor
  · obtain ⟨tree, hc, hid, hbind, -⟩ := Sample.compiling_broken
    have hfailed : ∀ s : Session, (s.compileTree load tree).value = .ok none := by
      simp [compileTree, hbind]
    have h := (hmarked _ _ _ _ _ hc (hfailed _)).1
    rw [hid] at h
    exact ⟨_, tree, _, hc, hfailed _, h, hother _ _ _ _ (by rw [hid]; decide)⟩
  · obtain ⟨b, n, ht, himports, hfailed⟩ := Sample.types_reader
    obtain ⟨own, hissues, -, hown⟩ := hreported [] _ _ _ [] n [] ht himports hfailed
    exact ⟨b, n, _, ht, himports, hfailed, own, hissues.trans (List.append_nil _), hown⟩

/-- The mark does not tell how the last compilation failed. -/
theorem not_marked_iff_importsFail :
    ¬ ∀ env ops stack levels tree s, Compiling env (run env ops) stack levels tree s →
      (s.compileTree (Session.load env levels) tree).value = .ok none →
      (tree.identifier ∈ (s.compileTree (Session.load env levels) tree).state.failedByImport ↔
        ImportsFail (Session.load env levels) tree s) := by
  intro hall
  obtain ⟨tree, hc, hid, hbind, hmarked⟩ := Sample.compiling_broken
  have hfailed : ∀ load s, Session.compileTree load tree s = ⟨s, .ok none, tree.bind.issues⟩ := by
    simp [compileTree, hbind]
  have h := hall _ _ _ _ _ _ hc (by rw [hfailed])
  rw [hfailed, hid] at h
  obtain ⟨b, hb, -⟩ := h.mp hmarked
  rw [hbind] at hb
  cases hb

end Session

end MetaSchema
