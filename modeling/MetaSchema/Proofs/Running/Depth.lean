import MetaSchema.Proofs.Running.Operation
import MetaSchema.Proofs.Session.Chain

/-!
# The limit on nested imports

* `Session.Shallow`: no schema was opened more levels of imports down than the limit allows.
* `load_shallow`, `after_shallow`: every operation keeps it so.
* `import_recursion_bounded`: for every source, also one where imports never come to an end, all
  operations end, with no more schemas under way at once than the limit allows and with the counter
  at zero; and a chain of imports is loaded exactly up to the limit.
-/

namespace MetaSchema

open Session

/-! ## Openings -/

/-- No schema was opened more than `limit` levels of imports below the one that was asked for. -/
def Session.Shallow (limit : Nat) (s : Session) : Prop := ∀ o ∈ s.openings, o.level ≤ limit

/-- Loading an import opens nothing too far down. -/
def Loading.Shallow (limit : Nat) (load : Loading) : Prop :=
  ∀ requester target (s : Session), s.Shallow limit → (load requester target s).state.Shallow limit

variable {limit : Nat} {load : Loading} {s s' : Session}

theorem Session.Shallow.of_eq (hs : s.Shallow limit) (h : s'.openings = s.openings) :
    s'.Shallow limit := by
  rw [Session.Shallow, h]
  exact hs

theorem Session.openings_blame (id : SchemaIdentifier) : (s.blame id).openings = s.openings := by
  unfold blame
  split <;> rfl

theorem Session.Shallow.recordOpening (hs : s.Shallow limit) (id : SchemaIdentifier) {level : Nat}
    (hlevel : level ≤ limit) : (s.recordOpening id level).Shallow limit :=
  List.forall_mem_cons.mpr ⟨hlevel, hs⟩

theorem loadImports_shallow (hl : load.Shallow limit) (owner : SchemaIdentifier)
    (ns : List (ImportNode .bound)) (hs : s.Shallow limit) :
    (loadImports load owner ns s).session.Shallow limit := by
  induction ns using List.reverseRecOn with
  | nil => exact hs
  | append_singleton ns n ih =>
    rw [session_loadImports_concat]
    exact hl owner n.data _ ih

theorem compileTree_shallow (hl : load.Shallow limit) (tree : Tree .parsed) (hs : s.Shallow limit) :
    (s.compileTree load tree).state.Shallow limit := by
  have htyped : ∀ b : Tree .bound, (b.typeWith load s).state.Shallow limit := by
    intro b
    rw [Tree.state_typeWith]
    exact loadImports_shallow hl _ _ hs
  have ho := compilesTree load tree s
  generalize s.compileTree load tree = o at ho
  cases ho with
  | unbound => exact hs
  | stored => exact (htyped _).of_eq rfl
  | imports => exact (htyped _).of_eq (openings_blame _)
  | schema => exact htyped _

theorem compileWith_shallow (hl : load.Shallow limit) (parser : Parser) (opened : Opened)
    (expected : Option SchemaIdentifier) (hs : s.Shallow limit) :
    (s.compileWith parser load opened expected).state.Shallow limit := by
  unfold compileWith
  dsimp only
  split
  · exact hs.of_eq rfl
  · rename_i tree _
    unfold compileParsed
    split
    · split
      · exact hs.of_eq rfl
      · exact compileTree_shallow hl tree (hs.of_eq rfl)
    · split
      · exact hs.of_eq rfl
      · exact compileTree_shallow hl tree (hs.of_eq rfl)

theorem fetchWith_shallow (hl : load.Shallow limit) (env : Environment) (target : SchemaIdentifier)
    {level : Nat} (hlevel : level ≤ limit) (hs : s.Shallow limit) :
    (s.fetchWith env load target level).state.Shallow limit := by
  have hopened := hs.recordOpening target hlevel
  unfold fetchWith
  dsimp only
  split
  · exact hopened
  · exact compileWith_shallow hl env.parser _ _ hopened

/-- **Loading** an import, with some levels left. -/
theorem load_shallow (env : Environment) (levels : Nat) :
    (Session.load env levels).Shallow env.maxImportDepth := by
  induction levels with
  | zero =>
    intro requester target s hs
    unfold Session.load
    split <;> exact hs
  | succ levels ih =>
    intro requester target s hs
    unfold Session.load
    split
    · exact hs
    · split
      · exact hs
      · exact fetchWith_shallow ih env target (Nat.sub_le _ _) (hs.of_eq rfl)

theorem loadRoot_shallow (env : Environment) (target : SchemaIdentifier)
    (hs : s.Shallow env.maxImportDepth) : (s.loadRoot env target).state.Shallow env.maxImportDepth := by
  unfold Session.loadRoot
  split
  · exact hs
  · exact fetchWith_shallow (load_shallow env _) env target (Nat.zero_le _) (hs.of_eq rfl)

/-- **Every operation** keeps the openings within the limit. -/
theorem after_shallow (env : Environment) (op : Operation) (hs : s.Shallow env.maxImportDepth) :
    (s.after env op).Shallow env.maxImportDepth := by
  cases op with
  | load requester target => exact load_shallow env _ requester target s hs
  | loadRoot target => exact loadRoot_shallow env target hs
  | compileDocument uri document =>
    have hcompiled := compileWith_shallow (load_shallow env env.maxImportDepth) env.parser
      ⟨uri, .ok document⟩ none hs
    unfold after compileDocument
    dsimp only
    split <;> exact hcompiled
  | typeTree tree =>
    show ((tree.typeWith (loadImport env) s).state).Shallow _
    rw [Tree.state_typeWith]
    exact loadImports_shallow (load_shallow env _) _ _ hs
  | find target => exact loadRoot_shallow env target hs
  | resolve table =>
    exact Walk.resolve_keeps (p := Session.Shallow env.maxImportDepth)
      (fun target _ h => loadRoot_shallow env target h) table hs

theorem run_shallow (env : Environment) (ops : List Operation) :
    (run env ops).Shallow env.maxImportDepth := by
  induction ops using List.reverseRecOn with
  | nil => exact fun o ho => by cases ho
  | append_singleton ops op ih =>
    rw [run, List.foldl_append]
    exact after_shallow env op ih

/-! ## The limit -/

/-- **Import recursion is bounded**, whatever the source. Every operation on a session that can come
about ends, whether it succeeds or not: at no time were more schemas being compiled than one and as
many as the limit says, the counter is at zero again, and no schema was opened too far down. The
limit is exact. The first schema of a chain of imports can be loaded in a fresh session if and only
if the chain has no more imports than the limit says; if it has more, nothing is cached, and the
only error is that one import was too many. -/
theorem import_recursion_bounded (source : Source) (nodesLimit maxImportDepth : Nat) :
    let env := source.environment nodesLimit maxImportDepth
    (∀ ops (op : Operation),
      let s := run env ops
      let o := op.outcome env s
      ∃ enough, ∀ fuel, enough ≤ fuel → ∃ peak ≤ maxImportDepth + 1,
        (op.task source nodesLimit maxImportDepth fuel).Ends (.idle s 0) o.value
          (.idle (s.after env op) peak) (o.issues.map Issue.diagnostic)) ∧
    (∀ ops, ∀ o ∈ (run env ops).openings, o.level ≤ maxImportDepth) ∧
    ∀ n schema tree, env.Chain n schema tree →
      let o := fresh.loadRoot env (schema 0)
      ((∃ c, o.value = .ok c) ↔ n ≤ maxImportDepth) ∧
      (maxImportDepth < n → o.state.cache = [] ∧
        ∃ node remarks, (tree maxImportDepth).imports = [node] ∧
          node.data = schema (maxImportDepth + 1) ∧
          o.issues = remarks ++
            [.load (.depthExceeded (schema (maxImportDepth + 1)) maxImportDepth) node.position] ∧
          remarks = (List.range (maxImportDepth + 1)).flatMap (fun i => env.remarks (schema i)) ∧
          ∀ i ∈ remarks, i.isError = false) := by
  intro env
  have henv : env.parser.languages = [.version1] := rfl
  refine ⟨fun ops op => ?_, run_shallow env, fun n schema tree h => ⟨h.loadRoot_isOk_iff henv, ?_⟩⟩
  · -- The counter was at zero and no schema was under way, so `Follows` ends there too.
    obtain ⟨enough, hends⟩ := op.task_follows source nodesLimit maxImportDepth (run_valid env ops)
    refine ⟨enough, fun fuel hfuel => ?_⟩
    obtain ⟨peak, hpeak, hend⟩ := hends fuel hfuel 0 (Nat.zero_le _)
    rw [← op.state_outcome]
    exact ⟨peak, hpeak, hend⟩
  · intro hlong
    obtain ⟨-, hcache, node, hnode, hdata, hissues⟩ := h.loadRoot_too_long henv hlong
    refine ⟨hcache, node, _, hnode, hdata, hissues, rfl, fun i hi => ?_⟩
    obtain ⟨k, hk, hi⟩ := List.mem_flatMap.mp hi
    have hkn : k ≤ n := (Nat.le_of_lt_succ (List.mem_range.mp hk)).trans hlong.le
    exact Environment.remarks_quiet henv (h.bound k hkn) i hi

namespace Sample

/-- The one schema imports the other. -/
def chain (i : Nat) : SchemaIdentifier := if i = 0 then dublin else core

theorem exists_chain : ∃ tree, (source.environment 1000 0).Chain 1 chain tree := by
  obtain ⟨hdublin, hcore⟩ := imports_bound?
  obtain ⟨first, hfirst, hfirst_imports⟩ := Option.map_eq_some_iff.mp hdublin
  obtain ⟨last, hlast, hlast_imports⟩ := Option.map_eq_some_iff.mp hcore
  -- Both schemas can be compiled, since loading the first of them succeeds.
  have hok : (fresh.loadRoot (source.environment 1000 1) dublin).value.toOption.isSome = true := by
    decide +kernel
  have hcompilable : (source.environment 1000 1).Compilable dublin := by
    refine (loadRoot_isOk_iff rfl encard_closure_le rooted_fresh).mp ?_
    cases hv : (fresh.loadRoot (source.environment 1000 1) dublin).value with
    | ok schema => exact ⟨schema, rfl⟩
    | error e =>
      rw [hv] at hok
      cases hok
  have himports : (source.environment 1000 1).Imports dublin core :=
    ⟨first, hfirst, by rw [hfirst_imports]; exact List.mem_singleton_self core⟩
  refine ⟨fun i => if i = 0 then first else last, ?_, ?_, ?_, ?_⟩
  · decide
  · intro i hi
    rcases Nat.le_one_iff_eq_zero_or_eq_one.mp hi with rfl | rfl
    · exact hfirst
    · exact hlast
  · intro i hi
    rcases Nat.le_one_iff_eq_zero_or_eq_one.mp hi with rfl | rfl
    · exact hfirst_imports
    · exact hlast_imports
  · intro i hi
    rcases Nat.le_one_iff_eq_zero_or_eq_one.mp hi with rfl | rfl
    · exact hcompilable.declared dublin Environment.mem_closure_self first hfirst
    · exact hcompilable.declared core (.single himports) last hlast

end Sample

theorem import_recursion_bounded_dublin :
    (∃ tree, (Sample.source.environment 1000 0).Chain 1 Sample.chain tree) ∧
    (fresh.loadRoot (Sample.source.environment 1000 0) Sample.dublin).state.cache = [] ∧
    ¬ ∃ c, (fresh.loadRoot (Sample.source.environment 1000 0) Sample.dublin).value = .ok c := by
  obtain ⟨tree, hchain⟩ := Sample.exists_chain
  have h := (import_recursion_bounded Sample.source 1000 0).2.2 1 Sample.chain tree hchain
  have hfirst : Sample.chain 0 = Sample.dublin := rfl
  rw [hfirst] at h
  exact ⟨⟨tree, hchain⟩, (h.2 Nat.one_pos).1, mt h.1.mp (Nat.not_le.mpr Nat.one_pos)⟩

end MetaSchema
