import MetaSchema.Proofs.Graph.Slots
import MetaSchema.Proofs.Session.Served
import MetaSchema.Proofs.Session.Operation

/-!
# Refused imports

* `value_fetchWith_ne_cyclicImport`: a cycle is found before anything is opened.
* `load_of_cyclicImport`: a load whose import is refused only says so.
* `refused_edges_leave_no_trace`: neither a graph nor a session can tell that an edge was refused.
-/

namespace MetaSchema.Session

variable {env : Environment} {s : Session} {requester target : SchemaIdentifier}

/-- Opening and compiling a schema never ends with a cycle: one that an import of it would close is
reported there, and the schema just fails to compile. -/
theorem value_fetchWith_ne_cyclicImport (load : Loading) (level : Nat) (start goal : SchemaIdentifier)
    (path : List SchemaIdentifier) :
    (s.fetchWith env load target level).value ≠ .error (.cyclicImport start goal path) := by
  unfold fetchWith
  split
  · simp
  · simp only
    rcases (compileWith _ _ _ _ _).value with d | _ | schema <;> simp [loaded]

/-- **A refused import** leaves the session as it was, and reports nothing. -/
theorem load_of_cyclicImport {levels : Nat} {start goal : SchemaIdentifier}
    {path : List SchemaIdentifier}
    (h : (Session.load env levels requester target s).value =
      .error (.cyclicImport start goal path)) :
    Session.load env levels requester target s =
      ⟨s, .error (.cyclicImport requester target path), []⟩ := by
  cases levels with
  | zero =>
    simp only [Session.load] at h
    split at h <;> cases h
  | succ levels =>
    simp only [Session.load] at h ⊢
    split at h
    · cases h
    · split at h
      · rename_i hpath
        cases h
        rfl
      · exact absurd h (value_fetchWith_ne_cyclicImport _ _ _ _ _)

/-- **A refused edge leaves no trace.** Take any requests to a graph, without those that tried an edge that
was refused: they have the same answers as before, and lead to the same graph with the same copy, every
vertex in the same slot. And a load whose import is refused, in whatever session and with however many
levels of imports left, gives the session back as it was, with nothing reported. -/
theorem refused_edges_leave_no_trace :
    (∀ rs : List Workspace.Request,
      let w := (Workspace.empty.run rs).1
      let kept := Workspace.empty.accepted rs
      let again := Workspace.empty.run (kept.map Prod.fst)
      again.2 = kept.map Prod.snd ∧ again.1.graph.contents = w.graph.contents ∧
        again.1.copy.contents = w.copy.contents ∧
        ∀ v, again.1.graph.slotOf? v = w.graph.slotOf? v) ∧
    ∀ env levels requester target s start goal path,
      (Session.load env levels requester target s).value =
        .error (.cyclicImport start goal path) →
      Session.load env levels requester target s =
        ⟨s, .error (.cyclicImport requester target path), []⟩ := by
  refine ⟨fun rs => ?_, fun env levels requester target s start goal path => load_of_cyclicImport⟩
  intro w kept again
  obtain ⟨hanswers, g, copy, hw, hagain⟩ :=
    Workspace.run_accepted rs Workspace.holds_empty Workspace.holds_empty
  refine ⟨hanswers, hagain.contents_eq.trans hw.contents_eq.symm, ?_, hagain.slotOf?_eq hw⟩
  exact hagain.copy_contents_eq.trans hw.copy_contents_eq.symm

theorem refused_edges_leave_no_trace_dublin :
    let env := Sample.source.environment 1000 1
    let s := run env [.load Sample.dublin Sample.core]
    let kept := Workspace.empty.accepted [.addEdge Sample.core Sample.core, .addVertex Sample.dublin,
      .addEdge Sample.dublin Sample.core, .addEdge Sample.core Sample.dublin, .order]
    kept = [(.addVertex Sample.dublin, .truth true), (.addEdge Sample.dublin Sample.core, .accepted),
      (.order, .schemas [Sample.core, Sample.dublin])] ∧
    (Workspace.empty.run (kept.map Prod.fst)).2 =
      [.truth true, .accepted, .schemas [Sample.core, Sample.dublin]] ∧
    Session.load env 1 Sample.core Sample.dublin s =
      ⟨s, .error (.cyclicImport Sample.core Sample.dublin [Sample.dublin, Sample.core]), []⟩ := by
  intro env s kept
  obtain ⟨hgraph, hload⟩ := refused_edges_leave_no_trace
  have hkept : kept = [(.addVertex Sample.dublin, .truth true),
      (.addEdge Sample.dublin Sample.core, .accepted),
      (.order, .schemas [Sample.core, Sample.dublin])] := by
    decide +kernel
  refine ⟨hkept, ?_, ?_⟩
  · rw [(hgraph _).1]
    exact congrArg (List.map Prod.snd) hkept
  · have hnew : (s.cached? Sample.dublin).isNone = true := by decide +kernel
    have hpath : s.graph.addEdge? Sample.core Sample.dublin =
        .error [Sample.dublin, Sample.core] := by
      decide +kernel
    apply hload env 1 _ _ s Sample.core Sample.dublin
    simp only [Session.load, Option.isNone_iff_eq_none.mp hnew, hpath]

end MetaSchema.Session
