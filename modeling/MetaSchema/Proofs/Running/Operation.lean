import MetaSchema.Proofs.Resolution.Session
import MetaSchema.Proofs.Running.Resolving

/-!
# Operations as tasks

* `Operation.outcome`: what an operation of a session gives, with the type of its result.
* `Operation.task`: the operation as a task.
* `task_follows`: on every session that can come about, an operation ends as its outcome says.
* `independent_of_receiver`: so it is with every stage. What the receiver of the diagnostics does,
  and what it was offered before, has no part in any result, state or count.
-/

namespace MetaSchema

namespace Session.Operation

/-- What an operation has for a result. -/
def Result : Operation → Type
  | .load .. => Except LoadError Schema
  | .loadRoot _ => Except LoadError Schema
  | .compileDocument .. => Option Schema
  | .typeTree _ => Except TypingFailure Schema
  | .find _ => Except ResolveError Schema
  | .resolve _ => Option ResolvedSet

/-- What an operation gives. -/
def outcome (env : Environment) (s : Session) : (op : Operation) → Outcome Session op.Result
  | .load requester target => loadImport env requester target s
  | .loadRoot target => s.loadRoot env target
  | .compileDocument uri document => s.compileDocument env uri document
  | .typeTree tree => s.typeTree env tree
  | .find target => Session.find env target s
  | .resolve table => (directory env).resolve table s

theorem state_outcome (env : Environment) (s : Session) (op : Operation) :
    (op.outcome env s).state = s.after env op := by
  cases op <;> rfl

section Task

variable (source : Source) (nodesLimit maxImportDepth : Nat)

/-- An operation as a task. -/
def task (fuel : Nat) : (op : Operation) → Task Loader op.Result
  | .load requester target => Task.load source nodesLimit maxImportDepth fuel requester target
  | .loadRoot target => Task.loadRoot source nodesLimit maxImportDepth fuel target
  | .compileDocument uri document =>
    Task.compileDocument source nodesLimit maxImportDepth fuel uri document
  | .typeTree tree => Task.typeTree source nodesLimit maxImportDepth fuel tree
  | .find target => Task.findSchema source nodesLimit maxImportDepth fuel target
  | .resolve table =>
    Task.resolve (Task.findSchema source nodesLimit maxImportDepth fuel) fuel table

/-- **Every operation**, on a valid session. Fuel is needed for the levels of imports alone, but by
a resolution also for the schemas that the session comes to hold. -/
theorem task_follows (op : Operation) {s : Session} (hs : s.Valid) :
    let o := op.outcome (source.environment nodesLimit maxImportDepth) s
    ∃ enough, ∀ fuel, enough ≤ fuel → ∀ peak ≤ maxImportDepth + 1,
      (op.task source nodesLimit maxImportDepth fuel).Follows (maxImportDepth + 1) (.idle s peak)
        o.value o.state o.issues := by
  cases op with
  | load requester target =>
    exact ⟨maxImportDepth + 2, fun fuel hfuel peak hpeak =>
      Task.loadAtRoot_follows source nodesLimit maxImportDepth hfuel hpeak s requester target⟩
  | loadRoot target =>
    exact ⟨maxImportDepth + 2, fun fuel hfuel peak hpeak =>
      Task.loadRoot_follows source nodesLimit maxImportDepth hfuel hpeak s target⟩
  | compileDocument uri document =>
    exact ⟨maxImportDepth + 2, fun fuel hfuel peak hpeak =>
      Task.compileDocument_follows source nodesLimit maxImportDepth hfuel hpeak s uri document⟩
  | typeTree tree =>
    exact ⟨maxImportDepth + 2, fun fuel hfuel peak hpeak =>
      Task.typeTree_follows source nodesLimit maxImportDepth hfuel hpeak s tree⟩
  | find target =>
    exact ⟨maxImportDepth + 2, fun fuel hfuel peak hpeak =>
      Task.findSchema_follows source nodesLimit maxImportDepth hfuel hpeak s target⟩
  | resolve table =>
    obtain ⟨enough, hends⟩ := Task.resolve_ends
      (lawful (source.environment nodesLimit maxImportDepth))
      (fun fuel hfuel => Task.findSchema_finds source nodesLimit maxImportDepth hfuel) table hs
    refine ⟨enough, fun fuel hfuel peak hpeak => ?_⟩
    obtain ⟨_, ⟨peak', hpeak', rfl⟩, hend⟩ := hends fuel hfuel _ ⟨peak, hpeak, rfl⟩
    exact ⟨peak', hpeak', hend⟩

end Task

end Session.Operation

/-- **The receiver has no part in anything.** Parsing, binding, validating, every operation of a
session after any operations, and resolving over a catalog: each ends with a result and a state,
reports its diagnostics, and counts them, as if it were alone, whatever the receiver takes, refuses
or breaks down at. -/
theorem independent_of_receiver (source : Source) (nodesLimit maxImportDepth : Nat) :
    let env := source.environment nodesLimit maxImportDepth
    (∀ uri document,
      let parsed := ({ nodesLimit } : Parser).parse uri document
      (Task.parse nodesLimit uri document).Ends () parsed.value ()
        (parsed.issues.map Issue.diagnostic)) ∧
    (∀ tree : Tree .parsed,
      (Task.bindTree tree).Ends () tree.bind.value () (tree.bind.issues.map Issue.diagnostic)) ∧
    (∀ (v : Validation) as,
      (Task.validate v as).Ends () (validate v as).value ()
        ((validate v as).issues.map Issue.diagnostic)) ∧
    (∀ ops (op : Session.Operation),
      let o := op.outcome env (Session.run env ops)
      ∃ enough, ∀ fuel, enough ≤ fuel → ∀ peak ≤ maxImportDepth + 1,
        (op.task source nodesLimit maxImportDepth fuel).Follows (maxImportDepth + 1)
          (.idle (Session.run env ops) peak) o.value o.state o.issues) ∧
    (∀ (c : Catalog) table,
      let o := Catalog.directory.resolve table c
      ∃ enough, ∀ fuel, enough ≤ fuel →
        (Task.resolve Task.findHeld fuel table).Ends c o.value o.state
          (o.issues.map Issue.diagnostic)) := by
  exact ⟨fun uri document => Task.parse_ends nodesLimit uri document (),
    fun tree => Task.bindTree_ends tree (), fun v as => Task.validate_ends v as (),
    fun ops op => op.task_follows source nodesLimit maxImportDepth (Session.run_valid _ ops),
    Task.resolve_held_ends⟩

end MetaSchema
