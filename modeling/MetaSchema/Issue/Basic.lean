import MetaSchema.Issue.Bind
import MetaSchema.Issue.Parse
import MetaSchema.Issue.Resolve
import MetaSchema.Issue.Validate

/-!
# Issues

Everything that a stage of the program can report, by its cause.

* `Issue`: the causes of all stages.
* `Issue.diagnostic`: what is told to the user about an issue.
* `Issue.isError`: whether it counts as an error.
* `Reported`: a result together with the issues that were reported while it was made.
* `Outcome`: the same for an operation that also changes a state.
-/

namespace MetaSchema

inductive Issue where
  | parse (e : ParseError)
  | foreignAttribute (a : ForeignAttribute)
  | bind (e : BindError)
  /-- An import that could not be loaded, with the position of the import. -/
  | load (e : LoadError) (position : Position)
  | resolve (e : ResolveError)
  | validate (e : ValidationError)
  | defect (d : Defect)
deriving DecidableEq

namespace Issue

def diagnostic : Issue → Diagnostic
  | parse e => e.diagnostic
  | foreignAttribute a => a.diagnostic
  | bind e => e.diagnostic
  | load e position => { e.diagnostic with position }
  | resolve e => e.diagnostic
  | validate e => e.diagnostic
  | defect d => d.diagnostic

/-- Whether the issue is more than a warning. -/
def isError (i : Issue) : Bool := i.diagnostic.isError

end Issue

/-- A result and the issues reported on the way to it, in order. -/
structure Reported (α : Type) where
  value : α
  issues : List Issue

namespace Reported

variable {α β : Type}

instance : Monad Reported where
  pure a := ⟨a, []⟩
  bind r f := ⟨(f r.value).value, r.issues ++ (f r.value).issues⟩

@[simp] theorem value_pure (a : α) : (pure a : Reported α).value = a := rfl

@[simp] theorem issues_pure (a : α) : (pure a : Reported α).issues = [] := rfl

@[simp] theorem value_bind (r : Reported α) (f : α → Reported β) :
    (r >>= f).value = (f r.value).value := rfl

@[simp] theorem issues_bind (r : Reported α) (f : α → Reported β) :
    (r >>= f).issues = r.issues ++ (f r.value).issues := rfl

@[simp] theorem issues_map (f : α → β) (r : Reported α) : (f <$> r).issues = r.issues :=
  List.append_nil _

theorem pure_bind (a : α) (f : α → Reported β) : (pure a >>= f) = f a := rfl

/-- Reports one issue. -/
def tell (i : Issue) : Reported Unit := ⟨(), [i]⟩

/-- Reports one issue instead of a result. -/
def fail (i : Issue) : Reported (Option α) := ⟨none, [i]⟩

/-- Whether an error was reported. -/
def hasErrors (r : Reported α) : Bool := r.issues.any Issue.isError

end Reported

/-- What an operation on a state gives: the state after it, the result, and the issues reported in
it, in order. -/
structure Outcome (σ α : Type) where
  state : σ
  value : α
  issues : List Issue

end MetaSchema
