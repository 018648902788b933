import MetaSchema.Issue.Basic

/-!
# Explained results

A result that is missing should have a reason that the user is told, and what the user is told is an
error should keep a result from being given.

* `AnyError`: an error is among some issues; warnings do not count.
* `Reported.Explained`, `Outcome.Explained`: a result is missing exactly if an error was reported.
* `isError_parse` and its siblings: every issue but an ignored attribute is an error.
-/

namespace MetaSchema

/-- An error, or something worse, is among the issues. -/
def AnyError (issues : List Issue) : Prop := ∃ i ∈ issues, i.isError = true

@[simp] theorem not_anyError_nil : ¬ AnyError [] := by
  simp [AnyError]

@[simp] theorem anyError_append {is js : List Issue} :
    AnyError (is ++ js) ↔ AnyError is ∨ AnyError js := by
  simp [AnyError, or_and_right, exists_or]

@[simp] theorem anyError_singleton {i : Issue} : AnyError [i] ↔ i.isError = true := by
  simp [AnyError]

theorem hasErrors_eq_true {α : Type} {r : Reported α} : r.hasErrors = true ↔ AnyError r.issues := by
  simp [Reported.hasErrors, AnyError]

/-- A result is missing exactly if an error was reported. -/
def Reported.Explained {α : Type} (r : Reported (Option α)) : Prop :=
  r.value = none ↔ AnyError r.issues

@[inherit_doc Reported.Explained]
def Outcome.Explained {σ α : Type} (o : Outcome σ (Option α)) : Prop :=
  o.value = none ↔ AnyError o.issues

/-! ## Which issues are errors -/

namespace Issue

@[simp] theorem isError_parse (e : ParseError) : (parse e).isError = true := rfl

@[simp] theorem isError_bind (e : BindError) : (bind e).isError = true := rfl

@[simp] theorem isError_load (e : LoadError) (p : Position) : (load e p).isError = true := by
  cases e <;> rfl

@[simp] theorem isError_resolve (e : ResolveError) : (resolve e).isError = true := by
  cases e <;> rfl

@[simp] theorem isError_defect (d : Defect) : (defect d).isError = true := rfl

end Issue

namespace Reported

variable {α β : Type}

theorem explained_pure (a : α) : (pure (some a) : Reported (Option α)).Explained := by
  simp [Explained]

theorem explained_fail {i : Issue} (h : i.isError = true) :
    (fail i : Reported (Option α)).Explained := by
  simp [Explained, fail, h]

theorem Explained.exists_some {r : Reported (Option α)} (h : r.Explained) (hn : ¬ AnyError r.issues) :
    ∃ a, r.value = some a :=
  Option.ne_none_iff_exists'.mp (mt h.mp hn)

/-- Two results one after the other, the second made from the first. -/
theorem Explained.bind {r : Reported (Option α)} {f : Option α → Reported (Option β)}
    (hr : r.Explained) (hsome : ∀ a, (f (some a)).Explained) (hnone : f none = pure none) :
    (r >>= f).Explained := by
  unfold Explained at hr ⊢
  rw [value_bind, issues_bind, anyError_append, ← hr]
  cases hv : r.value with
  | none => simp [hnone]
  | some a => simpa [Explained] using hsome a

end Reported

end MetaSchema
