import MetaSchema.Issue.Basic

/-!
# Which issues are of defects

* `Issue.defect?`: the defect that an issue is of, if it is of one.
* `Issue.severity_eq_critical`: just these issues are critical.
* `Faultless`: none of some issues is of a defect.
-/

namespace MetaSchema

def LoadError.defect? : LoadError → Option Defect
  | .internal d => some d
  | _ => none

def ResolveError.defect? : ResolveError → Option Defect
  | .internal d => some d
  | _ => none

def ValidationError.defect? : ValidationError → Option Defect
  | .internal d => some d
  | _ => none

theorem LoadError.defect?_eq_some {e : LoadError} {d : Defect} (h : e.defect? = some d) :
    e = .internal d := by
  cases e <;> cases h
  rfl

theorem ResolveError.defect?_eq_some {e : ResolveError} {d : Defect} (h : e.defect? = some d) :
    e = .internal d := by
  cases e <;> cases h
  rfl

namespace Issue

/-- The defect that an issue is of, if it is of one. -/
def defect? : Issue → Option Defect
  | parse _ => none
  | foreignAttribute _ => none
  | bind _ => none
  | load e _ => e.defect?
  | resolve e => e.defect?
  | validate e => e.defect?
  | defect d => some d

/-- Critical issues are those of a defect. -/
theorem severity_eq_critical {i : Issue} :
    i.diagnostic.severity = .critical ↔ ∃ d, i.defect? = some d := by
  cases i with
  | parse e => simp [diagnostic, ParseError.diagnostic, defect?]
  | foreignAttribute a => simp [diagnostic, ForeignAttribute.diagnostic, defect?]
  | bind e => simp [diagnostic, BindError.diagnostic, defect?]
  | load e position =>
    cases e <;> simp [diagnostic, LoadError.diagnostic, Defect.diagnostic, defect?, LoadError.defect?]
  | resolve e =>
    cases e <;>
      simp [diagnostic, ResolveError.diagnostic, Defect.diagnostic, defect?, ResolveError.defect?]
  | validate e =>
    cases e <;>
      simp [diagnostic, ValidationError.diagnostic, Defect.diagnostic, defect?,
        ValidationError.defect?]
  | defect d => simp [diagnostic, Defect.diagnostic, defect?]

end Issue

/-- None of the issues is of a defect. -/
def Faultless (issues : List Issue) : Prop := ∀ i ∈ issues, i.defect? = none

@[simp] theorem faultless_nil : Faultless [] := by
  simp [Faultless]

@[simp] theorem faultless_append {is js : List Issue} :
    Faultless (is ++ js) ↔ Faultless is ∧ Faultless js := by
  simp [Faultless, or_imp, forall_and]

@[simp] theorem faultless_fail {α : Type} {i : Issue} :
    Faultless (Reported.fail i : Reported (Option α)).issues ↔ i.defect? = none := by
  simp [Faultless, Reported.fail]

end MetaSchema
