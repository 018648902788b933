import MetaSchema.Diagnostic.Reporter
import MetaSchema.Issue.Basic

/-!
# Delivering issues

An operation gives its issues together with its result; here they go to a reporter.

* `Delivery`: the end of an operation whose issues were reported.
* `Reported.deliver`, `Outcome.deliver`: reporting the diagnostics of all issues in order.
-/

namespace MetaSchema

/-- What an operation leaves behind when its issues have been reported. -/
structure Delivery (σ α : Type) where
  state : σ
  value : α
  reporter : Reporter

variable {σ α : Type}

def Outcome.deliver (o : Outcome σ α) (r : Reporter) : Delivery σ α :=
  ⟨o.state, o.value, r.reportAll (o.issues.map Issue.diagnostic)⟩

def Reported.deliver (x : Reported α) (r : Reporter) : Delivery Unit α :=
  ⟨(), x.value, r.reportAll (x.issues.map Issue.diagnostic)⟩

end MetaSchema
