import MetaSchema.Diagnostic.Basic

/-!
# Reporting

How diagnostics leave the program. A receiver is offered each diagnostic in turn. It may take it,
refuse it or break down; the program goes on in the same way whatever it does.

* `Response`: what a receiver does with one diagnostic.
* `Reporter`: the counts of what was reported, what was offered, and what of it was taken.
* `Reporter.report`, `Reporter.reportAll`: offering one diagnostic, or several in order.
-/

namespace MetaSchema

/-- What a receiver does with a diagnostic that it is offered. -/
inductive Response where
  | takes
  | refuses
  | breaksDown
deriving DecidableEq, Repr

/-- A receiver: its response to the offer of each number, counted from zero. -/
abbrev Receiver := Nat → Diagnostic → Response

/-- The receiver that takes everything. -/
def Receiver.willing : Receiver := fun _ _ => .takes

structure Reporter where
  receiver : Receiver
  errors : Nat
  warnings : Nat
  /-- The diagnostics that the receiver was offered, newest first. -/
  offered : List Diagnostic
  /-- The diagnostics that the receiver took, newest first. -/
  taken : List Diagnostic

namespace Reporter

/-- A reporter that has reported nothing yet. -/
def start (receiver : Receiver) : Reporter := ⟨receiver, 0, 0, [], []⟩

/-- Counts a diagnostic and offers it to the receiver. -/
def report (r : Reporter) (d : Diagnostic) : Reporter where
  receiver := r.receiver
  errors := if d.isError then r.errors + 1 else r.errors
  warnings := if d.isError then r.warnings else r.warnings + 1
  offered := d :: r.offered
  taken := match r.receiver r.offered.length d with
    | .takes => d :: r.taken
    | .refuses => r.taken
    | .breaksDown => r.taken

/-- Reports diagnostics in order. -/
def reportAll (r : Reporter) (ds : List Diagnostic) : Reporter := ds.foldl report r

def hasErrors (r : Reporter) : Bool := 0 < r.errors

/-- The diagnostics that the receiver took, in order. -/
def received (r : Reporter) : List Diagnostic := r.taken.reverse

end Reporter

end MetaSchema
