import MetaSchema.Issue.Delivery

/-!
# Tasks

What runs with a reporter at hand: it reports each diagnostic when it comes up, and may look at the
counts of the reporter to decide how to go on.

* `Reporter.Offers`: one reporter is another one after some diagnostics were reported to it.
* `Task`: a computation over a state and a reporter. One that does not end has no result.
* `Task.report`, `Task.errorCount`, `Task.read`, `Task.change`: the basic tasks.
* `Task.Ends`: how a task ends, for every reporter. The receiver and what was reported before have
  no part in it.
-/

namespace MetaSchema

namespace Reporter

/-- The reporter `r'` is `r` after these diagnostics: the receiver was offered each of them, once
and in this order, and they were counted, whatever the receiver did with them. -/
structure Offers (r : Reporter) (ds : List Diagnostic) (r' : Reporter) : Prop where
  receiver : r'.receiver = r.receiver
  offered : r'.offered = ds.reverse ++ r.offered
  errors : r'.errors = r.errors + ds.countP (·.isError)
  warnings : r'.warnings = r.warnings + ds.countP (!·.isError)

theorem Offers.refl (r : Reporter) : r.Offers [] r := ⟨rfl, rfl, rfl, rfl⟩

theorem Offers.trans {r r' r'' : Reporter} {ds ds' : List Diagnostic} (h : r.Offers ds r')
    (h' : r'.Offers ds' r'') : r.Offers (ds ++ ds') r'' where
  receiver := h'.receiver.trans h.receiver
  offered := by rw [h'.offered, h.offered, List.reverse_append, List.append_assoc]
  errors := by rw [h'.errors, h.errors, List.countP_append, Nat.add_assoc]
  warnings := by rw [h'.warnings, h.warnings, List.countP_append, Nat.add_assoc]

/-- **Reporting** one diagnostic. -/
theorem offers_report (r : Reporter) (d : Diagnostic) : r.Offers [d] (r.report d) := by
  refine ⟨rfl, rfl, ?_, ?_⟩ <;> cases h : d.isError <;> simp [report, h]

end Reporter

/-- A computation that changes a state and reports. -/
abbrev Task (σ α : Type) := StateT (σ × Reporter) Option α

namespace Task

variable {σ α β : Type}

def report (d : Diagnostic) : Task σ Unit := fun w => some ((), w.1, w.2.report d)

/-- The number of errors reported so far. -/
def errorCount : Task σ Nat := fun w => some (w.2.errors, w)

def read : Task σ σ := fun w => some (w.1, w)

def change (f : σ → σ) : Task σ Unit := fun w => some ((), f w.1, w.2)

/-- From the state `x`, the task ends with the value `a` in the state `x'` and reports `ds`. -/
def Ends (t : Task σ α) (x : σ) (a : α) (x' : σ) (ds : List Diagnostic) : Prop :=
  ∀ r : Reporter, ∃ r', t (x, r) = some (a, x', r') ∧ r.Offers ds r'

theorem ends_pure (a : α) (x : σ) : Ends (pure a) x a x [] :=
  fun r => ⟨r, rfl, .refl r⟩

theorem ends_report (d : Diagnostic) (x : σ) : Ends (report d) x () x [d] :=
  fun r => ⟨_, rfl, r.offers_report d⟩

theorem ends_read (x : σ) : Ends read x x x [] :=
  fun r => ⟨r, rfl, .refl r⟩

theorem ends_change (f : σ → σ) (x : σ) : Ends (change f) x () (f x) [] :=
  fun r => ⟨r, rfl, .refl r⟩

variable {t : Task σ α} {f : α → Task σ β} {x x' x'' : σ} {a : α} {b : β} {ds ds' : List Diagnostic}

theorem bind_of_eq_some {r r' : Reporter} (h : t (x, r) = some (a, x', r')) :
    (t >>= f) (x, r) = f a (x', r') := by
  show (t (x, r)).bind (fun w => f w.1 w.2) = _
  rw [h]
  rfl

/-- **One task after the other.** -/
theorem Ends.bind (h : t.Ends x a x' ds) (h' : (f a).Ends x' b x'' ds') :
    (t >>= f).Ends x b x'' (ds ++ ds') := by
  intro r
  obtain ⟨r', ht, ho⟩ := h r
  obtain ⟨r'', hf, ho'⟩ := h' r'
  exact ⟨r'', (bind_of_eq_some ht).trans hf, ho.trans ho'⟩

/-- After a task that reports nothing. -/
theorem Ends.then (h : t.Ends x a x' []) (h' : (f a).Ends x' b x'' ds') :
    (t >>= f).Ends x b x'' ds' := h.bind h'

/-- Before a task that reports nothing. -/
theorem Ends.finish (h : t.Ends x a x' ds) (h' : (f a).Ends x' b x'' []) :
    (t >>= f).Ends x b x'' ds :=
  List.append_nil ds ▸ h.bind h'

end Task

end MetaSchema
