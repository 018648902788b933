import MetaSchema.Proofs.Issue.Defect

/-!
# Which issues are of a document

* `Issue.isOfDocument`: whether an issue is about one document alone, as those of parsing and binding are.
* `OfDocument`: all of some issues are; so none of them is of a defect.
-/

namespace MetaSchema

/-- Whether an issue is about one document alone: about its text, or about what it declares. -/
def Issue.isOfDocument : Issue → Bool
  | parse _ => true
  | foreignAttribute _ => true
  | bind _ => true
  | load _ _ => false
  | resolve _ => false
  | validate _ => false
  | defect _ => false

/-- All of the issues are about a document alone. -/
def OfDocument (issues : List Issue) : Prop := ∀ i ∈ issues, i.isOfDocument = true

@[simp] theorem ofDocument_nil : OfDocument [] := by
  simp [OfDocument]

@[simp] theorem ofDocument_append {is js : List Issue} :
    OfDocument (is ++ js) ↔ OfDocument is ∧ OfDocument js := by
  simp [OfDocument, or_imp, forall_and]

@[simp] theorem ofDocument_fail {α : Type} {i : Issue} :
    OfDocument (Reported.fail i : Reported (Option α)).issues ↔ i.isOfDocument = true := by
  simp [OfDocument, Reported.fail]

theorem OfDocument.faultless {is : List Issue} (h : OfDocument is) : Faultless is := by
  intro i hi
  have hdocument := h i hi
  cases i <;> first | rfl | cases hdocument

theorem OfDocument.filter_eq {is : List Issue} (h : OfDocument is) :
    is.filter Issue.isOfDocument = is :=
  List.filter_eq_self.mpr h

theorem OfDocument.filter_not_eq {is : List Issue} (h : OfDocument is) :
    is.filter (fun i => !i.isOfDocument) = [] := by
  refine List.filter_eq_nil_iff.mpr fun i hi => ?_
  simp [h i hi]

end MetaSchema
