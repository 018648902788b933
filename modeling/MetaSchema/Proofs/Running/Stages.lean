import MetaSchema.Proofs.Running.Task
import MetaSchema.Proofs.Syntax.Explained
import MetaSchema.Validation

/-!
# The stages as tasks

Parsing, binding and validating while the issues are reported one by one. Each stage keeps its own
flag of failure or its own list, and tells the reporter at once.

* `HandlerContext`, `Reported.inContext`: what reads the elements of a document. Reporting the
  issues of a step before the next one is what putting the steps together means.
* `Task.parse`, `Task.bindTree`, `Task.validate`: the stages.
* `parse_ends`, `bindTree_ends`, `validate_ends`: each of them ends with the result and the issues
  of the stage.
-/

namespace MetaSchema

variable {σ α β : Type}

/-! ## Parsing -/

/-- What elements are read with: where their issues are reported, and whether there was an error. -/
structure HandlerContext where
  reporter : Reporter
  failed : Bool

def HandlerContext.report (c : HandlerContext) (i : Issue) : HandlerContext :=
  ⟨c.reporter.report i.diagnostic, c.failed || i.isError⟩

/-- A result in a context, in which the issues are reported. -/
def Reported.inContext (x : Reported α) (c : HandlerContext) : α × HandlerContext :=
  (x.value, x.issues.foldl HandlerContext.report c)

/-- **Step after step.** The issues of the first step are reported before the second is made. -/
theorem Reported.inContext_bind (x : Reported α) (f : α → Reported β) (c : HandlerContext) :
    (x >>= f).inContext c = (f (x.inContext c).1).inContext (x.inContext c).2 := by
  simp only [inContext, value_bind, issues_bind, List.foldl_append]

theorem HandlerContext.foldl_report (c : HandlerContext) (issues : List Issue) :
    c.reporter.Offers (issues.map Issue.diagnostic) (issues.foldl report c).reporter ∧
      ((issues.foldl report c).failed = true ↔ c.failed = true ∨ AnyError issues) := by
  induction issues generalizing c with
  | nil => simp [Reporter.Offers.refl]
  | cons i issues ih =>
    obtain ⟨ho, hf⟩ := ih (c.report i)
    refine ⟨(c.reporter.offers_report i.diagnostic).trans ho, ?_⟩
    rw [List.foldl_cons, hf]
    simp [report, AnyError, or_assoc]

/-- Reads the root element of a document. Once everything in it was read, an error ends it. -/
def Grammar.handle (uri : String) (root : Xml.Element) (c : HandlerContext) :
    Option (Tree .parsed) × HandlerContext :=
  if tag? root = some "Schema" then
    let read := (content uri root).inContext c
    if read.2.failed then (none, read.2) else (treeOf uri root read.1).inContext read.2
  else
    (Reported.fail (violation uri root.place (.wrongRoot (shown root.name)))).inContext c

theorem Grammar.handle_eq (uri : String) (root : Xml.Element) (r : Reporter) :
    handle uri root ⟨r, false⟩ = (schema uri root).inContext ⟨r, false⟩ := by
  unfold handle schema
  split
  · have hfailed := (HandlerContext.foldl_report ⟨r, false⟩ (content uri root).issues).2
    simp only [Bool.false_eq_true, false_or, ← hasErrors_eq_true] at hfailed
    by_cases h : (content uri root).hasErrors = true
    · simp only [Reported.inContext, hfailed.mpr h, h, ↓reduceIte]
    · rw [if_neg h, Reported.inContext_bind]
      exact if_neg (mt hfailed.mp h)
  · rfl

namespace Task

/-- Parses a document in version 1 of the language. -/
def parse (nodesLimit : Nat) (uri : String) (document : Text.Octets) :
    Task σ (Option (Tree .parsed)) :=
  match ({ nodesLimit } : Parser).root? uri document with
  | .error e => do
    report e.diagnostic
    return none
  | .ok root => fun (x, r) =>
    let read :=
      if languageUri = root.name.uri.getD "" then Grammar.handle uri root ⟨r, false⟩
      else (Reported.fail (Grammar.violation uri root.place
        (.unsupportedNamespace (root.name.uri.getD "")))).inContext ⟨r, false⟩
    some (if read.2.failed then none else read.1, x, read.2.reporter)

theorem ends_inContext {t : Task σ (Option α)} {y : Reported (Option α)} (hy : y.Explained) (x : σ)
    (ht : ∀ r, t (x, r) = some (if (y.inContext ⟨r, false⟩).2.failed then none else
      (y.inContext ⟨r, false⟩).1, x, (y.inContext ⟨r, false⟩).2.reporter)) :
    t.Ends x y.value x (y.issues.map Issue.diagnostic) := by
  intro r
  obtain ⟨ho, hfailed⟩ := HandlerContext.foldl_report ⟨r, false⟩ y.issues
  refine ⟨_, (ht r).trans ?_, ho⟩
  by_cases h : y.value = none
  · simp [Reported.inContext, h]
  · have hgood : ¬ (y.issues.foldl HandlerContext.report ⟨r, false⟩).failed = true := by
      rw [hfailed]
      simpa using mt hy.mpr h
    simp [Reported.inContext, hgood]

theorem parse_eq (nodesLimit : Nat) (uri : String) (document : Text.Octets) :
    ({ nodesLimit } : Parser).parse uri document =
      match ({ nodesLimit } : Parser).root? uri document with
      | .error e => .fail (.parse e)
      | .ok root =>
        if languageUri = root.name.uri.getD "" then Grammar.schema uri root
        else .fail (Grammar.violation uri root.place
          (.unsupportedNamespace (root.name.uri.getD ""))) := by
  unfold Parser.parse
  cases ({ nodesLimit } : Parser).root? uri document with
  | error e => rfl
  | ok root =>
    by_cases h : languageUri = root.name.uri.getD ""
    · simp only [Parser.language?, List.find?_cons, Language.version1, h, ↓reduceIte,
        beq_self_eq_true]
    · simp only [Parser.language?, List.find?_cons, Language.version1, beq_eq_false_iff_ne.mpr h, h,
        ↓reduceIte, List.find?_nil]

/-- **Parsing.** -/
theorem parse_ends (nodesLimit : Nat) (uri : String) (document : Text.Octets) (x : σ) :
    (parse nodesLimit uri document).Ends x (({ nodesLimit } : Parser).parse uri document).value x
      ((({ nodesLimit } : Parser).parse uri document).issues.map Issue.diagnostic) := by
  have hexplained : (({ nodesLimit } : Parser).parse uri document).Explained :=
    Parser.parse_explained (fun l hl => List.mem_singleton.mp hl) uri document
  rw [parse_eq] at hexplained ⊢
  unfold parse
  split
  · rename_i e _
    refine (ends_report e.diagnostic x).finish ?_
    exact ends_pure none x
  · rename_i root hroot
    simp only [hroot] at hexplained
    refine ends_inContext hexplained x fun r => ?_
    by_cases h : languageUri = root.name.uri.getD ""
    · simp only [if_pos h, Grammar.handle_eq]
    · simp only [if_neg h]

/-! ## Binding -/

/-- Binds declarations: those that bind, and whether any does not. -/
def bindAll (t : Tree .parsed) : List (Declaration .parsed) → Task σ (List (Declaration .bound) × Bool)
  | [] => return ([], false)
  | d :: ds =>
    match t.bindDeclaration d with
    | .ok b => do
      let rest ← bindAll t ds
      return (b :: rest.1, rest.2)
    | .error e => do
      report e.diagnostic
      let rest ← bindAll t ds
      return (rest.1, true)

/-- Reports the cycles of bases that start at these types: whether there are any. -/
def reportCycles (t : Tree .parsed) : List TypeName → List (TypeNode .parsed) → Task σ Bool
  | _, [] => return false
  | found, n :: ns =>
    if n.name ∈ found then reportCycles t found ns
    else
      match t.cycleFrom? n.name with
      | none => reportCycles t found ns
      | some cycle => do
        report (BindError.typeCyclic ⟨t.name, n.name⟩ cycle n.position).diagnostic
        let _ ← reportCycles t (found ++ cycle) ns
        return true

def bindTree (t : Tree .parsed) : Task σ (Option (Tree .bound)) := do
  let declarations ← bindAll t t.declarations.items
  let cyclic ← reportCycles t [] t.types
  if declarations.2 || cyclic then return none
  else
    match Tree.ofChildren? t.position t.identifier t.name t.version
        (declarations.1.map .declaration) with
    | .ok bound => return some bound
    | .error e => do
      report (Defect.malformedTree e).diagnostic
      return none

/-- The errors of some declarations. -/
def declarationErrors (t : Tree .parsed) (ds : List (Declaration .parsed)) : List BindError :=
  ds.filterMap fun d =>
    match t.bindDeclaration d with
    | .ok _ => none
    | .error e => some e

theorem bindAll_ends (t : Tree .parsed) (ds : List (Declaration .parsed)) (x : σ) :
    (bindAll t ds).Ends x
      (ds.filterMap fun d => (t.bindDeclaration d).toOption, !(declarationErrors t ds).isEmpty) x
      ((declarationErrors t ds).map BindError.diagnostic) := by
  induction ds with
  | nil => exact ends_pure _ x
  | cons d ds ih =>
    unfold bindAll declarationErrors
    cases h : t.bindDeclaration d with
    | ok b =>
      simp only [List.filterMap_cons, h, Except.toOption]
      refine ih.finish ?_
      exact ends_pure _ x
    | error e =>
      simp only [List.filterMap_cons, h, Except.toOption]
      refine (ends_report e.diagnostic x).bind (ih.finish ?_)
      exact ends_pure _ x

theorem reportCycles_cons (t : Tree .parsed) (found : List TypeName) (n : TypeNode .parsed)
    (ns : List (TypeNode .parsed)) :
    (reportCycles t found (n :: ns) : Task σ Bool) =
      if n.name ∈ found then reportCycles t found ns
      else
        match t.cycleFrom? n.name with
        | none => reportCycles t found ns
        | some cycle => do
          report (BindError.typeCyclic ⟨t.name, n.name⟩ cycle n.position).diagnostic
          let _ ← reportCycles t (found ++ cycle) ns
          return true := rfl

theorem reportCycles_ends (t : Tree .parsed) (found : List TypeName) (ns : List (TypeNode .parsed))
    (x : σ) :
    (reportCycles t found ns).Ends x (!(t.cyclesFrom found ns).isEmpty) x
      ((t.cyclesFrom found ns).map BindError.diagnostic) := by
  induction ns generalizing found with
  | nil => exact ends_pure _ x
  | cons n ns ih =>
    rw [Tree.cyclesFrom_cons, reportCycles_cons]
    by_cases hfound : n.name ∈ found
    · simp only [hfound, ↓reduceIte]
      exact ih found
    · cases hcycle : t.cycleFrom? n.name with
      | none =>
        simp only [hfound, ↓reduceIte]
        exact ih found
      | some cycle =>
        simp only [hfound, ↓reduceIte]
        refine (ends_report _ x).bind ?_
        refine (ih _).finish ?_
        exact ends_pure true x

/-- **Binding.** -/
theorem bindTree_ends (t : Tree .parsed) (x : σ) :
    (bindTree t).Ends x t.bind.value x (t.bind.issues.map Issue.diagnostic) := by
  have hfirst : (bindAll t t.declarations.items).Ends x (t.boundDeclarations, !t.bindErrors.isEmpty) x
      (t.bindErrors.map BindError.diagnostic) := bindAll_ends t _ x
  have hcycles : (reportCycles t [] t.types).Ends x (!t.cycles.isEmpty) x
      (t.cycles.map BindError.diagnostic) := reportCycles_ends t _ _ x
  unfold bindTree Tree.bind
  split
  · -- Nothing was reported on the way, so the bound declarations make a new tree.
    rename_i hnone
    obtain ⟨herrors, hcyclic⟩ := List.append_eq_nil_iff.mp hnone
    rw [herrors] at hfirst
    rw [hcyclic] at hcycles
    refine hfirst.then (hcycles.then ?_)
    simp only [List.isEmpty_nil, Bool.not_true, Bool.or_self, Bool.false_eq_true, ↓reduceIte]
    cases Tree.ofChildren? t.position t.identifier t.name t.version
        (t.boundDeclarations.map .declaration) with
    | ok bound => exact ends_pure _ x
    | error e =>
      refine (ends_report _ x).finish ?_
      exact ends_pure none x
  · rename_i hne
    have hissues : ((t.bindErrors ++ t.cycles).map Issue.bind).map Issue.diagnostic =
        t.bindErrors.map BindError.diagnostic ++ t.cycles.map BindError.diagnostic := by
      rw [List.map_map, List.map_append]
      rfl
    show Ends _ x none x (((t.bindErrors ++ t.cycles).map Issue.bind).map Issue.diagnostic)
    rw [hissues]
    refine hfirst.bind (hcycles.finish ?_)
    -- There were reports, in the one list or in the other; both flags are read for that.
    rw [if_pos]
    · exact ends_pure none x
    · rw [Bool.or_eq_true, Bool.not_eq_true', Bool.not_eq_true', List.isEmpty_eq_false_iff,
        List.isEmpty_eq_false_iff]
      by_contra hboth
      rw [not_or, not_not, not_not] at hboth
      exact hne (List.append_eq_nil_iff.mpr hboth)

/-! ## Validating -/

/-- Checks the attributes one after the other: the declarations that they are occurrences of, and
the valid ones. -/
def checkAll (v : Validation) : List UntypedAttribute → Task σ (List Occurrence × List TypedAttribute)
  | [] => return ([], [])
  | a :: as =>
    match v.declarationOf? a with
    | .error e => do
      report e.diagnostic
      checkAll v as
    | .ok (id, d) =>
      match v.value? id d a with
      | .error e => do
        report e.diagnostic
        let rest ← checkAll v as
        return (⟨id, d.name⟩ :: rest.1, rest.2)
      | .ok value => do
        let rest ← checkAll v as
        return (⟨id, d.name⟩ :: rest.1, ⟨id, d.name, value⟩ :: rest.2)

/-- Checks the declarations of one schema against the occurrences: those that are violated. -/
def checkDeclarations (counted : List Occurrence) (name : SchemaName) (id : SchemaIdentifier) :
    List AttributeDeclaration → Task σ (List Occurrence)
  | [] => return []
  | d :: ds =>
    if d.cardinality.accepts (counted.count ⟨id, d.name⟩) then checkDeclarations counted name id ds
    else do
      report (ValidationError.cardinality ⟨name, d.name⟩ d.cardinality
        (counted.count ⟨id, d.name⟩)).diagnostic
      let rest ← checkDeclarations counted name id ds
      return ⟨id, d.name⟩ :: rest

/-- Checks the imported schemas, each once. -/
def checkCardinalities (v : Validation) (counted : List Occurrence) :
    List SchemaIdentifier → List (SchemaName × SchemaIdentifier) → Task σ (List Occurrence)
  | _, [] => return []
  | checked, e :: es =>
    if e.2 ∈ checked then checkCardinalities v counted checked es
    else
      match v.resolved.schema? e.2 with
      | none => checkCardinalities v counted (e.2 :: checked) es
      | some schema => do
        let violated ← checkDeclarations counted e.1 e.2 schema.attributes
        let rest ← checkCardinalities v counted (e.2 :: checked) es
        return violated ++ rest

def validate (v : Validation) (as : List UntypedAttribute) : Task σ (List TypedAttribute) := do
  let checked ← checkAll v as
  let violated ← checkCardinalities v checked.1 [] v.imports.entries
  return checked.2.filter fun a => ⟨a.schema, a.name⟩ ∉ violated

/-- The errors of some attributes. -/
def attributeErrors (v : Validation) (as : List UntypedAttribute) : List ValidationError :=
  (as.map v.typed?).filterMap fun
    | .ok _ => none
    | .error e => some e

theorem checkAll_ends (v : Validation) (as : List UntypedAttribute) (x : σ) :
    (checkAll v as).Ends x (as.filterMap v.occurrence?, (as.map v.typed?).filterMap Except.toOption) x
      ((attributeErrors v as).map ValidationError.diagnostic) := by
  induction as with
  | nil => exact ends_pure _ x
  | cons a as ih =>
    unfold checkAll attributeErrors
    cases hd : v.declarationOf? a with
    | error e =>
      -- Without a declaration the attribute is reported and not counted.
      have htyped : v.typed? a = .error e := by simp only [Validation.typed?, hd]
      have hcount : v.occurrence? a = none := by simp only [Validation.occurrence?, hd]
      simp only [List.filterMap_cons, List.map_cons, htyped, hcount, Except.toOption]
      exact (ends_report e.diagnostic x).bind ih
    | ok found =>
      obtain ⟨id, d⟩ := found
      have hcount : v.occurrence? a = some ⟨id, d.name⟩ := by simp only [Validation.occurrence?, hd]
      cases hv : v.value? id d a with
      | error e =>
        -- With a declaration it counts as an occurrence, even if its value is refused.
        have htyped : v.typed? a = .error e := by simp only [Validation.typed?, hd, hv, Except.map]
        simp only [List.filterMap_cons, List.map_cons, htyped, hcount, Except.toOption, hv]
        refine (ends_report e.diagnostic x).bind (ih.finish ?_)
        exact ends_pure _ x
      | ok value =>
        have htyped : v.typed? a = .ok ⟨id, d.name, value⟩ := by
          simp only [Validation.typed?, hd, hv, Except.map]
        simp only [List.filterMap_cons, List.map_cons, htyped, hcount, Except.toOption, hv]
        refine ih.finish ?_
        exact ends_pure _ x

theorem checkDeclarations_ends (v : Validation) (as : List UntypedAttribute) (name : SchemaName)
    (id : SchemaIdentifier) (ds : List AttributeDeclaration) (x : σ) :
    (checkDeclarations (as.filterMap v.occurrence?) name id ds).Ends x
      ((ds.filterMap (v.violation? as name id)).map CardinalityViolation.occurrence) x
      ((ds.filterMap (v.violation? as name id)).map fun c => c.error.diagnostic) := by
  induction ds with
  | nil => exact ends_pure _ x
  | cons d ds ih =>
    unfold checkDeclarations
    by_cases h : d.cardinality.accepts ((as.filterMap v.occurrence?).count ⟨id, d.name⟩) = true
    · have hnone : v.violation? as name id d = none := by
        simp only [Validation.violation?, Validation.occurrences, h, ↓reduceIte]
      simp only [List.filterMap_cons, hnone, h, ↓reduceIte]
      exact ih
    · have hsome : v.violation? as name id d = some ⟨⟨id, d.name⟩, .cardinality ⟨name, d.name⟩
          d.cardinality ((as.filterMap v.occurrence?).count ⟨id, d.name⟩)⟩ := by
        simp only [Validation.violation?, Validation.occurrences, h]
        rfl
      simp only [List.filterMap_cons, hsome, h]
      refine (ends_report _ x).bind (ih.finish ?_)
      exact ends_pure _ x

theorem checkCardinalities_ends (v : Validation) (as : List UntypedAttribute)
    (checked : List SchemaIdentifier) (es : List (SchemaName × SchemaIdentifier)) (x : σ) :
    (checkCardinalities v (as.filterMap v.occurrence?) checked es).Ends x
      (((Validation.firstEntries checked es).flatMap (v.violationsOf as)).map
        CardinalityViolation.occurrence) x
      (((Validation.firstEntries checked es).flatMap (v.violationsOf as)).map
        fun c => c.error.diagnostic) := by
  induction es generalizing checked with
  | nil => exact ends_pure _ x
  | cons e es ih =>
    unfold checkCardinalities Validation.firstEntries
    -- Two names of one schema stand for one check: the schema is passed over the second time.
    by_cases hchecked : e.2 ∈ checked
    · simp only [hchecked, ↓reduceIte]
      exact ih checked
    · simp only [hchecked, ↓reduceIte, List.flatMap_cons, List.map_append]
      cases hs : v.resolved.schema? e.2 with
      | none =>
        simp only [Validation.violationsOf, hs, List.map_nil, List.nil_append]
        exact ih _
      | some schema =>
        have hviolations : v.violationsOf as e = schema.attributes.filterMap (v.violation? as e.1 e.2) :=
          by simp only [Validation.violationsOf, hs]
        rw [hviolations]
        refine (checkDeclarations_ends v as e.1 e.2 schema.attributes x).bind ((ih _).finish ?_)
        exact ends_pure _ x

/-- **Validating.** -/
theorem validate_ends (v : Validation) (as : List UntypedAttribute) (x : σ) :
    (validate v as).Ends x (MetaSchema.validate v as).value x
      ((MetaSchema.validate v as).issues.map Issue.diagnostic) := by
  have hissues : (MetaSchema.validate v as).issues.map Issue.diagnostic =
      (attributeErrors v as).map ValidationError.diagnostic ++
        (v.violations as).map fun c => c.error.diagnostic := by
    simp only [MetaSchema.validate, List.map_map, List.map_append]
    rfl
  rw [hissues]
  refine (checkAll_ends v as x).bind ((checkCardinalities_ends v as [] v.imports.entries x).finish ?_)
  exact ends_pure _ x

end Task

end MetaSchema
