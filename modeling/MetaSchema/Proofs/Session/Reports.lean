import MetaSchema.Proofs.Binding.Exact
import MetaSchema.Proofs.Session.Served
import MetaSchema.Proofs.Syntax.Reports

/-!
# What is reported of a served document

* `Environment.remarks`: what is reported while the document of a schema is parsed.
* `Environment.reports`: what is reported while it is parsed and bound.
* `parseOpened_ofDocument`, `Tree.bind_ofDocument`, `reports_ofDocument`: all this is about the document.
-/

namespace MetaSchema

namespace Environment

/-- What is reported while the document of a schema is parsed. -/
def remarks (env : Environment) (id : SchemaIdentifier) : List Issue :=
  match env.source id with
  | .error _ => []
  | .ok opened => (Session.parseOpened env.parser opened).issues

/-- What is reported while the document of a schema is parsed and, if it is one of that schema, bound. -/
def reports (env : Environment) (id : SchemaIdentifier) : List Issue :=
  env.remarks id ++
    match env.served? id with
    | none => []
    | some tree => tree.bind.issues

end Environment

theorem Tree.bind_ofDocument (t : Tree .parsed) : OfDocument t.bind.issues := by
  rw [issues_bind]
  intro i hi
  obtain ⟨e, -, rfl⟩ := List.mem_map.mp hi
  rfl

theorem Session.parseOpened_ofDocument {parser : Parser} (hp : ∀ l ∈ parser.languages, l = .version1)
    (opened : Opened) : OfDocument (parseOpened parser opened).issues := by
  unfold parseOpened
  split
  · exact ofDocument_fail.mpr rfl
  · exact Parser.parse_ofDocument hp _ _

namespace Environment

variable {env : Environment}

theorem remarks_ofDocument (henv : env.parser.languages = [.version1]) (id : SchemaIdentifier) :
    OfDocument (env.remarks id) := by
  unfold remarks
  split
  · exact ofDocument_nil
  · exact Session.parseOpened_ofDocument (by simp [henv]) _

theorem reports_ofDocument (henv : env.parser.languages = [.version1]) (id : SchemaIdentifier) :
    OfDocument (env.reports id) := by
  refine ofDocument_append.mpr ⟨remarks_ofDocument henv id, ?_⟩
  split
  · exact ofDocument_nil
  · exact Tree.bind_ofDocument _

/-- Parsing a document that binds reports no error. -/
theorem remarks_quiet (henv : env.parser.languages = [.version1]) {id : SchemaIdentifier}
    {t : Tree .bound} (h : env.bound? id = some t) : ∀ i ∈ env.remarks id, i.isError = false := by
  obtain ⟨-, parsed, hserved, -⟩ := bound?_eq_some h
  obtain ⟨-, opened, hsource, hparse⟩ := served?_eq_some hserved
  have hquiet := (Session.parseOpened_eq_some henv hparse).2
  unfold remarks
  rw [hsource]
  exact hquiet

end Environment

end MetaSchema
