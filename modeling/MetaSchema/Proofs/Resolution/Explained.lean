import MetaSchema.Proofs.Resolution.Walk
import MetaSchema.Proofs.Session.Explained

/-!
# Resolution explains itself

* `Directory.Explained`: a schema that a directory finds is found without an error.
* `Walk.Explained`: a walk has failed exactly if an error was reported in it. Every step keeps this.
* `resolve_explained`: a table has no resolved set exactly if an error was reported.
* `Source.absent_iff_reported`: the same of every stage, from the document to the resolved set.
-/

namespace MetaSchema

variable {σ : Type} {d : Directory σ}

def Directory.Explained (d : Directory σ) : Prop :=
  ∀ id s schema, (d.find id s).value = .ok schema → ¬ AnyError (d.find id s).issues

namespace Walk

variable {roots : List SchemaIdentifier} {w w' : Walk σ}

/-- A walk has failed exactly if an error was reported in it. -/
def Explained (w : Walk σ) : Prop := w.failed = true ↔ AnyError w.issues

theorem explained_fail (w : Walk σ) (e : ResolveError) : (w.fail e).Explained := by
  simp [Explained, fail]

/-- A schema that is missing fails the walk; one that is found adds no error. -/
theorem Explained.look (hw : w.Explained) (hd : d.Explained) (id : SchemaIdentifier) :
    (w.look d id).1.Explained := by
  have hl := looks d w id
  generalize w.look d id = o at hl
  cases hl with
  | missing _ => exact explained_fail _ _
  | found hf => simpa [Explained, hd id _ _ hf] using hw

theorem Step.explained (hd : d.Explained) (h : Step d roots w w') (hw : w.Explained) :
    w'.Explained := by
  rcases h with ⟨-, -⟩ | ⟨-, he, -⟩ | ⟨-, he, -⟩
  · exact explained_fail _ _
  · obtain ⟨-, g, rfl, -⟩ := enter_eq_ok he
    exact hw
  · obtain ⟨-, g, rfl, -⟩ := enter_eq_ok he
    exact Explained.look (w := { w with graph := g }) hw hd _

theorem walk_explained (hd : d.Explained) (table : ImportTable) (s : σ) :
    (d.walk table s).Explained :=
  (walk_steps d table s).keeps (fun _ _ h hw => h.explained hd hw) (by simp [Explained, start])

end Walk

/-- **Resolving a table.** -/
theorem Directory.resolve_explained (hd : d.Explained) (table : ImportTable) (s : σ) :
    (d.resolve table s).Explained := by
  have hw := Walk.walk_explained hd table s
  unfold resolve
  simp only
  split
  · rename_i hfailed
    simpa [Outcome.Explained] using hw.mp hfailed
  · rename_i hok
    have hno : ¬ AnyError (d.walk table s).issues := mt hw.mpr hok
    split
    · simpa [Outcome.Explained] using hno
    · simp [Outcome.Explained]

theorem Catalog.directory_explained : Catalog.directory.Explained := by
  intro id c schema _
  simp only [Catalog.directory, Catalog.find]
  split <;> simp

theorem Session.directory_explained {env : Environment}
    (hp : ∀ l ∈ env.parser.languages, l = .version1) : (Session.directory env).Explained := by
  intro id s schema hfound
  have hload := Session.loadRoot_explained hp id s
  cases hv : (s.loadRoot env id).value with
  | error e => simp [Session.directory, Session.find, hv, Except.mapError] at hfound
  | ok schema => exact hload.of_ok hv

/-- **What is absent was reported, and what was reported is absent.** Whatever a session has done
before: a document has no tree, a tree is not bound, a document is not compiled and a table is not
resolved exactly if an error was reported on the way. Loading reports an error exactly if it fails because
a schema did not compile. -/
theorem Source.absent_iff_reported (source : Source) (nodesLimit maxImportDepth : Nat) :
    let env := source.environment nodesLimit maxImportDepth
    (∀ uri document, (env.parser.parse uri document).Explained ∧
      (Parser.parse ⟨nodesLimit, []⟩ uri document).Explained) ∧
    (∀ tree : Tree .parsed, tree.bind.Explained) ∧
    (∀ s : Session,
      (∀ requester target, LoadExplained (Session.loadImport env requester target s)) ∧
      (∀ target, LoadExplained (s.loadRoot env target)) ∧
      (∀ uri document, (s.compileDocument env uri document).Explained) ∧
      ∀ table, ((Session.directory env).resolve table s).Explained) ∧
    ∀ (catalog : Catalog) table, (Catalog.directory.resolve table catalog).Explained := by
  intro env
  have hp : ∀ l ∈ env.parser.languages, l = .version1 := by simp [env, environment]
  refine ⟨fun uri document => ⟨?_, ?_⟩, Tree.bind_explained, fun s => ⟨?_, ?_, ?_, ?_⟩, ?_⟩
  · exact Parser.parse_explained hp uri document
  · exact Parser.parse_explained (by simp) uri document
  · exact fun requester target => Session.load_explained hp _ requester target s
  · exact fun target => Session.loadRoot_explained hp target s
  · exact fun uri document => Session.compileDocument_explained hp uri document s
  · exact fun table => Directory.resolve_explained (Session.directory_explained hp) table s
  · exact fun catalog table => Directory.resolve_explained Catalog.directory_explained table catalog

end MetaSchema
