import MetaSchema.Command.Files
import MetaSchema.Proofs.Name.FileName
import MetaSchema.Proofs.Origin.Operation
import MetaSchema.Session.Documents

/-!
# Documents in memory and in files

* `Documents.files`: the files that hold documents, under the names that a source looks for.
* `FileSystem.Holds`: a directory has these files, and no other that a source would look for.
* `FileSystem.holding`: a file system that has given files in a directory and nothing else.
* `lookup_files`: a schema finds its own document in the files, since no two schemas have the same
  file.
* `loadRoot_of_anonymous`, `compileDocument_of_anonymous`: results over sources that have the same
  documents, whatever they say of the others.
* `independent_of_origin`: whence a document comes only shows in the positions of diagnostics.
-/

namespace MetaSchema

open Session

/-! ## Files -/

/-- The files that hold documents. -/
def Documents.files (d : Documents) : List (String × Text.Octets) :=
  d.entries.map fun e => (e.1.fileName, e.2)

/-- A directory has these files, and no other under the name of a schema's file. -/
def FileSystem.Holds (fs : FileSystem) (dir : String) (files : List (String × Text.Octets)) :
    Prop :=
  ∀ id : SchemaIdentifier,
    match files.lookup id.fileName with
    | some document => fs (join dir id.fileName) = .ok (.file document)
    | none => ∃ e, fs (join dir id.fileName) = .error e

/-- A directory with these files, and nothing else anywhere. -/
def FileSystem.holding (dir : String) (files : List (String × Text.Octets)) : FileSystem :=
  fun path =>
  match (files.map fun e => (join dir e.1, e.2)).lookup path with
  | some document => .ok (.file document)
  | none => .error .missing

theorem FileSystem.join_injective (dir : String) : Function.Injective (join dir) := by
  intro a b h
  unfold join at h
  split at h
  · simpa using h
  · simpa using h

theorem FileSystem.holds_holding (dir : String) (files : List (String × Text.Octets)) :
    (holding dir files).Holds dir files := by
  intro id
  have hlookup : (files.map fun e => (join dir e.1, e.2)).lookup (join dir id.fileName) =
      files.lookup id.fileName := lookup_map_keys (join_injective dir) files id.fileName
  unfold holding
  rw [hlookup]
  cases files.lookup id.fileName with
  | some document => rfl
  | none => exact ⟨.missing, rfl⟩

theorem Documents.lookup_files (d : Documents) (id : SchemaIdentifier) :
    d.files.lookup id.fileName = d.get? id :=
  lookup_map_keys SchemaIdentifier.fileName_injective d.entries id

theorem Documents.source_eq {d : Documents} {id : SchemaIdentifier} {document : Text.Octets}
    (hd : d.get? id = some document) :
    d.source id = .ok ⟨"memory:" ++ id.fileName, .ok document⟩ := by
  simp only [source, hd]

theorem Documents.source_error {d : Documents} {id : SchemaIdentifier} (hd : d.get? id = none) :
    d.source id = .error .notFound := by
  simp only [source, hd]

section

variable {d : Documents} {fs : FileSystem} {dir : String} (h : fs.Holds dir d.files)
include h

theorem FileSystem.Holds.of_get? {id : SchemaIdentifier} {document : Text.Octets}
    (hd : d.get? id = some document) : fs (join dir id.fileName) = .ok (.file document) := by
  have hid := h id
  rw [d.lookup_files, hd] at hid
  exact hid

theorem FileSystem.Holds.of_get?_eq_none {id : SchemaIdentifier} (hd : d.get? id = none) :
    ∃ e, fs (join dir id.fileName) = .error e := by
  have hid := h id
  rw [d.lookup_files, hd] at hid
  exact hid

theorem FileSystem.Holds.source_eq {id : SchemaIdentifier} {document : Text.Octets}
    (hd : d.get? id = some document) :
    fs.source dir id = .ok ⟨join dir id.fileName, .ok document⟩ := by
  simp only [source, pathOf, h.of_get? hd, Entry.content]

theorem FileSystem.Holds.source_error {id : SchemaIdentifier} (hd : d.get? id = none) :
    ∃ e, fs.source dir id = .error e := by
  obtain ⟨e, he⟩ := h.of_get?_eq_none hd
  cases e with
  | missing => exact ⟨.notFound, by simp only [source, pathOf, he]⟩
  | other message => exact ⟨.failed message, by simp only [source, pathOf, he]⟩

/-- Forgets what a source says of a schema that it does not open. -/
def SourceError.forget (_ : SourceError) : SourceError := notFound

/-- Without uris, and without what is said of the others, the directory has what the memory has. -/
theorem FileSystem.Holds.anonymous_environment (nodesLimit maxImportDepth : Nat) :
    (d.source.environment nodesLimit maxImportDepth).anonymous SourceError.forget =
      ((fs.source dir).environment nodesLimit maxImportDepth).anonymous SourceError.forget := by
  suffices hsource : ∀ id,
      ((d.source id).map Opened.anonymous).mapError SourceError.forget =
        ((fs.source dir id).map Opened.anonymous).mapError SourceError.forget from
    congrArg (Environment.mk · _ _) (funext hsource)
  intro id
  cases hd : d.get? id with
  | some document =>
    rw [d.source_eq hd, h.source_eq hd]
    rfl
  | none =>
    obtain ⟨e, he⟩ := h.source_error hd
    rw [d.source_error hd, he]
    rfl

/-- If nothing else can be said of the other files than that they are missing, the directory answers
as the memory does. -/
theorem FileSystem.Holds.answersLike
    (hmissing : ∀ id, d.get? id = none → fs (join dir id.fileName) = .error .missing) :
    d.source.AnswersLike (fs.source dir) := by
  intro id
  cases hd : d.get? id with
  | some document =>
    rw [d.source_eq hd, h.source_eq hd]
    rfl
  | none =>
    rw [d.source_error hd]
    simp only [source, pathOf, hmissing id hd]

end

/-! ## Results -/

section

variable {f : SourceError → SourceError} {env env' : Environment} {target : SchemaIdentifier}

theorem toOption_withoutSource {α : Type} (r : Except LoadError α) :
    (withoutSource f r).toOption = r.toOption := by
  cases r <;> rfl

/-- Where a source opens a schema, loading it does not show what the source says of others. -/
theorem Session.withoutSource_loadRoot {opened : Opened} (hopened : env.source target = .ok opened)
    (s : Session) :
    withoutSource f (s.loadRoot env target).value = (s.loadRoot env target).value := by
  unfold loadRoot
  cases s.cached? target with
  | some schema => rfl
  | none =>
    simp only [fetchWith, hopened]
    exact withoutSource_loaded target _

variable (hp : env.parser.languages = [.version1]) (hp' : env'.parser.languages = [.version1])
  (henv : env.anonymous f = env'.anonymous f)
include hp hp' henv

/-- Loading gives a schema over both sources or over none, and the same one. -/
theorem Session.loadRoot_of_anonymous (s : Session) (target : SchemaIdentifier) :
    (s.loadRoot env target).state = (s.loadRoot env' target).state ∧
    (s.loadRoot env target).value.toOption = (s.loadRoot env' target).value.toOption ∧
    ((∃ opened, env.source target = .ok opened) → (∃ opened, env'.source target = .ok opened) →
      (s.loadRoot env target).value = (s.loadRoot env' target).value) := by
  have hload : (s.loadRoot env target).anonymous f (withoutSource f) =
      (s.loadRoot env' target).anonymous f (withoutSource f) := by
    rw [← loadRoot_anonymous hp, henv, loadRoot_anonymous hp']
  have hstate : (s.loadRoot env target).state = (s.loadRoot env' target).state := by
    injection hload
  have hvalue : withoutSource f (s.loadRoot env target).value =
      withoutSource f (s.loadRoot env' target).value := by
    injection hload
  refine ⟨hstate, ?_, ?_⟩
  · rw [← toOption_withoutSource (f := f), hvalue, toOption_withoutSource]
  · rintro ⟨opened, hopened⟩ ⟨opened', hopened'⟩
    rw [← withoutSource_loadRoot (f := f) hopened, hvalue, withoutSource_loadRoot hopened']

theorem Session.compileDocument_of_anonymous (s : Session) (uri uri' : String)
    (document : Text.Octets) :
    (s.compileDocument env uri document).state = (s.compileDocument env' uri' document).state ∧
    (s.compileDocument env uri document).value = (s.compileDocument env' uri' document).value := by
  have hcompile : (s.compileDocument env uri document).anonymous f id =
      (s.compileDocument env' uri' document).anonymous f id := by
    rw [← compileDocument_anonymous hp, henv, compileDocument_anonymous hp']
  constructor <;> injection hcompile

end

/-- **Where a document comes from** only shows in the positions of diagnostics. Over two sources
that answer alike, and with documents and trees that differ in uris at most, the same operations
lead to the same session, and on it every operation gives the same result, leads to the same session
and reports the same diagnostics, but for uris. In particular, schemas compile to the same results
from memory and from a directory that holds the same documents. -/
theorem independent_of_origin (nodesLimit maxImportDepth : Nat) :
    (∀ source source' : Source, source.AnswersLike source' →
      ∀ ops ops' : List Operation, ops.map Operation.anonymous = ops'.map Operation.anonymous →
        let env := source.environment nodesLimit maxImportDepth
        let env' := source'.environment nodesLimit maxImportDepth
        run env ops = run env' ops' ∧ env.AlikeOn env' (run env ops)) ∧
    (∀ (d : Documents) (fs : FileSystem) dir, fs.Holds dir d.files →
      let env := d.source.environment nodesLimit maxImportDepth
      let env' := (fs.source dir).environment nodesLimit maxImportDepth
      (∀ (s : Session) target,
        (s.loadRoot env target).state = (s.loadRoot env' target).state ∧
        (s.loadRoot env target).value.toOption = (s.loadRoot env' target).value.toOption ∧
        ((d.get? target).isSome → (s.loadRoot env target).value = (s.loadRoot env' target).value)) ∧
      (∀ (s : Session) uri uri' document,
        (s.compileDocument env uri document).state = (s.compileDocument env' uri' document).state ∧
        (s.compileDocument env uri document).value = (s.compileDocument env' uri' document).value) ∧
      ((∀ id, d.get? id = none → fs (FileSystem.join dir id.fileName) = .error .missing) →
        d.source.AnswersLike (fs.source dir))) := by
  constructor
  · intro source source' hsources ops ops' hops env env'
    have henv : env.anonymous id = env'.anonymous id :=
      hsources.anonymous_environment nodesLimit maxImportDepth
    refine ⟨?_, Environment.alikeOn rfl rfl henv _⟩
    -- Both runs are the run without uris, where neither source can be told from the other.
    have hrun : run (env.anonymous id) (ops.map Operation.anonymous) = run env ops :=
      run_anonymous rfl ops
    have hrun' : run (env'.anonymous id) (ops'.map Operation.anonymous) = run env' ops' :=
      run_anonymous rfl ops'
    rw [← hrun, ← hrun', henv, hops]
  · intro d fs dir hfiles env env'
    have henv := hfiles.anonymous_environment nodesLimit maxImportDepth
    refine ⟨fun s target => ?_, fun s uri uri' document => ?_, hfiles.answersLike⟩
    · obtain ⟨hstate, hschema, hvalue⟩ := loadRoot_of_anonymous rfl rfl henv s target
      refine ⟨hstate, hschema, fun hheld => ?_⟩
      obtain ⟨document, hd⟩ := Option.isSome_iff_exists.mp hheld
      exact hvalue ⟨_, d.source_eq hd⟩ ⟨_, hfiles.source_eq hd⟩
    · exact compileDocument_of_anonymous rfl rfl henv s uri uri' document

namespace Sample

/-- Both documents in memory. -/
def documents : Documents := ⟨[(core, octets coreDocument), (dublin, octets dublinDocument)]⟩

/-- Both documents in a directory. -/
def files : FileSystem := .holding "schemas" documents.files

theorem answersLike_source : documents.source.AnswersLike source := by
  intro id
  by_cases hcore : id = core
  · subst hcore
    rfl
  · by_cases hdublin : id = dublin
    · subst hdublin
      rfl
    · have hget : documents.get? id = none := by
        simp [documents, Documents.get?, hcore, hdublin]
      rw [Documents.source_error hget]
      simp only [source, hcore, hdublin, ↓reduceIte]

end Sample

theorem independent_of_origin_dublin :
    Sample.documents.source.AnswersLike Sample.source ∧
    Sample.files.Holds "schemas" Sample.documents.files ∧
    (∃ schema,
      (fresh.loadRoot (Sample.documents.source.environment 1000 1) Sample.dublin).value = .ok schema ∧
      (fresh.loadRoot ((Sample.files.source "schemas").environment 1000 1) Sample.dublin).value =
        .ok schema) ∧
    (fresh.loadRoot (Sample.documents.source.environment 1000 1) Sample.dublin).AlikeButUri
      (fresh.loadRoot (Sample.source.environment 1000 1) Sample.dublin) := by
  have hok : (fresh.loadRoot (Sample.documents.source.environment 1000 1)
      Sample.dublin).value.toOption.isSome = true := by
    decide +kernel
  have hheld : (Sample.documents.get? Sample.dublin).isSome = true := rfl
  have hfiles : Sample.files.Holds "schemas" Sample.documents.files :=
    FileSystem.holds_holding "schemas" _
  obtain ⟨schema, hschema⟩ := exists_eq_ok hok
  obtain ⟨halike, hsame⟩ := independent_of_origin 1000 1
  have hload := ((hsame _ _ _ hfiles).1 fresh Sample.dublin).2.2 hheld
  have hdisk : (fresh.loadRoot ((Sample.files.source "schemas").environment 1000 1)
      Sample.dublin).value = .ok schema := hload.symm.trans hschema
  exact ⟨Sample.answersLike_source, hfiles, ⟨schema, hschema, hdisk⟩,
    (halike _ _ Sample.answersLike_source [] [] rfl).2.loadRoot Sample.dublin⟩

end MetaSchema
