import MetaSchema.Proofs.Origin.Binding
import MetaSchema.Proofs.Origin.Parsing
import MetaSchema.Proofs.Session.Loading

/-!
# Loading without uris

What a session does over a source is what it does over the same source without its uris, so they
only show in the positions of issues. What a source says when it cannot open a schema only shows in
the error of that load.

* `Environment.anonymous`: the environment with the anonymous source.
* `Outcome.anonymous`: an outcome without where documents come from.
* `load_anonymous`: every level of loading, by induction on the number of levels that are left; no
  session holds a uri.
* `loadRoot_anonymous` and its siblings: the operations.
-/

namespace MetaSchema

variable {σ α β : Type} (f : SourceError → SourceError)

def Opened.anonymous (o : Opened) : Opened := { o with uri := "" }

def Environment.anonymous (env : Environment) : Environment :=
  { env with source := fun id => ((env.source id).map Opened.anonymous).mapError f }

/-- An outcome without where documents come from; `g` takes that out of the value. -/
def Outcome.anonymous (g : α → β) (o : Outcome σ α) : Outcome σ β :=
  ⟨o.state, g o.value, o.issues.map (Issue.anonymous f)⟩

/-- What a load gives, without what a source said. -/
def withoutSource (r : Except LoadError α) : Except LoadError α :=
  r.mapError (LoadError.mapSource f)

/-- One way of loading imports does without uris what another does. -/
def Loading.Mirrors (load' load : Loading) : Prop :=
  ∀ requester target s,
    load' requester target s = (load requester target s).anonymous f (withoutSource f)

/-! ## Typing -/

namespace Tree

variable (t : Tree .bound) (imports : List (SchemaName × Schema))

theorem typedReference?_anonymous (n : ReferenceNode .bound) :
    t.anonymous.typedReference? imports n.anonymous = t.typedReference? imports n := by
  have hnamed : ∀ name, (t.anonymous.typeNamed? name).isSome = (t.typeNamed? name).isSome := by
    intro name
    rw [anonymous_typeNamed?, Option.isSome_map]
  unfold typedReference?
  simp only [hnamed]
  rfl

theorem typedType?_anonymous (n : TypeNode .bound) :
    t.anonymous.typedType? imports n.anonymous = t.typedType? imports n := by
  unfold typedType?
  show (t.anonymous.typedReference? imports n.base.anonymous >>= _) = _
  rw [typedReference?_anonymous]
  rfl

theorem typedAttribute?_anonymous (n : AttributeNode .bound) :
    t.anonymous.typedAttribute? imports n.anonymous = t.typedAttribute? imports n := by
  unfold typedAttribute?
  have htoken : n.anonymous.cardinality = n.cardinality := rfl
  rw [htoken]
  cases Cardinality.ofToken? n.cardinality with
  | none => rfl
  | some cardinality =>
    show (t.anonymous.typedReference? imports n.reference.anonymous >>= _) = _
    rw [typedReference?_anonymous]
    rfl

theorem typedDeclarations?_anonymous :
    t.anonymous.typedDeclarations? imports = t.typedDeclarations? imports := by
  unfold typedDeclarations?
  rw [anonymous_types, anonymous_attributes, List.mapM_map, List.mapM_map]
  have htypes : t.anonymous.typedType? imports ∘ TypeNode.anonymous = t.typedType? imports :=
    funext (t.typedType?_anonymous imports)
  have hattributes : t.anonymous.typedAttribute? imports ∘ AttributeNode.anonymous =
      t.typedAttribute? imports := funext (t.typedAttribute?_anonymous imports)
  rw [htypes, hattributes]

variable {t imports}

/-- The defects of typing have no position. -/
theorem anonymous_of_typedDeclarations? {d : Defect} (h : t.typedDeclarations? imports = .error d) :
    d.anonymous = d := by
  have hreference : ∀ n, t.typedReference? imports n = .error d → d.anonymous = d := by
    intro n hn
    obtain ⟨rfl, -⟩ := typedReference?_eq_error.mp hn
    rfl
  rcases typedDeclarations?_eq_error.mp h with h | ⟨-, h⟩
  · obtain ⟨n, -, hn⟩ := h.exists_mem
    exact hreference _ (typedType?_eq_error.mp hn)
  · obtain ⟨n, -, hn⟩ := h.exists_mem
    rcases typedAttribute?_eq_error.mp hn with ⟨-, rfl⟩ | ⟨-, hn⟩
    · rfl
    · exact hreference _ hn

end Tree

variable {f} {load load' : Loading}

theorem alreadyReported_mapSource (s : Session) (e : LoadError) :
    alreadyReported s (e.mapSource f) = alreadyReported s e := by
  cases e <;> rfl

def LoadedImports.anonymous (f : SourceError → SourceError) (l : LoadedImports) : LoadedImports :=
  { l with issues := l.issues.map (Issue.anonymous f) }

theorem loadImports_anonymous (hl : load'.Mirrors f load) (owner : SchemaIdentifier)
    (ns : List (ImportNode .bound)) (s : Session) :
    loadImports load' owner (ns.map ImportNode.anonymous) s =
      (loadImports load owner ns s).anonymous f := by
  induction ns generalizing s with
  | nil => rfl
  | cons n ns ih =>
    have hfirst : load' owner n.anonymous.data s =
        (load owner n.data s).anonymous f (withoutSource f) := hl owner n.data s
    simp only [List.map_cons, loadImports, hfirst]
    generalize load owner n.data s = first
    obtain ⟨state, value, issues⟩ := first
    simp only [Outcome.anonymous, ih, LoadedImports.anonymous]
    cases value with
    | ok schema =>
      simp only [withoutSource, Except.mapError, List.map_append]
      rfl
    | error e =>
      simp only [withoutSource, Except.mapError, alreadyReported_mapSource, List.map_append]
      split <;> rfl

/-- **Typing.** -/
theorem Tree.typeWith_anonymous (hl : load'.Mirrors f load) (t : Tree .bound) (s : Session) :
    t.anonymous.typeWith load' s = (t.typeWith load s).anonymous f id := by
  have himports : loadImports load' t.anonymous.data t.anonymous.imports s =
      (loadImports load t.data t.imports s).anonymous f := by
    rw [anonymous_imports]
    exact loadImports_anonymous hl t.data t.imports s
  have hdata : t.anonymous.imports.map (·.data) = t.imports.map (·.data) := by
    rw [anonymous_imports, List.map_map]
    rfl
  simp only [typeWith, himports, hdata, t.typedDeclarations?_anonymous]
  generalize loadImports load t.data t.imports s = loaded
  obtain ⟨session, schemas, failed, issues⟩ := loaded
  simp only [LoadedImports.anonymous]
  cases ht : t.typedDeclarations? schemas with
  | error d =>
    -- A defect of typing names no source, so it is the same without uris.
    have hd := Tree.anonymous_of_typedDeclarations? ht
    simp only [Outcome.anonymous, List.map_append, List.map_cons, Issue.anonymous, hd]
    rfl
  | ok declarations =>
    cases declarations with
    | none => rfl
    | some declared =>
      cases failed <;> rfl

/-! ## Compiling -/

namespace Session

variable {parser : Parser}

theorem compileTree_anonymous (hl : load'.Mirrors f load) (tree : Tree .parsed) (s : Session) :
    s.compileTree load' tree.anonymous = (s.compileTree load tree).anonymous f id := by
  unfold compileTree
  rw [← tree.bind_anonymous f]
  generalize tree.bind = bound
  obtain ⟨value, issues⟩ := bound
  simp only [Reported.anonymous]
  cases value with
  | none => rfl
  | some t =>
    simp only [Option.map_some, Tree.anonymous_counts, t.typeWith_anonymous hl]
    generalize t.typeWith load s = typed
    obtain ⟨state, value, typedIssues⟩ := typed
    by_cases hcounts : t.counts = tree.counts
    · simp only [ne_eq, hcounts, not_true_eq_false, ↓reduceIte]
      rcases value with (_ | _) | schema <;> simp only [Outcome.anonymous, id, List.map_append] <;> rfl
    · simp only [ne_eq, hcounts, not_false_eq_true, ↓reduceIte]
      rfl

theorem compileParsed_anonymous (hl : load'.Mirrors f load) (expected : Option SchemaIdentifier)
    (tree : Tree .parsed) (s : Session) :
    s.compileParsed load' expected tree.anonymous =
      (s.compileParsed load expected tree).anonymous f id := by
  have hid : tree.anonymous.identifier = tree.identifier := rfl
  unfold compileParsed
  simp only [hid, compileTree_anonymous hl]
  cases expected with
  | some id =>
    dsimp only
    split <;> rfl
  | none =>
    dsimp only
    split <;> rfl

theorem parseOpened_anonymous (hp : parser.languages = [.version1]) (opened : Opened) :
    parseOpened parser opened.anonymous =
      (parseOpened parser opened).anonymous f (Option.map Tree.anonymous) := by
  obtain ⟨uri, content⟩ := opened
  cases content with
  | error message => rfl
  | ok document => exact (parser.parse_anonymous uri hp f document).symm

theorem compileWith_anonymous (s : Session) (hl : load'.Mirrors f load)
    (hp : parser.languages = [.version1]) (opened : Opened) (expected : Option SchemaIdentifier) :
    s.compileWith parser load' opened.anonymous expected =
      (s.compileWith parser load opened expected).anonymous f id := by
  unfold compileWith
  rw [parseOpened_anonymous hp (f := f)]
  generalize parseOpened parser opened = parsed
  obtain ⟨value, issues⟩ := parsed
  cases value with
  | none => rfl
  | some tree =>
    simp only [Reported.anonymous, Option.map_some, compileParsed_anonymous hl, Outcome.anonymous,
      List.map_append]

/-! ## Loading -/

variable {env : Environment}

theorem withoutSource_loaded (target : SchemaIdentifier) (r : Except Defect (Option Schema)) :
    withoutSource f (loaded target r) = loaded target r := by
  rcases r with d | _ | schema <;> rfl

theorem fetchWith_anonymous (hl : load'.Mirrors f load) (hp : env.parser.languages = [.version1])
    (target : SchemaIdentifier) (level : Nat) (s : Session) :
    s.fetchWith (env.anonymous f) load' target level =
      (s.fetchWith env load target level).anonymous f (withoutSource f) := by
  have hsource : (env.anonymous f).source target =
      ((env.source target).map Opened.anonymous).mapError f := rfl
  have hparser : (env.anonymous f).parser = env.parser := rfl
  unfold fetchWith
  rw [hsource, hparser]
  cases env.source target with
  | error e => rfl
  | ok opened =>
    simp only [Except.map, Except.mapError, compileWith_anonymous _ hl hp]
    exact congrArg (Outcome.mk _ · _) (withoutSource_loaded target _).symm

/-- **Loading an import**, with some levels left. -/
theorem load_anonymous (hp : env.parser.languages = [.version1]) (levels : Nat) :
    (Session.load (env.anonymous f) levels).Mirrors f (Session.load env levels) := by
  induction levels with
  | zero =>
    intro requester target s
    unfold Session.load
    split <;> rfl
  | succ levels ih =>
    intro requester target s
    unfold Session.load
    split
    · rfl
    · split
      · rfl
      · exact fetchWith_anonymous ih hp target _ _

/-! ## Operations -/

theorem loadImport_anonymous (hp : env.parser.languages = [.version1])
    (requester target : SchemaIdentifier) (s : Session) :
    loadImport (env.anonymous f) requester target s =
      (loadImport env requester target s).anonymous f (withoutSource f) :=
  load_anonymous hp _ requester target s

/-- **Loading a schema.** -/
theorem loadRoot_anonymous (hp : env.parser.languages = [.version1]) (target : SchemaIdentifier)
    (s : Session) :
    s.loadRoot (env.anonymous f) target = (s.loadRoot env target).anonymous f (withoutSource f) := by
  unfold loadRoot
  split
  · rfl
  · exact fetchWith_anonymous (load_anonymous hp _) hp target 0 _

/-- The defects of compiling have no position. -/
theorem anonymous_of_compileWith {opened : Opened} {expected : Option SchemaIdentifier}
    {s : Session} {d : Defect} (h : (s.compileWith parser load opened expected).value = .error d) :
    d.anonymous = d := by
  have htree : ∀ tree (s : Session), (s.compileTree load tree).value ≠ .error d := by
    intro tree s htree
    have ho := compilesTree load tree s
    generalize s.compileTree load tree = o at ho htree
    cases ho <;> cases htree
  unfold compileWith at h
  dsimp only at h
  split at h
  · cases h
  · unfold compileParsed at h
    split at h <;> split at h
    · cases h
      rfl
    · exact absurd h (htree _ _)
    · cases h
    · exact absurd h (htree _ _)

/-- **Compiling a document**, whatever its uri. -/
theorem compileDocument_anonymous (hp : env.parser.languages = [.version1]) (uri : String)
    (document : Text.Octets) (s : Session) :
    s.compileDocument (env.anonymous f) "" document =
      (s.compileDocument env uri document).anonymous f id := by
  have hcompiled : s.compileWith (env.anonymous f).parser
      (Session.load (env.anonymous f) (env.anonymous f).maxImportDepth) ⟨"", .ok document⟩ none =
      (s.compileWith env.parser (Session.load env env.maxImportDepth)
        ⟨uri, .ok document⟩ none).anonymous f id :=
    s.compileWith_anonymous (load_anonymous hp _) hp ⟨uri, .ok document⟩ none
  -- A defect that is given back has no position of its own.
  have hdefect : ∀ d, (s.compileWith env.parser (Session.load env env.maxImportDepth)
      ⟨uri, .ok document⟩ none).value = .error d → d.anonymous = d :=
    fun d => anonymous_of_compileWith
  unfold compileDocument
  rw [hcompiled]
  dsimp only at hdefect ⊢
  generalize s.compileWith env.parser (Session.load env env.maxImportDepth)
    ⟨uri, .ok document⟩ none = compiled at hdefect ⊢
  obtain ⟨state, value, issues⟩ := compiled
  cases value with
  | ok schema => rfl
  | error d =>
    have hd := hdefect d rfl
    simp only [Outcome.anonymous, id, List.map_append, List.map_cons, List.map_nil,
      Issue.anonymous, hd]

/-- **Typing a tree**, wherever it comes from. -/
theorem typeTree_anonymous (hp : env.parser.languages = [.version1]) (t : Tree .bound) (s : Session) :
    s.typeTree (env.anonymous f) t.anonymous = (s.typeTree env t).anonymous f id :=
  t.typeWith_anonymous (load_anonymous hp _) s

end Session

end MetaSchema
