import MetaSchema.Proofs.Session.Loading
import MetaSchema.Proofs.Syntax.Explained

/-!
# Sessions explain themselves

What a session does not give has an error in the issues of the same operation, and what it gives has
none. Nothing is asked of the session before it.

* `Tree.bind_explained`: a tree that is not bound.
* `CompileExplained`, `LoadExplained`: what compiling or loading a schema has to do with the errors that
  it reports. A defect, or a failure to open a schema, is left to what asked for the schema.
* `loadImports_explained`: an import that failed was reported, here or where it failed.
* `load_explained`: every level of loading explains itself, by induction on the number of levels that are
  left.
* `compileDocument_explained`: so does compiling a document.
-/

namespace MetaSchema

open Reported (explained_pure explained_fail)

/-- **Binding** a tree. -/
theorem Tree.bind_explained (t : Tree .parsed) : t.bind.Explained := by
  unfold bind
  split
  · split
    · exact explained_pure _
    · exact explained_fail rfl
  · rename_i hne
    obtain ⟨e, he⟩ := List.exists_mem_of_ne_nil _ hne
    have herror : AnyError ((t.bindErrors ++ t.cycles).map .bind) :=
      ⟨.bind e, List.mem_map_of_mem he, rfl⟩
    simpa [Reported.Explained] using herror

/-- A schema that was compiled is missing exactly if an error was reported. A defect is not reported
here, but by what asked for the schema. -/
def CompileExplained (o : Outcome Session (Except Defect (Option Schema))) : Prop :=
  o.value = .ok none ↔ AnyError o.issues

/-- An error was reported exactly if compiling the schema failed. -/
def LoadExplained (o : Outcome Session (Except LoadError Schema)) : Prop :=
  (∃ id, o.value = .error (.compilationFailed id)) ↔ AnyError o.issues

def Loading.Explained (load : Loading) : Prop :=
  ∀ requester target s, LoadExplained (load requester target s)

theorem LoadExplained.of_ok {o : Outcome Session (Except LoadError Schema)} (h : LoadExplained o)
    {schema : Schema} (hv : o.value = .ok schema) : ¬ AnyError o.issues := by
  refine mt h.mpr ?_
  simp [hv]

variable {load : Loading} {env : Environment}

/-! ## Imports -/

theorem eq_compilationFailed_of_alreadyReported {s : Session} {e : LoadError}
    (h : alreadyReported s e = true) : ∃ id, e = .compilationFailed id := by
  cases e <;> simp_all [alreadyReported]

/-- An import that failed was reported: where it failed, or now. -/
theorem loadImports_explained (hl : load.Explained) (owner : SchemaIdentifier)
    (ns : List (ImportNode .bound)) (s : Session) :
    (loadImports load owner ns s).failed = true ↔ AnyError (loadImports load owner ns s).issues := by
  induction ns generalizing s with
  | nil => simp [loadImports]
  | cons n ns ih =>
    have hfirst := hl owner n.data s
    have hrest := ih (load owner n.data s).state
    unfold loadImports
    simp only
    split
    · rename_i schema hv
      simpa [hfirst.of_ok hv] using hrest
    · rename_i e hv
      simp only [anyError_append, true_iff]
      left
      -- Nothing more is said of an import whose own failure was reported.
      split
      · rename_i hreported
        obtain ⟨id, rfl⟩ := eq_compilationFailed_of_alreadyReported hreported
        exact .inl (hfirst.mp ⟨id, hv⟩)
      · exact .inr (by simp)

/-- If no import failed, each of them was loaded under its name. -/
theorem keys_loadImports (load : Loading) (owner : SchemaIdentifier) (ns : List (ImportNode .bound))
    (s : Session) (h : (loadImports load owner ns s).failed = false) :
    (loadImports load owner ns s).schemas.map Prod.fst = ns.map (·.data.name) := by
  induction ns generalizing s with
  | nil => rfl
  | cons n ns ih =>
    unfold loadImports at h ⊢
    simp only at h ⊢
    split at h
    · simp only [List.map_cons, ih _ h]
    · cases h

/-! ## Compiling a tree -/

/-- Typing a tree that binding gave. -/
theorem typeWith_explained (hl : load.Explained) {t : Tree .parsed} {b : Tree .bound}
    (hb : t.BoundTo b) (s : Session) :
    (∃ schema, (b.typeWith load s).value = .ok schema) ↔ ¬ AnyError (b.typeWith load s).issues := by
  have hloaded := loadImports_explained hl b.data b.imports s
  have hkeys := keys_loadImports load b.data b.imports s
  unfold Tree.typeWith
  generalize loadImports load b.data b.imports s = loaded at *
  simp only
  split
  · simp
  · -- Every reference into an import finds it, unless the import failed.
    rename_i hnone
    obtain ⟨schema, name, hr, hl⟩ := Tree.typedDeclarations?_eq_none hnone
    have hfailed : loaded.failed = true := by
      by_contra hok
      have hkey : schema.name ∈ loaded.schemas.map Prod.fst := by
        rw [hkeys (by simpa using hok)]
        rcases hb.mem_references hr with ⟨_, h⟩ | ⟨_, h, -⟩ | ⟨n, hn, _, h⟩
        · cases h
        · cases h
        · cases h
          exact List.mem_map.mpr ⟨n, hn, rfl⟩
      obtain ⟨e, he, hname⟩ := List.mem_map.mp hkey
      exact (bne_iff_ne.mp (List.lookup_eq_none_iff.mp hl e he)) hname.symm
    simp [← hloaded, hfailed]
  · split
    · rename_i hfailed
      simp [← hloaded, hfailed]
    · rename_i hok
      simp [← hloaded, hok]

namespace Session

theorem compileTree_explained (hl : load.Explained) (tree : Tree .parsed) (s : Session) :
    CompileExplained (s.compileTree load tree) := by
  have hc := compilesTree load tree s
  generalize s.compileTree load tree = o at hc
  have htyped : ∀ {b : Tree .bound}, tree.bind.value = some b → _ := fun {b} hb =>
    typeWith_explained hl (Tree.bind_eq_some hb) s
  rcases hc with hb | ⟨hb, ht⟩ | ⟨hb, ht⟩ | ⟨hb, ht⟩
  · simpa [CompileExplained] using tree.bind_explained.mp hb
  · simpa [CompileExplained] using (htyped hb).mp ⟨_, ht⟩
  · have herror := not_not.mp (mt (htyped hb).mpr (by simp [ht]))
    simpa [CompileExplained] using herror
  · have herror := not_not.mp (mt (htyped hb).mpr (by simp [ht]))
    simpa [CompileExplained] using herror

/-! ## Compiling a document -/

theorem compileParsed_explained (hl : load.Explained) (expected : Option SchemaIdentifier)
    (tree : Tree .parsed) (s : Session) :
    CompileExplained (s.compileParsed load expected tree) := by
  unfold compileParsed
  split
  · split
    · simp [CompileExplained]
    · exact compileTree_explained hl tree s
  · split
    · simp [CompileExplained]
    · exact compileTree_explained hl tree _

theorem parseOpened_explained {parser : Parser} (hp : ∀ l ∈ parser.languages, l = .version1)
    (opened : Opened) : (parseOpened parser opened).Explained := by
  unfold parseOpened
  split
  · exact explained_fail rfl
  · exact Parser.parse_explained hp _ _

theorem compileWith_explained (hl : load.Explained) {parser : Parser}
    (hp : ∀ l ∈ parser.languages, l = .version1) (opened : Opened)
    (expected : Option SchemaIdentifier) (s : Session) :
    CompileExplained (s.compileWith parser load opened expected) := by
  have hparsed := parseOpened_explained hp opened
  unfold compileWith
  simp only
  split
  · rename_i hv
    simpa [CompileExplained] using hparsed.mp hv
  · rename_i tree hv
    have hno : ¬ AnyError (parseOpened parser opened).issues := mt hparsed.mpr (by simp [hv])
    simpa [CompileExplained, hno] using compileParsed_explained hl expected tree s.countCompilation

/-! ## Loading -/

theorem loaded_eq_compilationFailed {target : SchemaIdentifier}
    {r : Except Defect (Option Schema)} :
    (∃ id, loaded target r = .error (.compilationFailed id)) ↔ r = .ok none := by
  rcases r with d | _ | schema <;> simp [loaded]

theorem fetchWith_explained (hl : load.Explained) (hp : ∀ l ∈ env.parser.languages, l = .version1)
    (target : SchemaIdentifier) (level : Nat) (s : Session) :
    LoadExplained (s.fetchWith env load target level) := by
  unfold fetchWith
  simp only
  split
  · simp [LoadExplained]
  · rename_i opened _
    have hcompiled := compileWith_explained hl hp opened (some target)
      (s.recordOpening target level)
    exact loaded_eq_compilationFailed.trans hcompiled

/-- **Loading.** However many levels of imports are left, loading an import explains itself. -/
theorem load_explained (hp : ∀ l ∈ env.parser.languages, l = .version1) (levels : Nat) :
    (Session.load env levels).Explained := by
  induction levels with
  | zero =>
    intro requester target s
    simp only [Session.load]
    split <;> simp [LoadExplained]
  | succ levels ih =>
    intro requester target s
    simp only [Session.load]
    split
    · simp [LoadExplained]
    · split
      · simp [LoadExplained]
      · exact fetchWith_explained ih hp target _ _

/-- Loading a schema that nothing imports. -/
theorem loadRoot_explained (hp : ∀ l ∈ env.parser.languages, l = .version1)
    (target : SchemaIdentifier) (s : Session) : LoadExplained (s.loadRoot env target) := by
  unfold loadRoot
  split
  · simp [LoadExplained]
  · exact fetchWith_explained (load_explained hp _) hp target _ _

/-- Compiling a document that the source does not provide. -/
theorem compileDocument_explained (hp : ∀ l ∈ env.parser.languages, l = .version1) (uri : String)
    (document : Text.Octets) (s : Session) : (s.compileDocument env uri document).Explained := by
  have hcompiled := compileWith_explained (load_explained hp env.maxImportDepth) hp
    ⟨uri, .ok document⟩ none s
  unfold compileDocument
  simp only
  split
  · rename_i schema hv
    simpa [Outcome.Explained, CompileExplained, hv] using hcompiled
  · simp [Outcome.Explained]

end Session

end MetaSchema
