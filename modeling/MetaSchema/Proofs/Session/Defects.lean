import MetaSchema.Proofs.Binding.Exact
import MetaSchema.Proofs.Name.Qualified
import MetaSchema.Proofs.Session.Loading
import MetaSchema.Proofs.Session.Reports
import Mathlib.Data.List.Nodup

/-!
# Where defects come from

A session reports a defect only of a source that gives the document of another schema than the one it was
asked for, or of a reference to a type that an imported schema does not declare.

* `Environment.Serves`: a source gives a tree for its own identifier.
* `Defect.Caused`: the two ways in which a defect can come about.
* `Traced`, `LoadTraced`: every critical issue, and every defect that is given back, is caused so.
* `typedDeclarations?_caused`: a tree that was parsed and bound has no other defect when it is typed.
* `load_traced`: at every level of loading the defects are traced, by induction on the number of levels that
  are left.
* `loadRoot_traced`, `compileDocument_traced`: so are those of the operations that start with a schema that
  nothing imports.
-/

namespace MetaSchema

/-- The document that a source gives for the identifier of the tree is that of the tree. -/
def Environment.Serves (env : Environment) (tree : Tree .parsed) : Prop :=
  env.served? tree.identifier = some tree

/-- How a defect comes about, when the `compiled` trees are compiled and `s` is the session afterwards: a
document that was opened for one schema is of another, or a reference of a tree is to a type that the schema
cached for an import does not declare. -/
inductive Defect.Caused (env : Environment) (compiled : Tree .parsed → Prop) (s : Session) : Defect → Prop
  | identifierMismatch {id : SchemaIdentifier} {opened : Opened} {tree : Tree .parsed}
      (hopened : env.source id = .ok opened)
      (hparse : (Session.parseOpened env.parser opened).value = some tree) (hne : id ≠ tree.identifier) :
      Caused env compiled s (.identifierMismatch id tree.identifier)
  | unresolvedReference {tree : Tree .parsed} {n : ReferenceNode .parsed} {i : ImportNode .parsed}
      {name : TypeName} {imported : Schema} (htree : compiled tree) (hn : n ∈ tree.referenceNodes)
      (hwritten : n.written = .named (some i.target) name) (hi : i ∈ tree.imports)
      (hne : i.target ≠ tree.name) (hcached : s.cached? i.identifier = some imported)
      (hmissing : ¬ imported.Declares name) :
      Caused env compiled s (.unresolvedReference tree.identifier (toString n.written))

/-- Every critical issue is of a defect that came about in one of these ways. -/
def Traced (env : Environment) (compiled : Tree .parsed → Prop) (s : Session) (issues : List Issue) :
    Prop :=
  ∀ i ∈ issues, i.diagnostic.severity = .critical → ∃ d, i.defect? = some d ∧ d.Caused env compiled s

/-- So is a defect that is given back instead of a schema. -/
structure LoadTraced (env : Environment) (o : Outcome Session (Except LoadError Schema)) : Prop where
  value : ∀ d, o.value = .error (.internal d) → d.Caused env env.Serves o.state
  issues : Traced env env.Serves o.state o.issues

/-- The defects of every load in a valid session are traced. -/
def Loading.Traced (env : Environment) (load : Loading) : Prop :=
  ∀ requester target (s : Session), s.Valid → LoadTraced env (load requester target s)

variable {env : Environment} {compiled compiled' : Tree .parsed → Prop} {s s' : Session}
  {issues issues' : List Issue} {load : Loading}

open Session

namespace Defect.Caused

theorem mono {d : Defect} (h : d.Caused env compiled s) (hc : ∀ tree, compiled tree → compiled' tree)
    (hs : s.Extends s') : d.Caused env compiled' s' := by
  cases h with
  | identifierMismatch hopened hparse hne => exact .identifierMismatch hopened hparse hne
  | unresolvedReference htree hn hwritten hi hne hcached hmissing =>
    exact .unresolvedReference (hc _ htree) hn hwritten hi hne (hs.cached _ _ hcached) hmissing

/-- The reference of a defect is not to the schema itself: it has a qualifier, of another name. -/
theorem foreign {id : SchemaIdentifier} {q : Option SchemaName} {name : TypeName}
    (h : (Defect.unresolvedReference id (toString (WrittenReference.named q name))).Caused env compiled s) :
    ∃ other, q = some other ∧ other ≠ id.name := by
  generalize htext : toString (WrittenReference.named q name) = text at h
  cases h with
  | unresolvedReference htree hn hwritten hi hne hcached hmissing =>
    rw [hwritten] at htext
    exact ⟨_, WrittenReference.qualifier_of_toString htext, hne⟩

end Defect.Caused

/-! ## Tracing issues -/

theorem traced_iff : Traced env compiled s issues ↔
    ∀ i ∈ issues, ∀ d, i.defect? = some d → d.Caused env compiled s := by
  refine forall₂_congr fun i _ => ?_
  rw [Issue.severity_eq_critical]
  constructor
  · intro h d hd
    obtain ⟨d', hd', hcaused⟩ := h ⟨d, hd⟩
    rw [hd, Option.some.injEq] at hd'
    exact hd' ▸ hcaused
  · rintro h ⟨d, hd⟩
    exact ⟨d, hd, h d hd⟩

theorem traced_append : Traced env compiled s (issues ++ issues') ↔
    Traced env compiled s issues ∧ Traced env compiled s issues' := by
  simp only [Traced, List.mem_append, or_imp, forall_and]

theorem traced_singleton {i : Issue} : Traced env compiled s [i] ↔
    ∀ d, i.defect? = some d → d.Caused env compiled s := by
  rw [traced_iff, List.forall_mem_singleton]

theorem Faultless.traced (h : Faultless issues) : Traced env compiled s issues := by
  refine traced_iff.mpr fun i hi d hd => ?_
  rw [h i hi] at hd
  cases hd

theorem Traced.mono (h : Traced env compiled s issues)
    (hc : ∀ tree, compiled tree → compiled' tree) (hs : s.Extends s') :
    Traced env compiled' s' issues :=
  traced_iff.mpr fun i hi d hd => (traced_iff.mp h i hi d hd).mono hc hs

/-- An outcome without issues, and without a defect. -/
theorem LoadTraced.of_quiet {r : Except LoadError Schema} (h : ∀ d, r ≠ .error (.internal d)) :
    LoadTraced env ⟨s, r, []⟩ :=
  ⟨fun d hd => (h d hd).elim, faultless_nil.traced⟩

/-! ## Imports -/

/-- What was loaded for an import is cached, also if other imports failed. -/
theorem loadImports_cached (hk : load.Keeps) (owner : SchemaIdentifier) (ns : List (ImportNode .bound))
    (hs : s.Valid) : ∀ e ∈ (loadImports load owner ns s).schemas, ∃ n ∈ ns, e.1 = n.data.name ∧
      (loadImports load owner ns s).session.cached? n.data = some e.2 := by
  induction ns generalizing s with
  | nil => exact fun e he => by cases he
  | cons n ns ih =>
    obtain ⟨hfirst, hcached⟩ := hk owner n.data s hs
    have hgrows := (loadImports_advances hk owner ns _ hfirst.valid).1.grows
    have hrest := ih hfirst.valid
    have htail : ∀ e ∈ (loadImports load owner ns (load owner n.data s).state).schemas,
        ∃ n' ∈ n :: ns, e.1 = n'.data.name ∧
          (loadImports load owner ns (load owner n.data s).state).session.cached? n'.data = some e.2 := by
      intro e he
      obtain ⟨n', hn', h⟩ := hrest e he
      exact ⟨n', List.mem_cons_of_mem _ hn', h⟩
    unfold loadImports
    simp only
    split
    · rename_i schema hv
      exact List.forall_mem_cons.mpr
        ⟨⟨n, List.mem_cons_self, rfl, hgrows.cached _ _ (hcached schema hv)⟩, htail⟩
    · exact htail

/-- An import that failed with a defect is reported with it, at the import. -/
theorem loadImports_traced (hk : load.Keeps) (hl : load.Traced env) (owner : SchemaIdentifier)
    (ns : List (ImportNode .bound)) (hs : s.Valid) :
    Traced env env.Serves (loadImports load owner ns s).session
      (loadImports load owner ns s).issues := by
  induction ns generalizing s with
  | nil => exact faultless_nil.traced
  | cons n ns ih =>
    have hvalid := (hk owner n.data s hs).1.valid
    have hgrows := (loadImports_advances hk owner ns _ hvalid).1.grows
    have hfirst := hl owner n.data s hs
    have hissues := hfirst.issues.mono (fun _ h => h) hgrows
    unfold loadImports
    simp only
    split
    · exact traced_append.mpr ⟨hissues, ih hvalid⟩
    · rename_i e hv
      refine traced_append.mpr ⟨traced_append.mpr ⟨hissues, ?_⟩, ih hvalid⟩
      split
      · exact faultless_nil.traced
      · refine traced_singleton.mpr fun d hd => ?_
        rw [LoadError.defect?_eq_some hd] at hv
        exact (hfirst.value d hv).mono (fun _ h => h) hgrows

/-! ## Typing -/

variable {tree : Tree .parsed} {b : Tree .bound}

/-- A reference of a bound tree is one of its parsed tree, which says what it means. -/
theorem Tree.BoundTo.mem_referenceNodes (hb : tree.BoundTo b) {n' : ReferenceNode .bound}
    (hn : n' ∈ b.referenceNodes) :
    ∃ n ∈ tree.referenceNodes, n'.written = n.written ∧ tree.Means n.written n'.data := by
  have hbound : ∃ n ∈ tree.referenceNodes, tree.bindReference n = .ok n' := by
    rcases List.mem_append.mp hn with hn | hn
    · obtain ⟨t', ht', rfl⟩ := List.mem_map.mp hn
      obtain ⟨t, ht, h⟩ := forall₂_exists_left hb.types ht'
      exact ⟨t.base, List.mem_append_left _ (List.mem_map_of_mem ht), (bindType_eq_ok h).2⟩
    · obtain ⟨a', ha', rfl⟩ := List.mem_map.mp hn
      obtain ⟨a, ha, h⟩ := forall₂_exists_left hb.attributes ha'
      exact ⟨a.reference, List.mem_append_right _ (List.mem_map_of_mem ha), (bindAttribute_eq_ok h).2.2⟩
  obtain ⟨n, hmem, h⟩ := hbound
  obtain ⟨r, hr, rfl⟩ := bindReference_iff_means.mp h
  exact ⟨n, hmem, rfl, hr⟩

/-- A parsed tree imports one version of a schema. -/
theorem Tree.BoundTo.data_eq_of_name (hb : tree.BoundTo b) {n' : ImportNode .bound} (hn' : n' ∈ b.imports)
    {i : ImportNode .parsed} (hi : i ∈ tree.imports) (h : i.target = n'.data.name) :
    n'.data = i.identifier := by
  obtain ⟨n, hn, hbind⟩ := forall₂_exists_left hb.imports hn'
  have hdata := (bindImport_eq_ok hbind).2.1
  rw [hdata] at h
  rw [hdata, List.inj_on_of_nodup_map tree.declarations.imports_nodup hn hi h.symm]

/-- The cardinalities of a parsed tree are known and its own references are bound, so only a reference into
an import can be a defect. -/
theorem typedDeclarations?_caused (hb : tree.BoundTo b) (htokened : tree.Tokened) (htree : compiled tree)
    {imports : List (SchemaName × Schema)}
    (himports : ∀ e ∈ imports, ∃ n ∈ b.imports, e.1 = n.data.name ∧ s.cached? n.data = some e.2)
    {d : Defect} (h : b.typedDeclarations? imports = .error d) : d.Caused env compiled s := by
  rcases Tree.exists_defect h with ⟨n, hn, hnone⟩ | ⟨n', hn', h⟩
  · -- The parser has refused unknown cardinalities.
    obtain ⟨c, hc⟩ := hb.tokened htokened n hn
    rw [hnone] at hc
    cases hc
  · obtain ⟨rfl, hundeclared⟩ := Tree.typedReference?_eq_error.mp h
    obtain ⟨n, hn, hwritten, hmeans⟩ := hb.mem_referenceNodes hn'
    rw [hb.data_eq, hwritten]
    generalize hw : n.written = w at hmeans
    rcases hundeclared with ⟨name, hdata, hno⟩ | ⟨i, name, imported, hdata, hlookup, hno⟩
    · rw [hdata] at hmeans
      cases hmeans with
      | own hq hname => exact (hno (hb.types_names ▸ hname)).elim
    · rw [hdata] at hmeans
      cases hmeans with
      | @imported i _ hi hne =>
        -- The import was found by its name, and no other import has that name.
        obtain ⟨n₀, hn₀, hname, hcached⟩ := himports _ (mem_of_lookup hlookup)
        rw [hb.data_eq_of_name hn₀ hi hname] at hcached
        exact hw ▸ .unresolvedReference htree hn hw hi hne hcached hno

theorem typeWith_traced (hk : load.Keeps) (hl : load.Traced env) (hb : tree.BoundTo b)
    (htokened : tree.Tokened) (htree : compiled tree) (hserves : ∀ t, env.Serves t → compiled t)
    (hs : s.Valid) :
    Traced env compiled (b.typeWith load s).state (b.typeWith load s).issues := by
  have hloaded := (loadImports_traced hk hl b.data b.imports hs).mono hserves (.refl _)
  have hcached := loadImports_cached hk b.data b.imports hs
  unfold Tree.typeWith
  simp only
  split
  · rename_i d hd
    refine traced_append.mpr ⟨hloaded, traced_singleton.mpr fun d' hd' => ?_⟩
    cases hd'
    exact typedDeclarations?_caused hb htokened htree hcached hd
  · exact hloaded
  · split <;> exact hloaded

/-! ## Compiling -/

/-- Compiling a tree gives no defect back. -/
theorem compileTree_traced (hk : load.Keeps) (hl : load.Traced env) (htokened : tree.Tokened)
    (htree : compiled tree) (hserves : ∀ t, env.Serves t → compiled t) (hs : s.Valid)
    (hnew : s.cached? tree.identifier = none) :
    (∀ d, (s.compileTree load tree).value ≠ .error d) ∧
      Traced env compiled (s.compileTree load tree).state (s.compileTree load tree).issues := by
  have hc := compilesTree load tree s
  generalize s.compileTree load tree = o at hc
  have htyped : ∀ {b : Tree .bound}, tree.bind.value = some b →
      Traced env compiled (b.typeWith load s).state (b.typeWith load s).issues := fun hb =>
    typeWith_traced hk hl (Tree.bind_eq_some hb) htokened htree hserves hs
  rcases hc with hb | @⟨b, schema, hb, ht⟩ | @⟨b, hb, ht⟩ | @⟨b, hb, ht⟩
  · exact ⟨by simp, tree.bind_ofDocument.faultless.traced⟩
  · -- The schema is stored where nothing was cached, also after its imports were loaded.
    have hadvances := (loadImports_advances hk b.data b.imports s hs).1
    rw [← Tree.state_typeWith, (Tree.bind_eq_some hb).data_eq] at hadvances
    have hnew' := hadvances.quiet _ .refl hnew
    exact ⟨by simp, (htyped hb).mono (fun _ h => h) (extends_store hnew')⟩
  · have hblame : (b.typeWith load s).state.Extends ((b.typeWith load s).state.blame tree.identifier) :=
      ⟨fun _ _ h => by rwa [cached?_blame], fun _ _ h => by rwa [graph_blame]⟩
    exact ⟨by simp, (htyped hb).mono (fun _ h => h) hblame⟩
  · exact ⟨by simp, htyped hb⟩

/-- A document gives a defect back only if it was opened for another schema. -/
theorem compileWith_traced (henv : env.parser.languages = [.version1]) (hk : load.Keeps)
    (hl : load.Traced env) (opened : Opened) (expected : Option SchemaIdentifier)
    (hopened : ∀ id, expected = some id → env.source id = .ok opened ∧ s.cached? id = none)
    (hcompiled : ∀ t, (parseOpened env.parser opened).value = some t →
      (∀ id, expected = some id → id = t.identifier) → compiled t)
    (hserves : ∀ t, env.Serves t → compiled t) (hs : s.Valid) :
    (∀ d, (s.compileWith env.parser load opened expected).value = .error d →
      d.Caused env compiled (s.compileWith env.parser load opened expected).state) ∧
    Traced env compiled (s.compileWith env.parser load opened expected).state
      (s.compileWith env.parser load opened expected).issues := by
  have hlanguages : ∀ l ∈ env.parser.languages, l = .version1 := by simp [henv]
  have hparsed := (parseOpened_ofDocument hlanguages opened).faultless
  have hcounted : Advances (fun _ => False) s s.countCompilation := .of_eq hs rfl rfl
  -- The two ways to compile the tree differ only in how its schema is known not to be cached.
  have htree : ∀ {t : Tree .parsed} {s : Session}, (parseOpened env.parser opened).value = some t →
      (∀ id, expected = some id → id = t.identifier) → s.Valid → s.cached? t.identifier = none →
      (∀ d, (s.compileTree load t).value = .error d → d.Caused env compiled (s.compileTree load t).state) ∧
        Traced env compiled (s.compileTree load t).state
          ((parseOpened env.parser opened).issues ++ (s.compileTree load t).issues) := by
    intro t s hparse hid hs hnew
    obtain ⟨hvalue, hissues⟩ := compileTree_traced hk hl (parseOpened_eq_some henv hparse).1
      (hcompiled t hparse hid) hserves hs hnew
    exact ⟨fun d h => (hvalue d h).elim, traced_append.mpr ⟨hparsed.traced, hissues⟩⟩
  unfold compileWith
  simp only
  split
  · exact ⟨by simp, hparsed.traced⟩
  · rename_i t hparse
    unfold compileParsed
    split
    · rename_i id
      obtain ⟨hsource, hnew⟩ := hopened id rfl
      split
      · rename_i hne
        refine ⟨fun d h => ?_, by simpa using hparsed.traced⟩
        cases h
        exact .identifierMismatch hsource hparse hne
      · rename_i heq
        have heq := not_not.mp heq
        exact htree hparse (fun _ h => Option.some.inj h ▸ heq) hcounted.valid (heq ▸ hnew)
    · split
      · exact ⟨by simp, by simpa using hparsed.traced⟩
      · rename_i hnew
        exact htree hparse (fun _ h => by cases h) (mention_advances hcounted.valid t.identifier).valid hnew

/-! ## Loading -/

theorem loaded_eq_internal {target : SchemaIdentifier} {r : Except Defect (Option Schema)} {d : Defect} :
    loaded target r = .error (.internal d) ↔ r = .error d := by
  rcases r with d' | _ | schema <;> simp [loaded]

theorem fetchWith_traced (henv : env.parser.languages = [.version1]) (hk : load.Keeps)
    (hl : load.Traced env) (target : SchemaIdentifier) (level : Nat) (hs : s.Valid)
    (hnew : s.cached? target = none) : LoadTraced env (s.fetchWith env load target level) := by
  unfold fetchWith
  simp only
  split
  · exact .of_quiet (by simp)
  · rename_i opened hopened
    have hrecorded : Advances (fun _ => False) s (s.recordOpening target level) := .of_eq hs rfl rfl
    have hserved : ∀ t, (parseOpened env.parser opened).value = some t →
        (∀ id, some target = some id → id = t.identifier) → env.Serves t := by
      intro t hparse hid
      obtain rfl := hid target rfl
      simp [Environment.Serves, Environment.served?, hopened, hparse]
    obtain ⟨hvalue, hissues⟩ := compileWith_traced henv hk hl opened (some target)
      (fun id h => Option.some.inj h ▸ ⟨hopened, hnew⟩) hserved (fun _ h => h) hrecorded.valid
    exact ⟨fun d h => hvalue d (loaded_eq_internal.mp h), hissues⟩

/-- **Loading.** However many levels of imports are left, the defects of loading an import are traced. -/
theorem load_traced (henv : env.parser.languages = [.version1]) (levels : Nat) :
    (Session.load env levels).Traced env := by
  induction levels with
  | zero =>
    intro requester target s hs
    simp only [Session.load]
    split <;> exact .of_quiet (by simp)
  | succ levels ih =>
    intro requester target s hs
    simp only [Session.load]
    split
    · exact .of_quiet (by simp)
    · rename_i hnew
      split
      · exact .of_quiet (by simp)
      · rename_i g hg
        have hrecorded : Advances (fun _ => False) s { s with graph := g } := hs.advances_edge hg
        exact fetchWith_traced henv (load_keeps env levels) ih target _ hrecorded.valid hnew

/-- Loading a schema that nothing imports. -/
theorem loadRoot_traced (henv : env.parser.languages = [.version1]) (target : SchemaIdentifier)
    (hs : s.Valid) : LoadTraced env (s.loadRoot env target) := by
  unfold Session.loadRoot
  split
  · exact .of_quiet (by simp)
  · rename_i hnew
    exact fetchWith_traced henv (load_keeps env _) (load_traced henv _) target 0
      (mention_advances hs target).valid hnew

/-- Compiling a document that the source does not provide: it is compiled besides what the source gives. -/
theorem compileDocument_traced (henv : env.parser.languages = [.version1]) (uri : String)
    (document : Text.Octets) (hs : s.Valid) :
    Traced env (fun t => env.Serves t ∨ (env.parser.parse uri document).value = some t)
      (s.compileDocument env uri document).state (s.compileDocument env uri document).issues := by
  have hserves : ∀ t, env.Serves t → env.Serves t ∨ (env.parser.parse uri document).value = some t :=
    fun _ h => .inl h
  obtain ⟨hvalue, hissues⟩ := compileWith_traced henv (load_keeps env env.maxImportDepth)
    (load_traced henv _) ⟨uri, .ok document⟩ none (fun _ h => by cases h)
    (fun _ hparse _ => .inr hparse) hserves hs
  unfold Session.compileDocument
  simp only
  split
  · exact hissues
  · rename_i d hd
    refine traced_append.mpr ⟨hissues, traced_singleton.mpr fun d' hd' => ?_⟩
    cases hd'
    exact hvalue d hd

end MetaSchema
