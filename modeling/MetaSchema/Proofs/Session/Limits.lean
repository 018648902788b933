import MetaSchema.Proofs.Session.WriteOnce
import MetaSchema.Proofs.Syntax.NodesLimit

/-!
# Limits only reject

* `Environment.Below`: the same source and the same parser with higher limits.
* `Loading.Covers`: a way of loading does what another one does, wherever that loads a schema.
* `loadImports_covered`, `compileTree_covered`, `fetchWith_covered`: what succeeds with the one succeeds with
  the other, and does the same.
* `load_covers`: loading with higher limits and as many more levels left covers loading with the lower ones,
  by induction on the number of levels that are left.
* `loadRoot_of_below`, `compileDocument_of_below`: a schema that an operation of a session gives, the same
  operation gives with higher limits, and it leaves the same session.
* `limits_only_reject`: what can be compiled can be compiled with higher limits, with the same result.
-/

namespace MetaSchema

open Session

/-- Another environment has the same source and the same parser, with limits that are not lower. -/
structure Environment.Below (env env' : Environment) : Prop where
  source_eq : env'.source = env.source
  languages_eq : env'.parser.languages = env.parser.languages
  nodesLimit_le : env.parser.nodesLimit ≤ env'.parser.nodesLimit
  maxImportDepth_le : env.maxImportDepth ≤ env'.maxImportDepth

/-- A way of loading does what another one does, wherever that loads a schema. -/
def Loading.Covers (load load' : Loading) : Prop :=
  ∀ requester target s schema, (load requester target s).value = .ok schema →
    load' requester target s = load requester target s

variable {env env' : Environment} {load load' : Loading} {s : Session}

/-! ## With a way of loading that covers another -/

theorem loadImports_covered (hl : load.Covers load') (owner : SchemaIdentifier)
    (ns : List (ImportNode .bound)) (hok : (loadImports load owner ns s).failed = false) :
    loadImports load' owner ns s = loadImports load owner ns s := by
  induction ns generalizing s with
  | nil => rfl
  | cons n ns ih =>
    rw [loadImports] at hok
    split at hok
    · rename_i schema hvalue
      rw [loadImports, loadImports, hl _ _ _ _ hvalue, ih hok]
    · cases hok

theorem typeWith_covered (hl : load.Covers load') {t : Tree .bound} {schema : Schema}
    (hok : (t.typeWith load s).value = .ok schema) : t.typeWith load' s = t.typeWith load s := by
  rw [Tree.typeWith, Tree.typeWith, loadImports_covered hl _ _ (Tree.typeWith_eq_ok.mp hok).1]

theorem compileTree_covered (hl : load.Covers load') {tree : Tree .parsed} {schema : Schema}
    (hok : (s.compileTree load tree).value = .ok (some schema)) :
    s.compileTree load' tree = s.compileTree load tree := by
  cases hb : tree.bind.value with
  | none => simp only [compileTree, hb]
  | some b =>
    cases ht : (b.typeWith load s).value with
    | ok typed => simp only [compileTree, hb, typeWith_covered hl ht]
    | error failure =>
      simp only [compileTree, hb, ht] at hok
      split at hok
      · cases hok
      · cases failure <;> cases hok

/-- **Compiling a document** with a higher limit on its nodes. -/
theorem compileWith_covered (hb : env.Below env') (hl : load.Covers load') {opened : Opened}
    {expected : Option SchemaIdentifier} {schema : Schema}
    (hok : (s.compileWith env.parser load opened expected).value = .ok (some schema)) :
    s.compileWith env'.parser load' opened expected = s.compileWith env.parser load opened expected := by
  have hparser : env'.parser = { env.parser with nodesLimit := env'.parser.nodesLimit } :=
    congrArg (Parser.mk env'.parser.nodesLimit) hb.languages_eq
  -- A document that could be parsed had few enough nodes for the lower limit.
  have hparse : ∀ tree, (parseOpened env.parser opened).value = some tree →
      parseOpened env'.parser opened = parseOpened env.parser opened := by
    intro tree htree
    unfold parseOpened at htree ⊢
    split at htree
    · rfl
    · rw [hparser, Parser.parse_of_le hb.nodesLimit_le htree]
  unfold compileWith at hok ⊢
  cases htree : (parseOpened env.parser opened).value with
  | none => simp [htree] at hok
  | some tree =>
    simp only [hparse tree htree, htree] at hok ⊢
    have hcompiled : s.countCompilation.compileParsed load' expected tree =
        s.countCompilation.compileParsed load expected tree := by
      unfold compileParsed at hok ⊢
      split
      · split
        · rfl
        · rename_i id hid
          simp only [hid, ↓reduceIte] at hok
          exact compileTree_covered hl hok
      · split
        · rfl
        · rename_i hnew
          simp only [hnew] at hok
          exact compileTree_covered hl hok
    rw [hcompiled]

theorem fetchWith_covered (hb : env.Below env') (hl : load.Covers load') {target : SchemaIdentifier}
    {level : Nat} {schema : Schema} (hok : (s.fetchWith env load target level).value = .ok schema) :
    s.fetchWith env' load' target level = s.fetchWith env load target level := by
  unfold fetchWith at hok ⊢
  rw [hb.source_eq]
  cases hsource : env.source target with
  | error e => rfl
  | ok opened =>
    simp only [hsource] at hok ⊢
    rw [compileWith_covered hb hl (loaded_eq_ok.mp hok)]

/-! ## Loading with higher limits -/

/-- **Loading an import.** As many levels as the limit is higher are left besides. -/
theorem load_covers (hb : env.Below env') (levels : Nat) :
    (Session.load env levels).Covers
      (Session.load env' (levels + (env'.maxImportDepth - env.maxImportDepth))) := by
  induction levels with
  | zero =>
    intro requester target s schema hok
    cases hcached : s.cached? target with
    | some old => rw [load_of_cached _ _ hcached, load_of_cached _ _ hcached]
    | none => simp [Session.load, hcached] at hok
  | succ levels ih =>
    intro requester target s schema hok
    cases hcached : s.cached? target with
    | some old => rw [load_of_cached _ _ hcached, load_of_cached _ _ hcached]
    | none =>
      -- Both are equally far down, which is what an opening is recorded with.
      have hlevel : env'.maxImportDepth - (levels + (env'.maxImportDepth - env.maxImportDepth)) =
          env.maxImportDepth - levels := by
        have := hb.maxImportDepth_le
        omega
      rw [Nat.succ_add]
      simp only [Session.load, hcached, hlevel] at hok ⊢
      split
      · rfl
      · rename_i graph hg
        simp only [hg] at hok
        exact fetchWith_covered hb ih hok

theorem load_maxImportDepth_covers (hb : env.Below env') :
    (Session.load env env.maxImportDepth).Covers (Session.load env' env'.maxImportDepth) := by
  have h := load_covers hb env.maxImportDepth
  rwa [Nat.add_sub_cancel' hb.maxImportDepth_le] at h

/-- **Loading a schema** in any session. -/
theorem loadRoot_of_below (hb : env.Below env') {target : SchemaIdentifier} {schema : Schema}
    (hok : (s.loadRoot env target).value = .ok schema) :
    s.loadRoot env' target = s.loadRoot env target := by
  unfold loadRoot at hok ⊢
  split
  · rfl
  · rename_i hnew
    simp only [hnew] at hok
    exact fetchWith_covered hb (load_maxImportDepth_covers hb) hok

/-- **Compiling a document** in any session. -/
theorem compileDocument_of_below (hb : env.Below env') {uri : String} {document : Text.Octets}
    {schema : Schema} (hok : (s.compileDocument env uri document).value = some schema) :
    s.compileDocument env' uri document = s.compileDocument env uri document := by
  unfold compileDocument at hok ⊢
  cases hvalue : (s.compileWith env.parser (Session.load env env.maxImportDepth) ⟨uri, .ok document⟩
      none).value with
  | error d => simp [hvalue] at hok
  | ok compiled =>
    simp only [hvalue] at hok
    subst hok
    simp only [compileWith_covered hb (load_maxImportDepth_covers hb) hvalue]

/-- **Limits only reject.** A document that is compiled to a schema is compiled to the same schema, with
the same issues, if the limits on nodes and on nested imports are higher. -/
theorem limits_only_reject (source : Source) {nodesLimit nodesLimit' maxImportDepth maxImportDepth' : Nat}
    (hnodes : nodesLimit ≤ nodesLimit') (hdepth : maxImportDepth ≤ maxImportDepth') (uri : String)
    (document : Text.Octets) {schema : Schema}
    (hok : (compileSchema (source.environment nodesLimit maxImportDepth) uri document).value =
      some schema) :
    compileSchema (source.environment nodesLimit' maxImportDepth') uri document =
      compileSchema (source.environment nodesLimit maxImportDepth) uri document := by
  have hb : (source.environment nodesLimit maxImportDepth).Below
      (source.environment nodesLimit' maxImportDepth') := ⟨rfl, rfl, hnodes, hdepth⟩
  unfold compileSchema at hok ⊢
  dsimp only at hok ⊢
  rw [compileDocument_of_below hb hok]

theorem limits_only_reject_dublin :
    let document := Sample.octets Sample.dublinDocument
    let compiled := compileSchema (Sample.source.environment 1000 1) "memory:dublin" document
    (∃ schema, compiled.value = some schema ∧ schema.identifier = Sample.dublin) ∧
      compileSchema (Sample.source.environment 100000 128) "memory:dublin" document = compiled := by
  intro document compiled
  have hcompiled : compiled.value.map (·.identifier) = some Sample.dublin := by decide +kernel
  obtain ⟨schema, hschema, hid⟩ := Option.map_eq_some_iff.mp hcompiled
  exact ⟨⟨schema, hschema, hid⟩,
    limits_only_reject Sample.source (by decide) (by decide) "memory:dublin" document hschema⟩

end MetaSchema
