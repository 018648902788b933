import MetaSchema.Proofs.Origin.Loading
import MetaSchema.Proofs.Session.Operation
import MetaSchema.Proofs.Session.Served

/-!
# Sessions without uris

* `Directory.Mirrors`: a directory finds schemas as another does, but for the uris in its issues.
* `Directory.Mirrors.resolve`: so it does with tables.
* `run_anonymous`: a session after any operations is that of the anonymous source after the
  anonymous operations.
* `Source.AnswersLike`: two sources have the same documents, or the same failures, for all schemas.
* `Outcome.AlikeButUri`: two outcomes differ at most in the uris of positions.
* `Environment.AlikeOn`: so it is with every operation on a session.
-/

namespace MetaSchema

variable {σ α : Type}

/-! ## Resolving -/

/-- Schemas are found as in another directory, with issues without uris. -/
structure Directory.Mirrors (d' d : Directory σ) : Prop where
  find_eq : ∀ target s, d'.find target s = (d.find target s).anonymous id id
  size_eq : ∀ s, d'.size s = d.size s

namespace Walk

variable {d d' : Directory σ}

def anonymous (w : Walk σ) : Walk σ := { w with issues := w.issues.map (Issue.anonymous id) }

theorem enter_anonymous (w : Walk σ) (requiredBy : Option SchemaIdentifier)
    (target : SchemaIdentifier) :
    w.anonymous.enter requiredBy target = (w.enter requiredBy target).map anonymous :=
  enter_map anonymous w rfl rfl (fun _ => rfl) requiredBy target

theorem fail_anonymous (w : Walk σ) (e : ResolveError) :
    w.anonymous.fail e = (w.fail e).anonymous := by
  unfold fail anonymous
  rw [List.map_append]
  rfl

theorem look_anonymous (hd : d'.Mirrors d) (w : Walk σ) (target : SchemaIdentifier) :
    w.anonymous.look d' target = ((w.look d target).1.anonymous, (w.look d target).2) := by
  unfold look
  have hfind : d'.find target w.anonymous.directory = _ := hd.find_eq target w.directory
  rw [hfind]
  generalize d.find target w.directory = found
  obtain ⟨state, value, issues⟩ := found
  cases value <;> simp only [Outcome.anonymous, anonymous, fail, id, List.map_append]; rfl

theorem visitWith_anonymous (hd : d'.Mirrors d)
    {below below' : SchemaIdentifier → Walk σ → SchemaIdentifier → Walk σ}
    (hbelow : ∀ requester w target, below' requester (anonymous w) target =
      (below requester w target).anonymous)
    (requiredBy : Option SchemaIdentifier) (w : Walk σ) (target : SchemaIdentifier) :
    visitWith d' below' requiredBy w.anonymous target =
      (visitWith d below requiredBy w target).anonymous := by
  unfold visitWith
  rw [enter_anonymous]
  cases w.enter requiredBy target with
  | error e => exact w.fail_anonymous e
  | ok w₁ =>
    show (if target ∈ w₁.visited then w₁.anonymous else _) = _
    by_cases hvisited : target ∈ w₁.visited
    · simp only [hvisited, ↓reduceIte]
    · simp only [hvisited, ↓reduceIte, look_anonymous hd]
      generalize w₁.look d target = looked
      obtain ⟨w₂, schema⟩ := looked
      cases schema with
      | none => rfl
      | some schema => exact List.foldl_hom anonymous (hbelow target)

theorem visit_anonymous (hd : d'.Mirrors d) (fuel : Nat) (requiredBy : Option SchemaIdentifier)
    (w : Walk σ) (target : SchemaIdentifier) :
    visit d' fuel requiredBy w.anonymous target = (visit d fuel requiredBy w target).anonymous := by
  induction fuel generalizing requiredBy w target with
  | zero => exact visitWith_anonymous hd (fun _ _ _ => rfl) requiredBy w target
  | succ fuel ih =>
    exact visitWith_anonymous hd (fun requester => ih (some requester)) requiredBy w target

theorem visitRoot_anonymous (hd : d'.Mirrors d) (w : Walk σ) (target : SchemaIdentifier) :
    visitRoot d' w.anonymous target = (visitRoot d w target).anonymous := by
  refine visitWith_anonymous hd (fun requester w target => ?_) none w target
  show visit d' (d'.size w.directory) _ _ _ = _
  rw [hd.size_eq]
  exact visit_anonymous hd _ _ w target

end Walk

/-- **Resolving a table.** -/
theorem Directory.Mirrors.resolve {d d' : Directory σ} (hd : d'.Mirrors d) (table : ImportTable)
    (s : σ) : d'.resolve table s = (d.resolve table s).anonymous id id := by
  have hwalk : d'.walk table s = (d.walk table s).anonymous := by
    have hstart : Walk.start s = (Walk.start s).anonymous := rfl
    unfold Directory.walk
    rw [hstart, List.foldl_hom Walk.anonymous (Walk.visitRoot_anonymous hd), ← hstart]
  have hgraph : (d.walk table s).anonymous.graph = (d.walk table s).graph := rfl
  have hfound : (d.walk table s).anonymous.found = (d.walk table s).found := rfl
  have hfailed : (d.walk table s).anonymous.failed = (d.walk table s).failed := rfl
  unfold Directory.resolve
  simp only [hwalk, hgraph, hfound, hfailed]
  by_cases h : (d.walk table s).failed
  · rw [if_pos h, if_pos h]
    rfl
  · rw [if_neg h, if_neg h]
    cases ResolvedSet.ofSchemas? (d.walk table s).graph ((d.walk table s).found.map Prod.snd) with
    | ok set => rfl
    | error defect =>
      simp only [Outcome.anonymous, Walk.anonymous, List.map_append]
      rfl

/-! ## Operations -/

namespace Session

variable {env : Environment}

theorem find_anonymous (hp : env.parser.languages = [.version1]) (target : SchemaIdentifier)
    (s : Session) :
    s.find (env.anonymous id) target = (s.find env target).anonymous id id := by
  unfold find
  rw [loadRoot_anonymous hp]
  obtain ⟨state, value, issues⟩ := s.loadRoot env target
  rcases value with (_ | _ | _ | _ | _) | schema <;> rfl

theorem directory_mirrors (hp : env.parser.languages = [.version1]) :
    (directory (env.anonymous id)).Mirrors (directory env) where
  find_eq := find_anonymous hp
  size_eq _ := rfl

namespace Operation

/-- The operation without the uris in what it is given. -/
def anonymous : Operation → Operation
  | .compileDocument _ document => .compileDocument "" document
  | .typeTree tree => .typeTree tree.anonymous
  | op => op

end Operation

theorem after_anonymous (hp : env.parser.languages = [.version1]) (s : Session) (op : Operation) :
    s.after (env.anonymous id) op.anonymous = s.after env op := by
  have hstate {α β : Type} {o : Outcome Session α} {o' : Outcome Session β}
      {f : SourceError → SourceError} {g : β → α} (h : o = o'.anonymous f g) :
      o.state = o'.state := by
    rw [h]
    rfl
  cases op with
  | load requester target => exact hstate (loadImport_anonymous hp requester target s)
  | loadRoot target => exact hstate (loadRoot_anonymous hp target s)
  | compileDocument uri document => exact hstate (compileDocument_anonymous hp uri document s)
  | typeTree tree => exact hstate (typeTree_anonymous hp tree s)
  | find target => exact hstate (find_anonymous hp target s)
  | resolve table => exact hstate ((directory_mirrors hp).resolve table s)

/-- **Several operations.** -/
theorem run_anonymous (hp : env.parser.languages = [.version1]) (ops : List Operation) :
    run (env.anonymous id) (ops.map Operation.anonymous) = run env ops := by
  have hafter : (fun s op => after (env.anonymous id) s (Operation.anonymous op)) = after env := by
    funext s op
    exact after_anonymous hp s op
  unfold run
  rw [List.foldl_map, hafter]

end Session

/-! ## Two sources -/

/-- Both sources have the same document of a schema, or fail in the same way. -/
def Source.AnswersLike (source source' : Source) : Prop :=
  ∀ id, (source id).map Opened.content = (source' id).map Opened.content

theorem Source.AnswersLike.anonymous_environment {source source' : Source}
    (h : source.AnswersLike source') (nodesLimit maxImportDepth : Nat) :
    (source.environment nodesLimit maxImportDepth).anonymous id =
      (source'.environment nodesLimit maxImportDepth).anonymous id := by
  suffices hsource : ∀ target, ((source target).map Opened.anonymous).mapError id =
      ((source' target).map Opened.anonymous).mapError id from
    congrArg (Environment.mk · _ _) (funext hsource)
  intro target
  have htarget := h target
  cases hs : source target with
  | error e =>
    cases hs' : source' target with
    | error e' =>
      rw [hs, hs'] at htarget
      cases htarget
      rfl
    | ok opened =>
      rw [hs, hs'] at htarget
      cases htarget
  | ok opened =>
    cases hs' : source' target with
    | error e' =>
      rw [hs, hs'] at htarget
      cases htarget
    | ok opened' =>
      rw [hs, hs'] at htarget
      have hcontent : opened.content = opened'.content := by
        -- The contents agree. The uris need not, but they are blank in both.
        injection htarget
      show Except.ok (Opened.mk "" opened.content) = Except.ok (Opened.mk "" opened'.content)
      rw [hcontent]

/-- Two outcomes that differ at most in the uris of the positions of their diagnostics. -/
structure Outcome.AlikeButUri (o o' : Outcome σ α) : Prop where
  state_eq : o.state = o'.state
  value_eq : o.value = o'.value
  diagnostics_eq : o.issues.map (·.diagnostic.anonymous) = o'.issues.map (·.diagnostic.anonymous)

theorem withoutSource_id (r : Except LoadError α) : withoutSource id r = r := by
  rcases r with (_ | _ | _ | _ | _) | a <;> rfl

theorem Outcome.AlikeButUri.of_anonymous {o o' : Outcome σ α} {g : α → α} (hg : ∀ a, g a = a)
    (h : o.anonymous id g = o'.anonymous id g) : o.AlikeButUri o' where
  state_eq := show (o.anonymous id g).state = (o'.anonymous id g).state from congrArg _ h
  value_eq := by
    rw [← hg o.value, ← hg o'.value]
    exact congrArg Outcome.value h
  diagnostics_eq := by
    have hissues := congrArg (fun o => o.issues.map Issue.diagnostic) h
    simpa only [Outcome.anonymous, List.map_map, Function.comp_def, Issue.diagnostic_anonymous] using
      hissues

/-- Whatever is asked of a session, in two environments, the outcomes differ at most in uris. -/
structure Environment.AlikeOn (env env' : Environment) (s : Session) : Prop where
  loadImport : ∀ requester target,
    (Session.loadImport env requester target s).AlikeButUri
      (Session.loadImport env' requester target s)
  loadRoot : ∀ target, (s.loadRoot env target).AlikeButUri (s.loadRoot env' target)
  /-- The document may be given with different uris. -/
  compileDocument : ∀ uri uri' document,
    (s.compileDocument env uri document).AlikeButUri (s.compileDocument env' uri' document)
  /-- The trees may come from different documents. -/
  typeTree : ∀ tree tree' : Tree .bound, tree.anonymous = tree'.anonymous →
    (s.typeTree env tree).AlikeButUri (s.typeTree env' tree')
  find : ∀ target, (s.find env target).AlikeButUri (s.find env' target)
  resolve : ∀ table,
    ((Session.directory env).resolve table s).AlikeButUri
      ((Session.directory env').resolve table s)

/-- **Every operation**, in environments that differ at most in the uris of their sources. -/
theorem Environment.alikeOn {env env' : Environment} (hp : env.parser.languages = [.version1])
    (hp' : env'.parser.languages = [.version1]) (h : env.anonymous id = env'.anonymous id)
    (s : Session) : env.AlikeOn env' s where
  loadImport requester target := by
    apply Outcome.AlikeButUri.of_anonymous withoutSource_id
    rw [← Session.loadImport_anonymous hp, h, Session.loadImport_anonymous hp']
  loadRoot target := by
    apply Outcome.AlikeButUri.of_anonymous withoutSource_id
    rw [← Session.loadRoot_anonymous hp, h, Session.loadRoot_anonymous hp']
  compileDocument uri uri' document := by
    apply Outcome.AlikeButUri.of_anonymous (g := id) fun _ => rfl
    rw [← Session.compileDocument_anonymous hp, h, Session.compileDocument_anonymous hp']
  typeTree tree tree' htree := by
    apply Outcome.AlikeButUri.of_anonymous (g := id) fun _ => rfl
    rw [← Session.typeTree_anonymous hp, h, htree, Session.typeTree_anonymous hp']
  find target := by
    apply Outcome.AlikeButUri.of_anonymous (g := id) fun _ => rfl
    rw [← Session.find_anonymous hp, h, Session.find_anonymous hp']
  resolve table := by
    apply Outcome.AlikeButUri.of_anonymous (g := id) fun _ => rfl
    rw [← (Session.directory_mirrors hp).resolve, h, (Session.directory_mirrors hp').resolve]

end MetaSchema
