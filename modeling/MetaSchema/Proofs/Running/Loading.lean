import MetaSchema.Proofs.Running.Stages
import MetaSchema.Proofs.Session.Loading
import MetaSchema.Proofs.Session.Served

/-!
# Loading as a task

Compiling and loading with one reporter and one counter for a whole operation. The counter goes up
around the typing of a schema and is compared with the limit where an import is loaded; nothing else
bounds the recursion. The typing of a schema tells its own errors from those of its imports: it
reads the number of errors reported before and after each of them.

* `Loader`: a session at work: the counter, the schemas that are being compiled, and the most of
  these that there were at once.
* `Task.load`, `Task.loadRoot`, `Task.compileDocument`, `Task.typeTree`: the operations. Loading
  takes fuel, and does not end where that runs out.
* `Task.Follows`: a task ends as an outcome says, with all counters as before.
* `load_follows`: an import `k` levels down is loaded as `Session.load` does with the levels that
  are left, whatever the fuel above that, by induction on the fuel.
* `loadRoot_follows` and its siblings.
-/

namespace MetaSchema

/-- A session at work. -/
structure Loader where
  session : Session
  /-- The counter of schemas whose imports are being loaded. -/
  depth : Nat
  /-- The number of schemas that are being compiled. -/
  underWay : Nat
  /-- The largest number of schemas that were being compiled at once. -/
  peak : Nat

namespace Loader

/-- A session between two operations. -/
def idle (session : Session) (peak : Nat) : Loader := ⟨session, 0, 0, peak⟩

def changeSession (f : Session → Session) (l : Loader) : Loader := { l with session := f l.session }

/-- One more schema is being compiled. -/
def enter (l : Loader) : Loader :=
  { l with
    session := l.session.countCompilation
    underWay := l.underWay + 1
    peak := max l.peak (l.underWay + 1) }

/-- One schema less is being compiled. -/
def leave (l : Loader) : Loader := { l with underWay := l.underWay - 1 }

def deepen (l : Loader) : Loader := { l with depth := l.depth + 1 }

def rise (l : Loader) : Loader := { l with depth := l.depth - 1 }

end Loader

namespace Task

open Loader (changeSession)

/-! ## Typing -/

/-- Loads the second schema as an import of the first. -/
abbrev Loading := SchemaIdentifier → SchemaIdentifier → Task Loader (Except LoadError Schema)

/-- What the loop over the imports of a schema has gathered. -/
structure Imported where
  schemas : List (SchemaName × Schema)
  failed : Bool
  /-- The errors reported in the loop. -/
  errors : Nat

/-- Gives a diagnostic a position, unless it has one. -/
def placed (d : Diagnostic) (position : Position) : Diagnostic :=
  if d.position.isZero then { d with position } else d

/-- A task, and the number of errors that were reported in it. -/
def counted {σ α : Type} (t : Task σ α) : Task σ (α × Nat) := do
  let before ← errorCount
  let a ← t
  let after ← errorCount
  return (a, after - before)

/-- Loads one import. A failure is reported, unless it was reported where it happened. -/
def loadImport (load : Loading) (owner : SchemaIdentifier) (n : ImportNode .bound) :
    Task Loader (Except LoadError Schema) := do
  match ← load owner n.data with
  | .ok schema => return .ok schema
  | .error e =>
    let l ← read
    if alreadyReported l.session e then return .error e
    else
      report (placed e.diagnostic n.position)
      return .error e

def loadImports (load : Loading) (owner : SchemaIdentifier) :
    List (ImportNode .bound) → Task Loader Imported
  | [] => return ⟨[], false, 0⟩
  | n :: ns => do
    let first ← counted (loadImport load owner n)
    let rest ← loadImports load owner ns
    match first.1 with
    | .ok schema =>
      return ⟨(n.data.name, schema) :: rest.schemas, rest.failed, first.2 + rest.errors⟩
    | .error _ => return ⟨rest.schemas, true, first.2 + rest.errors⟩

/-- Types a bound tree. Errors that were not reported in the loop over the imports are its own. -/
def typeWith (load : Loading) (t : Tree .bound) : Task Loader (Except TypingFailure Schema) := do
  let imported ← counted (loadImports load t.data t.imports)
  match t.typedDeclarations? imported.1.schemas with
  | .error d =>
    report d.diagnostic
    return .error .schema
  | .ok declarations =>
    if imported.1.errors < imported.2 then return .error .schema
    else
      match declarations with
      | none => return .error .imports
      | some (types, attributes) =>
        if imported.1.failed then return .error .imports
        else return .ok ⟨t.data, t.imports.map (·.data), types, attributes⟩

/-! ## Compiling -/

/-- A task with the counter one higher. -/
def below {α : Type} (t : Task Loader α) : Task Loader α := do
  change Loader.deepen
  let a ← t
  change Loader.rise
  return a

/-- Binds and types a parsed tree, with the counter up while it is typed. -/
def compileTree (load : Loading) (tree : Tree .parsed) : Task Loader (Except Defect (Option Schema)) := do
  match ← bindTree tree with
  | none => return .ok none
  | some t =>
    if t.counts ≠ tree.counts then
      return .error (.countMismatch tree.identifier tree.counts t.counts)
    else
      match ← below (typeWith load t) with
      | .ok schema =>
        change (changeSession (·.store tree.identifier schema))
        return .ok (some schema)
      | .error .imports =>
        change (changeSession (·.blame tree.identifier))
        return .ok none
      | .error .schema => return .ok none

def compileParsed (load : Loading) (expected : Option SchemaIdentifier) (tree : Tree .parsed) :
    Task Loader (Except Defect (Option Schema)) := do
  match expected with
  | some id =>
    if id ≠ tree.identifier then return .error (.identifierMismatch id tree.identifier)
    else compileTree load tree
  | none =>
    let l ← read
    match l.session.cached? tree.identifier with
    | some schema => return .ok (some schema)
    | none =>
      change (changeSession (·.mention tree.identifier))
      compileTree load tree

def parseOpened (nodesLimit : Nat) (opened : Opened) : Task Loader (Option (Tree .parsed)) :=
  match opened.content with
  | .error message => do
    report (ParseError.unreadable message ⟨opened.uri, 0, 0⟩).diagnostic
    return none
  | .ok document => parse nodesLimit opened.uri document

def compileOpened (nodesLimit : Nat) (load : Loading) (opened : Opened)
    (expected : Option SchemaIdentifier) : Task Loader (Except Defect (Option Schema)) := do
  match ← parseOpened nodesLimit opened with
  | none => return .ok none
  | some tree => compileParsed load expected tree

/-- Compiles a document that was opened; it is under way from its parsing on. -/
def compile (nodesLimit : Nat) (load : Loading) (opened : Opened)
    (expected : Option SchemaIdentifier) : Task Loader (Except Defect (Option Schema)) := do
  change Loader.enter
  let compiled ← compileOpened nodesLimit load opened expected
  change Loader.leave
  return compiled

/-! ## Loading -/

section Operations

variable (source : Source) (nodesLimit maxImportDepth : Nat)

/-- Opens a schema and compiles it. The opening is recorded with the number of schemas that are
being compiled. -/
def fetch (load : Loading) (target : SchemaIdentifier) : Task Loader (Except LoadError Schema) := do
  change fun l => changeSession (·.recordOpening target l.underWay) l
  match source target with
  | .error e => return .error (.source target e)
  | .ok opened =>
    let compiled ← compile nodesLimit load opened (some target)
    return Session.loaded target compiled

def load : Nat → Loading
  | 0 => fun _ _ _ => none
  | fuel + 1 => fun requester target => do
    let l ← read
    match l.session.cached? target with
    | some schema => return .ok schema
    | none =>
      if maxImportDepth < l.depth then return .error (.depthExceeded target maxImportDepth)
      else
        match l.session.graph.addEdge? requester target with
        | .error path => return .error (.cyclicImport requester target path)
        | .ok graph =>
          change (changeSession fun s => { s with graph })
          fetch source nodesLimit (load fuel) target

def loadRoot (fuel : Nat) (target : SchemaIdentifier) : Task Loader (Except LoadError Schema) := do
  let l ← read
  match l.session.cached? target with
  | some schema => return .ok schema
  | none =>
    change (changeSession (·.mention target))
    fetch source nodesLimit (load source nodesLimit maxImportDepth fuel) target

def compileDocument (fuel : Nat) (uri : String) (document : Text.Octets) :
    Task Loader (Option Schema) := do
  match ← compile nodesLimit (load source nodesLimit maxImportDepth fuel) ⟨uri, .ok document⟩ none with
  | .ok schema => return schema
  | .error d =>
    report d.diagnostic
    return none

def typeTree (fuel : Nat) (t : Tree .bound) : Task Loader (Except TypingFailure Schema) :=
  typeWith (load source nodesLimit maxImportDepth fuel) t

end Operations

/-! ## Following the session -/

/-- From the state `l`, a task ends with the value `a` and the session `s`, and reports these
issues. The counters are as before, and at no time were more than `limit` schemas being compiled. -/
def Follows {α : Type} (limit : Nat) (t : Task Loader α) (l : Loader) (a : α) (s : Session)
    (issues : List Issue) : Prop :=
  ∃ peak ≤ limit, t.Ends l a { l with session := s, peak } (issues.map Issue.diagnostic)

/-- Loading imports `k` levels down. -/
def Loading.Follows (limit k : Nat) (live : Loading) (load : MetaSchema.Loading) : Prop :=
  ∀ requester target (l : Loader), l.depth = k → l.underWay = k → l.peak ≤ limit →
    let o := load requester target l.session
    (live requester target).Follows limit l o.value o.state o.issues

variable {limit k : Nat} {live : Loading} {load : MetaSchema.Loading} {l : Loader}

theorem counted_ends {σ α : Type} {t : Task σ α} {x x' : σ} {a : α} {ds : List Diagnostic}
    (h : t.Ends x a x' ds) : (counted t).Ends x (a, ds.countP (·.isError)) x' ds := by
  intro r
  obtain ⟨r', ht, ho⟩ := h r
  refine ⟨r', ?_, ho⟩
  have hcount : r'.errors - r.errors = ds.countP (·.isError) := by
    rw [ho.errors, Nat.add_sub_cancel_left]
  rw [← hcount]
  unfold counted
  rw [bind_of_eq_some (show errorCount (x, r) = some (r.errors, x, r) from rfl), bind_of_eq_some ht]
  rfl

theorem placed_diagnostic (e : LoadError) (position : Position) :
    placed e.diagnostic position = (Issue.load e position).diagnostic := by
  cases e <;> rfl

variable {α β : Type} {t : Task Loader α} {f : α → Task Loader β} {a : α} {b : β} {s s' : Session}
  {is js : List Issue}

/-- A task that reports, and leaves the loader alone. -/
theorem Follows.of_ends (hp : l.peak ≤ limit) (h : t.Ends l a l (is.map Issue.diagnostic)) :
    t.Follows limit l a l.session is := ⟨l.peak, hp, h⟩

theorem follows_pure (a : α) (hp : l.peak ≤ limit) : Follows limit (pure a) l a l.session [] :=
  .of_ends hp (ends_pure a l)

theorem follows_read (hp : l.peak ≤ limit) : Follows limit read l l l.session [] :=
  .of_ends hp (ends_read l)

theorem follows_report (i : Issue) (hp : l.peak ≤ limit) :
    Follows limit (report i.diagnostic) l () l.session [i] := .of_ends hp (ends_report _ l)

/-- One task after the other. -/
theorem Follows.bind (h : t.Follows limit l a s is)
    (h' : ∀ peak ≤ limit, (f a).Follows limit { l with session := s, peak } b s' js) :
    (t >>= f).Follows limit l b s' (is ++ js) := by
  obtain ⟨peak, hpeak, ht⟩ := h
  obtain ⟨peak', hpeak', hf⟩ := h' peak hpeak
  exact ⟨peak', hpeak', by rw [List.map_append]; exact ht.bind hf⟩

/-- After a task that reports nothing. -/
theorem Follows.then (h : t.Follows limit l a s [])
    (h' : ∀ peak ≤ limit, (f a).Follows limit { l with session := s, peak } b s' js) :
    (t >>= f).Follows limit l b s' js := h.bind h'

/-- Before a task that reports nothing. -/
theorem Follows.finish (h : t.Follows limit l a s is)
    (h' : ∀ peak ≤ limit, (f a).Follows limit { l with session := s, peak } b s' []) :
    (t >>= f).Follows limit l b s' is := List.append_nil is ▸ h.bind h'

/-- Before a result. -/
theorem Follows.result (h : t.Follows limit l a s is) (hf : f a = pure b) :
    (t >>= f).Follows limit l b s is := h.finish fun _ hpeak => hf ▸ follows_pure b hpeak

/-- A change of the session. -/
theorem follows_change (g : Session → Session) (hp : l.peak ≤ limit) :
    Follows limit (change (changeSession g)) l () (g l.session) [] :=
  ⟨l.peak, hp, ends_change _ l⟩

/-- The counter is as before when a task below it has ended. -/
theorem Follows.below (h : t.Follows limit l.deepen a s is) : (below t).Follows limit l a s is := by
  obtain ⟨peak, hpeak, ht⟩ := h
  refine ⟨peak, hpeak, ?_⟩
  refine (ends_change Loader.deepen l).then ?_
  refine ht.finish ?_
  refine (ends_change Loader.rise _).then ?_
  exact ends_pure a _

/-! ### Typing -/

/-- The issues of one import: what was reported while it was loaded, and its own failure. -/
def importIssues (n : ImportNode .bound) (o : Outcome Session (Except LoadError Schema)) :
    List Issue :=
  o.issues ++
    match o.value with
    | .ok _ => []
    | .error e => if alreadyReported o.state e then [] else [.load e n.position]

theorem loadImport_follows (hl : live.Follows limit k load) (owner : SchemaIdentifier)
    (n : ImportNode .bound) (hd : l.depth = k) (hu : l.underWay = k) (hp : l.peak ≤ limit) :
    let o := load owner n.data l.session
    (loadImport live owner n).Follows limit l o.value o.state (importIssues n o) := by
  refine (hl owner n.data l hd hu hp).bind fun peak hpeak => ?_
  cases (load owner n.data l.session).value with
  | ok schema => exact follows_pure _ hpeak
  | error e =>
    refine (follows_read hpeak).then fun peak hpeak => ?_
    dsimp only
    split
    · exact follows_pure _ hpeak
    · rw [placed_diagnostic]
      exact (follows_report _ hpeak).result rfl

/-- The number of errors among some issues. -/
def errorsOf (issues : List Issue) : Nat := (issues.map Issue.diagnostic).countP (·.isError)

theorem errorsOf_append (is js : List Issue) : errorsOf (is ++ js) = errorsOf is + errorsOf js := by
  rw [errorsOf, List.map_append, List.countP_append, errorsOf, errorsOf]

theorem Follows.counted (h : t.Follows limit l a s is) :
    (counted t).Follows limit l (a, errorsOf is) s is := by
  obtain ⟨peak, hpeak, ht⟩ := h
  exact ⟨peak, hpeak, counted_ends ht⟩

theorem loadImports_follows (hl : live.Follows limit k load) (owner : SchemaIdentifier)
    (ns : List (ImportNode .bound)) (hd : l.depth = k) (hu : l.underWay = k) (hp : l.peak ≤ limit) :
    let m := MetaSchema.loadImports load owner ns l.session
    (loadImports live owner ns).Follows limit l ⟨m.schemas, m.failed, errorsOf m.issues⟩ m.session
      m.issues := by
  induction ns generalizing l with
  | nil => exact follows_pure _ hp
  | cons n ns ih =>
    have hfirst := (loadImport_follows hl owner n hd hu hp).counted
    unfold loadImports MetaSchema.loadImports
    dsimp only
    cases hv : (load owner n.data l.session).value with
    | ok schema =>
      have hissues : importIssues n (load owner n.data l.session) =
          (load owner n.data l.session).issues := by
        simp only [importIssues, hv, List.append_nil]
      rw [hv, hissues] at hfirst
      refine hfirst.bind fun peak hpeak => ?_
      refine (ih (l := { l with session := _, peak }) hd hu hpeak).result ?_
      simp only [errorsOf_append]
    | error e =>
      -- A failed import may report one error more, so the count grows by that of `importIssues`.
      have hissues : importIssues n (load owner n.data l.session) =
          (load owner n.data l.session).issues ++
            if alreadyReported (load owner n.data l.session).state e then []
            else [.load e n.position] := by
        simp only [importIssues, hv]
      rw [hv, hissues] at hfirst
      refine hfirst.bind fun peak hpeak => ?_
      refine (ih (l := { l with session := _, peak }) hd hu hpeak).result ?_
      simp only [errorsOf_append, Nat.add_assoc]

/-- **Typing.** All errors reported in the loop over the imports are counted there, so the count
shows no error of the schema itself. -/
theorem typeWith_follows (hl : live.Follows limit k load) (t : Tree .bound) (hd : l.depth = k)
    (hu : l.underWay = k) (hp : l.peak ≤ limit) :
    let o := t.typeWith load l.session
    (typeWith live t).Follows limit l o.value o.state o.issues := by
  have himports := (loadImports_follows hl t.data t.imports hd hu hp).counted
  unfold typeWith Tree.typeWith
  dsimp only at himports ⊢
  generalize MetaSchema.loadImports load t.data t.imports l.session = m at himports ⊢
  -- The loop and the count around it find the same errors, so none is the schema's own.
  have hown : ¬ errorsOf m.issues < errorsOf m.issues := Nat.lt_irrefl _
  cases ht : t.typedDeclarations? m.schemas with
  | error d =>
    refine himports.bind fun peak hpeak => ?_
    simp only [ht]
    exact (follows_report (.defect d) hpeak).result rfl
  | ok declarations =>
    cases declarations with
    | none =>
      refine himports.result ?_
      simp only [ht, hown, ↓reduceIte]
    | some declared =>
      by_cases hf : m.failed = true
      · simp only [hf, ↓reduceIte] at himports ⊢
        refine himports.result ?_
        simp only [ht, hown, ↓reduceIte]
      · rw [Bool.not_eq_true] at hf
        simp only [hf, Bool.false_eq_true, ↓reduceIte] at himports ⊢
        refine himports.result ?_
        simp only [ht, hown, Bool.false_eq_true, ↓reduceIte]

/-! ### Compiling -/

/-- **Binding and typing.** The counter is one higher while the tree is typed. -/
theorem compileTree_follows (hl : live.Follows limit (k + 1) load) (tree : Tree .parsed)
    (hd : l.depth = k) (hu : l.underWay = k + 1) (hp : l.peak ≤ limit) :
    let o := l.session.compileTree load tree
    (compileTree live tree).Follows limit l o.value o.state o.issues := by
  have hbind := Follows.of_ends hp (bindTree_ends tree l)
  -- A tree that was bound has all its declarations, so the counts that are compared agree.
  have hbound : ∀ b, tree.bind.value = some b →
      (bindTree tree).Follows limit l (some b) l.session [] ∧ ¬ b.counts ≠ tree.counts := by
    intro b hb
    rw [hb, Tree.issues_of_bind_eq_some hb] at hbind
    exact ⟨hbind, not_not.mpr (Tree.bind_eq_some hb).counts_eq⟩
  -- Around the typing the counter goes up and down again, however the typing ends.
  have hbelow : ∀ (b : Tree .bound), ∀ peak ≤ limit, (below (typeWith live b)).Follows limit
      { l with peak } (b.typeWith load l.session).value (b.typeWith load l.session).state
      (b.typeWith load l.session).issues := by
    intro b peak hpeak
    exact (typeWith_follows hl b (l := Loader.deepen { l with peak }) (congrArg (· + 1) hd) hu
      hpeak).below
  have ho := MetaSchema.compilesTree load tree l.session
  generalize l.session.compileTree load tree = o at ho ⊢
  cases ho with
  | unbound hb =>
    rw [hb] at hbind
    exact hbind.result rfl
  | stored hb ht =>
    obtain ⟨hrun, hcounts⟩ := hbound _ hb
    refine hrun.then fun peak hpeak => ?_
    simp only [hcounts, ↓reduceIte]
    refine (ht ▸ hbelow _ peak hpeak).finish fun peak hpeak => ?_
    exact (follows_change _ hpeak).result rfl
  | imports hb ht =>
    obtain ⟨hrun, hcounts⟩ := hbound _ hb
    refine hrun.then fun peak hpeak => ?_
    simp only [hcounts, ↓reduceIte]
    refine (ht ▸ hbelow _ peak hpeak).finish fun peak hpeak => ?_
    exact (follows_change _ hpeak).result rfl
  | schema hb ht =>
    obtain ⟨hrun, hcounts⟩ := hbound _ hb
    refine hrun.then fun peak hpeak => ?_
    simp only [hcounts, ↓reduceIte]
    exact (ht ▸ hbelow _ peak hpeak).result rfl

theorem compileParsed_follows (hl : live.Follows limit (k + 1) load)
    (expected : Option SchemaIdentifier) (tree : Tree .parsed) (hd : l.depth = k)
    (hu : l.underWay = k + 1) (hp : l.peak ≤ limit) :
    let o := l.session.compileParsed load expected tree
    (compileParsed live expected tree).Follows limit l o.value o.state o.issues := by
  unfold compileParsed Session.compileParsed
  cases expected with
  | some id =>
    by_cases hid : id = tree.identifier
    · simp only [ne_eq, hid, not_true_eq_false, ↓reduceIte]
      exact compileTree_follows hl tree hd hu hp
    · simp only [ne_eq, hid, not_false_eq_true, ↓reduceIte]
      exact follows_pure _ hp
  | none =>
    refine (follows_read hp).then fun peak hpeak => ?_
    dsimp only
    cases l.session.cached? tree.identifier with
    | some schema => exact follows_pure _ hpeak
    | none =>
      refine (follows_change (·.mention tree.identifier) hpeak).then fun peak hpeak => ?_
      exact compileTree_follows hl tree (l := ⟨_, _, _, peak⟩) hd hu hpeak

theorem parseOpened_ends (nodesLimit : Nat) (opened : Opened) (l : Loader) :
    let parsed := Session.parseOpened { nodesLimit } opened
    (parseOpened nodesLimit opened).Ends l parsed.value l (parsed.issues.map Issue.diagnostic) := by
  unfold parseOpened Session.parseOpened
  cases opened.content with
  | error message =>
    refine (ends_report _ l).finish ?_
    exact ends_pure none l
  | ok document => exact parse_ends nodesLimit opened.uri document l

/-- **Compiling.** One more schema is under way until it has ended. -/
theorem compile_follows (hl : live.Follows limit (k + 1) load) (nodesLimit : Nat) (opened : Opened)
    (expected : Option SchemaIdentifier) (hd : l.depth = k) (hu : l.underWay = k)
    (hk : k + 1 ≤ limit) (hp : l.peak ≤ limit) :
    let o := l.session.compileWith { nodesLimit } load opened expected
    (compile nodesLimit live opened expected).Follows limit l o.value o.state o.issues := by
  intro o
  have hentered : l.enter.peak ≤ limit := by
    simp only [Loader.enter, hu]
    exact Nat.max_le.mpr ⟨hp, hk⟩
  -- Inside, `k + 1` schemas are under way, while the level is still `k`.
  have hunder : l.enter.underWay = k + 1 := congrArg (· + 1) hu
  have hopened : (compileOpened nodesLimit live opened expected).Follows limit l.enter o.value o.state
      o.issues := by
    have hparse := Follows.of_ends hentered (parseOpened_ends nodesLimit opened l.enter)
    unfold o compileOpened Session.compileWith
    dsimp only at hparse ⊢
    cases hv : (Session.parseOpened { nodesLimit } opened).value with
    | none =>
      rw [hv] at hparse
      exact hparse.result rfl
    | some tree =>
      rw [hv] at hparse
      exact hparse.bind fun peak hpeak =>
        compileParsed_follows hl expected tree (l := { l.enter with peak }) hd hunder hpeak
  obtain ⟨peak, hpeak, hrun⟩ := hopened
  refine ⟨peak, hpeak, ?_⟩
  unfold compile
  refine (ends_change Loader.enter l).then ?_
  refine hrun.finish ?_
  refine (ends_change Loader.leave _).then ?_
  exact ends_pure o.value _

/-! ### Loading -/

section Operations

variable (source : Source) (nodesLimit maxImportDepth : Nat)

theorem fetch_follows (hl : live.Follows limit (k + 1) load) (target : SchemaIdentifier)
    (hd : l.depth = k) (hu : l.underWay = k) (hk : k + 1 ≤ limit) (hp : l.peak ≤ limit) :
    let o := l.session.fetchWith (source.environment nodesLimit maxImportDepth) load target k
    (fetch source nodesLimit live target).Follows limit l o.value o.state o.issues := by
  have hrecord : (change fun l => changeSession (·.recordOpening target l.underWay) l).Follows limit l
      () (l.session.recordOpening target k) [] := ⟨l.peak, hp, hu ▸ ends_change _ l⟩
  unfold fetch Session.fetchWith
  refine hrecord.then fun peak hpeak => ?_
  dsimp only [Source.environment]
  cases source target with
  | error e => exact follows_pure _ hpeak
  | ok opened =>
    exact (compile_follows hl nodesLimit opened (some target) (l := ⟨_, _, _, peak⟩) hd hu hk
      hpeak).result rfl

/-- **Loading an import** that is `k` levels down. As many levels are left as the limit allows below
those, and the fuel is used up by the levels alone. -/
theorem load_follows (fuel k : Nat) (hk : k ≤ maxImportDepth + 1)
    (hfuel : maxImportDepth + 1 < fuel + k) :
    Loading.Follows (maxImportDepth + 1) k (Task.load source nodesLimit maxImportDepth fuel)
      (Session.load (source.environment nodesLimit maxImportDepth) (maxImportDepth + 1 - k)) := by
  induction fuel generalizing k with
  | zero => omega
  | succ fuel ih =>
    intro requester target l hd hu hp
    unfold Task.load
    refine (follows_read hp).then fun peak hpeak => ?_
    by_cases hlimit : maxImportDepth < l.depth
    · -- No level is left: what is cached is found, and all else is refused.
      have hlevels : maxImportDepth + 1 - k = 0 := by omega
      rw [hlevels, Session.load]
      cases l.session.cached? target with
      | some schema => exact follows_pure _ hpeak
      | none =>
        simp only [hlimit, ↓reduceIte]
        exact follows_pure _ hpeak
    · have hlevels : maxImportDepth + 1 - k = maxImportDepth - k + 1 := by omega
      -- The next level takes one unit of fuel and one of the levels that are left.
      have hbelow := ih (k + 1) (by omega) (by omega)
      have hlevel : maxImportDepth - (maxImportDepth - k) = k := by omega
      rw [Nat.add_sub_add_right] at hbelow
      rw [hlevels, Session.load]
      cases l.session.cached? target with
      | some schema => exact follows_pure _ hpeak
      | none =>
        simp only [hlimit, ↓reduceIte]
        cases l.session.graph.addEdge? requester target with
        | error path => exact follows_pure _ hpeak
        | ok graph =>
          refine (follows_change (fun s => { s with graph }) hpeak).then fun peak hpeak => ?_
          have hrun := fetch_follows source nodesLimit maxImportDepth hbelow target
            (l := ⟨{ l.session with graph }, l.depth, l.underWay, peak⟩) hd hu (by omega) hpeak
          simp only [Source.environment, hlevel] at hrun ⊢
          exact hrun

/-! ### Operations -/

variable {fuel peak : Nat} (hfuel : maxImportDepth + 1 < fuel) (hpeak : peak ≤ maxImportDepth + 1)
  (s : Session)
include hfuel hpeak

theorem loadAtRoot_follows (requester target : SchemaIdentifier) :
    let o := Session.loadImport (source.environment nodesLimit maxImportDepth) requester target s
    (Task.load source nodesLimit maxImportDepth fuel requester target).Follows (maxImportDepth + 1)
      (.idle s peak) o.value o.state o.issues :=
  load_follows source nodesLimit maxImportDepth fuel 0 (Nat.zero_le _) hfuel requester target
    (.idle s peak) rfl rfl hpeak

theorem loadRoot_follows (target : SchemaIdentifier) :
    let o := s.loadRoot (source.environment nodesLimit maxImportDepth) target
    (Task.loadRoot source nodesLimit maxImportDepth fuel target).Follows (maxImportDepth + 1)
      (.idle s peak) o.value o.state o.issues := by
  have hbelow := load_follows source nodesLimit maxImportDepth fuel 1 (by omega) (by omega)
  unfold Task.loadRoot Session.loadRoot
  refine (follows_read hpeak).then fun peak hpeak => ?_
  simp only [Loader.idle]
  cases s.cached? target with
  | some schema => exact follows_pure _ hpeak
  | none =>
    refine (follows_change (·.mention target) hpeak).then fun peak hpeak => ?_
    exact fetch_follows source nodesLimit maxImportDepth hbelow target (l := .idle _ peak) rfl rfl
      (by omega) hpeak

theorem compileDocument_follows (uri : String) (document : Text.Octets) :
    let o := s.compileDocument (source.environment nodesLimit maxImportDepth) uri document
    (Task.compileDocument source nodesLimit maxImportDepth fuel uri document).Follows
      (maxImportDepth + 1) (.idle s peak) o.value o.state o.issues := by
  have hbelow := load_follows source nodesLimit maxImportDepth fuel 1 (by omega) (by omega)
  intro o
  -- The compilation is named as a whole: if it ends in a defect, that is reported after it.
  obtain ⟨c, hc⟩ : ∃ c, c = s.compileWith { nodesLimit }
      (Session.load (source.environment nodesLimit maxImportDepth) maxImportDepth)
      ⟨uri, .ok document⟩ none := ⟨_, rfl⟩
  have hcompile : (compile nodesLimit (load source nodesLimit maxImportDepth fuel) ⟨uri, .ok document⟩
      none).Follows (maxImportDepth + 1) (.idle s peak) c.value c.state c.issues :=
    hc ▸ compile_follows hbelow nodesLimit ⟨uri, .ok document⟩ none (l := .idle s peak) rfl rfl
      (by omega) hpeak
  have ho : o = match c.value with
      | .ok schema => ⟨c.state, schema, c.issues⟩
      | .error d => ⟨c.state, none, c.issues ++ [.defect d]⟩ := hc ▸ rfl
  rw [ho]
  cases hv : c.value with
  | ok schema =>
    rw [hv] at hcompile
    exact hcompile.result rfl
  | error d =>
    rw [hv] at hcompile
    exact hcompile.bind fun peak hpeak => (follows_report (.defect d) hpeak).result rfl

theorem typeTree_follows (t : Tree .bound) :
    let o := s.typeTree (source.environment nodesLimit maxImportDepth) t
    (Task.typeTree source nodesLimit maxImportDepth fuel t).Follows (maxImportDepth + 1)
      (.idle s peak) o.value o.state o.issues :=
  typeWith_follows (load_follows source nodesLimit maxImportDepth fuel 0 (Nat.zero_le _) hfuel) t rfl
    rfl hpeak

end Operations

end Task

end MetaSchema
