import Mathlib.Data.List.Nodup
import MetaSchema.Proofs.Running.Loading
import MetaSchema.Proofs.Session.Denoted

/-!
# Why typing fails

Typing a bound tree ends in one of three ways, for any mixture of imports that load and that do not.

* `attempts`: the loads of the imports of a tree, each with its outcome.
* `loadImports_attempts`: what the loop over the imports has gathered, in terms of them.
* `Tree.Dangling`, `Tree.Faulty`: a reference to what an import that was loaded does not declare, and
  what is wrong with a type or an attribute.
* `typedDeclarations?_first`: the defect of a tree is that of its first faulty declaration.
* `typing_classified`: the schema itself is in error if it has a faulty declaration; else only imports
  are if one failed; else there is a schema.
-/

namespace MetaSchema

/-! ## The loads of the imports -/

/-- An import and what loading it gave. -/
structure Attempt where
  node : ImportNode .bound
  outcome : Outcome Session (Except LoadError Schema)

namespace Attempt

/-- The import was loaded. -/
def Loaded (a : Attempt) (schema : Schema) : Prop := a.outcome.value = .ok schema

def Failed (a : Attempt) : Prop := ∃ e, a.outcome.value = .error e

theorem failed_of_isOk {a : Attempt} (h : a.outcome.value.isOk = false) : a.Failed := by
  unfold Failed
  cases hv : a.outcome.value with
  | error e => exact ⟨e, rfl⟩
  | ok schema =>
    rw [hv] at h
    cases h

/-- The entry of an import that was loaded. -/
def entry? (a : Attempt) : Option (SchemaName × Schema) :=
  a.outcome.value.toOption.map (a.node.data.name, ·)

theorem entry?_eq_some {a : Attempt} {name : SchemaName} {schema : Schema} :
    a.entry? = some (name, schema) ↔ a.node.data.name = name ∧ a.Loaded schema := by
  unfold entry? Loaded
  cases a.outcome.value <;> simp [Except.toOption]

/-- What was reported of the import. -/
def issues (a : Attempt) : List Issue := Task.importIssues a.node a.outcome

end Attempt

/-- The imports of the schema `owner`, loaded one after the other. -/
def attempts (load : Loading) (owner : SchemaIdentifier) : List (ImportNode .bound) → Session → List Attempt
  | [], _ => []
  | n :: ns, s =>
    ⟨n, load owner n.data s⟩ :: attempts load owner ns (load owner n.data s).state

section Imports

variable (load : Loading) (owner : SchemaIdentifier) (ns : List (ImportNode .bound)) (s : Session)

theorem nodes_attempts : (attempts load owner ns s).map Attempt.node = ns := by
  induction ns generalizing s with
  | nil => rfl
  | cons n ns ih => rw [attempts, List.map_cons, ih]

/-- Each failure, and nothing else, is what makes the imports failed. -/
theorem failed_attempts : (loadImports load owner ns s).failed = true ↔
    ∃ a ∈ attempts load owner ns s, a.Failed := by
  induction ns generalizing s with
  | nil => simp [loadImports, attempts]
  | cons n ns ih =>
    rw [attempts, List.exists_mem_cons_iff, ← ih, loadImports]
    dsimp only
    split
    · rename_i schema hv
      have hno : ¬ Attempt.Failed ⟨n, load owner n.data s⟩ := by
        rintro ⟨e, he⟩
        rw [hv] at he
        cases he
      exact (or_iff_right hno).symm
    · rename_i e hv
      exact iff_of_true rfl (.inl ⟨e, hv⟩)

theorem issues_attempts : (loadImports load owner ns s).issues =
    (attempts load owner ns s).flatMap Attempt.issues := by
  induction ns generalizing s with
  | nil => rfl
  | cons n ns ih =>
    rw [attempts, List.flatMap_cons, ← ih, loadImports]
    dsimp only
    split
    · rename_i schema hv
      simp only [Attempt.issues, Task.importIssues, hv, List.append_nil]
    · rename_i e hv
      simp only [Attempt.issues, Task.importIssues, hv]

theorem schemas_attempts : (loadImports load owner ns s).schemas =
    (attempts load owner ns s).filterMap Attempt.entry? := by
  induction ns generalizing s with
  | nil => rfl
  | cons n ns ih =>
    rw [attempts, loadImports]
    dsimp only
    split
    · rename_i schema hv
      have hentry : Attempt.entry? ⟨n, load owner n.data s⟩ = some (n.data.name, schema) :=
        Attempt.entry?_eq_some.mpr ⟨rfl, hv⟩
      rw [List.filterMap_cons_some hentry, ih]
    · rename_i e hv
      have hentry : Attempt.entry? ⟨n, load owner n.data s⟩ = none := by
        simp only [Attempt.entry?, hv, Except.toOption, Option.map_none]
      rw [List.filterMap_cons_none hentry, ih]

end Imports

namespace Tree

variable {t : Tree .parsed} {b : Tree .bound} {load : Loading} {s : Session}

/-! ## Faulty declarations -/

/-- A reference to a type that an import which was loaded does not declare. -/
def Dangling (as : List Attempt) (r : ReferenceNode .bound) : Prop :=
  ∃ a ∈ as, ∃ schema, a.Loaded schema ∧
    ∃ name, r.data = .imported a.node.data name ∧ ¬ schema.Declares name

/-- A cardinality that is none of the tokens. -/
def Unknown (cardinality : String) : Prop := ∀ c : Cardinality, c.token ≠ cardinality

/-- What is wrong with a type or an attribute. The cardinality is looked at before the reference. -/
inductive Faulty (b : Tree .bound) (as : List Attempt) : Declaration .bound → Defect → Prop
  | type {n : TypeNode .bound} (hr : Dangling as n.base) :
      Faulty b as (.type n) (.unresolvedReference b.data (toString n.base.written))
  | cardinality {n : AttributeNode .bound} (hc : Unknown n.cardinality) :
      Faulty b as (.attribute n) (.unknownCardinality n.data n.cardinality)
  | reference {n : AttributeNode .bound} (hc : ¬ Unknown n.cardinality)
      (hr : Dangling as n.reference) :
      Faulty b as (.attribute n) (.unresolvedReference b.data (toString n.reference.written))

/-- The types and then the attributes, each in source order. -/
def typed (b : Tree .bound) : List (Declaration .bound) :=
  b.types.map .type ++ b.attributes.map .attribute

/-- Some cardinality is unknown, or some reference names what an import that was loaded does not
declare. -/
def InError (b : Tree .bound) (as : List Attempt) : Prop :=
  (∃ n ∈ b.attributes, Unknown n.cardinality) ∨ ∃ r ∈ b.referenceNodes, Dangling as r

theorem ofToken?_eq_none {cardinality : String} :
    Cardinality.ofToken? cardinality = none ↔ Unknown cardinality := by
  constructor
  · rintro h c rfl
    rw [Cardinality.ofToken?_token] at h
    cases h
  · intro h
    cases hc : Cardinality.ofToken? cardinality with
    | none => rfl
    | some c => exact (h c (Cardinality.token_of_ofToken? hc)).elim

theorem exists_faulty_iff {as : List Attempt} :
    (∃ d ∈ b.typed, ∃ e, b.Faulty as d e) ↔ b.InError as := by
  constructor
  · rintro ⟨d, hd, e, h⟩
    rcases List.mem_append.mp hd with hd | hd
    · obtain ⟨n, hn, rfl⟩ := List.mem_map.mp hd
      cases h with
      | type hr => exact .inr ⟨_, List.mem_append_left _ (List.mem_map_of_mem hn), hr⟩
    · obtain ⟨n, hn, rfl⟩ := List.mem_map.mp hd
      cases h with
      | cardinality hc => exact .inl ⟨n, hn, hc⟩
      | reference _ hr => exact .inr ⟨_, List.mem_append_right _ (List.mem_map_of_mem hn), hr⟩
  · rintro (⟨n, hn, hc⟩ | ⟨r, hr, hdangling⟩)
    · exact ⟨_, List.mem_append_right _ (List.mem_map_of_mem hn), _, .cardinality hc⟩
    · rcases List.mem_append.mp hr with hr | hr
      · obtain ⟨n, hn, rfl⟩ := List.mem_map.mp hr
        exact ⟨_, List.mem_append_left _ (List.mem_map_of_mem hn), _, .type hdangling⟩
      · obtain ⟨n, hn, rfl⟩ := List.mem_map.mp hr
        refine ⟨_, List.mem_append_right _ (List.mem_map_of_mem hn), ?_⟩
        -- Even if the reference dangles, the cardinality of the attribute is looked at first.
        by_cases hc : Unknown n.cardinality
        · exact ⟨_, .cardinality hc⟩
        · exact ⟨_, .reference hc hdangling⟩

section Bound

variable (hb : t.BoundTo b)
include hb

/-- The imports of a tree have different names. -/
theorem BoundTo.names_nodup : (b.imports.map (·.data.name)).Nodup := by
  have hnames : b.imports.map (·.data.name) = b.imports.map ImportNode.target :=
    List.map_congr_left fun n hn => (hb.mem_import hn).1
  rw [hnames]
  exact b.declarations.imports_nodup

/-- An import that was loaded is found by its name. -/
theorem BoundTo.lookup_eq_some {name : SchemaName} {schema : Schema} :
    (loadImports load b.data b.imports s).schemas.lookup name = some schema ↔
      ∃ a ∈ attempts load b.data b.imports s, a.node.data.name = name ∧ a.Loaded schema := by
  have hnodes := nodes_attempts load b.data b.imports s
  rw [schemas_attempts]
  generalize attempts load b.data b.imports s = as at hnodes ⊢
  have hmem : (name, schema) ∈ as.filterMap Attempt.entry? ↔
      ∃ a ∈ as, a.node.data.name = name ∧ a.Loaded schema := by
    simp only [List.mem_filterMap, Attempt.entry?_eq_some]
  have hnodup : ((as.filterMap Attempt.entry?).map Prod.fst).Nodup := by
    have hnames := hb.names_nodup
    rw [← hnodes, List.map_map] at hnames
    refine List.pairwise_map.mpr (List.pairwise_filterMap.mpr ?_)
    refine (List.pairwise_map.mp hnames).imp fun hne e he e' he' heq => hne ?_
    have hfirst := (Attempt.entry?_eq_some.mp he).1
    have hlast := (Attempt.entry?_eq_some.mp he').1
    exact hfirst.trans (heq.trans hlast.symm)
  exact ⟨fun h => hmem.mp (mem_of_lookup h), fun h => lookup_of_nodup hnodup (hmem.mpr h)⟩

/-- In a bound tree, just the references to what an import that was loaded does not declare are
defects. -/
theorem BoundTo.reference_iff_dangling {r : ReferenceNode .bound} (hr : r ∈ b.referenceNodes)
    {d : Defect} :
    b.typedReference? (loadImports load b.data b.imports s).schemas r = .error d ↔
      d = .unresolvedReference b.data (toString r.written) ∧
        Dangling (attempts load b.data b.imports s) r := by
  have hnodes := nodes_attempts load b.data b.imports s
  rw [typedReference?_eq_error]
  refine and_congr_right fun _ => ?_
  simp only [hb.lookup_eq_some]
  generalize attempts load b.data b.imports s = as at hnodes ⊢
  constructor
  · rintro (⟨name, hdata, hno⟩ | ⟨i, name, schema, hdata, ⟨a, ha, hname, hloaded⟩, hno⟩)
    · -- Binding has found the types of the tree itself.
      have hreference := data_mem_references hr
      rw [hdata] at hreference
      rcases hb.mem_references hreference with ⟨_, h⟩ | ⟨_, h, hdeclared⟩ | ⟨_, _, _, h⟩ <;> cases h
      exact (hno hdeclared).elim
    · have hreference := data_mem_references hr
      rw [hdata] at hreference
      rcases hb.mem_references hreference with ⟨_, h⟩ | ⟨_, h, -⟩ | ⟨n, hn, _, h⟩ <;> cases h
      -- Two imports of one name are one: names of imports are declared once in a bound tree.
      have hnode : a.node ∈ b.imports := hnodes ▸ List.mem_map_of_mem ha
      have heq : a.node = n := List.inj_on_of_nodup_map hb.names_nodup hnode hn hname
      exact ⟨a, ha, schema, hloaded, name, heq ▸ hdata, hno⟩
  · rintro ⟨a, ha, schema, hloaded, name, hdata, hno⟩
    exact .inr ⟨_, name, schema, hdata, ⟨a, ha, rfl, hloaded⟩, hno⟩

/-- **The defect of a bound tree** is that of its first faulty declaration. -/
theorem BoundTo.typedDeclarations?_first {d : Defect} :
    b.typedDeclarations? (loadImports load b.data b.imports s).schemas = .error d ↔
      First (b.Faulty (attempts load b.data b.imports s)) b.typed d := by
  have htype : ∀ n ∈ b.types, ∀ d,
      b.typedType? (loadImports load b.data b.imports s).schemas n = .error d ↔
        b.Faulty (attempts load b.data b.imports s) (.type n) d := by
    intro n hn d
    rw [typedType?_eq_error,
      hb.reference_iff_dangling (List.mem_append_left _ (List.mem_map_of_mem hn))]
    constructor
    · rintro ⟨rfl, hr⟩
      exact .type hr
    · rintro ⟨hr⟩
      exact ⟨rfl, hr⟩
  have hattribute : ∀ n ∈ b.attributes, ∀ d,
      b.typedAttribute? (loadImports load b.data b.imports s).schemas n = .error d ↔
        b.Faulty (attempts load b.data b.imports s) (.attribute n) d := by
    intro n hn d
    rw [typedAttribute?_eq_error, ofToken?_eq_none, ← Option.ne_none_iff_exists', ne_eq,
      ofToken?_eq_none,
      hb.reference_iff_dangling (List.mem_append_right _ (List.mem_map_of_mem hn))]
    constructor
    · rintro (⟨hc, rfl⟩ | ⟨hc, rfl, hr⟩)
      · exact .cardinality hc
      · exact .reference hc hr
    · rintro (_ | hc | ⟨hc, hr⟩)
      · exact .inl ⟨hc, rfl⟩
      · exact .inr ⟨hc, rfl, hr⟩
  -- Types come first in `b.typed`, just as they are looked at first.
  rw [typedDeclarations?_eq_error, typed, first_append, first_map, first_map, first_congr htype,
    first_congr hattribute, List.forall_mem_map]
  exact or_congr_right (and_congr_left fun _ => forall₂_congr fun n hn =>
    forall_congr' fun d => not_congr (htype n hn d))

/-- If a declaration has no type although nothing is faulty, it depends on an import that failed. -/
theorem BoundTo.exists_failed
    (h : b.typedDeclarations? (loadImports load b.data b.imports s).schemas = .ok none) :
    ∃ a ∈ attempts load b.data b.imports s, a.Failed := by
  obtain ⟨i, name, hr, hlookup⟩ := typedDeclarations?_eq_none h
  rcases hb.mem_references hr with ⟨_, h⟩ | ⟨_, h, -⟩ | ⟨n, hn, _, h⟩ <;> cases h
  have hnodes := nodes_attempts load b.data b.imports s
  obtain ⟨a, ha, rfl⟩ := List.mem_map.mp (hnodes ▸ hn)
  refine ⟨a, ha, ?_⟩
  cases hv : a.outcome.value with
  | error e => exact ⟨e, hv⟩
  | ok schema =>
    rw [hb.lookup_eq_some.mpr ⟨a, ha, rfl, hv⟩] at hlookup
    cases hlookup

/-- A reference into an import that failed is not faulty: no other import has its name. -/
theorem BoundTo.not_dangling {a : Attempt} (ha : a ∈ attempts load b.data b.imports s)
    (hfailed : a.Failed) {r : ReferenceNode .bound} {name : TypeName}
    (hr : r.data = .imported a.node.data name) :
    ¬ Dangling (attempts load b.data b.imports s) r := by
  rintro ⟨a', ha', schema, hloaded, name', hr', -⟩
  obtain ⟨e, he⟩ := hfailed
  have hnames := hb.names_nodup
  rw [← nodes_attempts load b.data b.imports s, List.map_map] at hnames
  have hdata : a.node.data = a'.node.data := (BoundReference.imported.inj (hr.symm.trans hr')).1
  have heq : a = a' := List.inj_on_of_nodup_map hnames ha ha' (congrArg SchemaIdentifier.name hdata)
  rw [heq, hloaded] at he
  cases he

end Bound

/-! ## The three ways in which typing ends -/

/-- What typing a tree gives and reports, after these loads of its imports. -/
inductive TypingEnds (b : Tree .bound) (as : List Attempt) :
    Except TypingFailure Schema → List Issue → Prop
  | schema {d : Defect} (hfirst : First (b.Faulty as) b.typed d) :
      TypingEnds b as (.error .schema) (as.flatMap Attempt.issues ++ [.defect d])
  | imports (herror : ¬ b.InError as) (hfailed : ∃ a ∈ as, a.Failed) :
      TypingEnds b as (.error .imports) (as.flatMap Attempt.issues)
  | ok {schema : Schema} (herror : ¬ b.InError as) (hloaded : ¬ ∃ a ∈ as, a.Failed)
      (hc : b.Compiled schema) : TypingEnds b as (.ok schema) (as.flatMap Attempt.issues)

theorem BoundTo.typingEnds (hb : t.BoundTo b) (load : Loading) (s : Session) :
    b.TypingEnds (attempts load b.data b.imports s) (b.typeWith load s).value
      (b.typeWith load s).issues := by
  -- All that is needed of the loop over the imports is said of `as`; the loop is forgotten then.
  have hfirst : ∀ d, b.typedDeclarations? (loadImports load b.data b.imports s).schemas = .error d ↔
      First (b.Faulty (attempts load b.data b.imports s)) b.typed d :=
    fun _ => hb.typedDeclarations?_first
  have hnone : b.typedDeclarations? (loadImports load b.data b.imports s).schemas = .ok none →
      ∃ a ∈ attempts load b.data b.imports s, a.Failed := hb.exists_failed
  have hfailed := failed_attempts load b.data b.imports s
  have hissues := issues_attempts load b.data b.imports s
  unfold typeWith
  dsimp only
  generalize loadImports load b.data b.imports s = m at *
  generalize attempts load b.data b.imports s = as at *
  rw [hissues]
  cases hd : b.typedDeclarations? m.schemas with
  | error d => exact .schema ((hfirst d).mp hd)
  | ok declarations =>
    -- A faulty declaration would have been the defect, so there is none.
    have herror : ¬ b.InError as := by
      intro h
      obtain ⟨d, h⟩ := exists_first (exists_faulty_iff.mpr h)
      rw [(hfirst d).mpr h] at hd
      cases hd
    cases declarations with
    | none => exact .imports herror (hnone hd)
    | some declared =>
      dsimp only
      split
      · rename_i hf
        exact .imports herror (hfailed.mp hf)
      · rename_i hf
        exact .ok herror (mt hfailed.mpr hf) ((typedDeclarations?_iff rfl rfl).mp hd).2

namespace TypingEnds

variable {as : List Attempt} {value : Except TypingFailure Schema} {issues : List Issue}

theorem schema_iff (h : b.TypingEnds as value issues) : value = .error .schema ↔ b.InError as := by
  cases h with
  | schema hfirst =>
    obtain ⟨d, hd, hfaulty⟩ := hfirst.exists_mem
    exact iff_of_true rfl (exists_faulty_iff.mp ⟨d, hd, _, hfaulty⟩)
  | imports herror => exact iff_of_false nofun herror
  | ok herror => exact iff_of_false nofun herror

theorem imports_iff (h : b.TypingEnds as value issues) :
    value = .error .imports ↔ ¬ b.InError as ∧ ∃ a ∈ as, a.Failed := by
  have hschema := h.schema_iff
  cases h with
  | schema => exact iff_of_false nofun fun h => h.1 (hschema.mp rfl)
  | imports herror hfailed => exact iff_of_true rfl ⟨herror, hfailed⟩
  | ok _ hloaded => exact iff_of_false nofun fun h => hloaded h.2

theorem ok_iff (h : b.TypingEnds as value issues) :
    (∃ schema, value = .ok schema ∧ b.Compiled schema) ↔
      ¬ b.InError as ∧ ¬ ∃ a ∈ as, a.Failed := by
  have hschema := h.schema_iff
  cases h with
  | schema => exact iff_of_false nofun fun h => h.1 (hschema.mp rfl)
  | imports _ hfailed => exact iff_of_false nofun fun h => h.2 hfailed
  | ok herror hloaded hc => exact iff_of_true ⟨_, rfl, hc⟩ ⟨herror, hloaded⟩

end TypingEnds

/-- **Why typing fails.** Typing a tree that binding gave ends, whatever the source serves and the
session has loaded. The schema is in error just if a cardinality is unknown or a reference names
what an import that was loaded does not declare; one defect is reported then, after the issues of
the imports: that of the first such type or attribute. Otherwise only the imports are in error just
if one failed, and else there is a schema with all the declarations. A reference into an import that
failed is no defect. -/
theorem typing_classified (hb : t.bind.value = some b) (source : Source)
    (nodesLimit maxImportDepth fuel : Nat) (l : Loader) (hdepth : l.depth ≤ maxImportDepth + 1)
    (hunder : l.underWay = l.depth) (hpeak : l.peak ≤ maxImportDepth + 1)
    (hfuel : maxImportDepth + 1 < fuel + l.depth) :
    let load := Session.load (source.environment nodesLimit maxImportDepth)
      (maxImportDepth + 1 - l.depth)
    let as := attempts load b.data b.imports l.session
    ∃ value s issues, (Task.typeWith (Task.load source nodesLimit maxImportDepth fuel) b).Follows
        (maxImportDepth + 1) l value s issues ∧
      (value = .error .schema ↔ b.InError as) ∧
      (b.InError as → ∃ d, First (b.Faulty as) b.typed d ∧ d.diagnostic.severity = .critical ∧
        issues = as.flatMap Attempt.issues ++ [.defect d]) ∧
      (¬ b.InError as → issues = as.flatMap Attempt.issues) ∧
      (value = .error .imports ↔ ¬ b.InError as ∧ ∃ a ∈ as, a.Failed) ∧
      ((∃ schema, value = .ok schema ∧ b.Compiled schema) ↔
        ¬ b.InError as ∧ ¬ ∃ a ∈ as, a.Failed) ∧
      ∀ a ∈ as, a.Failed → ∀ r : ReferenceNode .bound, ∀ name,
        r.data = .imported a.node.data name → ¬ Dangling as r := by
  intro load as
  have hbound := bind_eq_some hb
  have hlive := Task.load_follows source nodesLimit maxImportDepth fuel l.depth hdepth hfuel
  have hrun := Task.typeWith_follows hlive b rfl hunder hpeak
  have hends := hbound.typingEnds load l.session
  refine ⟨_, _, _, hrun, hends.schema_iff, fun herror => ?_, fun herror => ?_, hends.imports_iff,
    hends.ok_iff, fun a ha hfailed r name hr => hbound.not_dangling ha hfailed hr⟩
  · -- An error of the schema itself: of the three endings only the first has that value.
    have hvalue := hends.schema_iff.mpr herror
    generalize (b.typeWith load l.session).value = value,
      (b.typeWith load l.session).issues = issues at hends hvalue ⊢
    cases hends with
    | schema hfirst => exact ⟨_, hfirst, rfl, rfl⟩
    | imports => cases hvalue
    | ok => cases hvalue
  · have hvalue := mt hends.schema_iff.mp herror
    generalize (b.typeWith load l.session).value = value,
      (b.typeWith load l.session).issues = issues at hends hvalue ⊢
    cases hends with
    | schema => exact (hvalue rfl).elim
    | imports => rfl
    | ok => rfl

end Tree

/-! ## A tree with a faulty attribute -/

namespace Sample

/-- A schema that is not served. -/
def lost : SchemaIdentifier := ⟨⟨"Lost", by decide, by decide⟩, ⟨1, 0⟩⟩

def titleType : TypeName := ⟨"Title", by decide, by decide⟩

def subjectAttribute : AttributeName := ⟨"subject", by decide, by decide⟩

/-- A tree of Dublin put together by hand: it has a type of the schema that is not served, and an
attribute whose cardinality is no token. -/
def stray : Tree .parsed where
  position := .zero
  data := ()
  name := dublin.name
  version := dublin.version
  declarations :=
    { items :=
        [.importing ⟨.zero, (), lost.name, lost.version⟩,
          .type ⟨.zero, (), titleType, ⟨.zero, (), .named (some lost.name) titleType⟩, none⟩,
          .attribute ⟨.zero, (), subjectAttribute, ⟨.zero, (), .named none titleType⟩, "2"⟩]
      imports_nodup := by decide
      types_nodup := by decide
      attributes_nodup := by decide }

/-- The same tree with its names bound. -/
def strayBound : Tree .bound where
  position := .zero
  data := dublin
  name := dublin.name
  version := dublin.version
  declarations :=
    { items :=
        [.importing ⟨.zero, lost, lost.name, lost.version⟩,
          .type ⟨.zero, ⟨dublin.name, titleType⟩, titleType,
            ⟨.zero, .imported lost titleType, .named (some lost.name) titleType⟩, none⟩,
          .attribute ⟨.zero, ⟨dublin.name, subjectAttribute⟩, subjectAttribute,
            ⟨.zero, .own ⟨dublin.name, titleType⟩, .named none titleType⟩, "2"⟩]
      imports_nodup := by decide
      types_nodup := by decide
      attributes_nodup := by decide }

theorem bind_stray : stray.bind.value = some strayBound := rfl

theorem unknown_two : Tree.Unknown "2" := by
  rintro (_ | _ | _ | _) <;> decide

theorem stray_inError (as : List Attempt) : strayBound.InError as :=
  .inl ⟨_, List.Mem.head _, unknown_two⟩

end Sample

open Sample in
/-- The reference into the import that failed is passed over, and the cardinality is reported. -/
theorem Tree.typing_classified_stray :
    stray.bind.value = some strayBound ∧ ∃ s issues,
      (Task.typeWith (Task.load (fun _ => .error .notFound) 1000 1 3) strayBound).Follows 2
        (.idle .fresh 0) (.error .schema) s
        (issues ++ [.defect (.unknownCardinality ⟨dublin.name, subjectAttribute⟩ "2")]) := by
  refine ⟨bind_stray, ?_⟩
  obtain ⟨value, s, issues, hrun, hschema, hfirst, -, -, -, hfailed⟩ :=
    typing_classified bind_stray (fun _ => .error .notFound) 1000 1 3 (.idle .fresh 0) (by decide)
      rfl (by decide) (by decide)
  obtain ⟨d, hd, -, rfl⟩ := hfirst (stray_inError _)
  rw [hschema.mpr (stray_inError _)] at hrun
  rcases hd with h | ⟨-, h | ⟨-, h⟩⟩
  · rcases h with ⟨hr⟩
    exact (hfailed _ List.mem_cons_self (Attempt.failed_of_isOk (by decide +kernel)) _ _ rfl hr).elim
  · rcases h with _ | _ | ⟨hc, -⟩
    · exact ⟨s, _, hrun⟩
    · exact (hc unknown_two).elim
  · cases h

end MetaSchema
