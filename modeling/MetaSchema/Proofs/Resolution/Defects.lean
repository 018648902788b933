import MetaSchema.Proofs.Resolution.Session
import MetaSchema.Proofs.Session.Defects

/-!
# Internal defects are out of reach

A resolution adds no defect to those of the schemas that it loads. So neither compiling nor loading nor
resolving ever meets a state that the program holds to be impossible, whatever the documents are.

* `Session.find_traced`: the defects of finding a schema are those of loading it.
* `Walk.Traced`: what was reported in a walk is traced; every step keeps this.
* `Session.ofSchemas?_of_walk`: what a walk has found always makes a set.
* `Session.critical_caused`: every critical issue of a session has one of two causes in its input.
-/

namespace MetaSchema

open Session

variable {env : Environment} {s : Session}

namespace Session

theorem find_traced (henv : env.parser.languages = [.version1]) (target : SchemaIdentifier)
    (hs : s.Valid) :
    (∀ d, (find env target s).value = .error (.internal d) →
      d.Caused env env.Serves (find env target s).state) ∧
    Traced env env.Serves (find env target s).state (find env target s).issues := by
  have hload := loadRoot_traced henv target hs
  refine ⟨fun d h => hload.value d ?_, hload.issues⟩
  simp only [find] at h
  cases hv : (s.loadRoot env target).value with
  | ok schema => simp [hv, Except.mapError] at h
  | error e =>
    simp only [hv, Except.mapError, Except.error.injEq] at h
    unfold ResolveError.ofLoad at h
    split at h <;> cases h
    rfl

end Session

namespace Walk

variable {roots : List SchemaIdentifier} {w w' : Walk Session}

/-- What was reported in a walk over a valid session is traced. -/
structure Traced (env : Environment) (w : Walk Session) : Prop where
  valid : w.directory.Valid
  issues : MetaSchema.Traced env env.Serves w.directory w.issues

/-- Only what is looked for can be a defect: a schema is refused for what its requester requires. -/
theorem Step.traced (henv : env.parser.languages = [.version1])
    (h : Step (Session.directory env) roots w w') (hw : w.Traced env) : w'.Traced env := by
  rcases h with ⟨-, he⟩ | ⟨-, he, -⟩ | ⟨-, he, -⟩
  · refine ⟨hw.valid, traced_append.mpr ⟨hw.issues, traced_singleton.mpr fun d hd => ?_⟩⟩
    rw [ResolveError.defect?_eq_some hd] at he
    -- A conflict and a circle are not defects.
    rcases enter_eq_error he with ⟨_, -, -, h⟩ | ⟨_, _, -, -, h⟩ <;> cases h
  · obtain ⟨-, g, rfl, -⟩ := enter_eq_ok he
    exact ⟨hw.valid, hw.issues⟩
  · rename_i id _
    obtain ⟨-, g, rfl, -⟩ := enter_eq_ok he
    have hadvances := find_advances env id hw.valid
    obtain ⟨hvalue, hissues⟩ := find_traced henv id hw.valid
    have hissues := traced_append.mpr ⟨hw.issues.mono (fun _ h => h) hadvances.grows, hissues⟩
    have hl := looks (Session.directory env) { w with graph := g } id
    generalize look (Session.directory env) { w with graph := g } id = o at hl
    cases hl with
    | missing hf =>
      refine ⟨hadvances.valid, traced_append.mpr ⟨hissues, traced_singleton.mpr fun d hd => ?_⟩⟩
      rw [ResolveError.defect?_eq_some hd] at hf
      exact hvalue d hf
    | found hf => exact ⟨hadvances.valid, hissues⟩

theorem walk_traced (henv : env.parser.languages = [.version1]) (table : ImportTable)
    (hs : s.Valid) :
    ((Session.directory env).walk table s).Traced env :=
  (walk_steps (Session.directory env) table s).keeps (fun _ _ h hw => h.traced henv hw)
    ⟨hs, faultless_nil.traced⟩

end Walk

namespace Session

/-- What was found has different names, and no schema that is cached declares a type twice. -/
theorem ofSchemas?_of_walk (env : Environment) (table : ImportTable) (hs : s.Valid) :
    ∃ set, ResolvedSet.ofSchemas? ((directory env).walk table s).graph
      (((directory env).walk table s).found.map Prod.snd) = .ok set := by
  have hw := Walk.walk_invariant (lawful env) table hs
  refine ⟨_, ResolvedSet.ofSchemas?_eq_ok.mpr ⟨hw.found_names (lawful env), fun schema h => ?_, rfl⟩⟩
  obtain ⟨e, he, rfl⟩ := List.mem_map.mp h
  exact (hw.valid.cache.wellFormed _ _ (hw.held e he)).types_nodup

theorem resolve_traced (henv : env.parser.languages = [.version1]) (table : ImportTable)
    (hs : s.Valid) :
    Traced env env.Serves ((directory env).resolve table s).state
      ((directory env).resolve table s).issues := by
  have hw := (Walk.walk_traced henv table hs).issues
  obtain ⟨set, hset⟩ := ofSchemas?_of_walk env table hs
  unfold Directory.resolve
  simp only
  split
  · exact hw
  · rw [hset]
    exact hw

/-- **Internal defects are out of reach.** In every session, whatever was asked of it before, each critical
issue that loading, compiling a document, finding or resolving reports, and each defect that they give back,
comes from a source that gives the document of another schema, or from a reference to a type of another
schema that the schema cached for its import does not declare. So a defect is never of the schema's own
types, and none of the other defects occurs. -/
theorem critical_caused (source : Source) (nodesLimit maxImportDepth : Nat) (ops : List Operation) :
    let env := source.environment nodesLimit maxImportDepth
    let s := run env ops
    (∀ requester target, LoadTraced env (loadImport env requester target s)) ∧
    (∀ target, LoadTraced env (s.loadRoot env target)) ∧
    (∀ uri document,
      Traced env (fun tree => env.Serves tree ∨ (env.parser.parse uri document).value = some tree)
        (s.compileDocument env uri document).state (s.compileDocument env uri document).issues) ∧
    (∀ target,
      (∀ d, (find env target s).value = .error (.internal d) →
        d.Caused env env.Serves (find env target s).state) ∧
      Traced env env.Serves (find env target s).state (find env target s).issues) ∧
    (∀ table, Traced env env.Serves ((directory env).resolve table s).state
      ((directory env).resolve table s).issues) ∧
    ∀ compiled s' (d : Defect), d.Caused env compiled s' →
      (∃ expected found, d = .identifierMismatch expected found) ∨
      ∃ id reference, d = .unresolvedReference id reference ∧
        ∀ q name, reference = toString (WrittenReference.named q name) →
          ∃ other, q = some other ∧ other ≠ id.name := by
  intro env s
  have henv : env.parser.languages = [.version1] := rfl
  have hs : s.Valid := run_valid env ops
  refine ⟨fun requester target => load_traced henv _ requester target s hs,
    fun target => loadRoot_traced henv target hs,
    fun uri document => compileDocument_traced henv uri document hs,
    fun target => find_traced henv target hs, fun table => resolve_traced henv table hs, ?_⟩
  intro compiled s' d h
  cases hd : d with
  | identifierMismatch expected found => exact .inl ⟨expected, found, rfl⟩
  | unresolvedReference id reference =>
    refine .inr ⟨id, reference, rfl, ?_⟩
    rintro q name rfl
    exact (hd ▸ h).foreign
  | _ =>
    subst hd
    cases h

/-- Both causes occur. -/
example :
    let mixed : Source := fun _ => .ok ⟨"memory:dublin", .ok (Sample.octets Sample.dublinDocument)⟩
    ((directory (mixed.environment 1000 1)).resolve ⟨[(Sample.core.name, Sample.core)]⟩ fresh).issues =
      [.resolve (.internal (.identifierMismatch Sample.core Sample.dublin))] := by
  decide +kernel

example :
    let type := ["<Type name=\"Title\">", "<TypeReferenceNamed", " schema=\"Core\"", " name=\"Lost\"/>",
      "</Type>"]
    let document := Sample.octets (Sample.document "Dublin" (Sample.importOf "Core" ++ type))
    (fresh.compileDocument (Sample.source.environment 1000 1) "memory:dublin" document).issues =
      [.defect (.unresolvedReference Sample.dublin "Core.Lost")] := by
  decide +kernel

end Session

end MetaSchema
