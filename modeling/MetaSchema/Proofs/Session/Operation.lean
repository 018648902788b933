import MetaSchema.Proofs.Resolution.Walk
import MetaSchema.Proofs.Session.Loading

/-!
# Sessions after any operations

* `Session.Operation`: what can be asked of a session.
* `Session.after`, `Session.run`: the session after one operation, and after several from a fresh one.
* `after_advances`: an operation keeps a session valid and loses nothing, whether it succeeds or not.
* `run_sound`: whatever was asked of a session, its cache is sound.
-/

namespace MetaSchema.Session

/-- What can be asked of a session. -/
inductive Operation where
  /-- Load a schema (the second) as an import of another (the first). -/
  | load (requester target : SchemaIdentifier)
  | loadRoot (target : SchemaIdentifier)
  | compileDocument (uri : String) (document : Text.Octets)
  | typeTree (tree : Tree .bound)
  | find (target : SchemaIdentifier)
  | resolve (table : ImportTable)

/-- The session after an operation. -/
def after (env : Environment) (s : Session) : Operation → Session
  | .load requester target => (loadImport env requester target s).state
  | .loadRoot target => (s.loadRoot env target).state
  | .compileDocument uri document => (s.compileDocument env uri document).state
  | .typeTree tree => (s.typeTree env tree).state
  | .find target => (find env target s).state
  | .resolve table => ((directory env).resolve table s).state

/-- The session after operations that start with a fresh one. -/
def run (env : Environment) (ops : List Operation) : Session := ops.foldl (after env) fresh

/-- Finding a schema. -/
theorem find_advances (env : Environment) (target : SchemaIdentifier) {s : Session} (hs : s.Valid) :
    Advances (fun _ => False) s (find env target s).state :=
  loadRoot_advances env target hs

/-- Resolving a table finds schemas. -/
theorem resolve_advances (env : Environment) (table : ImportTable) {s : Session} (hs : s.Valid) :
    Advances (fun _ => False) s ((directory env).resolve table s).state := by
  refine Walk.resolve_keeps (p := Advances (fun _ => False) s) (fun id s' h => ?_) table (.refl hs)
  exact h.trans (find_advances env id h.valid)

/-- **One operation.** -/
theorem after_advances (env : Environment) (op : Operation) {s : Session} (hs : s.Valid) :
    Advances (fun _ => False) s (s.after env op) := by
  cases op with
  | load requester target =>
    exact (load_keeps env _ requester target s hs).1.mono fun _ h => h.elim
  | loadRoot target => exact loadRoot_advances env target hs
  | compileDocument uri document => exact compileDocument_advances env uri document hs
  | typeTree tree => exact typeTree_advances env tree hs
  | find target => exact find_advances env target hs
  | resolve table => exact resolve_advances env table hs

/-- Several operations one after the other. -/
theorem foldl_after_advances (env : Environment) (ops : List Operation) {s : Session}
    (hs : s.Valid) : Advances (fun _ => False) s (ops.foldl (after env) s) := by
  induction ops generalizing s with
  | nil => exact .refl hs
  | cons op ops ih =>
    have hop := after_advances env op hs
    exact hop.trans (ih hop.valid)

theorem run_valid (env : Environment) (ops : List Operation) : (run env ops).Valid :=
  (foldl_after_advances env ops valid_fresh).valid

/-- **The cache of a session is sound** after all operations, whether they succeeded or not: each
schema stands under its own identifier, is well formed, and finds its imports and the types that it
refers to among the cached schemas, and no cached schema leads back to itself. -/
theorem run_sound (env : Environment) (ops : List Operation) : (run env ops).Sound :=
  (run_valid env ops).cache

end MetaSchema.Session
