import MetaSchema.Proofs.Session.Loading

/-!
# The schema that a document denotes

Parsing, binding and typing each make a new list of declarations. Together they keep every
declaration of the document, in source order, and give every reference the meaning it has there.

* `WrittenReference.type`: what a written reference means in a schema of a name.
* `Tree.Denotes`: a schema has the declarations of a parsed tree and nothing else.
* `BoundTo.denotes`: what is compiled from the bound tree is what the parsed tree denotes.
* `denotes_of_compiled`: so it is whenever a session compiles a document, whichever operation leads to
  it.
-/

namespace MetaSchema

/-- What a reference means in a schema named `own`: without a qualifier, a type of that schema. -/
def WrittenReference.type (own : SchemaName) : WrittenReference → TypeReference
  | .primitive p => .primitive p
  | .named none name => .named ⟨own, name⟩
  | .named (some qualifier) name => .named ⟨qualifier, name⟩

/-- A token that is read as a cardinality is the token of that cardinality. -/
theorem Cardinality.token_of_ofToken? {token : String} {c : Cardinality}
    (h : ofToken? token = some c) : c.token = token := by
  unfold ofToken? at h
  split at h <;> cases h <;> rfl

namespace Tree

/-- `s` has the identifier and the declarations of `t`, each in source order, with every reference
qualified and the cardinalities that are written. -/
structure Denotes (t : Tree .parsed) (s : Schema) : Prop where
  identifier_eq : s.identifier = ⟨t.name, t.version⟩
  imports_eq : s.imports = t.imports.map fun n => ⟨n.target, n.version⟩
  types_eq : s.types = t.types.map fun n => ⟨n.name, n.base.written.type t.name⟩
  attributes_eq : s.attributes.map (fun d => (d.name, d.type, d.cardinality.token)) =
    t.attributes.map fun n => (n.name, n.reference.written.type t.name, n.cardinality)

variable {t : Tree .parsed} {b : Tree .bound} {s : Schema}

/-- Binding keeps the meaning of a reference. -/
theorem Refers.type_eq {w : WrittenReference} {r : BoundReference} (h : t.Refers w r) :
    r.type = w.type t.name := by
  rcases h with p | ⟨hq, -⟩ | ⟨hq, -⟩
  · rfl
  · rcases foreignQualifier?_eq_none.mp hq with rfl | rfl <;> rfl
  · obtain ⟨rfl, -⟩ := foreignQualifier?_eq_some.mp hq
    rfl

namespace BoundTo

theorem imports_eq (hb : t.BoundTo b) :
    b.imports.map (·.data) = t.imports.map fun n => ⟨n.target, n.version⟩ :=
  map_eq_of_forall₂ hb.imports fun _ _ _ h => (bindImport_eq_ok h).2.1

theorem types_eq (hb : t.BoundTo b) :
    b.types.map (fun n => (⟨n.name, n.base.data.type⟩ : TypeDeclaration)) =
      t.types.map fun n => ⟨n.name, n.base.written.type t.name⟩ := by
  refine map_eq_of_forall₂ hb.types fun n _ n' h => ?_
  obtain ⟨hname, hbase⟩ := bindType_eq_ok h
  rw [hname, (referent?_eq_ok (bindReference_eq_ok hbase).1).type_eq]

theorem attributes_eq (hb : t.BoundTo b) :
    b.attributes.map (fun n => (n.name, n.reference.data.type, n.cardinality)) =
      t.attributes.map fun n => (n.name, n.reference.written.type t.name, n.cardinality) := by
  refine map_eq_of_forall₂ hb.attributes fun n _ n' h => ?_
  obtain ⟨hname, hcardinality, hreference⟩ := bindAttribute_eq_ok h
  rw [hname, hcardinality, (referent?_eq_ok (bindReference_eq_ok hreference).1).type_eq]

/-- **The schema of a bound tree** is the one that its parsed tree denotes. -/
theorem denotes (hb : t.BoundTo b) (hc : b.Compiled s) : t.Denotes s where
  identifier_eq := hc.identifier_eq.trans hb.data_eq
  imports_eq := hc.imports_eq.trans hb.imports_eq
  types_eq := hc.types_eq.trans hb.types_eq
  attributes_eq := by
    rw [← hb.attributes_eq]
    refine map_eq_of_forall₂ hc.attributes fun n _ d h => ?_
    obtain ⟨hname, htype, hcardinality⟩ := h
    rw [hname, htype, Cardinality.token_of_ofToken? hcardinality]

end BoundTo

end Tree

namespace Session

variable {env : Environment} {load : Loading} {s : Session} {tree : Tree .parsed} {schema : Schema}
  {target : SchemaIdentifier} {opened : Opened}

theorem compileTree_denotes (h : (s.compileTree load tree).value = .ok (some schema)) :
    tree.Denotes schema := by
  have hc := compilesTree load tree s
  generalize s.compileTree load tree = o at hc h
  rcases hc with - | ⟨hb, ht⟩ | - | -
  · cases h
  · cases h
    exact (Tree.bind_eq_some hb).denotes (Tree.typeWith_eq_ok.mp ht).2.2
  · cases h
  · cases h

/-- A document that was opened for a schema is compiled only if it is a document of that schema. -/
theorem fetchWith_denotes {level : Nat} (hsource : env.source target = .ok opened)
    (hparse : (parseOpened env.parser opened).value = some tree)
    (h : (s.fetchWith env load target level).value = .ok schema) : tree.Denotes schema := by
  have hf := fetches env load target level s
  generalize s.fetchWith env load target level = o at hf h
  rcases hf with - | ⟨hserved, -, -, rfl⟩
  · cases h
  · obtain ⟨-, opened', hsource', hparse'⟩ := Environment.served?_eq_some hserved
    rw [hsource] at hsource'
    cases hsource'
    rw [hparse] at hparse'
    cases hparse'
    exact compileTree_denotes (loaded_eq_ok.mp h)

theorem load_denotes {levels : Nat} {requester : SchemaIdentifier}
    (hsource : env.source target = .ok opened)
    (hparse : (parseOpened env.parser opened).value = some tree) (hnew : s.cached? target = none)
    (h : (Session.load env levels requester target s).value = .ok schema) : tree.Denotes schema := by
  cases levels with
  | zero =>
    simp only [Session.load, hnew] at h
    cases h
  | succ levels =>
    simp only [Session.load, hnew] at h
    split at h
    · cases h
    · exact fetchWith_denotes hsource hparse h

theorem loadRoot_denotes (hsource : env.source target = .ok opened)
    (hparse : (parseOpened env.parser opened).value = some tree) (hnew : s.cached? target = none)
    (h : (s.loadRoot env target).value = .ok schema) : tree.Denotes schema := by
  simp only [loadRoot, hnew] at h
  exact fetchWith_denotes hsource hparse h

theorem compileDocument_denotes {uri : String} {document : Text.Octets}
    (hparse : (env.parser.parse uri document).value = some tree)
    (hnew : s.cached? tree.identifier = none)
    (h : (s.compileDocument env uri document).value = some schema) : tree.Denotes schema := by
  have hcompiled : (s.compileWith env.parser (Session.load env env.maxImportDepth)
      ⟨uri, .ok document⟩ none).value = .ok (some schema) := by
    unfold compileDocument at h
    simp only at h
    split at h
    · rename_i found hfound
      rw [hfound]
      exact congrArg Except.ok h
    · cases h
  have hnew : s.countCompilation.cached? tree.identifier = none := hnew
  simp only [compileWith, parseOpened, hparse, compileParsed, hnew] at hcompiled
  exact compileTree_denotes hcompiled

/-- **Compiling a document** whose schema is not cached yet gives the schema that the document denotes, in
every state of a session: as a document that the source does not provide, as a schema that nothing
imports, or as an import of another schema. -/
theorem denotes_of_compiled (env : Environment) (s : Session) (tree : Tree .parsed) (schema : Schema) :
    (∀ uri document, (env.parser.parse uri document).value = some tree →
      s.cached? tree.identifier = none → (s.compileDocument env uri document).value = some schema →
      tree.Denotes schema) ∧
    ∀ target opened, env.source target = .ok opened →
      (parseOpened env.parser opened).value = some tree → s.cached? target = none →
      ((s.loadRoot env target).value = .ok schema ∨
        ∃ levels requester, (Session.load env levels requester target s).value = .ok schema) →
      tree.Denotes schema := by
  refine ⟨fun uri document => compileDocument_denotes, fun target opened hsource hparse hnew h => ?_⟩
  rcases h with h | ⟨levels, requester, h⟩
  · exact loadRoot_denotes hsource hparse hnew h
  · exact load_denotes hsource hparse hnew h

theorem denotes_of_compiled_dublin :
    let env := Sample.source.environment 1000 1
    let document := Sample.octets Sample.dublinDocument
    ∃ tree schema, (env.parser.parse "memory:dublin" document).value = some tree ∧
      fresh.cached? tree.identifier = none ∧
      (fresh.compileDocument env "memory:dublin" document).value = some schema ∧
      env.source Sample.dublin = .ok ⟨"memory:dublin", .ok document⟩ ∧
      (fresh.loadRoot env Sample.dublin).value.toOption.isSome ∧ tree.Denotes schema ∧
      ∀ loaded, (fresh.loadRoot env Sample.dublin).value = .ok loaded → tree.Denotes loaded := by
  intro env document
  have hcompiled : (fresh.compileDocument env "memory:dublin" document).value.isSome = true := by
    decide +kernel
  have hloaded : (fresh.loadRoot env Sample.dublin).value.toOption.isSome = true := by
    decide +kernel
  have hsource : env.source Sample.dublin = .ok ⟨"memory:dublin", .ok document⟩ := rfl
  obtain ⟨tree, hparse, -⟩ := Option.map_eq_some_iff.mp Sample.parse_dublin
  obtain ⟨schema, hcompiled⟩ := Option.isSome_iff_exists.mp hcompiled
  refine ⟨tree, schema, hparse, rfl, hcompiled, hsource, hloaded,
    (denotes_of_compiled env fresh tree schema).1 _ _ hparse rfl hcompiled, fun loaded h => ?_⟩
  exact (denotes_of_compiled env fresh tree loaded).2 _ _ hsource hparse rfl (.inl h)

end Session

end MetaSchema
