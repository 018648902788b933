import MetaSchema.Proofs.Binding.Bound
import MetaSchema.Proofs.Session.Typing
import MetaSchema.Proofs.Syntax.Grammar

/-!
# A compiled schema is well formed

* `Compiled.wellFormed`: the schema of a bound tree has no import of its own name, declares nothing
  twice, and has no cycle of bases.
* `Compiled.mem_references`: its references are those of the tree.
-/

namespace MetaSchema.Tree

variable {t : Tree .parsed} {b : Tree .bound} {s : Schema}

theorem BoundTo.mem_references (hb : t.BoundTo b) {r : BoundReference} (hr : r ∈ b.references) :
    (∃ p, r = .primitive p) ∨
    (∃ name, r = .own ⟨b.name, name⟩ ∧ name ∈ b.types.map TypeNode.name) ∨
    ∃ n ∈ b.imports, ∃ name, r = .imported n.data name := by
  rcases List.mem_append.mp hr with hr | hr
  · obtain ⟨n, hn, rfl⟩ := List.mem_map.mp hr
    exact hb.referred (hb.refers_base hn)
  · obtain ⟨n, hn, rfl⟩ := List.mem_map.mp hr
    exact hb.referred (hb.refers_reference hn)

/-- Binding keeps the cardinalities. -/
theorem BoundTo.tokened (hb : t.BoundTo b) (ht : t.Tokened) : b.Tokened := by
  intro n hn
  obtain ⟨n', hn', h⟩ := forall₂_exists_left hb.attributes hn
  rw [(bindAttribute_eq_ok h).2.1]
  exact ht n' hn'

namespace Compiled

theorem name_eq (hb : t.BoundTo b) (hc : b.Compiled s) : s.identifier.name = b.name := by
  rw [hc.identifier_eq, hb.data_eq, hb.name_eq]
  rfl

theorem types_names (hc : b.Compiled s) :
    s.types.map TypeDeclaration.name = b.types.map TypeNode.name := by
  rw [hc.types_eq, List.map_map]
  rfl

theorem attributes_names (hc : b.Compiled s) :
    s.attributes.map AttributeDeclaration.name = b.attributes.map AttributeNode.name :=
  map_eq_of_forall₂ hc.attributes fun _ _ _ h => h.1

theorem declares (hc : b.Compiled s) {n : TypeName} :
    s.Declares n ↔ n ∈ b.types.map TypeNode.name := by
  rw [← hc.types_names]
  simp [Schema.Declares]

/-- The references of the schema are what those of the tree become. -/
theorem mem_references (hc : b.Compiled s) {r : TypeReference} (hr : r ∈ s.references) :
    ∃ br ∈ b.references, r = br.type := by
  rcases List.mem_append.mp hr with hr | hr
  · obtain ⟨d, hd, rfl⟩ := List.mem_map.mp hr
    rw [hc.types_eq] at hd
    obtain ⟨n, hn, rfl⟩ := List.mem_map.mp hd
    exact ⟨n.base.data, List.mem_append_left _ (List.mem_map.mpr ⟨n, hn, rfl⟩), rfl⟩
  · obtain ⟨d, hd, rfl⟩ := List.mem_map.mp hr
    obtain ⟨n, hn, -, htype, -⟩ := forall₂_exists_left hc.attributes hd
    exact ⟨n.reference.data, List.mem_append_right _ (List.mem_map.mpr ⟨n, hn, rfl⟩), htype⟩

/-- What a reference of the tree becomes is one of the schema. -/
theorem type_mem_references (hc : b.Compiled s) {br : BoundReference} (hr : br ∈ b.references) :
    br.type ∈ s.references := by
  rcases List.mem_append.mp hr with hr | hr
  · obtain ⟨n, hn, rfl⟩ := List.mem_map.mp hr
    refine List.mem_append_left _ (List.mem_map.mpr ⟨⟨n.name, n.base.data.type⟩, ?_, rfl⟩)
    rw [hc.types_eq]
    exact List.mem_map_of_mem hn
  · obtain ⟨n, hn, rfl⟩ := List.mem_map.mp hr
    obtain ⟨d, hd, -, htype, -⟩ := forall₂_exists_right hc.attributes hn
    exact List.mem_append_right _ (List.mem_map.mpr ⟨d, hd, htype⟩)

/-- A base of the schema within the schema is one of the parsed tree. -/
theorem ownBase (hb : t.BoundTo b) (hc : b.Compiled s) {m n : TypeName} (h : s.OwnBase m n) :
    t.OwnBase m n := by
  obtain ⟨d, hd, rfl, hbase⟩ := h
  rw [hc.types_eq] at hd
  obtain ⟨node, hnode, rfl⟩ := List.mem_map.mp hd
  have href := hb.referred (hb.refers_base hnode)
  rcases href with ⟨p, hp⟩ | ⟨name, hown, -⟩ | ⟨i, hi, name, himported⟩
  · rw [hp] at hbase
    cases hbase
  · have ho := hb.ownBase hnode hown
    simp only [hown, BoundReference.type, TypeReference.named.injEq, QualifiedName.mk.injEq] at hbase
    exact hbase.2 ▸ ho
  · -- A type of an import has the name of another schema.
    rw [himported, hc.name_eq hb] at hbase
    obtain ⟨htarget, hne⟩ := hb.mem_import hi
    simp only [BoundReference.type, TypeReference.named.injEq, QualifiedName.mk.injEq] at hbase
    exact (hne (htarget.symm.trans hbase.1)).elim

/-- **A compiled schema is well formed.** -/
theorem wellFormed (hb : t.BoundTo b) (hc : b.Compiled s) : s.WellFormed where
  imports_ne := by
    intro i hi
    rw [hc.imports_eq] at hi
    obtain ⟨n, hn, rfl⟩ := List.mem_map.mp hi
    obtain ⟨htarget, hne⟩ := hb.mem_import hn
    rwa [htarget, hc.name_eq hb]
  imports_nodup := by
    have hnames : s.imports.map SchemaIdentifier.name = b.imports.map ImportNode.target := by
      rw [hc.imports_eq, List.map_map]
      exact List.map_congr_left fun n hn => (hb.mem_import hn).1
    rw [hnames]
    exact b.declarations.imports_nodup
  types_nodup := by
    rw [hc.types_names]
    exact b.declarations.types_nodup
  attributes_nodup := by
    rw [hc.attributes_names]
    exact b.declarations.attributes_nodup
  bases_acyclic := by
    intro n hn
    exact not_transGen_ownBase hb.cycles_eq n (Relation.TransGen.mono (fun _ _ => hc.ownBase hb) _ _ hn)

end Compiled

end MetaSchema.Tree
