import MetaSchema.Proofs.Issue.Explained
import MetaSchema.Proofs.Syntax.Grammar

/-!
# Parsing explains itself

* `requiredName_explained`, `version_explained`: what an element must have is read, or missed with an
  error.
* `schema_explained`: so a root element without errors has all that makes a tree.
* `parse_explained`: a document has no tree exactly if an error was reported for it.
-/

namespace MetaSchema

namespace Grammar

open Xml (Element)
open Reported (explained_pure explained_fail)

variable {uri : String} {e root : Element}

theorem required_explained (uri : String) (e : Element) (name : String) :
    (required uri e name).Explained := by
  unfold required
  split
  · exact explained_pure _
  · exact explained_fail rfl

theorem nameOf_explained (uri : String) (e : Element) (k : NameKind) (key value : String) :
    (nameOf uri e k key value).Explained := by
  unfold nameOf
  split
  · exact explained_pure _
  · exact explained_fail rfl

theorem requiredName_explained (uri : String) (e : Element) (k : NameKind) (key : String) :
    (requiredName uri e k key).Explained :=
  (required_explained uri e key).bind (fun value => nameOf_explained uri e k key value) rfl

theorem requiredNumber_explained (uri : String) (e : Element) (key : String) :
    (requiredNumber uri e key).Explained := by
  refine (required_explained uri e key).bind (fun value => ?_) rfl
  simp only
  split
  · exact explained_pure _
  · exact explained_fail rfl

theorem version_explained (uri : String) (e : Element) : (version uri e).Explained := by
  have hmajor := requiredNumber_explained uri e "versionMajor"
  have hminor := requiredNumber_explained uri e "versionMinor"
  unfold Reported.Explained at *
  simp only [version, Reported.value_bind, Reported.issues_bind, Reported.value_pure,
    Reported.issues_pure, List.append_nil, anyError_append, ← hmajor, ← hminor]
  cases (requiredNumber uri e "versionMajor").value <;>
    cases (requiredNumber uri e "versionMinor").value <;> simp

/-- Content without errors has a name and a version. -/
theorem content_complete (h : ¬ AnyError (content uri root).issues) :
    ∃ name version, (content uri root).value.name = some name ∧
      (content uri root).value.version = some version := by
  simp only [content, Reported.value_bind, Reported.issues_bind, Reported.value_pure,
    anyError_append, not_or] at h ⊢
  obtain ⟨-, hname, hversion, -⟩ := h
  obtain ⟨name, hname⟩ := (requiredName_explained uri root .schema "name").exists_some hname
  obtain ⟨version, hversion⟩ := (version_explained uri root).exists_some hversion
  exact ⟨name, version, hname, hversion⟩

theorem treeOf_explained (uri : String) (root : Element) {c : Content} {name : SchemaName} {version : Version}
    (hname : c.name = some name) (hversion : c.version = some version) :
    (treeOf uri root c).Explained := by
  simp only [treeOf, hname, hversion]
  split
  · exact explained_pure _
  · exact explained_fail rfl

/-- **The root element of a document.** -/
theorem schema_explained (uri : String) (root : Element) : (schema uri root).Explained := by
  unfold schema
  split
  · simp only
    split
    · rename_i herrors
      simpa [Reported.Explained] using hasErrors_eq_true.mp herrors
    · rename_i herrors
      rw [hasErrors_eq_true] at herrors
      obtain ⟨name, version, hname, hversion⟩ := content_complete herrors
      have htree := treeOf_explained uri root hname hversion
      unfold Reported.Explained at htree ⊢
      rw [Reported.value_bind, Reported.issues_bind, anyError_append, htree]
      simp [herrors]
  · exact explained_fail rfl

end Grammar

/-- **Parsing a document** in version 1 of the language, or in none. -/
theorem Parser.parse_explained {p : Parser} (hp : ∀ l ∈ p.languages, l = .version1) (uri : String)
    (document : Text.Octets) : (p.parse uri document).Explained := by
  unfold parse
  split
  · exact Reported.explained_fail rfl
  · split
    · rename_i language hl
      obtain rfl := hp language (List.mem_of_find?_eq_some hl)
      exact Grammar.schema_explained _ _
    · exact Reported.explained_fail rfl

end MetaSchema
