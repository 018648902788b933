import MetaSchema.Command.Files
import MetaSchema.Proofs.Name.ReadBack

/-!
# The paths of schemas

* `IsFileName`: a text that names one entry of a directory, and nothing above it or below it.
* `SchemaIdentifier.isFileName_fileName`: the file of a schema has such a name, since names of schemas
  begin with a letter, and no separator is among their characters.
* `FileTree.place`, `FileTree.entry?_place`: where a path leads, and what is opened there.
* `FileTree.place_join`: a path that is joined from a directory and such a name leads to an entry of the
  directory.
* `SchemaIdentifier.fileName_exact`: **the files of schemas** differ, and lie directly in their directory.
-/

namespace MetaSchema

/-- One part of a path, which neither goes up nor stays, nor is hidden. -/
structure IsFileName (name : String) : Prop where
  ne_empty : name ≠ ""
  ne_self : name ≠ "."
  ne_parent : name ≠ ".."
  not_hidden : name.toList.head? ≠ some '.'
  slash_notMem : '/' ∉ name.toList
  backslash_notMem : '\\' ∉ name.toList
  nul_notMem : '\x00' ∉ name.toList

/-! ## The names of files -/

/-- The name of a schema begins with a letter. -/
theorem SchemaName.exists_head (n : SchemaName) :
    ∃ c r, n.text.toList = c :: r ∧ c.isAlpha = true := by
  have hformed : (n.text.toList.splitOn '.').all isLocalName = true := n.formed
  cases htext : n.text.toList with
  | nil =>
    rw [htext] at hformed
    cases hformed
  | cons c r =>
    refine ⟨c, r, rfl, ?_⟩
    obtain ⟨first, rest, hr⟩ : ∃ first rest, r.splitOn '.' = first :: rest :=
      List.exists_cons_of_ne_nil (List.splitOn_ne_nil '.' r)
    rw [htext, List.splitOn_cons_eq_if_modifyHead, hr] at hformed
    split at hformed
    · cases hformed
    · rw [List.modifyHead_cons, List.all_cons, Bool.and_eq_true] at hformed
      exact (Bool.and_eq_true_iff.mp hformed.1).1

namespace SchemaIdentifier

variable (id : SchemaIdentifier)

theorem toList_fileName :
    id.fileName.toList = id.name.text.toList ++ '-' :: id.version.toChars ++ ".xml".toList :=
  String.toList_ofList

theorem isNamePart_of_mem_fileName {c : Char} (h : c ∈ id.fileName.toList) :
    c = '.' ∨ c = '-' ∨ isNamePart c = true := by
  rw [toList_fileName, List.mem_append, List.mem_append, List.mem_cons] at h
  rcases h with (h | rfl | h) | h
  · exact (id.name.isNamePart_of_mem h).imp_right .inr
  · exact .inr (.inl rfl)
  · refine (id.version.isDigit_of_mem h).imp_right fun hdigit => .inr ?_
    simp [isNamePart, Char.isAlphanum, hdigit]
  · have hending : ".xml".toList.all (fun c => c = '.' ∨ isNamePart c = true) = true := by decide
    exact (of_decide_eq_true (List.all_eq_true.mp hending c h)).imp_right .inr

theorem isFileName_fileName : IsFileName id.fileName := by
  obtain ⟨c, r, hname, hc⟩ := id.name.exists_head
  have hhead : id.fileName.toList.head? = some c := by
    rw [toList_fileName, hname]
    rfl
  have hne : ∀ name : String, name.toList.head? ≠ some c → id.fileName ≠ name := by
    rintro name h rfl
    exact h hhead
  have hpoint : c ≠ '.' := by
    rintro rfl
    cases hc
  exact {
    ne_empty := hne _ nofun
    ne_self := hne _ fun h => hpoint (Option.some.inj h).symm
    ne_parent := hne _ fun h => hpoint (Option.some.inj h).symm
    not_hidden := fun h => hpoint (Option.some.inj (hhead.symm.trans h))
    slash_notMem := fun h => absurd (id.isNamePart_of_mem_fileName h) (by decide)
    backslash_notMem := fun h => absurd (id.isNamePart_of_mem_fileName h) (by decide)
    nul_notMem := fun h => absurd (id.isNamePart_of_mem_fileName h) (by decide) }

end SchemaIdentifier

/-! ## Joining -/

theorem Location.step_of_isFileName {name : String} (h : IsFileName name) (place : Location) :
    place.step name = name :: place := by
  rw [step, if_neg (not_or.mpr ⟨h.ne_empty, h.ne_self⟩), if_neg h.ne_parent]

namespace FileTree

/-- The place that a path leads to. -/
def place (t : FileTree) (path : String) : Location :=
  (names path).foldl Location.step (t.start path)

theorem follow_eq_ok {t : FileTree} {names : List String} {place : Location} {entry : Entry}
    (h : t.follow place names = .ok entry) :
    t.entry? (names.foldl Location.step place) = some entry := by
  induction names generalizing place with
  | nil =>
    rw [follow] at h
    split at h
    · rename_i hentry
      cases h
      exact hentry
    · cases h
  | cons name rest ih =>
    rw [follow] at h
    split at h
    · cases h
    · cases h
    · split at h
      · cases h
      · exact ih h

/-- What is opened at a path is the entry at the place that the path leads to. -/
theorem entry?_place {t : FileTree} {path : String} {entry : Entry}
    (h : t.fileSystem path = .ok entry) : t.entry? (t.place path) = some entry := by
  unfold fileSystem at h
  split at h
  · cases h
  · split at h
    · cases h
    · exact follow_eq_ok h

theorem names_append_slash (dir name : String) :
    names (dir ++ "/" ++ name) = names dir ++ names name := by
  have hchars : (dir ++ "/" ++ name).toList = dir.toList ++ '/' :: name.toList := by
    simp
  rw [names, hchars, List.splitOn_append_cons_self, List.map_append]
  rfl

theorem names_of_isFileName {name : String} (h : IsFileName name) : names name = [name] := by
  rw [names, List.splitOn_eq_singleton h.slash_notMem, List.map_singleton, String.ofList_toList]

theorem startsWith_slash (path : String) :
    path.startsWith "/" = true ↔ path.toList.head? = some '/' := by
  rw [String.startsWith_string_iff]
  cases path.toList with
  | nil => decide
  | cons c r =>
    have hslash : "/".toList = ['/'] := rfl
    simp [hslash, eq_comm]

/-- A path starts where the directory does that it begins with. -/
theorem start_append (t : FileTree) {dir : String} (hdir : dir ≠ "") (rest : String) :
    t.start (dir ++ rest) = t.start dir := by
  have hhead : (dir ++ rest).toList.head? = dir.toList.head? := by
    rw [String.toList_append, List.head?_append_of_ne_nil _ (by simpa using hdir)]
  simp only [start, startsWith_slash, hhead]

theorem start_of_isFileName (t : FileTree) {name : String} (h : IsFileName name) :
    t.start name = t.start "" := by
  have hname : ¬ name.startsWith "/" = true := by
    rw [startsWith_slash]
    exact fun hhead => h.slash_notMem (List.mem_of_head? hhead)
  have hempty : ¬ "".startsWith "/" = true := by
    rw [startsWith_slash]
    exact nofun
  rw [start, start, if_neg hname, if_neg hempty]

theorem exists_append_slash {dir : String} (h : dir.endsWith "/" = true) :
    ∃ stem, dir = stem ++ "/" := by
  rw [← String.endsWith_toSlice, String.Slice.endsWith_string_iff, String.copy_toSlice] at h
  obtain ⟨stem, hstem⟩ := h
  exact ⟨String.ofList stem, by rw [← String.toList_inj, ← hstem]; simp⟩

/-- A separator at the end of a path leads nowhere else. -/
theorem place_append_slash (t : FileTree) (stem : String) :
    t.place (stem ++ "/") = (names stem).foldl Location.step (t.start (stem ++ "/")) := by
  have hnames : names (stem ++ "/") = names stem ++ [""] := by
    have h := names_append_slash stem ""
    rwa [String.append_empty] at h
  rw [place, hnames, List.foldl_append]
  rfl

/-- **Joining a directory and a name** leads to the entry of this name in the directory. -/
theorem place_join (t : FileTree) (dir : String) {name : String} (h : IsFileName name) :
    t.place (FileSystem.join dir name) = name :: t.place dir := by
  have hnames := names_of_isFileName h
  unfold FileSystem.join
  by_cases hempty : dir = ""
  · subst hempty
    rw [if_pos (.inl rfl), String.empty_append, place, hnames, t.start_of_isFileName h]
    exact Location.step_of_isFileName h _
  by_cases hslash : dir.endsWith "/" = true
  · rw [if_pos (.inr hslash), place, t.start_append hempty]
    obtain ⟨stem, rfl⟩ := exists_append_slash hslash
    rw [names_append_slash, hnames, List.foldl_append, place_append_slash]
    exact Location.step_of_isFileName h _
  · rw [if_neg (not_or.mpr ⟨hempty, hslash⟩), place, String.append_assoc, t.start_append hempty,
      ← String.append_assoc, names_append_slash, hnames, List.foldl_append]
    exact Location.step_of_isFileName h _

end FileTree

/-- **The files of schemas.** Two schemas have the same file just if they are the same. Each file has a
name that is one part of a path, so its path in a directory leads to an entry of that directory. -/
theorem SchemaIdentifier.fileName_exact :
    (∀ a b : SchemaIdentifier, a.fileName = b.fileName ↔ a = b) ∧
    ∀ a : SchemaIdentifier, IsFileName a.fileName ∧
      ∀ (t : FileTree) (dir : String),
        t.place (FileSystem.pathOf dir a) = a.fileName :: t.place dir :=
  ⟨fun _ _ => fileName_injective.eq_iff, fun a => ⟨a.isFileName_fileName, fun t dir =>
    t.place_join dir a.isFileName_fileName⟩⟩

end MetaSchema
