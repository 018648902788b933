import MetaSchema.Proofs.Resolution.Walk

/-!
# What a resolution asks for

* `Directory.recording`: a directory that also keeps a record of what it was asked for.
* `Walk.unrecorded`: a walk without the record. What a walk does is the same with it and without it.
* `Walk.Recorded`: the record has just what was visited, each schema once. Every step keeps this.
* `resolve_recording`: a resolution asks its directory for each schema at most once.
-/

namespace MetaSchema

variable {σ : Type}

/-- The same directory, with a record of what it was asked for, the last first. -/
def Directory.recording (d : Directory σ) : Directory (σ × List SchemaIdentifier) where
  find id s :=
    let found := d.find id s.1
    ⟨(found.state, id :: s.2), found.value, found.issues⟩
  size s := d.size s.1

namespace Walk

variable {d : Directory σ} {roots : List SchemaIdentifier} {w w' : Walk (σ × List SchemaIdentifier)}

def unrecorded (w : Walk (σ × List SchemaIdentifier)) : Walk σ :=
  { w with directory := w.directory.1 }

theorem enter_unrecorded (w : Walk (σ × List SchemaIdentifier)) (requiredBy : Option SchemaIdentifier)
    (id : SchemaIdentifier) :
    w.unrecorded.enter requiredBy id = (w.enter requiredBy id).map unrecorded :=
  enter_map unrecorded w rfl rfl (fun _ => rfl) requiredBy id

theorem look_unrecorded (d : Directory σ) (w : Walk (σ × List SchemaIdentifier))
    (id : SchemaIdentifier) : w.unrecorded.look d id =
      ((w.look d.recording id).1.unrecorded, (w.look d.recording id).2) := by
  simp only [look, Directory.recording, unrecorded]
  cases (d.find id w.directory.1).value <;> rfl

theorem visitWith_unrecorded {below : SchemaIdentifier → Walk σ → SchemaIdentifier → Walk σ}
    {recording : SchemaIdentifier → Walk (σ × List SchemaIdentifier) → SchemaIdentifier →
      Walk (σ × List SchemaIdentifier)}
    (hb : ∀ requester w i, below requester w.unrecorded i = (recording requester w i).unrecorded)
    (requiredBy : Option SchemaIdentifier) (w : Walk (σ × List SchemaIdentifier))
    (id : SchemaIdentifier) : visitWith d below requiredBy w.unrecorded id =
      (visitWith d.recording recording requiredBy w id).unrecorded := by
  unfold visitWith
  rw [enter_unrecorded]
  cases w.enter requiredBy id with
  | error e => rfl
  | ok w =>
    simp only [Except.map]
    have hvisited : w.unrecorded.visited = w.visited := rfl
    rw [hvisited, look_unrecorded]
    split
    · rfl
    · cases w.look d.recording id with
      | mk w' found =>
        cases found with
        | none => rfl
        | some schema => exact List.foldl_hom unrecorded fun w i => hb id w i

theorem visit_unrecorded (fuel : Nat) (requiredBy : Option SchemaIdentifier)
    (w : Walk (σ × List SchemaIdentifier)) (id : SchemaIdentifier) :
    visit d fuel requiredBy w.unrecorded id =
      (visit d.recording fuel requiredBy w id).unrecorded := by
  induction fuel generalizing requiredBy w id with
  | zero => exact visitWith_unrecorded (fun _ _ _ => rfl) requiredBy w id
  | succ fuel ih => exact visitWith_unrecorded (fun _ w i => ih _ w i) requiredBy w id

theorem visitRoot_unrecorded (w : Walk (σ × List SchemaIdentifier)) (id : SchemaIdentifier) :
    visitRoot d w.unrecorded id = (visitRoot d.recording w id).unrecorded :=
  visitWith_unrecorded
    (fun requester w i => visit_unrecorded (d.size w.directory.1) (some requester) w i) none w id

theorem walk_unrecorded (d : Directory σ) (table : ImportTable) (s : σ) :
    d.walk table s = (d.recording.walk table (s, [])).unrecorded := by
  show (table.entries.map Prod.snd).foldl (visitRoot d) (unrecorded (start (s, []))) = _
  exact List.foldl_hom unrecorded visitRoot_unrecorded

/-- The record has just what was visited, each schema once. -/
structure Recorded (w : Walk (σ × List SchemaIdentifier)) : Prop where
  record : w.directory.2 = w.visited
  nodup : w.visited.Nodup

/-- One step asks for a schema only if it visits it for the first time. -/
theorem Step.recorded (h : Step d.recording roots w w') (hw : w.Recorded) : w'.Recorded := by
  rcases h with ⟨-, -⟩ | ⟨-, he, -⟩ | ⟨-, he, hv⟩
  · exact ⟨hw.record, hw.nodup⟩
  · obtain ⟨-, g, rfl, -⟩ := enter_eq_ok he
    exact ⟨hw.record, hw.nodup⟩
  · rename_i id _
    obtain ⟨-, g, rfl, -⟩ := enter_eq_ok he
    refine ⟨?_, ?_⟩
    · rw [directory_look, visited_look]
      exact congrArg (id :: ·) hw.record
    · rw [visited_look]
      exact List.nodup_cons.mpr ⟨hv, hw.nodup⟩

theorem walk_recorded (d : Directory σ) (table : ImportTable) (s : σ) :
    (d.recording.walk table (s, [])).Recorded :=
  (walk_steps d.recording table (s, [])).keeps (fun _ _ h hw => h.recorded hw) ⟨rfl, .nil⟩

end Walk

/-- **A resolution asks for each schema at most once**, and for just those that it visits. -/
theorem Directory.resolve_recording (d : Directory σ) (table : ImportTable) (s : σ) :
    let o := d.recording.resolve table (s, [])
    d.resolve table s = ⟨o.state.1, o.value, o.issues⟩ ∧
      o.state.2 = (d.walk table s).visited ∧ o.state.2.Nodup := by
  intro o
  have hrecorded := Walk.walk_recorded d table s
  have hwalk := Walk.walk_unrecorded d table s
  have hstate : o.state = (d.recording.walk table (s, [])).directory := Walk.state_resolve _ table _
  have hvisited : o.state.2 = (d.walk table s).visited := by
    rw [hstate, hrecorded.record, hwalk]
    rfl
  refine ⟨?_, hvisited, hvisited ▸ hwalk ▸ hrecorded.nodup⟩
  simp only [o, resolve, hwalk, Walk.unrecorded]
  split
  · rfl
  · split <;> rfl

end MetaSchema
