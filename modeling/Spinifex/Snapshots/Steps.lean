import Spinifex.Snapshots.Guard

/-!
# The steps of the requests

One lemma per kind of call: what it changes, and why the guard is kept.  The
calls that change nothing are `Quiet`; a program of quiet calls keeps whatever
lasts.
-/

namespace Spinifex.Snapshots

open Concurrency Go Function

variable {Index : Type} {index : Index} {before : Estate Index}

/-! ## Keeping the guard -/

variable {next : Phase Index}

/-- A new phase of a name that has no document yet. -/
theorem recorded_update {id name account : String}
    (unused : ∀ owner, phase id ≠ .recorded owner) (met : phase name = .recorded account) :
    update phase id next name = .recorded account := by
  rw [update_of_ne]
  · exact met
  · rintro rfl
    exact unused account met

/-- A new phase of a name that no other request has drawn. -/
theorem drafted_update {id name : String}
    (unused : phase id ≠ .drafted rival) (met : phase name = .drafted rival) :
    update phase id next name = .drafted rival := by
  rw [update_of_ne]
  · exact met
  · rintro rfl
    exact unused met

theorem Drafted.not_recorded {id : String} (own : Drafted index id before) (owner : String) :
    before.phase id ≠ .recorded owner := by
  intro met
  cases own.symm.trans met

theorem Drafted.not_drafted {id : String}
    (own : Drafted index id before) (different : rival ≠ index) :
    before.phase id ≠ .drafted rival := by
  intro met
  cases own.symm.trans met
  exact different rfl

/-- The snapshot a volume was created from stays recorded. -/
theorem source_mono {after : Estate Index}
    (recorded : ∀ name account, before.phase name = .recorded account →
      after.phase name = .recorded account)
    (source : snapshotID = "" ∨ ∃ account, before.phase snapshotID = .recorded account) :
    snapshotID = "" ∨ ∃ account, after.phase snapshotID = .recorded account := by
  rcases source with unset | ⟨account, met⟩
  · exact .inl unset
  · exact .inr ⟨account, recorded _ _ met⟩

section

variable {Document : Type} {documents : Key → Option Document} {home key : Key} {stored : Document}

/-- A stored document is the one that was put or was there before. -/
theorem stored_put (present : update documents home (some document) key = some stored) :
    (key = home ∧ stored = document) ∨ documents key = some stored := by
  by_cases same : key = home
  · rw [same, update_self] at present
    exact .inl ⟨same, (Option.some.inj present).symm⟩
  · rw [update_of_ne same] at present
    exact .inr present

/-- A document that is stored after a removal was there before. -/
theorem stored_remove (present : update documents home none key = some stored) :
    documents key = some stored := by
  by_cases same : key = home
  · simp [same, update_self] at present
  · rwa [update_of_ne same] at present

end

variable {volume : Volume}

/-- A document that is put keeps order if no volume with snapshots is overwritten. -/
theorem Consistent.putVolume (consistent : Consistent before)
    (recorded : ∀ name account, before.phase name = .recorded account →
      (before.putVolume volume).phase name = .recorded account)
    (source : volume.snapshotID = "" ∨ ∃ account, Recorded account volume.snapshotID before)
    (unbased : ∀ name snapshotID owner stored, snapshotID ∈ before.listed name →
      before.volumes ⟨owner, name⟩ = some stored → (⟨owner, name⟩ : Key) ≠ volume.home) :
    Consistent (before.putVolume volume) where
  volumeHome key stored present := by
    rcases stored_put present with ⟨rfl, rfl⟩ | earlier
    · rfl
    · exact consistent.volumeHome key stored earlier
  snapshotHome := consistent.snapshotHome
  volumeRecorded key stored present := by
    rcases stored_put present with ⟨rfl, -⟩ | earlier
    · exact update_self ..
    · exact recorded _ _ (consistent.volumeRecorded key stored earlier)
  snapshotRecorded key snapshot stored :=
    recorded _ _ (consistent.snapshotRecorded key snapshot stored)
  based name snapshotID member := by
    rcases consistent.based name snapshotID member with ⟨owner, stored, present, live⟩
    refine ⟨owner, stored, ?_, live⟩
    exact (update_of_ne (unbased _ _ _ _ member present) ..).trans present
  listed := consistent.listed
  cloned key stored present := by
    rcases stored_put present with ⟨-, rfl⟩ | earlier
    · exact source_mono recorded source
    · exact source_mono recorded (consistent.cloned key stored earlier)

variable [DecidableEq Index]

section

variable (consistent : Consistent before)

include consistent

/-- A step that only changes for which clones the request looks. -/
theorem keeps_setScan (clonesOf : Option String) :
    guard.Keeps index before (before.setScan index clonesOf) where
  evolves := { Evolves.refl before with }
  spares _ different := { Spares.refl _ before with scans := update_of_ne different .. }
  invariant := { consistent with }

/-- A change of the phases that forgets no document. -/
theorem keeps_draft {id : String}
    (fresh : before.phase id = .free) : guard.Keeps index before (before.draft id index) := by
  have recorded : ∀ name account, before.phase name = .recorded account →
      (before.draft id index).phase name = .recorded account := by
    intro name account met
    exact recorded_update (by simp [fresh]) met
  refine
    { evolves := { Evolves.refl before with recorded }
      spares := fun rival _ => { Spares.refl _ before with drafted := ?_ }
      invariant := { consistent with volumeRecorded := ?_, snapshotRecorded := ?_, cloned := ?_ } }
  · intro name met
    exact drafted_update (by simp [fresh]) met
  · intro key volume stored
    exact recorded _ _ (consistent.volumeRecorded key volume stored)
  · intro key snapshot stored
    exact recorded _ _ (consistent.snapshotRecorded key snapshot stored)
  · intro key volume stored
    exact source_mono recorded (consistent.cloned key volume stored)

/--
A change of the index that adds snapshots of a live volume and takes out only
what the request may take out.
-/
theorem keeps_setRefs (added : before.Live volumeID ∨ ∀ snapshotID ∈ (value.bind id).getD [],
      snapshotID ∈ before.listed volumeID)
    (removed : ∀ snapshotID ∈ before.listed volumeID,
      snapshotID ∈ (value.bind id).getD [] ∨ Removable index snapshotID before) :
    guard.Keeps index before (before.setRefs (before.snapRefs.put volumeID value)) := by
  refine
    { evolves := { Evolves.refl before with refs := Shelf.evolves_put _ volumeID value }
      spares := fun other different => { Spares.refl _ before with kept := ?_ }
      invariant := { consistent with based := ?_, listed := ?_ } }
  · intro name drafted listedFor member
    by_cases same : listedFor = volumeID
    · subst listedFor
      rw [listed_setRefs_self]
      rcases removed name member with
        kept | own | ⟨account, gone⟩
      · exact kept
      · cases drafted.symm.trans own
        exact absurd rfl different
      · cases drafted.symm.trans gone.1
    · rwa [listed_setRefs_of_ne same]
  · intro listedFor snapshotID member
    by_cases same : listedFor = volumeID
    · subst listedFor
      rw [listed_setRefs_self] at member
      rcases added with live | present
      · exact live
      · exact consistent.based _ _ (present snapshotID member)
    · rw [listed_setRefs_of_ne same] at member
      exact consistent.based _ _ member
  · intro key snapshot stored
    have member := consistent.listed key snapshot stored
    by_cases same : snapshot.volumeID = volumeID
    · rw [same] at member ⊢
      rw [listed_setRefs_self]
      have home := consistent.snapshotHome key snapshot stored
      have recorded := consistent.snapshotRecorded key snapshot stored
      rw [← home] at recorded stored
      rcases removed _ member with kept | own | ⟨account, gone⟩
      · exact kept
      · cases own.symm.trans recorded
      · cases gone.1.symm.trans recorded
        cases gone.2.symm.trans stored
    · rwa [listed_setRefs_of_ne same]

/-- Storing the document of a new snapshot that is listed. -/
theorem keeps_putSnapshot {snapshot : Snapshot}
    (own : Listed index snapshot.snapshotID snapshot.volumeID before) :
    guard.Keeps index before (before.putSnapshot snapshot) := by
  have recorded : ∀ name account, before.phase name = .recorded account →
      (before.putSnapshot snapshot).phase name = .recorded account :=
    fun _ _ => recorded_update own.1.not_recorded
  refine
    { evolves := { Evolves.refl before with recorded, snapshots := ?_ }
      spares := fun rival different => { Spares.refl _ before with drafted := ?_ }
      invariant :=
        { consistent with
          snapshotHome := ?_
          volumeRecorded := ?_
          snapshotRecorded := ?_
          listed := ?_
          cloned := ?_ } }
  · intro account name stored met present
    rcases stored_put present with ⟨same, -⟩ | earlier
    · obtain rfl : name = snapshot.snapshotID := congrArg Key.id same
      cases own.1.symm.trans met
    · exact earlier
  · intro name
    exact drafted_update (own.1.not_drafted different)
  · intro key stored present
    rcases stored_put present with ⟨rfl, rfl⟩ | earlier
    · rfl
    · exact consistent.snapshotHome key stored earlier
  · intro key volume stored
    exact recorded _ _ (consistent.volumeRecorded key volume stored)
  · intro key stored present
    rcases stored_put present with ⟨rfl, -⟩ | earlier
    · exact update_self ..
    · exact recorded _ _ (consistent.snapshotRecorded key stored earlier)
  · intro key stored present
    rcases stored_put present with ⟨-, rfl⟩ | earlier
    · exact own.2
    · exact consistent.listed key stored earlier
  · intro key volume stored
    exact source_mono recorded (consistent.cloned key volume stored)

end

/-- Removing the document of a snapshot. -/
theorem keeps_removeSnapshot (key : Key) (consistent : Consistent before) :
    guard.Keeps index before (before.removeSnapshot key) where
  evolves := { Evolves.refl before with snapshots := fun _ _ _ _ => stored_remove }
  spares _ _ := { Spares.refl _ before with }
  invariant :=
    { consistent with
      snapshotHome := fun _ _ stored => consistent.snapshotHome _ _ (stored_remove stored)
      snapshotRecorded := fun _ _ stored => consistent.snapshotRecorded _ _ (stored_remove stored)
      listed := fun _ _ stored => consistent.listed _ _ (stored_remove stored) }

/-- Removing the document of a volume whose deletion was accepted. -/
theorem keeps_removeVolume (consistent : Consistent before)
    (doomed : Doomed account volumeID before) :
    guard.Keeps index before (before.removeVolume ⟨account, volumeID⟩) := by
  refine
    { evolves :=
        { Evolves.refl before with volumes := fun _ _ _ _ stored _ => stored_remove stored }
      spares := fun _ _ =>
        { Spares.refl _ before with clones := fun _ _ _ _ stored _ _ => stored_remove stored }
      invariant :=
        { consistent with
          volumeHome := fun _ _ stored => consistent.volumeHome _ _ (stored_remove stored)
          volumeRecorded := fun _ _ stored => consistent.volumeRecorded _ _ (stored_remove stored)
          based := ?_
          cloned := fun _ _ stored => consistent.cloned _ _ (stored_remove stored) } }
  intro name snapshotID member
  rcases consistent.based name snapshotID member with ⟨owner, volume, stored, live⟩
  refine ⟨owner, volume, (update_of_ne (fun same => ?_) ..).trans stored, live⟩
  cases same
  exact doomed.2 volume stored live

/-- Recording a new volume. -/
theorem keeps_putVolume (consistent : Consistent before)
    (own : Drafted index volume.volumeID before)
    (source : volume.snapshotID = "" ∨ ∃ account, Recorded account volume.snapshotID before)
    (unscanned : ∀ other, before.scans other ≠ some volume.snapshotID) :
    guard.Keeps index before (before.putVolume volume) := by
  have recorded : ∀ name account, before.phase name = .recorded account →
      (before.putVolume volume).phase name = .recorded account :=
    fun _ _ => recorded_update own.not_recorded
  have fromBefore : ∀ name account stored, before.phase name = .recorded account →
      (before.putVolume volume).volumes ⟨account, name⟩ = some stored →
        before.volumes ⟨account, name⟩ = some stored := by
    intro name account stored met present
    rcases stored_put present with ⟨same, -⟩ | earlier
    · obtain rfl : name = volume.volumeID := congrArg Key.id same
      cases own.symm.trans met
    · exact earlier
  refine
    { evolves :=
        { Evolves.refl before with
          recorded, volumes := fun _ _ _ met stored _ => fromBefore _ _ _ met stored }
      spares := fun rival different => { Spares.refl _ before with drafted := ?_, clones := ?_ }
      invariant := consistent.putVolume recorded source ?_ }
  · intro name
    exact drafted_update (own.not_drafted different)
  · intro snapshotID scanning key stored present _ clone
    rcases stored_put present with ⟨-, rfl⟩ | earlier
    · rw [clone] at unscanned
      exact absurd scanning (unscanned rival)
    · exact earlier
  · intro name snapshotID owner stored _ present same
    have met := consistent.volumeRecorded _ _ present
    rw [same] at met
    cases own.symm.trans met

/-- Marking a recorded volume without snapshots as deleting. -/
theorem keeps_markDeleting (consistent : Consistent before) (dead : ¬ volume.Live)
    (known : Recorded volume.tenantID volume.volumeID before)
    (source : volume.snapshotID = "" ∨ ∃ account, Recorded account volume.snapshotID before)
    (unlisted : before.listed volume.volumeID = []) :
    guard.Keeps index before (before.putVolume volume) := by
  have phases : ∀ name, (before.putVolume volume).phase name = before.phase name := by
    intro name
    by_cases same : name = volume.volumeID
    · rw [same]
      exact (update_self ..).trans known.symm
    · exact update_of_ne same ..
  have recorded : ∀ name account, before.phase name = .recorded account →
      (before.putVolume volume).phase name = .recorded account :=
    fun name _ met => (phases name).trans met
  have fromBefore : ∀ key stored, (before.putVolume volume).volumes key = some stored →
      stored.Live → before.volumes key = some stored := by
    intro key stored present live
    rcases stored_put present with ⟨-, rfl⟩ | earlier
    · exact absurd live dead
    · exact earlier
  refine
    { evolves := { Evolves.refl before with recorded, volumes := fun _ _ _ _ => fromBefore _ _ }
      spares := fun _ _ =>
        { Spares.refl _ before with
          drafted := fun name met => (phases name).trans met
          clones := fun _ _ _ _ stored live _ => fromBefore _ _ stored live }
      invariant := consistent.putVolume recorded source ?_ }
  intro name snapshotID owner stored member _ same
  rw [show name = volume.volumeID from congrArg Key.id same, unlisted] at member
  cases member

end Spinifex.Snapshots
