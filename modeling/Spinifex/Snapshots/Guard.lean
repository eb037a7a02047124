import Spinifex.Concurrency.Checked
import Spinifex.Snapshots.Service

/-!
# What keeps referenced data alive

A volume's data may be torn down once no snapshot of it is left, and a
snapshot's once no volume created from it is left that is not itself being
deleted.  The services see to it with the index and with a scan of the volume
documents; both are looked at before a write that does not depend on them.

`Timely` is the condition on single steps under which that is enough.
`Consistent` is what then holds of the documents and the index throughout, and
`guard` the discipline by which the requests keep it.
-/

namespace Spinifex.Snapshots

open Concurrency Go

/-! ## Which calls may be made -/

variable {Index : Type}

/-- The provider destroys only what nothing refers to. -/
def Allowed : Call → Estate Index → Prop
  | .ask (.deleteVolume volumeID _), estate =>
    ∀ key snapshot, estate.snapshots key = some snapshot → snapshot.volumeID ≠ volumeID
  | .ask (.deleteSnapshot snapshotID _), estate =>
    ∀ key volume, estate.volumes key = some volume → volume.Live → volume.snapshotID ≠ snapshotID
  | _, _ => True

/--
No write comes between a check and the write that relies on it: a snapshot is
added to the index while the volume's document is stored and not deleting, a
volume is marked deleting while the index lists no snapshot of it, and a volume
is recorded while no deletion of the snapshot it was created from is between
its scan and its call of the provider.  And the document of a new volume or
snapshot is not stored by a put that is reported as failed.
-/
def Timely (_ : Index) : (call : Call) → Estate Index → Bucket.Reply Answer call → Prop
  | .write volumeID (some (some snapshots)) expected, before, _ =>
    expected = before.snapRefs.revision volumeID → before.Live volumeID ∨
      ∀ snapshotID ∈ snapshots, snapshotID ∈ before.listed volumeID
  | .ask (.putVolume volume), before, reply =>
    if volume.Live then
      reply.Truthful ∧ ∀ index, before.scans index ≠ some volume.snapshotID
    else
      before.listed volume.volumeID = []
  | .ask (.putSnapshot _), _, reply => reply.Truthful
  | _, _, _ => True

/-- The runs all of whose calls are timely. -/
abbrev timely (Index : Type) [DecidableEq Index] :
    System Index Call (Bucket.Reply Answer) (Estate Index) Outcome :=
  (system Outcome).restrict Timely

/-! ## The invariant -/

/-- The documents and the index agree. -/
structure Consistent (estate : Estate Index) : Prop where
  volumeHome : ∀ key volume, estate.volumes key = some volume → volume.home = key
  snapshotHome : ∀ key snapshot, estate.snapshots key = some snapshot → snapshot.home = key
  volumeRecorded : ∀ key volume, estate.volumes key = some volume →
    estate.phase key.id = .recorded key.account
  snapshotRecorded : ∀ key snapshot, estate.snapshots key = some snapshot →
    estate.phase key.id = .recorded key.account
  based : ∀ volumeID snapshotID, snapshotID ∈ estate.listed volumeID → estate.Live volumeID
  listed : ∀ key snapshot, estate.snapshots key = some snapshot →
    snapshot.snapshotID ∈ estate.listed snapshot.volumeID
  cloned : ∀ key volume, estate.volumes key = some volume → volume.snapshotID = "" ∨
    ∃ account, estate.phase volume.snapshotID = .recorded account

/-- What no step undoes. -/
structure Evolves (before after : Estate Index) : Prop where
  recorded : ∀ id account, before.phase id = .recorded account → after.phase id = .recorded account
  volumes : ∀ account id volume, before.phase id = .recorded account →
    after.volumes ⟨account, id⟩ = some volume →
      volume.Live → before.volumes ⟨account, id⟩ = some volume
  snapshots : ∀ account id snapshot, before.phase id = .recorded account →
    after.snapshots ⟨account, id⟩ = some snapshot → before.snapshots ⟨account, id⟩ = some snapshot
  refs : before.snapRefs.Evolves after.snapRefs

/-- What the other requests leave to one of them. -/
structure Spares (index : Index) (before after : Estate Index) : Prop where
  drafted : ∀ id, before.phase id = .drafted index → after.phase id = .drafted index
  kept : ∀ id, before.phase id = .drafted index →
    ∀ volumeID, id ∈ before.listed volumeID → id ∈ after.listed volumeID
  scans : after.scans index = before.scans index
  clones : ∀ snapshotID, before.scans index = some snapshotID →
    ∀ key volume, after.volumes key = some volume →
      volume.Live → volume.snapshotID = snapshotID → before.volumes key = some volume

theorem Evolves.refl (estate : Estate Index) : Evolves estate estate :=
  ⟨fun _ _ met => met, fun _ _ _ _ met _ => met, fun _ _ _ _ met => met, .refl _⟩

variable {first second third : Estate Index}

theorem Evolves.trans (left : Evolves first second) (right : Evolves second third) :
    Evolves first third where
  recorded id account met := right.recorded id account (left.recorded id account met)
  volumes account id volume met stored live :=
    left.volumes account id volume met (right.volumes account id volume
        (left.recorded id account met) stored live)
      live
  snapshots account id snapshot met stored :=
    left.snapshots account id snapshot met (right.snapshots account id snapshot
      (left.recorded id account met) stored)
  refs := left.refs.trans right.refs

variable (index : Index)

theorem Spares.refl (estate : Estate Index) : Spares index estate estate :=
  ⟨fun _ met => met, fun _ _ _ met => met, rfl, fun _ _ _ _ met _ _ => met⟩

theorem Spares.trans {index : Index} (left : Spares index first second)
    (right : Spares index second third) : Spares index first third where
  drafted id met := right.drafted id (left.drafted id met)
  kept id met volumeID member := right.kept id (left.drafted id met) volumeID
    (left.kept id met volumeID member)
  scans := right.scans.trans left.scans
  clones snapshotID met key volume stored live clone := left.clones snapshotID met key volume
    (right.clones snapshotID (left.scans.trans met) key volume stored live clone) live clone

/-! ## What a request may know -/

/-- The identifier was drawn by this request and is not yet in use. -/
def Drafted (id : String) (estate : Estate Index) : Prop :=
  estate.phase id = .drafted index

/-- A document was stored under the identifier. -/
def Recorded (account id : String) (estate : Estate Index) : Prop :=
  estate.phase id = .recorded account

/-- The deletion of the volume has been accepted. -/
def Doomed (account volumeID : String) (estate : Estate Index) : Prop :=
  Recorded account volumeID estate ∧
    ∀ volume, estate.volumes ⟨account, volumeID⟩ = some volume → ¬ volume.Live

theorem Doomed.evolves (doomed : Doomed account volumeID before)
    (evolved : Evolves before after) : Doomed account volumeID after :=
  ⟨evolved.recorded volumeID account doomed.1, fun volume stored live => doomed.2 volume
    (evolved.volumes account volumeID volume doomed.1 stored live)
    live⟩

/-- The snapshot's document has been removed. -/
def Gone (account snapshotID : String) (estate : Estate Index) : Prop :=
  Recorded account snapshotID estate ∧ estate.snapshots ⟨account, snapshotID⟩ = none

/-- The request may take the snapshot out of the index. -/
def Removable (snapshotID : String) (estate : Estate Index) : Prop :=
  Drafted index snapshotID estate ∨ ∃ account, Gone account snapshotID estate

/-- The request has listed its snapshot. -/
def Listed (snapshotID volumeID : String) (estate : Estate Index) : Prop :=
  Drafted index snapshotID estate ∧ snapshotID ∈ estate.listed volumeID

/-! ## What the invariant says of a request's own names -/

namespace Consistent

variable {estate : Estate Index} {volumeID : String}

section

variable (consistent : Consistent estate)

include consistent

theorem live_recorded (live : estate.Live volumeID) :
    ∃ account volume, estate.volumes ⟨account, volumeID⟩ = some volume ∧
      volume.Live ∧ Recorded account volumeID estate := by
  rcases live with ⟨account, volume, stored, live⟩
  exact ⟨account, volume, stored, live, consistent.volumeRecorded _ _ stored⟩

/-- A volume that is not live has no snapshots. -/
theorem unreferenced (dead : ¬ estate.Live volumeID)
    (handle : String) : Allowed (.ask (.deleteVolume volumeID handle)) estate := by
  rintro key snapshot stored rfl
  have member := consistent.listed key snapshot stored
  exact dead (consistent.based _ _ member)

variable {index : Index}

theorem not_live_of_drafted (drafted : Drafted index volumeID estate) : ¬ estate.Live volumeID := by
  intro live
  rcases consistent.live_recorded live with ⟨account, volume, _, _, recorded⟩
  cases drafted.symm.trans recorded

theorem not_live_of_doomed (doomed : Doomed account volumeID estate) : ¬ estate.Live volumeID := by
  intro live
  rcases consistent.live_recorded live with ⟨other, volume, stored, live, recorded⟩
  cases doomed.1.symm.trans recorded
  exact doomed.2 volume stored live

/-- No volume was created from a snapshot that is not recorded. -/
theorem uncloned
    (drafted : Drafted index snapshotID estate) (named : snapshotID ≠ "") (handle : String) :
    Allowed (.ask (.deleteSnapshot snapshotID handle)) estate := by
  rintro key volume stored _ rfl
  rcases consistent.cloned key volume stored with
    unset | ⟨account, recorded⟩
  · exact named unset
  · cases drafted.symm.trans recorded

end

end Consistent

/-! ## The discipline -/

variable [DecidableEq Index]

/-- The discipline by which the requests keep data alive. -/
def guard : Discipline ((timely Index).checked Allowed) where
  invariant := Consistent
  evolves := Evolves
  spares := Spares
  evolves_refl := Evolves.refl
  evolves_trans := Evolves.trans
  spares_refl := Spares.refl
  spares_trans := Spares.trans
  drift_evolves := by
    intro before after _ drifted
    exact drifted.elim

/-- A program that keeps data alive and leads from one property to another. -/
abbrev Guards {Result : Type} (index : Index) (pre : Estate Index → Prop)
    (program : Session Result) (post : Result → Estate Index → Prop) : Prop :=
  guard.Ensures index pre program post

/-- A property that the other requests do not undo. -/
abbrev Lasting (index : Index) (property : Estate Index → Prop) : Prop :=
  guard.Stable index property

/-! ## What lasts -/

section

variable {index : Index} (account id snapshotID : String)

theorem drafted_lasting : Lasting index (Drafted index id) :=
  fun _ _ relied _ met => relied.spares.drafted id met

theorem recorded_lasting : Lasting index (Recorded account id) :=
  fun _ _ relied _ met => relied.evolves.recorded id account met

theorem gone_lasting : Lasting index (Gone account snapshotID) := by
  intro before after relied _ met
  refine ⟨relied.evolves.recorded snapshotID account met.1, ?_⟩
  rw [Option.eq_none_iff_forall_ne_some]
  intro snapshot stored
  have earlier := relied.evolves.snapshots account snapshotID snapshot met.1 stored
  simp [met.2] at earlier

theorem listed_lasting (volumeID : String) : Lasting index (Listed index snapshotID volumeID) :=
  fun _ _ relied holds met => ⟨drafted_lasting snapshotID relied holds met.1,
    relied.spares.kept snapshotID met.1 volumeID met.2⟩

end

end Spinifex.Snapshots
