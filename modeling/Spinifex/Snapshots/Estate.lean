import Spinifex.Concurrency.Shelf
import Spinifex.Snapshots.Document

/-!
# Volumes, snapshots and the index between them

What the requests find and change: the documents of volumes and snapshots, and
the bucket that lists the snapshots of each volume.  Identifiers are drawn at
random and taken to be drawn once; the estate keeps track of which have been
drawn, and by whom, until a document is stored under them.

Every call is one step, and one that fails may have taken effect.  The
provider's calls change nothing here: what matters is in which states they are
made.
-/

namespace Spinifex.Snapshots

open Concurrency Go Function

/-! ## Calls -/

/-- The calls of the requests besides those on the index. -/
inductive Op where
  | getVolume (key : Key)
  | putVolume (volume : Volume)
  | deleteVolumeDocument (key : Key)
  /-- The keys of all volume documents, to look for clones or not. -/
  | listVolumes (clonesOf : Option String)
  | getSnapshot (key : Key)
  | putSnapshot (snapshot : Snapshot)
  | deleteSnapshotDocument (key : Key)
  | listAMIs
  | generateResourceID (kind : String)
  | now
  | encryptionEnabled
  | createVolume (request : ProviderVolumeRequest)
  | deleteVolume (volumeID handle : String)
  | createSnapshot (snapshotID volumeID volumeHandle : String)
  | copySnapshot (source destination volumeID : String)
  | deleteSnapshot (snapshotID handle : String)
  | listObjects (snapshotID : String)
  | deleteObject (key : String)
deriving DecidableEq, Repr

@[reducible]
def Answer : Op → Type
  | .getVolume _ => Except Failure Volume
  | .putVolume _ => WriteReply Failure
  | .deleteVolumeDocument _ => Except Failure Unit
  | .listVolumes _ => Except Failure (List Key)
  | .getSnapshot _ => Except Failure Snapshot
  | .putSnapshot _ => WriteReply Failure
  | .deleteSnapshotDocument _ => Except Failure Unit
  | .listAMIs => Except Failure (List String × List UnreadableDocument)
  | .generateResourceID _ => String
  | .now => Int
  | .encryptionEnabled => Except Failure Bool
  | .createVolume _ => Except Failure (Option String)
  | .deleteVolume _ _ => Except Failure Unit
  | .createSnapshot _ _ _ => Except Failure (Option ProviderSnapshot)
  | .copySnapshot _ _ _ => Except Failure (Option ProviderSnapshot)
  | .deleteSnapshot _ _ => Except Failure Unit
  | .listObjects _ => Except Failure (List String)
  | .deleteObject _ => Except Failure Unit

/-- A program of the services on the index and the documents. -/
abbrev Session := State.Session (List String) Answer

/-- A call of such a program. -/
abbrev Call := Bucket.Call String (State.Stored (List String)) Op

/-! ## The estate -/

/-- What an identifier has been used for. -/
inductive Phase (Index : Type) where
  | free
  | drafted (index : Index)
  | recorded (account : String)
deriving DecidableEq, Repr

/--
The documents, the index, and what is known of the requests under way: which
identifiers they have drawn, and for which snapshot's clones they look.  The
keys under which a volume document was ever stored are kept for listings.
-/
structure Estate (Index : Type) where
  volumes : Key → Option Volume
  keys : List Key
  complete : ∀ key, volumes key ≠ none → key ∈ keys
  snapshots : Key → Option Snapshot
  snapRefs : Shelf String (State.Stored (List String))
  phase : String → Phase Index
  scans : Index → Option String

namespace Estate

variable {Index : Type}

/-- The snapshots the index lists for a volume. -/
def listed (estate : Estate Index) (volumeID : String) : List String :=
  ((estate.snapRefs.value volumeID).bind id).getD []

/-- A document of the volume is stored, and it is not deleting. -/
def Live (estate : Estate Index) (volumeID : String) : Prop :=
  ∃ account volume, estate.volumes ⟨account, volumeID⟩ = some volume ∧ volume.Live

/-- Store the document of a volume. -/
def putVolume (estate : Estate Index) (volume : Volume) : Estate Index :=
  { estate with
    volumes := update estate.volumes volume.home (some volume)
    keys := estate.keys.insert volume.home
    complete := by
      intro key stored
      by_cases same : key = volume.home
      · exact List.mem_insert_iff.2 (.inl same)
      · rw [update_of_ne same] at stored
        exact List.mem_insert_iff.2 (.inr (estate.complete key stored))
    phase := update estate.phase volume.volumeID (.recorded volume.tenantID) }

def removeVolume (estate : Estate Index) (key : Key) : Estate Index :=
  { estate with
    volumes := update estate.volumes key none
    complete := by
      intro other stored
      by_cases same : other = key
      · rw [same, update_self] at stored
        exact absurd rfl stored
      · rw [update_of_ne same] at stored
        exact estate.complete other stored }

/-- Store the document of a snapshot. -/
def putSnapshot (estate : Estate Index) (snapshot : Snapshot) : Estate Index :=
  { estate with
    snapshots := update estate.snapshots snapshot.home (some snapshot)
    phase := update estate.phase snapshot.snapshotID (.recorded snapshot.ownerID) }

def removeSnapshot (estate : Estate Index) (key : Key) : Estate Index :=
  { estate with snapshots := update estate.snapshots key none }

/-- Hand out an identifier. -/
def draft (estate : Estate Index) (id : String) (index : Index) : Estate Index :=
  { estate with phase := update estate.phase id (.drafted index) }

/-- Replace the index. -/
def setRefs (estate : Estate Index)
    (refs : Shelf String (State.Stored (List String))) : Estate Index :=
  { estate with snapRefs := refs }

/-- Note for which snapshot's clones a request looks. -/
def setScan [DecidableEq Index] (estate : Estate Index) (index : Index)
    (clonesOf : Option String) : Estate Index :=
  { estate with scans := update estate.scans index clonesOf }

end Estate

/-! ## Reading an updated estate -/

section

variable {Index : Type} {before : Estate Index}

/-- What the index lists after a change of one volume's list. -/
theorem listed_setRefs_self (volumeID : String) (value : Option (State.Stored (List String))) :
    (before.setRefs (before.snapRefs.put volumeID value)).listed volumeID =
      (value.bind id).getD [] := by
  simp [Estate.listed, Estate.setRefs]

theorem listed_setRefs_of_ne (different : other ≠ volumeID) :
    (before.setRefs (before.snapRefs.put volumeID value)).listed other = before.listed other := by
  simp [Estate.listed, Estate.setRefs, Shelf.value_put_of_ne different]

end

/-! ## What calls do -/

/-- What a read of a document may be answered with. -/
def Reads {Document : Type} (stored : Option Document) :
    Except Failure Document → Prop
  | .ok document => stored = some document
  | .error failure => isNoSuchKey failure = true → stored = none

section

variable {Index : Type} [DecidableEq Index]

/-- What the removal of a document may be answered with. -/
def Removes {Document : Type} (stored : Option Document)
    (before removed : Estate Index) : Except Failure Unit → Estate Index → Prop
  | .ok (), after => after = removed
  | .error failure, after =>
    if isNoSuchKey failure then stored = none ∧ after = before else after = before ∨ after = removed

/-- What a call on the documents may answer and what it changes. -/
def answer (index : Index) :
    (op : Op) → Estate Index → Answer op → Estate Index → Prop
  | .getVolume key, before, reply, after =>
    Reads (before.volumes key) reply ∧ after = before
  | .putVolume volume, before, reply, after =>
    after = if reply.stored then before.putVolume volume else before
  | .deleteVolumeDocument key, before, reply, after =>
    Removes (before.volumes key) before (before.removeVolume key) reply after
  | .listVolumes clonesOf, before, reply, after =>
    (∀ keys, reply = .ok keys → ∀ key, before.volumes key ≠ none → key ∈ keys) ∧
      after = before.setScan index clonesOf
  | .getSnapshot key, before, reply, after =>
    Reads (before.snapshots key) reply ∧ after = before
  | .putSnapshot snapshot, before, reply, after =>
    after = if reply.stored then before.putSnapshot snapshot else before
  | .deleteSnapshotDocument key, before, reply, after =>
    Removes (before.snapshots key) before (before.removeSnapshot key) reply after
  | .generateResourceID kind, before, reply, after =>
    (∃ drawn, reply = kind ++ "-" ++ drawn) ∧ before.phase reply = .free ∧
      after = before.draft reply index
  | .deleteSnapshot _ _, before, _, after => after = before.setScan index none
  | _, before, _, after => after = before

/-- What a call may answer and what it changes. -/
def perform (index : Index) :
    (call : Call) → Estate Index → Bucket.Reply Answer call → Estate Index → Prop
  | .get key, before, reply, after =>
    before.snapRefs.Answers key reply ∧ after = before
  | .write key value expected, before, reply, after =>
    ∃ refs, before.snapRefs.Writes key value expected reply refs ∧ after = before.setRefs refs
  | .waits, before, _, after => after = before
  | .ask op, before, reply, after => answer index op before reply after

/-- The system of requests on one estate. -/
def system (Result : Type) : System Index Call (Bucket.Reply Answer) (Estate Index) Result where
  perform := perform
  drift _ _ := False
  finish index _ estate := estate.setScan index none

end

end Spinifex.Snapshots
