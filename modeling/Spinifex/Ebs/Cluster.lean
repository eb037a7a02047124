import Spinifex.Concurrency.Pool
import Spinifex.Ebs.Record

/-!
# The cluster the volume services run on

What a call may find and change: the volume documents in the object store, the
records of stopped and of running instances, the hot-plug lock of each running
instance, the block devices of its guest, and the exports of each node.

Every call is one step.  A call that fails may or may not have taken effect,
with one exception: an update of a stopped instance's record either takes
effect or is reported as failed.  Everything else the services ask of their
surroundings is a question, and its answer is not constrained.
-/

namespace Spinifex.Ebs

open Concurrency Go Function

/-! ## The guest of a running instance -/

/-- A virtio device: plugged in, or asked to leave. -/
inductive Device where
  | plugged
  | unplugging
deriving DecidableEq, Repr

/-- The block nodes and devices of a guest, one of each per volume. -/
structure Guest where
  nodes : String → Bool
  devices : String → Option Device
  backed : ∀ volumeID, devices volumeID ≠ none → nodes volumeID = true

namespace Guest

/-- A guest without volumes. -/
def empty : Guest where
  nodes _ := false
  devices _ := none
  backed _ present := absurd rfl present

variable (guest : Guest) (volumeID : String)

/-- The guest with a block node for a volume. -/
def addNode : Guest where
  nodes := update guest.nodes volumeID true
  devices := guest.devices
  backed := by
    intro other present
    by_cases same : other = volumeID
    · rw [same, update_self]
    · rw [update_of_ne same]
      exact guest.backed other present

/-- The guest without the block node of a volume no device uses. -/
def dropNode (unused : guest.devices volumeID = none) : Guest where
  nodes := update guest.nodes volumeID false
  devices := guest.devices
  backed := by
    intro other present
    have different : other ≠ volumeID := by
      rintro rfl
      exact present unused
    rw [update_of_ne different]
    exact guest.backed other present

/-- The guest with a volume's device in another condition. -/
def setDevice (device : Device) (backed : guest.nodes volumeID = true) : Guest where
  nodes := guest.nodes
  devices := update guest.devices volumeID (some device)
  backed := by
    intro other present
    by_cases same : other = volumeID
    · rwa [same]
    · rw [update_of_ne same] at present
      exact guest.backed other present

/-- The guest without a volume's device. -/
def dropDevice : Guest where
  nodes := guest.nodes
  devices := update guest.devices volumeID none
  backed := by
    intro other present
    by_cases same : other = volumeID
    · rw [same, update_self] at present
      exact absurd rfl present
    · rw [update_of_ne same] at present
      exact guest.backed other present

end Guest

/-- The monitor commands of the attach and detach paths. -/
inductive QMPCommand where
  | objectAdd
  | blockdevAdd
  | deviceAdd (port : Nat)
  | deviceDel
  | blockdevDel
  | objectDel
deriving DecidableEq, Repr

/-- The errors of the monitor that the paths tell apart. -/
inductive QMPError where
  | deviceNotFound
  | nodeInUse
  | nodeNotFound
  | other (text : String)
deriving DecidableEq, Repr

def QMPError.text : QMPError → String
  | .deviceNotFound => "QMP error: DeviceNotFound"
  | .nodeInUse => "QMP error: GenericError: node is in use"
  | .nodeNotFound => "QMP error: GenericError: Failed to find node"
  | .other text => text

/-- What a guest may do with a command that it carries out. -/
inductive Guest.Does (volumeID : String) : QMPCommand → Guest → Guest → Prop where
  | objectAdd (guest : Guest) : Does volumeID .objectAdd guest guest
  | objectDel (guest : Guest) : Does volumeID .objectDel guest guest
  | blockdevAdd (guest : Guest) :
    Does volumeID .blockdevAdd guest (guest.addNode volumeID)
  | deviceAdd (guest : Guest) (port : Nat)
    (absent : guest.devices volumeID = none)
    (backed : guest.nodes volumeID = true) :
    Does volumeID (.deviceAdd port) guest (guest.setDevice volumeID .plugged backed)
  | deviceDel (guest : Guest)
    (present : guest.devices volumeID ≠ none) :
    Does volumeID .deviceDel guest
      (guest.setDevice volumeID .unplugging (guest.backed volumeID present))
  | blockdevDel (guest : Guest)
    (unused : guest.devices volumeID = none) :
    Does volumeID .blockdevDel guest (guest.dropNode volumeID unused)

/-- What a command is answered with and leaves behind. -/
def Guest.Runs (volumeID : String) (command : QMPCommand)
    (before : Option Guest) : Except QMPError Unit → Option Guest → Prop
  | .ok (), after =>
    ∃ guest changed, before = some guest ∧ after = some changed ∧
      Guest.Does volumeID command guest changed
  | .error .deviceNotFound, after =>
    after = before ∧ ∀ guest ∈ before, guest.devices volumeID = none
  | .error .nodeNotFound, after =>
    after = before ∧ ∀ guest ∈ before, guest.nodes volumeID = false
  | .error .nodeInUse, after => after = before
  | .error (.other _), after =>
    after = before ∨ ∃ guest changed, before = some guest ∧ after = some changed ∧
      Guest.Does volumeID command guest changed

/-! ## The state -/

/-- An instance in the memory of the node that runs it. -/
structure Running where
  node : String
  vm : VM
deriving DecidableEq, Repr

/-- The documents, records, locks, guests and exports of a cluster. -/
structure Cluster (Index : Type) where
  documents : Key → Option Volume
  stopped : String → Option VM
  running : String → Option Running
  attachMu : String → Option Index
  guests : String → Option Guest
  exports : String → String → Bool

namespace Cluster

variable {Index : Type}

/-- Store a document under its own key. -/
def putDocument (cluster : Cluster Index) (volume : Volume) : Cluster Index :=
  { cluster with documents := update cluster.documents volume.key (some volume) }

def removeDocument (cluster : Cluster Index) (key : Key) : Cluster Index :=
  { cluster with documents := update cluster.documents key none }

/-- Replace the record of a stopped instance. -/
def putStopped (cluster : Cluster Index) (instanceID : String) (vm : VM) : Cluster Index :=
  { cluster with stopped := update cluster.stopped instanceID (some vm) }

theorem stopped_putStopped_self (cluster : Cluster Index) (instanceID : String) (vm : VM) :
    (cluster.putStopped instanceID vm).stopped instanceID = some vm :=
  update_self _ _ _

variable {cluster : Cluster Index} {instanceID : String}

theorem stopped_putStopped_of_ne (different : other ≠ instanceID) :
    (cluster.putStopped instanceID vm).stopped other = cluster.stopped other :=
  update_of_ne different _ _

/-- Change the record of a running instance. -/
def editRunning (cluster : Cluster Index) (instanceID : String)
    (mutate : VM → VM) : Cluster Index :=
  { cluster with
    running := update cluster.running instanceID
      ((cluster.running instanceID).map fun host => { host with vm := mutate host.vm }) }

/-- Remove the record of a stopped instance. -/
def removeStopped (cluster : Cluster Index) (instanceID : String) : Cluster Index :=
  { cluster with stopped := update cluster.stopped instanceID none }

/-- Remove the record of a running instance. -/
def removeRunning (cluster : Cluster Index) (instanceID : String) : Cluster Index :=
  { cluster with running := update cluster.running instanceID none }

/-- Give the hot-plug lock of an instance to a call, or to none. -/
def setLock (cluster : Cluster Index) (instanceID : String)
    (holder : Option Index) : Cluster Index :=
  { cluster with attachMu := update cluster.attachMu instanceID holder }

/-- Replace the guest of an instance. -/
def setGuest (cluster : Cluster Index) (instanceID : String)
    (guest : Option Guest) : Cluster Index :=
  { cluster with guests := update cluster.guests instanceID guest }

theorem guests_setGuest_self (cluster : Cluster Index) (instanceID : String)
    (guest : Option Guest) : (cluster.setGuest instanceID guest).guests instanceID = guest :=
  update_self _ _ _

theorem guests_setGuest_of_ne (different : other ≠ instanceID) :
    (cluster.setGuest instanceID guest).guests other = cluster.guests other :=
  update_of_ne different _ _

/-- Set if a node exports a volume. -/
def setExport (cluster : Cluster Index) (node volumeID : String)
    (exported : Bool) : Cluster Index :=
  { cluster with
    exports := update cluster.exports node
      (update (cluster.exports node) volumeID exported) }

/-- The volume is in the guest of the instance. -/
def InGuest (cluster : Cluster Index) (instanceID volumeID : String) : Prop :=
  ∃ guest, cluster.guests instanceID = some guest ∧ guest.devices volumeID ≠ none

/--
A running instance holds a volume while it is in its guest, a stopped one
while its record lists it.
-/
def Holds (cluster : Cluster Index) (instanceID volumeID : String) : Prop :=
  cluster.InGuest instanceID volumeID ∨
    ∃ vm, cluster.stopped instanceID = some vm ∧ volumeID ∈ vm.volumes

end Cluster

/-! ## Calls -/

/-- Why a document is read: to look at it, or to write this state. -/
inductive Purpose where
  | inspect
  | update (state : VolumeState)
deriving DecidableEq, Repr

/-- An unpublish left to a node when its attachment was cleared. -/
structure UnpublishObligation where
  volumeID : String
  accountID : String
  handle : String
  nodeID : String
  instanceID : String
  attachedAt : Option Int
  recordedAt : Int
deriving DecidableEq, Repr

/-- What the services ask of their surroundings. -/
inductive Question where
  | now
  | timestamp
  | zone
  | replyArrives
  | cancelled
  | parseNBDURI (uri : String)
  | expandVolume (volumeID handle : String) (requiredBytes : Int)
  | teardownVolume (volumeID handle : String)
  | hasSnapshots (volumeID : String)
  | lastNode (instanceID : String)
  | members
  | recordObligation (obligation : UnpublishObligation)
  | leaked
  | deleteInternal (volumeID : String)
  | transition (instanceID : String) (target : InstanceState)
  | writeTerminated (instanceID : String)
deriving DecidableEq, Repr

@[reducible]
def Answer : Question → Type
  | .now => Int
  | .timestamp => String
  | .zone => String
  | .replyArrives => Bool
  | .cancelled => Bool
  | .parseNBDURI _ => Except Failure Unit
  | .expandVolume _ _ _ => Except Failure Unit
  | .teardownVolume _ _ => Except Failure Unit
  | .hasSnapshots _ => Except Failure Bool
  | .lastNode _ => Except Failure (Option String)
  | .members => List String
  | .recordObligation _ => Except Failure Unit
  | .leaked => Except Failure (List String)
  | .deleteInternal _ => Except Failure Unit
  | .transition _ _ => Except Failure Unit
  | .writeTerminated _ => Except Failure Unit

/-- How a publish failed. -/
inductive MountFault where
  | settling
  | retryable
  | ambiguous
  | refused
deriving DecidableEq, Repr

/-- What a published volume is reached through. -/
inductive Export where
  | nbd (uri : String)
  | block (path : String) (sizeBytes : Nat)
deriving DecidableEq, Repr

/--
How an update of a stopped record went.  An attempt that loses against another
writer is made again on the record it finds then.  A failure comes with the
record whose change was stored all the same, if one was.
-/
inductive Update where
  | committed (vm : VM) (lost : List VM)
  | failed (failure : Failure) (stored : Option VM) (lost : List VM)

namespace Update

/-- What the caller is told. -/
def result : Update → Except Failure VM
  | .committed vm _ => .ok vm
  | .failed failure _ _ => .error failure

/-- The record whose change was stored. -/
def stored : Update → Option VM
  | .committed vm _ => some vm
  | .failed _ stored _ => stored

/-- The records the attempts found, the last one first. -/
def found : Update → List VM
  | .committed vm lost => vm :: lost
  | .failed _ stored lost => stored.toList ++ lost

theorem stored_of_result {update : Update} (told : update.result = .ok vm) :
    ∃ lost, update = .committed vm lost := by
  cases update with
  | committed found lost =>
    cases told
    exact ⟨lost, rfl⟩
  | failed failure stored lost => cases told

end Update

/--
One call of a service.  A put also names the document its caller changed to
get the one it writes; the store does not look at that.
-/
inductive Op where
  | getVolume (key : Key) (purpose : Purpose)
  | putVolume (seen volume : Volume)
  | deleteVolume (key : Key)
  | listKeys
  | isStopped (instanceID : String)
  | loadStopped (instanceID : String)
  | updateStopped (instanceID : String) (mutate : VM → VM)
  | route (instanceID : String)
  | get (instanceID : String)
  | updateState (instanceID : String) (mutate : VM → VM)
  | lock (instanceID : String)
  | unlock (instanceID : String)
  | qmp (instanceID volumeID : String) (command : QMPCommand)
  | qemuConfirmedDead (instanceID : String)
  | publish (node volumeID : String)
  | unpublish (node volumeID : String)
  | deleteStopped (instanceID : String)
  | shutdown (instanceID : String)
  | forget (instanceID : String)
  | ask (question : Question)

/-- What each call is answered with. -/
@[reducible]
def Reply : Op → Type
  | .getVolume _ _ => Except Failure Volume
  | .putVolume _ _ => Except Failure Unit
  | .deleteVolume _ => Except Failure Unit
  | .listKeys => Except Failure (List Key)
  | .isStopped _ => Bool
  | .loadStopped _ => Except Failure (Option VM)
  | .updateStopped _ _ => Update
  | .route _ => Option String
  | .get _ => Option VM
  | .updateState _ _ => Unit
  | .lock _ => Unit
  | .unlock _ => Unit
  | .qmp _ _ _ => Except QMPError Unit
  | .qemuConfirmedDead _ => Bool
  | .publish _ _ => Except MountFault Export
  | .unpublish _ _ => Except Failure Unit
  | .deleteStopped _ => Except Failure Unit
  | .shutdown _ => Unit
  | .forget _ => Unit
  | .ask question => Answer question

/-- A program of the volume services. -/
abbrev Session := Program Op Reply

/-- What a read of a document may find. -/
def Finds (stored : Option Volume) :
    Except Failure Volume → Prop
  | .ok volume => stored = some volume
  | .error failure => failure.is .noSuchKey → stored = none

variable {Index : Type}

/-- What a call does to the cluster. -/
def perform (index : Index) :
    (op : Op) → Cluster Index → Reply op → Cluster Index → Prop
  | .getVolume key _, before, reply, after =>
    after = before ∧ Finds (before.documents key) reply
  | .putVolume _ volume, before, reply, after =>
    after = before.putDocument volume ∨ reply ≠ .ok () ∧ after = before
  | .deleteVolume key, before, reply, after =>
    after = before.removeDocument key ∨ reply ≠ .ok () ∧ after = before
  | .listKeys, before, _, after => after = before
  | .isStopped instanceID, before, reply, after =>
    after = before ∧ (reply = true → before.stopped instanceID ≠ none)
  | .loadStopped instanceID, before, reply, after =>
    after = before ∧ ∀ record, reply = .ok record → before.stopped instanceID = record
  | .updateStopped instanceID mutate, before, update, after =>
    (∃ vm, update.stored = some vm ∧ before.stopped instanceID = some vm ∧
      after = before.putStopped instanceID (mutate vm)) ∨
    update.stored = none ∧ after = before
  | .route instanceID, before, reply, after =>
    after = before ∧ ∀ node, reply = some node →
      (before.running instanceID).map Running.node = some node
  | .get instanceID, before, reply, after =>
    after = before ∧ reply = (before.running instanceID).map Running.vm
  | .updateState instanceID mutate, before, _, after =>
    after = before.editRunning instanceID mutate
  | .lock instanceID, before, _, after =>
    before.attachMu instanceID = none ∧ after = before.setLock instanceID (some index)
  | .unlock instanceID, before, _, after =>
    after = before.setLock instanceID none
  | .qmp instanceID volumeID command, before, reply, after =>
    ∃ guest, Guest.Runs volumeID command (before.guests instanceID) reply guest ∧
      after = before.setGuest instanceID guest
  | .qemuConfirmedDead instanceID, before, reply, after =>
    after = before ∧ (reply = true → before.guests instanceID = none)
  | .publish node volumeID, before, .ok _, after =>
    after = before.setExport node volumeID true
  | .publish node volumeID, before, .error fault, after =>
    after = before ∨ fault = .ambiguous ∧ after = before.setExport node volumeID true
  | .unpublish node volumeID, before, reply, after =>
    after = before.setExport node volumeID false ∨ reply ≠ .ok () ∧ after = before
  | .deleteStopped instanceID, before, reply, after =>
    after = before.removeStopped instanceID ∨ reply ≠ .ok () ∧ after = before
  | .shutdown instanceID, before, _, after =>
    ∃ guest, (guest = none ∨ guest = before.guests instanceID) ∧
      after = before.setGuest instanceID guest
  | .forget instanceID, before, _, after =>
    after = before.removeRunning instanceID
  | .ask _, before, _, after => after = before

/-- What a call can make of the cluster. -/
inductive Becomes (index : Index) (before : Cluster Index) : Op → Cluster Index → Prop where
  | same (op : Op) : Becomes index before op before
  | putDocument (seen volume : Volume) :
    Becomes index before (.putVolume seen volume) (before.putDocument volume)
  | removeDocument (key : Key) :
    Becomes index before (.deleteVolume key) (before.removeDocument key)
  | putStopped {id : String} {mutate : VM → VM} {vm : VM} (stored : before.stopped id = some vm) :
    Becomes index before (.updateStopped id mutate) (before.putStopped id (mutate vm))
  | removeStopped (id : String) : Becomes index before (.deleteStopped id) (before.removeStopped id)
  | editRunning (id : String) (mutate : VM → VM) :
    Becomes index before (.updateState id mutate) (before.editRunning id mutate)
  | removeRunning (id : String) : Becomes index before (.forget id) (before.removeRunning id)
  | lock {id : String} (free : before.attachMu id = none) :
    Becomes index before (.lock id) (before.setLock id (some index))
  | unlock (id : String) : Becomes index before (.unlock id) (before.setLock id none)
  | command {id volumeID : String} {command : QMPCommand} {reply : Except QMPError Unit}
    {guest : Option Guest} (ran : Guest.Runs volumeID command (before.guests id) reply guest) :
    Becomes index before (.qmp id volumeID command) (before.setGuest id guest)
  | shutdown {id : String} {guest : Option Guest} (left : guest = none ∨ guest = before.guests id) :
    Becomes index before (.shutdown id) (before.setGuest id guest)
  | publish (node volumeID : String) :
    Becomes index before (.publish node volumeID) (before.setExport node volumeID true)
  | unpublish (node volumeID : String) :
    Becomes index before (.unpublish node volumeID) (before.setExport node volumeID false)

theorem becomes_of_perform (performed : perform index op before reply after) :
    Becomes index before op after := by
  cases op with
  | getVolume key purpose | isStopped id | loadStopped id | route id | get id
  | qemuConfirmedDead id => exact performed.1 ▸ .same _
  | listKeys | ask question =>
    rw [show after = before from performed]
    exact .same _
  | putVolume seen volume | deleteVolume key | unpublish node volumeID | deleteStopped id =>
    rcases performed with rfl | ⟨_, rfl⟩
    · constructor
    · exact .same _
  | updateStopped id mutate =>
    rcases performed with ⟨vm, _, stored, rfl⟩ | ⟨_, rfl⟩
    · exact .putStopped stored
    · exact .same _
  | updateState id mutate | unlock id | forget id =>
    rw [show after = _ from performed]
    constructor
  | lock id => exact performed.2 ▸ .lock performed.1
  | qmp id volumeID command =>
    obtain ⟨guest, ran, rfl⟩ := performed
    exact .command ran
  | shutdown id =>
    obtain ⟨guest, left, rfl⟩ := performed
    exact .shutdown left
  | publish node volumeID =>
    cases reply with
    | ok exported =>
      rw [show after = _ from performed]
      exact .publish node volumeID
    | error fault =>
      rcases performed with rfl | ⟨_, rfl⟩
      · exact .same _
      · exact .publish node volumeID

/-- A guest finishes an unplug, or its process ends. -/
inductive Drift (before : Cluster Index) : Cluster Index → Prop where
  | unplugged
    {instanceID volumeID : String} {guest : Guest}
    (present : before.guests instanceID = some guest)
    (leaving : guest.devices volumeID = some .unplugging) :
    Drift before (before.setGuest instanceID (some (guest.dropDevice volumeID)))
  | exited {instanceID : String} :
    Drift before (before.setGuest instanceID none)

end Spinifex.Ebs
