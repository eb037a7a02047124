import Spinifex.Ebs.Gateway

/-!
# What the parts of a request leave alone

Most parts of an attach or a detach read, ask, publish or talk to the guest.
They write no document and no record, take no lock and plug no device in, and
that is all later proofs need to know of them.
-/

namespace Spinifex.Ebs

open Aws Concurrency Go Daemon
open Concurrency.Program

/-- A call that reads or asks. -/
def Op.Reading : Op → Prop
  | .getVolume _ _ | .listKeys | .isStopped _ | .loadStopped _
  | .route _ | .get _ | .qemuConfirmedDead _ | .ask _ => True
  | _ => False

variable {First : Type} (program : Session First)

/-- A program of reads and questions. -/
abbrev Reading : Prop :=
  program.Only Op.Reading

/-- A call that reads, asks, publishes or takes from a guest. -/
def Op.Passive : Op → Prop
  | .putVolume _ _ | .deleteVolume _ | .updateStopped _ _
  | .updateState _ _ | .lock _ | .unlock _ | .deleteStopped _
  | .forget _ | .qmp _ _ (.deviceAdd _) => False
  | _ => True

/-- A program of passive calls. -/
abbrev Passive : Prop :=
  program.Only Op.Passive

theorem passive_call (allowed : op.Passive) : Passive (call op) :=
  ⟨allowed, fun _ => trivial⟩

theorem reading_call (allowed : op.Reading) : Reading (call op) :=
  ⟨allowed, fun _ => trivial⟩

variable (question : Question) (attachedInstance node id account volumeID : String)
    (request : EBSRequest) (volume : Volume) (purpose : Purpose) (device : String)

theorem reading_ask : Reading (ask question) :=
  reading_call trivial

theorem Reading.passive {program : Session First}
    (reading : Reading program) : Passive program := by
  refine Only.mono reading fun op allowed => ?_
  cases op with
  | putVolume seen volume | deleteVolume key | updateStopped id mutate
  | updateState id mutate | lock id | unlock id | deleteStopped id
  | forget id => exact allowed
  | qmp id volumeID command => cases allowed
  | _ => trivial

theorem passive_ask : Passive (ask question) :=
  Reading.passive (reading_ask question)

/-! ## The volume service -/

theorem reading_getVolume : Reading (getVolume account volumeID purpose) := by
  unfold getVolume
  split
  · exact only_pure _
  · exact reading_call trivial

theorem passive_getVolume : Passive (getVolume account volumeID purpose) :=
  Reading.passive (reading_getVolume account volumeID purpose)

theorem passive_fetchDocuments (keys : List Key) : Passive (fetchDocuments keys) := by
  induction keys with
  | nil => exact only_pure _
  | cons key keys induction =>
    exact only_bind (passive_call trivial) (either (fun _ => induction)
        fun volume => only_bind induction fun _ => only_pure _)

theorem passive_listAllVolumes : Passive listAllVolumes := by
  exact only_bind (passive_call trivial) (either (fun _ => only_pure _)
      fun keys => only_bind (passive_fetchDocuments _) fun _ => only_pure _)

theorem reading_attachTime : Reading (attachTime attachedInstance) := by
  unfold attachTime
  split_ifs
  · exact only_bind (reading_ask _) fun _ => only_pure _
  · exact only_pure _

theorem passive_recordEach (time : Int) (nodes : List String) :
    Passive (recordEach volume time nodes) := by
  induction nodes with
  | nil => exact only_pure _
  | cons node nodes induction =>
    exact only_bind (passive_ask _) (either (fun _ => only_pure _) fun done => induction)

theorem passive_recordObligations (nodes : List String) :
    Passive (recordObligations volume nodes) :=
  only_bind (passive_ask _) fun _ => passive_recordEach _ _ _

theorem passive_publishingNodes (instanceID : String) : Passive (publishingNodes instanceID) := by
  refine only_bind (passive_ask _) (either (fun _ => only_pure _) fun node => ?_)
  dsimp only
  split_ifs
  · exact only_pure _
  refine only_bind (passive_ask _) fun members => ?_
  split_ifs <;> exact only_pure _

theorem passive_recordTerminateObligation (owed : OwedUnpublish) :
    Passive (recordTerminateObligation account volumeID owed) := by
  unfold recordTerminateObligation
  split_ifs
  · exact only_pure _
  refine only_bind (passive_getVolume _ _ _) (either (fun _ => ?_) fun volume => ?_)
  · dsimp only
    split_ifs <;> exact only_pure _
  dsimp only
  split_ifs
  · exact only_pure _
  refine only_bind (passive_recordObligations _ _) fun recorded => ?_
  cases recorded <;> exact only_pure _

theorem passive_recordCleared : Passive (recordCleared volume) := by
  unfold recordCleared
  split_ifs
  · exact only_pure _
  refine only_bind (passive_publishingNodes _) (either (fun _ => only_pure _) fun nodes => ?_)
  refine only_bind (passive_recordObligations _ _) fun recorded => ?_
  cases recorded <;> exact only_pure _

/-! ## Running instances -/

theorem passive_unmountOne : Passive (unmountOne node request) := by
  refine only_bind (passive_call trivial) fun released => ?_
  cases released <;> exact only_pure _

theorem passive_mountOne : Passive (mountOne node request) := by
  refine only_bind (passive_call trivial) fun mounted => ?_
  cases mounted <;> exact only_pure _

theorem reading_checkExport : Reading (checkExport request) := by
  unfold checkExport
  split
  · exact only_pure _
  · exact only_pure _
  · refine only_bind (reading_ask _) fun parsed => ?_
    cases parsed <;> exact only_pure _

theorem passive_rollbackHotAttach : Passive (rollbackHotAttach node id request) := by
  refine only_bind (passive_call trivial) (either (fun _ => only_pure _) fun done => ?_)
  refine only_bind (passive_call trivial) fun _ => ?_
  refine only_bind (passive_unmountOne _ _) fun released => ?_
  cases released <;> exact only_pure _

namespace Manager

variable (id device volumeID : String) (force : Bool)

theorem reading_requests : Reading (requests id) := by
  refine only_bind (reading_call trivial) fun found => ?_
  cases found <;> exact only_pure _

theorem reading_attachDevice : Reading (attachDevice id device) := by
  unfold attachDevice
  split_ifs
  · refine only_bind (reading_call trivial) fun found => ?_
    cases found <;> exact only_pure _
  · exact only_pure _

theorem passive_tryBlockdevDel (attempts : Nat) :
    Passive (tryBlockdevDel id volumeID attempts) := by
  induction attempts with
  | zero => exact only_pure _
  | succ attempts induction =>
    refine only_bind (passive_call trivial) fun removed => ?_
    split
    · exact only_pure _
    · exact only_pure _
    · exact induction
    · exact only_pure _

theorem passive_requestUnplug : Passive (requestUnplug id volumeID force) := by
  refine only_bind (passive_call trivial) fun asked => ?_
  split
  · exact only_pure _
  · exact only_pure _
  · split_ifs <;> exact only_pure _

theorem passive_unplugVolume : Passive (unplugVolume id volumeID force) := by
  refine only_bind (passive_call trivial) fun dead => ?_
  split_ifs
  · exact only_pure _
  refine only_bind (passive_requestUnplug _ _ _) (either (fun _ => only_pure _) fun done => ?_)
  exact only_bind (passive_tryBlockdevDel _ _ _) (either (fun _ => only_pure _)
      fun done => only_bind (passive_call trivial) fun _ => only_pure _)

theorem passive_unmountVolumes
    (node : String) (requests : List EBSRequest) : Passive (unmountVolumes node requests) := by
  induction requests with
  | nil => exact only_pure _
  | cons request requests induction =>
    exact only_bind (passive_unmountOne _ _)
      (either (fun _ => only_bind induction fun _ => only_pure _) fun done => induction)

end Manager

/-! ## Stopped instances, the daemon and the gateway -/

theorem reading_loadVisible : Reading (loadVisible id account) := by
  refine only_bind (reading_call trivial) fun loaded => ?_
  rcases loaded with failure | _ | stored
  · exact only_pure _
  · exact only_pure _
  · dsimp only
    split_ifs <;> exact only_pure _

theorem reading_respondWithVolumeAttachment (id device : String) (state : AttachmentState) :
    Reading (respondWithVolumeAttachment volumeID id device state) :=
  only_bind (reading_ask _) fun _ => only_pure _

theorem reading_commandInstance : Reading (commandInstance id account) := by
  refine only_bind (reading_call trivial) (Option.forall.2 ⟨only_pure _, fun vm => ?_⟩)
  dsimp only
  split_ifs <;> exact only_pure _

theorem reading_attachUnavailable (volume : Volume) :
    Reading (attachUnavailable id volumeID device volume) := by
  unfold attachUnavailable
  split_ifs
  · exact only_pure _
  · exact reading_respondWithVolumeAttachment _ _ _ _
  · exact only_pure _

theorem passive_detachInstance (input : DetachVolumeInput) (volumeID account : String) :
    Passive (Gateway.detachInstance input volumeID account) := by
  unfold Gateway.detachInstance
  split_ifs
  · exact only_pure _
  refine only_bind (passive_getVolume _ _ _) (either (fun _ => only_pure _) fun volume => ?_)
  dsimp only
  split_ifs <;> exact only_pure _

end Spinifex.Ebs
