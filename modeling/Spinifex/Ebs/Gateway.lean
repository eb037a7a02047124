import Spinifex.Ebs.Terminate

/-!
# The volume requests of the API

The daemon that runs an instance checks a command and hands it to its manager;
the gateway decides from the shared record if an instance is stopped and sends
the request to the node that runs it, or to any node.  A reply that does not
arrive in time leaves the caller with an error while the work is done.

A deployment is a cluster and one request per index, so its reachable pools
are those of every interleaving of any number of requests.
-/

namespace Spinifex.Ebs

open Aws Concurrency Go

/-! ## The daemon -/

/-- `attachDetachErrorCode`. -/
def attachDetachErrorCode (failure : Failure) : ErrorCode :=
  if failure.is .instanceNotFound then
    .invalidInstanceIDNotFound
  else if failure.is .invalidTransition then
    .incorrectInstanceState
  else if failure.is .hotAttachUnsupported then
    .unsupportedOperation
  else if failure.is .attachmentLimitExceeded then
    .attachmentLimitExceeded
  else if failure.is .volumeNotAttached || failure.is .volumeSettling then
    .incorrectState
  else if failure.is .volumeNotDetachable then
    .operationNotPermitted
  else if failure.is .volumeDeviceMismatch then .invalidParameterValue else .serverInternal

namespace Daemon

/-- `respondWithVolumeAttachment`. -/
def respondWithVolumeAttachment (volumeID id device : String) (state : AttachmentState) :
    Session (Except ErrorCode VolumeAttachment) := do
  let time ← now
  return .ok ⟨volumeID, some id, some device, some time, state⟩

/-- The instance of a command, if it runs here and the caller owns it. -/
def commandInstance (id account : String) : Session (Except ErrorCode VM) := do
  match ← call (.get id) with
  | none => return .error .invalidInstanceIDNotFound
  | some vm =>
    if isInstanceVisible account vm.accountID then
      return .ok vm
    else
      return .error .invalidInstanceIDNotFound

/-- An attach of a volume that is not available. -/
def attachUnavailable (id volumeID device : String) (volume : Volume) :
    Session (Except ErrorCode VolumeAttachment) := do
  if volume.attachedInstance = id then
    if device ≠ "" ∧ device ≠ volume.deviceName then
      return .error .volumeInUse
    else
      respondWithVolumeAttachment volumeID id volume.deviceName .attached
  else
    return .error .volumeInUse

def attachThroughManager (node id volumeID device : String) :
    Session (Except ErrorCode VolumeAttachment) := do
  match ← Manager.attachVolume node id volumeID device with
  | .error failure => return .error (attachDetachErrorCode failure)
  | .ok device => respondWithVolumeAttachment volumeID id device .attached

/-- The checks of an attach against the volume's document. -/
def attachChecked (node id volumeID device account : String) :
    Session (Except ErrorCode VolumeAttachment) := do
  match ← getVolumeMetadata account volumeID with
  | .error _ => return .error .invalidVolumeNotFound
  | .ok volume =>
    if volume.tenantID ≠ account then
      return .error .invalidVolumeNotFound
    else if volume.state ≠ .available then
      attachUnavailable id volumeID device volume
    else if zoneMismatch volume (← ask .zone) then
      return .error .invalidVolumeZoneMismatch
    else
      attachThroughManager node id volumeID device

/-- `handleAttachVolume`, behind the checks of `dispatchEC2Command`. -/
def handleAttachVolume (node id volumeID device account : String) :
    Session (Except ErrorCode VolumeAttachment) := do
  match ← commandInstance id account with
  | .error code => return .error code
  | .ok _ =>
    if volumeID = "" then
      return .error .invalidParameterValue
    else
      match ← call (.get id) with
      | none => return .error .invalidInstanceIDNotFound
      | some vm =>
        if vm.status ≠ .running then
          return .error .incorrectInstanceState
        else
          attachChecked node id volumeID device account

/-- `handleDetachVolume`, behind the checks of `dispatchEC2Command`. -/
def handleDetachVolume (node id volumeID device account : String) (force : Bool) :
    Session (Except ErrorCode VolumeAttachment) := do
  match ← commandInstance id account with
  | .error code => return .error code
  | .ok _ =>
    if volumeID = "" then
      return .error .invalidParameterValue
    else
      match ← Manager.detachVolume node id volumeID device force with
      | .error failure => return .error (attachDetachErrorCode failure)
      | .ok device => respondWithVolumeAttachment volumeID id device .detaching

end Daemon

/-! ## The gateway -/

namespace Gateway

/-- Wait for the reply of a request that some node handles. -/
def natsRequest (handler : Session (Except ErrorCode VolumeAttachment)) :
    Session (Except ErrorCode VolumeAttachment) := do
  let reply ← handler
  if ← ask .replyArrives then
    return reply
  else
    return .error .serverInternal

/-- Send an attach to the node that runs the instance. -/
def attachToRunning (id volumeID device account : String) :
    Session (Except ErrorCode VolumeAttachment) := do
  match ← call (.route id) with
  | some node =>
    natsRequest (Daemon.handleAttachVolume node id volumeID device account)
  | none =>
    if ← call (.isStopped id) then
      return .error .incorrectInstanceState
    else
      return .error .invalidInstanceIDNotFound

/-- `AttachVolume`. -/
def attachVolume (input : AttachVolumeInput) (account : String) :
    Session (Except ErrorCode VolumeAttachment) := do
  let volumeID := input.volumeID.getD ""
  let id := input.instanceID.getD ""
  let device := input.device.getD ""
  if volumeID = "" ∨ id = "" then
    return .error .invalidParameterValue
  else if ← call (.isStopped id) then
    natsRequest (attachVolumeToStopped id volumeID device account)
  else
    attachToRunning id volumeID device account

/-- The instance a detach without one is about. -/
def attachedInstance (volumeID account : String) : Session (Except ErrorCode String) := do
  match ← getVolume account volumeID .inspect with
  | .error _ => return .error .invalidVolumeNotFound
  | .ok volume =>
    if volume.tenantID ≠ account then
      return .error .invalidVolumeNotFound
    else if volume.attachedInstance = "" then
      return .error .incorrectState
    else
      return .ok volume.attachedInstance

/-- The instance of a detach, named or looked up. -/
def detachInstance (input : DetachVolumeInput) (volumeID account : String) :
    Session (Except ErrorCode String) := do
  if input.instanceID.getD "" ≠ "" then
    return .ok (input.instanceID.getD "")
  else
    attachedInstance volumeID account

/-- `forceDetach`: release a volume whose instance does not answer. -/
def forceDetach (volumeID account : String) : Session (Except ErrorCode VolumeAttachment) :=
  natsRequest (forceDetachVolume ⟨some volumeID, none, none, some true⟩ account)

/-- `detachFromStopped`: edit the record, then release the volume. -/
def detachFromStopped (id volumeID account : String) :
    Session (Except ErrorCode VolumeAttachment) := do
  match ← natsRequest (detachVolumeFromStopped id volumeID account) with
  | .error code => return .error code
  | .ok _ => forceDetach volumeID account

/-- Send a detach to the node that runs the instance. -/
def detachFromRunning (id volumeID device account : String) (force : Bool) :
    Session (Except ErrorCode VolumeAttachment) := do
  match ← call (.route id) with
  | some node =>
    natsRequest (Daemon.handleDetachVolume node id volumeID device account force)
  | none =>
    if force then
      forceDetach volumeID account
    else
      return .error .invalidInstanceIDNotFound

/-- `DetachVolume`. -/
def detachVolume (input : DetachVolumeInput) (account : String) :
    Session (Except ErrorCode VolumeAttachment) := do
  let volumeID := input.volumeID.getD ""
  if volumeID = "" then
    return .error .invalidParameterValue
  else
    match ← detachInstance input volumeID account with
    | .error code => return .error code
    | .ok id =>
      if ← call (.isStopped id) then
        detachFromStopped id volumeID account
      else
        detachFromRunning id volumeID (input.device.getD "") account (input.force.getD false)

end Gateway

/-! ## Deployments -/

/-- What a deployment may be asked to do with its volumes. -/
inductive Request where
  | attachVolume (account : String) (input : AttachVolumeInput)
  | detachVolume (account : String) (input : DetachVolumeInput)
  | modifyVolume (account : String) (input : ModifyVolumeInput)
  | deleteVolume (account : String) (volumeID : Option String)
  | deleteVolumeOnTerminate
    (account volumeID : String) (owed : OwedUnpublish)
  | detachVolumeOnTerminate
    (account volumeID : String) (owed : OwedUnpublish)
  | terminateInstance (account id : String)
  | leakSweep
  | reclaimSweep
deriving DecidableEq, Repr

/-- What a request returns. -/
inductive Outcome where
  | attached (result : Except ErrorCode VolumeAttachment)
  | detached (result : Except ErrorCode VolumeAttachment)
  | modified
    (result : Except ErrorCode (Option VolumeModification))
  | deleted (result : Except ErrorCode Unit)
  | terminated (result : Except TeardownError Unit)
  | instanceTerminated (result : Except ErrorCode Unit)
  | swept (result : Swept)

def Request.program : Request → Session Outcome
  | .attachVolume account input => do
      return .attached (← Gateway.attachVolume input account)
  | .detachVolume account input => do
      return .detached (← Gateway.detachVolume input account)
  | .modifyVolume account input => do
      return .modified (← Ebs.modifyVolume input account)
  | .deleteVolume account volumeID => do
      return .deleted (← Ebs.deleteVolume volumeID account)
  | .deleteVolumeOnTerminate account volumeID owed => do
      return .terminated (← Ebs.deleteVolumeOnTerminate volumeID account owed)
  | .detachVolumeOnTerminate account volumeID owed => do
      return .terminated (← Ebs.detachVolumeOnTerminate volumeID account owed)
  | .terminateInstance account id => do
      return .instanceTerminated (← Gateway.terminateInstance id account)
  | .leakSweep => do
      return .swept (← Ebs.leakSweep)
  | .reclaimSweep => do
      return .swept (← Ebs.reclaimSweep)

/-- The calls of a deployment, its guests and its returns. -/
def system (Index : Type) : System Index Op Reply (Cluster Index) Outcome where
  perform := perform
  drift := Drift
  finish _ _ cluster := cluster

/-- A cluster, its calls in progress and their results. -/
abbrev RequestPool (Index : Type) :=
  Pool Index Op Reply (Cluster Index) Outcome

/-- A cluster and the requests made of it. -/
structure Deployment (Index : Type) where
  requests : Index → Request
  initial : Cluster Index

/-- The pool before the first step. -/
def Deployment.start {Index : Type} (deployment : Deployment Index) : RequestPool Index :=
  Pool.start deployment.initial fun index => (deployment.requests index).program

end Spinifex.Ebs
