import Spinifex.Ebs.Teardown

/-!
# Volumes of running instances

`Manager.AttachVolume` publishes a volume on its node, adds a block node to the
guest, records the volume as in use and only then plugs the device in; a step
that fails undoes those before it.  `Manager.DetachVolume` goes the other way.
Both hold the instance's hot-plug lock throughout.

Waiting for the guest and writing the node's own copy of the record change
nothing that a later call depends on and are left out.
-/

namespace Spinifex.Ebs

open Aws Concurrency Go

/-! ## Exports -/

/-- How a volume's backing store reaches the guest. -/
inductive ExportKind where
  | nbd
  | block
deriving DecidableEq, Repr

/-- `applyExport`: record an export as the one the guest attaches. -/
def applyExport (request : EBSRequest) : Export → EBSRequest
  | .block path sizeBytes =>
    { request with nbdURI := "", blockDevice := path, blockSizeBytes := sizeBytes }
  | .nbd uri =>
    { request with nbdURI := uri, blockDevice := "", blockSizeBytes := 0 }

/-- `classifyVolumeExport`: which export a request carries. -/
def classifyVolumeExport (request : EBSRequest) : Except Failure ExportKind :=
  let invalid (text : String) : Except Failure ExportKind :=
    .error ⟨[], "volume " ++ request.name ++ text⟩
  let device := " BlockDevice " ++ Failure.quoted request.blockDevice
  if request.nbdURI ≠ "" ∧ request.blockDevice ≠ "" then
    invalid " has both NBDURI and BlockDevice set"
  else if request.blockSizeBytes ≠ 0 ∧ request.blockDevice = "" then
    invalid " has BlockSizeBytes set without BlockDevice"
  else if request.nbdURI ≠ "" then
    .ok .nbd
  else if request.blockDevice ≠ "" then
    if request.blockDevice.toList.head? ≠ some '/' then
      invalid (device ++ " is not an absolute path")
    else if ',' ∈ request.blockDevice.toList then
      invalid (device ++ " contains a comma")
    else if request.blockSizeBytes = 0 then
      invalid (device ++ " has zero BlockSizeBytes")
    else
      .ok .block
  else
    .error ⟨[], "NBDURI not set for volume " ++ request.name ++ " - was volume mounted?"⟩

/-- The check of an export before the guest is given it. -/
def checkExport (request : EBSRequest) : Session (Except Failure Unit) := do
  match classifyVolumeExport request with
  | .error failure => return .error (context "volume export" failure)
  | .ok .block => return .ok ()
  | .ok .nbd =>
    match ← ask (.parseNBDURI request.nbdURI) with
    | .error failure => return .error (context "parse NBDURI" failure)
    | .ok () => return .ok ()

/-- The error of a failed publish. -/
def mountFailure (volumeID : String) : MountFault → Failure
  | .settling =>
    ⟨[.volumeSettling, .mountRetryable],
      "publish volume " ++ volumeID ++ ": " ++ Sentinel.volumeSettling.text ++ ": " ++
        Sentinel.mountRetryable.text⟩
  | .retryable =>
    ⟨[.mountRetryable], "publish volume " ++ volumeID ++ ": " ++ Sentinel.mountRetryable.text⟩
  | .ambiguous =>
    ⟨[.mountAmbiguous], "publish volume " ++ volumeID ++ ": " ++ Sentinel.mountAmbiguous.text⟩
  | .refused => ⟨[], "publish volume " ++ volumeID⟩

/-- `MountOne`: publish a volume and note its export. -/
def mountOne (node : String) (request : EBSRequest) : Session (Except Failure EBSRequest) := do
  match ← call (.publish node request.name) with
  | .error fault => return .error (mountFailure request.name fault)
  | .ok exported => return .ok (applyExport request exported)

/-- `UnmountOne`, and `rollbackUnmount`: unpublish a volume. -/
def unmountOne (node : String) (request : EBSRequest) : Session (Except Failure Unit) := do
  match ← call (.unpublish node request.name) with
  | .error failure =>
    return .error (context ("unpublish volume " ++ request.name) failure)
  | .ok () => return .ok ()

/-! ## Attaching -/

/-- `sendQMPCommand`. -/
def sendQMPCommand (id volumeID : String) (command : QMPCommand) : Session (Except QMPError Unit) :=
  call (.qmp id volumeID command)

/-- The error of a failed monitor command. -/
def qmpFailure (command : String) (error : QMPError) : Failure :=
  ⟨[], "QMP " ++ command ++ ": " ++ error.text⟩

/-- `rollbackHotAttach`: if the volume is out of the guest again. -/
def rollbackHotAttach (node id : String) (request : EBSRequest) : Session Bool := do
  match ← sendQMPCommand id request.name .blockdevDel with
  | .error _ => return false
  | .ok () =>
    let _ ← sendQMPCommand id request.name .objectDel
    match ← unmountOne node request with
    | .error _ => return false
    | .ok () => return true

namespace Manager

/-- The requests an instance's record lists now. -/
def requests (id : String) : Session (List EBSRequest) := do
  match ← call (.get id) with
  | none => return []
  | some vm => return vm.ebsRequests

/-- The device an attach takes. -/
def attachDevice (id device : String) : Session String := do
  if device = "" then
    match ← call (.get id) with
    | none => return ""
    | some vm => return nextAvailableDevice vm
  else
    return device

/-- The end of an attach: plug the device in and record it. -/
def plugDevice (node id account : String) (request : EBSRequest) :
    Session (Except Failure String) := do
  match ← sendQMPCommand id request.name (.deviceAdd request.hotplugPort) with
  | .error error =>
    if ← rollbackHotAttach node id request then
      let _ ← updateVolumeState account request.name .available "" ""
      return .error (qmpFailure "device_add" error)
    else
      return .error (qmpFailure "device_add" error)
  | .ok () =>
    call (.updateState id (recordRequest request))
    call (.updateState id (addMapping request.name request.deviceName))
    return .ok request.deviceName

/-- Record a backed volume as in use before the guest can write it. -/
def claimVolume (node id account : String) (request : EBSRequest) :
    Session (Except Failure String) := do
  match ← updateVolumeState account request.name .inUse id request.deviceName with
  | .error failure =>
    let _ ← rollbackHotAttach node id request
    return .error (context ("persist in-use state for volume " ++ request.name) failure)
  | .ok () => plugDevice node id account request

/-- Give the guest the block node of a mounted volume. -/
def backVolume (node id account : String) (request : EBSRequest) :
    Session (Except Failure String) := do
  match ← sendQMPCommand id request.name .objectAdd with
  | .error error =>
    let _ ← unmountOne node request
    return .error (qmpFailure "object-add iothread" error)
  | .ok () =>
    match ← sendQMPCommand id request.name .blockdevAdd with
    | .error error =>
      let _ ← sendQMPCommand id request.name .objectDel
      let _ ← unmountOne node request
      return .error (qmpFailure "blockdev-add" error)
    | .ok () => claimVolume node id account request

/-- An attach whose volume is mounted. -/
def attachMounted (node id account : String) (request : EBSRequest) :
    Session (Except Failure String) := do
  match ← checkExport request with
  | .error failure =>
    let _ ← unmountOne node request
    return .error failure
  | .ok () =>
    let port := freeHotplugEBSPort (← requests id)
    if port = 0 then
      let _ ← unmountOne node request
      return .error Sentinel.attachmentLimitExceeded.failure
    else
      backVolume node id account { request with hotplugPort := port }

/-- An attach that holds the hot-plug lock. -/
def attachLocked (node id account volumeID device : String) : Session (Except Failure String) := do
  let device ← attachDevice id device
  if device = "" then
    return .error Sentinel.attachmentLimitExceeded.failure
  else
    let request := EBSRequest.new volumeID device false
    match ← mountOne node request with
    | .error failure =>
      if failure.is .mountAmbiguous then
        let _ ← unmountOne node request
        return .error (context ("mount volume " ++ volumeID) failure)
      else
        return .error (context ("mount volume " ++ volumeID) failure)
    | .ok request => attachMounted node id account request

/-- Run a step under the hot-plug lock of an instance. -/
def withAttachMu (id : String) (step : Session (Except Failure String)) :
    Session (Except Failure String) := do
  call (.lock id)
  let result ← step
  call (.unlock id)
  return result

/-- `Manager.AttachVolume`. -/
def attachVolume (node id volumeID device : String) : Session (Except Failure String) := do
  match ← call (.get id) with
  | none => return .error Sentinel.instanceNotFound.failure
  | some vm =>
    if vm.directBoot then
      return .error (Sentinel.hotAttachUnsupported.failure.detail ("instance " ++ id))
    else if vm.status ≠ .running then
      return .error (Sentinel.invalidTransition.failure.detail
        ("cannot attach to instance " ++ id ++ " in state " ++ vm.status.text))
    else
      withAttachMu id (attachLocked node id vm.accountID volumeID device)

/-! ## Detaching -/

/-- `blockdevDelMaxAttempts`. -/
def blockdevDelMaxAttempts : Nat := 20

/-- `tryBlockdevDel`: the attempts that are left. -/
def tryBlockdevDel (id volumeID : String) :
    Nat → Session (Except QMPError Unit)
  | 0 => return .error .nodeInUse
  | attempts + 1 => do
      match ← sendQMPCommand id volumeID .blockdevDel with
      | .ok () => return .ok ()
      | .error .nodeNotFound => return .ok ()
      | .error .nodeInUse => tryBlockdevDel id volumeID attempts
      | .error error => return .error error

/-- Ask the guest to let go of a device. -/
def requestUnplug (id volumeID : String) (force : Bool) : Session (Except Failure Unit) := do
  match ← sendQMPCommand id volumeID .deviceDel with
  | .ok () => return .ok ()
  | .error .deviceNotFound => return .ok ()
  | .error error =>
    if force then
      return .ok ()
    else
      return .error (qmpFailure "device_del" error)

/-- Take a volume out of the guest. -/
def unplugVolume (id volumeID : String) (force : Bool) : Session (Except Failure Unit) := do
  if ← call (.qemuConfirmedDead id) then
    return .ok ()
  else
    match ← requestUnplug id volumeID force with
    | .error failure => return .error failure
    | .ok () =>
      match ← tryBlockdevDel id volumeID blockdevDelMaxAttempts with
      | .error error => return .error (qmpFailure "blockdev-del" error)
      | .ok () =>
        let _ ← sendQMPCommand id volumeID .objectDel
        return .ok ()

/-- The end of a detach: unpublish, and clear the records. -/
def releaseVolume (node id account : String) (request : EBSRequest) :
    Session (Except Failure String) := do
  match ← unmountOne node request with
  | .error failure => return .error (context "unpublish seal" failure)
  | .ok () =>
    call (.updateState id (dropRequest request.name))
    call (.updateState id (dropMappings request.name))
    let _ ← updateVolumeState account request.name .available "" ""
    return .ok request.deviceName

/-- A detach that holds the hot-plug lock. -/
def detachLocked (node id account volumeID device : String) (force : Bool) :
    Session (Except Failure String) := do
  let requests ← requests id
  match requests.find? fun request => request.name = volumeID with
  | none => return .error (Sentinel.volumeNotAttached.failure.detail volumeID)
  | some request =>
    if request.boot || request.efi then
      return .error (Sentinel.volumeNotDetachable.failure.detail volumeID)
    else if device ≠ "" ∧ request.deviceName ≠ "" ∧ device ≠ request.deviceName then
      return .error (Sentinel.volumeDeviceMismatch.failure.detail
        ("requested " ++ device ++ ", recorded " ++ request.deviceName))
    else
      match ← unplugVolume id request.name force with
      | .error failure => return .error failure
      | .ok () => releaseVolume node id account request

/-- `Manager.DetachVolume`. -/
def detachVolume (node id volumeID device : String) (force : Bool) :
    Session (Except Failure String) := do
  match ← call (.get id) with
  | none => return .error Sentinel.instanceNotFound.failure
  | some vm =>
    if vm.status ≠ .running then
      return .error (Sentinel.invalidTransition.failure.detail
        ("cannot detach from instance " ++ id ++ " in state " ++ vm.status.text))
    else
      withAttachMu id (detachLocked node id vm.accountID volumeID device force)

end Manager

end Spinifex.Ebs
