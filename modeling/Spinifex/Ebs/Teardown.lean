import Spinifex.Ebs.Service

/-!
# Detaching, deleting and reclaiming

The writers that clear an attachment without a guest, the deletion of a
volume, and the two sweeps over every document.  `DeleteVolume` only records
the state `deleting`; the reclaimer tears the data down and removes the
document.
-/

namespace Spinifex.Ebs

open Aws Concurrency Go

/-! ## Clearing an attachment -/

/-- The states of an attachment the API reports. -/
inductive AttachmentState where
  | attached
  | attaching
  | detached
  | detaching
deriving DecidableEq, Repr

/-- `VolumeAttachment`; a field that is not set is `none`. -/
structure VolumeAttachment where
  volumeID : String
  instanceID : Option String
  device : Option String
  attachTime : Option Int
  state : AttachmentState
deriving DecidableEq, Repr

/-- `DetachVolumeInput`; a parameter that is not given is `none`. -/
structure DetachVolumeInput where
  volumeID : Option String
  instanceID : Option String
  device : Option String
  force : Option Bool
deriving DecidableEq, Repr

/-- Record what clearing an attachment leaves to the nodes. -/
def recordCleared (volume : Volume) : Session (Except ErrorCode Unit) := do
  if volume.attachedInstance = "" then
    return .ok ()
  else
    match ← publishingNodes volume.attachedInstance with
    | .error _ => return .error .internalError
    | .ok nodes =>
      match ← recordObligations volume nodes with
      | .error _ => return .error .internalError
      | .ok () => return .ok ()

/-- The attachment a forced detach reports. -/
def clearedAttachment (volumeID : String) (volume : Volume) : VolumeAttachment :=
  if volume.attachedInstance = "" then
    ⟨volumeID, none, none, none, .detached⟩
  else
    ⟨volumeID, some volume.attachedInstance,
      if volume.deviceName = "" then none else volume.deviceName,
      volume.attachedAt, .detaching⟩

/-- `ForceDetachVolume`: clear an attachment without its guest. -/
def forceDetachVolume (input : DetachVolumeInput) (account : String) :
    Session (Except ErrorCode VolumeAttachment) := do
  let volumeID := input.volumeID.getD ""
  if volumeID = "" then
    return .error .invalidParameterValue
  else
    match ← getVolume account volumeID .inspect with
    | .error failure =>
      if failure.is .noSuchKey then
        return .error .invalidVolumeNotFound
      else
        return .error .serverInternal
    | .ok volume =>
      if volume.tenantID ≠ account then
        return .error .invalidVolumeNotFound
      else if volume.state = .creating then
        return .error .incorrectState
      else
        match ← recordCleared volume with
        | .error code => return .error code
        | .ok () =>
          match ← updateVolumeState account volumeID .available "" "" with
          | .error _ => return .error .serverInternal
          | .ok () => return .ok (clearedAttachment volumeID volume)

/-! ## Deletion -/

/-- `DeleteVolume`: record the obligation to destroy a volume. -/
def deleteVolume (volumeID : Option String) (account : String) :
    Session (Except ErrorCode Unit) := do
  let volumeID := volumeID.getD ""
  if volumeID = "" then
    return .error .invalidParameterValue
  else
    match ← getVolume account volumeID .inspect with
    | .error failure =>
      if failure.is .noSuchKey then
        return .error .invalidVolumeNotFound
      else
        return .error .serverInternal
    | .ok volume =>
      if volume.tenantID ≠ account then
        return .error .invalidVolumeNotFound
      else if volume.state = .deleting then
        return .ok ()
      else if volume.attachedInstance ≠ "" ∨ volume.state ≠ .available ∧ volume.state ≠ .blank then
        return .error .volumeInUse
      else
        match ← ask (.hasSnapshots volumeID) with
        | .error _ => return .error .serverInternal
        | .ok true => return .error .volumeInUse
        | .ok false =>
          match ← updateVolumeState account volumeID .deleting "" "" with
          | .error _ => return .error .serverInternal
          | .ok () => return .ok ()

/-- The error of a terminate: one of the store or an error code. -/
inductive TeardownError where
  | failure (failure : Failure)
  | code (code : ErrorCode)
deriving DecidableEq, Repr

/-- Clear an attachment; a volume that is gone has none. -/
def clearAttachment (account volumeID : String) (wrap : Failure → Failure)
    (cleared : Session (Except TeardownError Unit)) : Session (Except TeardownError Unit) := do
  match ← updateVolumeState account volumeID .available "" "" with
  | .error failure =>
    if failure.is .noSuchKey then
      return .ok ()
    else
      return .error (.failure (wrap failure))
  | .ok () => cleared

/-- `DeleteVolumeOnTerminate`. -/
def deleteVolumeOnTerminate (volumeID account : String) (owed : OwedUnpublish) :
    Session (Except TeardownError Unit) := do
  let found ← getVolume account volumeID .inspect
  if (found.toOption.map Volume.state) = some .deleting then
    return .ok ()
  else
    match ← recordTerminateObligation account volumeID owed with
    | .error failure => return .error (.failure failure)
    | .ok () =>
      clearAttachment account volumeID (context "clear attachment before terminate delete") do
          match ← deleteVolume (some volumeID) account with
          | .error code => return .error (.code code)
          | .ok () => return .ok ()

/-- `DetachVolumeOnTerminate`. -/
def detachVolumeOnTerminate (volumeID account : String) (owed : OwedUnpublish) :
    Session (Except TeardownError Unit) := do
  match ← recordTerminateObligation account volumeID owed with
  | .error failure => return .error (.failure failure)
  | .ok () => clearAttachment account volumeID id (return .ok ())

/-! ## Sweeps -/

/-- How many volumes a sweep dealt with, and the error that ended it. -/
abbrev Swept := Nat × Option Failure

/-- The error of a sweep whose caller has gone. -/
def contextDone : Failure := ⟨[], "context canceled"⟩

/-- The volumes of a reclaim sweep that are left. -/
def reclaimVolumes (reclaimed : Nat) :
    List Volume → Session Swept
  | [] => return (reclaimed, none)
  | volume :: volumes => do
      if ← ask .cancelled then
        return (reclaimed, some contextDone)
      else if volume.state ≠ .deleting then
        reclaimVolumes reclaimed volumes
      else
        match ← ask (.teardownVolume volume.volumeID volume.providerHandle) with
        | .error _ => reclaimVolumes reclaimed volumes
        | .ok () =>
          match ← removeVolume volume.tenantID volume.volumeID with
          | .ok () => reclaimVolumes (reclaimed + 1) volumes
          | .error failure =>
            if failure.is .noSuchKey then
              reclaimVolumes (reclaimed + 1) volumes
            else
              reclaimVolumes reclaimed volumes

/-- `VolumeReclaimReaper.Sweep`. -/
def reclaimSweep : Session Swept := do
  match ← listAllVolumes with
  | .error failure => return (0, some failure)
  | .ok volumes => reclaimVolumes 0 volumes

/-- The tag of a volume surfaced as orphaned. -/
def orphanTagKey : String := "spinifex:orphaned"

/-- The tag naming the instance an orphaned volume was attached to. -/
def orphanInstanceTagKey : String := "spinifex:orphaned-instance"

/-- `markVolumeOrphaned`: tag a volume; the tags are those listed. -/
def markVolumeOrphaned (account volumeID : String) (tags : List (String × String))
    (attachedInstance : String) : Session (Except Failure Unit) := do
  let time ← ask .timestamp
  let tags := setTag (setTag tags orphanTagKey time) orphanInstanceTagKey attachedInstance
  match ← getVolume account volumeID .inspect with
  | .error failure => return .error failure
  | .ok volume => putVolume volume { volume with tags := tags }

/-- The volumes of a leak sweep that are left. -/
def markVolumes (leaked : List String) (marked : Nat) :
    List Volume → Session Swept
  | [] => return (marked, none)
  | volume :: volumes => do
      if ← ask .cancelled then
        return (marked, some contextDone)
      else if volume.attachedInstance = "" ∨ volume.attachedInstance ∉ leaked ∨
          volume.tag orphanTagKey ≠ "" then
        markVolumes leaked marked volumes
      else
        match ←
          markVolumeOrphaned volume.tenantID volume.volumeID
            volume.tags volume.attachedInstance with
        | .error _ => markVolumes leaked marked volumes
        | .ok () =>
          let _ ← updateVolumeState volume.tenantID volume.volumeID .available "" ""
          markVolumes leaked (marked + 1) volumes

/-- `VolumeLeakReaper.Sweep`. -/
def leakSweep : Session Swept := do
  match ← ask .leaked with
  | .error failure => return (0, some failure)
  | .ok leaked =>
    if leaked = [] then
      return (0, none)
    else
      match ← listAllVolumes with
      | .error failure => return (0, some failure)
      | .ok volumes => markVolumes leaked 0 volumes

end Spinifex.Ebs
