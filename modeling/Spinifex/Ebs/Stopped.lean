import Spinifex.Ebs.Teardown

/-!
# Volumes of stopped instances

A stopped instance has no guest, so its volumes are changed by editing its
record in the shared bucket.  An attach claims the volume's document first and
releases it again if the record edit fails; a detach edits the record first
and leaves the document to its caller.
-/

namespace Spinifex.Ebs

open Aws Concurrency Go

/-- `IsInstanceVisible`: whose instances an account may see. -/
def isInstanceVisible (caller owner : String) : Bool :=
  if owner = "" then caller = globalAccountID else caller = owner

/-- The stopped instance of a request, if the caller may see it. -/
def loadVisible (id account : String) : Session (Except ErrorCode VM) := do
  match ← call (.loadStopped id) with
  | .error _ => return .error .serverInternal
  | .ok none => return .error .invalidInstanceIDNotFound
  | .ok (some stored) =>
    if isInstanceVisible account stored.accountID then
      return .ok stored
    else
      return .error .invalidInstanceIDNotFound

/-- The error code of a failed record update. -/
def updateErrorCode (failure : Failure) : ErrorCode :=
  if failure.is .recordNotFound then .incorrectInstanceState else .serverInternal

/-! ## Detaching -/

/-- `DetachVolumeFromStopped`: remove a volume from the record. -/
def detachVolumeFromStopped (id volumeID account : String) :
    Session (Except ErrorCode VolumeAttachment) := do
  if id = "" ∨ volumeID = "" then
    return .error .missingParameter
  else
    match ← loadVisible id account with
    | .error code => return .error code
    | .ok stored =>
      match findVolumeRequest stored volumeID with
      | none => return .error .incorrectState
      | some request =>
        if request.efi then
          return .error .operationNotPermitted
        else
          let update ← call (.updateStopped id fun vm => (removeVolumeFromRecord volumeID vm).1)
          match update.result with
          | .error failure => return .error (updateErrorCode failure)
          | .ok vm =>
            if (removeVolumeFromRecord volumeID vm).2 then
              return .ok ⟨volumeID, some id, some request.deviceName, none, .detaching⟩
            else
              return .error .incorrectState

/-! ## Attaching -/

/-- `AttachVolumeInput`; a parameter that is not given is `none`. -/
structure AttachVolumeInput where
  volumeID : Option String
  instanceID : Option String
  device : Option String
deriving DecidableEq, Repr

/-- The record edit of an attach: nothing if the device is taken. -/
def addUnlessTaken (volumeID device : String) (boot : Bool) (vm : VM) : VM :=
  match stoppedAttachDevice vm device with
  | .error _ => vm
  | .ok _ => addVolumeToRecord volumeID device boot vm

def releaseClaim (claimed : Volume) : Session (Except Failure Unit) :=
  putVolume claimed (claimed.attach .available "" "" none)

/-- The conflict an attach remembers: the last that an attempt found. -/
def conflictIn (device : String) (found : List VM) : Option ErrorCode :=
  found.findSome? fun vm =>
    match stoppedAttachDevice vm device with
    | .error conflict => some conflict
    | .ok _ => none

/-- Add a claimed volume to the record. -/
def recordClaim (id device : String) (boot : Bool) (claimed : Volume) :
    Session (Except ErrorCode VolumeAttachment) := do
  let update ← call (.updateStopped id (addUnlessTaken claimed.volumeID device boot))
  match conflictIn device update.found, update.result with
  | some conflict, _ =>
    let _ ← releaseClaim claimed
    return .error conflict
  | none, .error failure =>
    let _ ← releaseClaim claimed
    return .error (updateErrorCode failure)
  | none, .ok _ =>
    return .ok ⟨claimed.volumeID, some id, some device, none, .attaching⟩

/-- Claim an available volume and add it to the record. -/
def claimForStopped (id device : String) (boot : Bool) (volume : Volume) :
    Session (Except ErrorCode VolumeAttachment) := do
  let time ← now
  let claimed := volume.attach .inUse id device (some time)
  match ← putVolume volume claimed with
  | .error _ => return .error .serverInternal
  | .ok () => recordClaim id device boot claimed

/-- A volume in another zone than the node cannot be attached. -/
def zoneMismatch (volume : Volume) (zone : String) : Bool :=
  decide (volume.availabilityZone ≠ "") && decide (zone ≠ "") &&
    decide (volume.availabilityZone ≠ zone)

/-- `AttachVolumeToStopped`. -/
def attachVolumeToStopped (id volumeID device account : String) :
    Session (Except ErrorCode VolumeAttachment) := do
  if id = "" ∨ volumeID = "" then
    return .error .missingParameter
  else
    match ← loadVisible id account with
    | .error code => return .error code
    | .ok stored =>
      match ← getVolume account volumeID .inspect with
      | .error failure =>
        if failure.is .noSuchKey then
          return .error .invalidVolumeNotFound
        else
          return .error .serverInternal
      | .ok volume =>
        if volume.tenantID ≠ account then
          return .error .invalidVolumeNotFound
        else if volume.state ≠ .available then
          return .error .volumeInUse
        else if zoneMismatch volume (← ask .zone) then
          return .error .invalidVolumeZoneMismatch
        else
          match stoppedAttachDevice stored device with
          | .error code => return .error code
          | .ok (device, boot) => claimForStopped id device boot volume

end Spinifex.Ebs
