import Spinifex.Aws.Basic
import Spinifex.Go.Basic

/-!
# Volume documents

The control-plane record of a volume, as the object store keeps it under the
key of its owning account.  A document is read whole and written whole; the
store has no conditional write.

Fields that no function below reads or changes travel with a document
unchanged and are left out.
-/

namespace Spinifex.Ebs

open Aws Go

/-- The states of a volume; an unset state is `blank`. -/
inductive VolumeState where
  | creating
  | available
  | inUse
  | deleting
  | blank
  | other (text : String)
deriving DecidableEq, Repr

/-- `VolumeModification`: the last change of a volume's size. -/
structure VolumeModification where
  modificationState : String
  progress : Int
  originalSize : Int
  originalIOPS : Int
  originalVolumeType : String
  targetSize : Int
  targetIOPS : Int
  targetVolumeType : String
  startTime : Int
  endTime : Int
deriving DecidableEq, Repr

/-- `ebsmetadata.Volume`; an unset attach time is `none`. -/
structure Volume where
  volumeID : String
  tenantID : String
  capacityGiB : Nat
  state : VolumeState
  attachedAt : Option Int
  availabilityZone : String
  attachedInstance : String
  deviceName : String
  volumeType : String
  iops : Int
  tags : List (String × String)
  providerHandle : String
  modification : Option VolumeModification
deriving DecidableEq, Repr

namespace Volume

/-- The value of a tag, empty if it is unset. -/
def tag (volume : Volume) (name : String) : String :=
  (volume.tags.lookup name).getD ""

/-- The document with another attachment. -/
def attach (volume : Volume) (state : VolumeState) (attachedInstance deviceName : String)
    (attachedAt : Option Int) : Volume :=
  { volume with
    state := state
    attachedInstance := attachedInstance
    deviceName := deviceName
    attachedAt := attachedAt }

/-- The document says that the volume is in use by an instance. -/
def HeldBy (volume : Volume) (instanceID : String) : Prop :=
  volume.state = .inUse ∧ volume.attachedInstance = instanceID

/-- The document records an accepted deletion. -/
def Deleted (volume : Volume) : Prop :=
  volume.state = .deleting ∧ volume.attachedInstance = ""

end Volume

/-- Replace the value of a tag. -/
def setTag (tags : List (String × String)) (name value : String) : List (String × String) :=
  (name, value) :: tags.filter fun tag => tag.1 ≠ name

/-! ## Keys -/

/-- Where a document is stored. -/
structure Key where
  account : String
  volume : String
deriving DecidableEq, Repr

/-- The key `PutVolume` writes a document under. -/
def Volume.key (volume : Volume) : Key :=
  ⟨volume.tenantID, volume.volumeID⟩

@[simp]
theorem Volume.key_attach
    (volume : Volume) (state : VolumeState) (attachedInstance deviceName : String)
    (attachedAt : Option Int) :
    (volume.attach state attachedInstance deviceName attachedAt).key = volume.key :=
  rfl

/-! ## Errors -/

/-- The error values the attach and detach paths tell apart. -/
inductive Sentinel where
  | noSuchKey
  | recordNotFound
  | instanceNotFound
  | invalidTransition
  | hotAttachUnsupported
  | attachmentLimitExceeded
  | volumeNotAttached
  | volumeSettling
  | volumeNotDetachable
  | volumeDeviceMismatch
  | mountAmbiguous
  | mountRetryable
deriving DecidableEq, Repr

/-- An error of the volume services. -/
abbrev Failure := Go.Failure Sentinel

/-- The text each error value was made with. -/
def Sentinel.text : Sentinel → String
  | .noSuchKey => "NoSuchKey"
  | .recordNotFound => "kvstore: key not found"
  | .instanceNotFound => "instance not found"
  | .invalidTransition => "invalid state transition"
  | .hotAttachUnsupported =>
    "volume hot-attach is not supported on a direct-boot microvm"
  | .attachmentLimitExceeded => "attachment limit exceeded"
  | .volumeNotAttached => "volume not attached to instance"
  | .volumeSettling =>
    "volume is still being detached from an earlier attachment"
  | .volumeNotDetachable => "volume cannot be detached"
  | .volumeDeviceMismatch => "volume device name mismatch"
  | .mountAmbiguous => "publish reply carried no usable export"
  | .mountRetryable =>
    "volume mount failed against a not-yet-ready backing store"

/-- One of the error values. -/
def Sentinel.failure (sentinel : Sentinel) : Failure :=
  ⟨[sentinel], sentinel.text⟩

/-- `fmt.Errorf` with a text before a wrapped error. -/
def context (text : String) (cause : Failure) : Failure :=
  ⟨cause.sentinels, text ++ ": " ++ cause.text⟩

/-- `VolumeKey`: the key of a document, if both parts are well formed. -/
def volumeKey (account volumeID : String) : Except Failure Key :=
  if isAccountID account = false then
    .error ⟨[], "invalid EBS metadata account ID " ++ Failure.quoted account⟩
  else if volumeID = "" ∨ volumeID = "." ∨ volumeID = ".." ∨
      volumeID.toList.any fun rune => rune = '/' || rune = '\\' then
    .error ⟨[], "invalid EBS metadata ID " ++ Failure.quoted volumeID⟩
  else
    .ok ⟨account, volumeID⟩

theorem volumeKey_eq_ok
    (valid : volumeKey account volumeID = .ok key) : key = ⟨account, volumeID⟩ := by
  unfold volumeKey at valid
  split_ifs at valid
  cases valid
  rfl

end Spinifex.Ebs
