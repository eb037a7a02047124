import Spinifex.Ebs.Document
import Spinifex.State.KeyValue

/-!
# Snapshot documents and requests

The documents of volumes and snapshots as the object store keeps them under
the key of their owning account, the requests that create and delete them, and
the errors these are answered with.

Schema versions, the volume's name and its attachment's delete flag are read
by no function below and left out.
-/

namespace Spinifex.Snapshots

open Aws Go

/-! ## Errors -/

/-- The error values the requests tell apart besides those of a bucket. -/
inductive Sentinel where
  | noSuchKey
  | corruptDocument
  | volumeInUse
  | unavailable
  | noResponders
  | connectionClosed
  | timeout
  | deadlineExceeded
deriving DecidableEq, Repr

/-- An error of the stores and of the provider. -/
abbrev Failure := State.Failure Sentinel

/-- `IsNoSuchKeyError`. -/
def isNoSuchKey (failure : Failure) : Bool :=
  failure.is (.own .noSuchKey)

/-- The error codes these requests are answered with. -/
inductive ErrorCode where
  | authFailure
  | incorrectState
  | invalidAvailabilityZone
  | invalidParameterValue
  | invalidSnapshotInUse
  | invalidSnapshotNotFound
  | invalidVolumeNotFound
  | serverInternal
  | serviceUnavailable
  | unauthorizedOperation
  | unknownVolumeType
  | volumeInUse
deriving DecidableEq, Repr

/--
What a request fails with: a code and its registered message, a code and a
message of its own, or the error of a store as it is.
-/
inductive APIError where
  | code (code : ErrorCode)
  | message (code : ErrorCode) (text : String)
  | plain (failure : Failure)
deriving DecidableEq, Repr

/-! ## Documents -/

/-- Where a document of either kind is stored. -/
structure Key where
  account : String
  id : String
deriving DecidableEq, Repr

/-- `partitionedKey`: a key, if both of its parts are well formed. -/
def partitionedKey (account id : String) : Except Failure Key :=
  if isAccountID account = false then
    .error ⟨[], "invalid EBS metadata account ID " ++ Failure.quoted account⟩
  else if id = "" ∨ id = "." ∨ id = ".." ∨ id.toList.any fun rune => rune = '/' || rune = '\\' then
    .error ⟨[], "invalid EBS metadata ID " ++ Failure.quoted id⟩
  else
    .ok ⟨account, id⟩

theorem partitionedKey_eq_ok {account id : String}
    (valid : partitionedKey account id = .ok key) : key = ⟨account, id⟩ := by
  unfold partitionedKey at valid
  split_ifs at valid
  cases valid
  rfl

/-- `ebsmetadata.Volume` with what the creation of a volume records. -/
structure Volume extends Ebs.Volume where
  createdAt : Int
  throughput : Int
  snapshotID : String
  encrypted : Bool
deriving DecidableEq, Repr

namespace Volume

/-- The key `PutVolume` writes a document under. -/
def home (volume : Volume) : Key :=
  ⟨volume.tenantID, volume.volumeID⟩

/-- No deletion of the volume has been accepted. -/
def Live (volume : Volume) : Prop :=
  volume.state ≠ .deleting

instance (volume : Volume) : Decidable volume.Live :=
  inferInstanceAs (Decidable (volume.state ≠ .deleting))

/-- The document with another attachment. -/
def attach (volume : Volume) (state : Ebs.VolumeState) (attachedInstance deviceName : String)
    (attachedAt : Option Int) : Volume :=
  { volume with
    state := state
    attachedInstance := attachedInstance
    deviceName := deviceName
    attachedAt := attachedAt }

end Volume

/-- The states of a snapshot; an unset state is `blank`. -/
inductive SnapshotState where
  | pending
  | completed
  | error
  | blank
  | other (text : String)
deriving DecidableEq, Repr

/-- `ebsmetadata.Snapshot`. -/
structure Snapshot where
  snapshotID : String
  volumeID : String
  volumeSize : Int
  state : SnapshotState
  progress : String
  startTime : Int
  description : String
  encrypted : Bool
  ownerID : String
  availabilityZone : String
  tags : List (String × String)
  providerHandle : String
deriving DecidableEq, Repr

/-- The key `PutSnapshot` writes a document under. -/
def Snapshot.home (snapshot : Snapshot) : Key :=
  ⟨snapshot.ownerID, snapshot.snapshotID⟩

/-- A document a listing could not use, and why. -/
structure UnreadableDocument where
  key : Key
  failure : Failure
deriving DecidableEq, Repr

/-- What `listPartial` and `listTolerant` do about absent documents. -/
inductive ListMode where
  | listTolerant
  | listPartial
deriving DecidableEq, Repr

/-! ## The provider -/

/-- The part of a provider's snapshot that is recorded. -/
structure ProviderSnapshot where
  state : SnapshotState
  handle : String
deriving DecidableEq, Repr

/-- `CreateVolumeRequest` of the provider. -/
structure ProviderVolumeRequest where
  volumeID : String
  requiredBytes : Int
  availabilityZone : String
  sourceSnapshotID : String
  sourceSnapshotVolumeID : String
deriving DecidableEq, Repr

/-! ## Requests -/

/-- `CreateVolumeInput`, with the tags meant for the volume. -/
structure CreateVolumeInput where
  volumeType : Option String
  availabilityZone : Option String
  snapshotID : Option String
  size : Option Int
  iops : Option Int
  throughput : Option Int
  tags : List (String × String)
deriving DecidableEq, Repr

/-- `CreateSnapshotInput`, with the tags meant for the snapshot. -/
structure CreateSnapshotInput where
  volumeID : Option String
  description : Option String
  tags : List (String × String)
deriving DecidableEq, Repr

/-- `CopySnapshotInput`, with the tags meant for the copy. -/
structure CopySnapshotInput where
  sourceSnapshotID : Option String
  description : Option String
  tags : List (String × String)
deriving DecidableEq, Repr

/-! ## The gp3 envelope -/

/-- `VolumeTypeGP3`, the only type served. -/
def volumeTypeGP3 : String := "gp3"

/-- `DefaultGP3IOPS`. -/
def defaultGP3IOPS : Int := 3000

/-- `MaxGP3IOPS`. -/
def maxGP3IOPS : Int := 16000

/-- `GP3IOPSPerGiB`. -/
def gp3IOPSPerGiB : Int := 500

/-- `DefaultGP3Throughput`. -/
def defaultGP3Throughput : Int := 125

/-- `MaxGP3Throughput`. -/
def maxGP3Throughput : Int := 1000

/-- `ValidateVolumeType`. -/
def validateVolumeType (volumeType : String) : Except APIError Unit :=
  if volumeType = "" ∨ volumeType.toLower = volumeTypeGP3 then
    .ok ()
  else
    .error (.message .unknownVolumeType ("Unsupported volume type '" ++ volumeType ++
      "' for volume creation. Supported volume types: " ++
      volumeTypeGP3 ++ "."))

/-- The size of a new volume: as asked for, or that of its snapshot. -/
def chooseSize (asked : Option Int) (snapshotSizeGiB : Int) : Except APIError Int :=
  match asked with
  | some size =>
    if size < 1 ∨ size > 16384 then
      .error (.code .invalidParameterValue)
    else if 0 < snapshotSizeGiB ∧ size < snapshotSizeGiB then
      .error (.code .invalidParameterValue)
    else
      .ok size
  | none =>
    if 0 < snapshotSizeGiB then .ok snapshotSizeGiB else .error (.code .invalidParameterValue)

/-- The operations per second of a new volume of a size. -/
def chooseIOPS (asked : Option Int) (size : Int) : Except APIError Int :=
  let iops := asked.getD defaultGP3IOPS
  let maxIOPS := min (max (size * gp3IOPSPerGiB) defaultGP3IOPS) maxGP3IOPS
  if iops < defaultGP3IOPS ∨ iops > maxIOPS then .error (.code .invalidParameterValue) else .ok iops

/-- The throughput of a new volume. -/
def chooseThroughput (asked : Option Int) : Except APIError Int :=
  let throughput := asked.getD defaultGP3Throughput
  if throughput < defaultGP3Throughput ∨ throughput > maxGP3Throughput then
    .error (.code .invalidParameterValue)
  else
    .ok throughput

end Spinifex.Snapshots
