import Mathlib.Data.List.Perm.Basic
import Spinifex.Ebs.Document

/-!
# Instance records

The part of a `vm.VM` the volume paths work on: the mount list and the block
device mappings of the API view.  A stopped instance keeps its record in the
shared bucket, a running one in the memory of the node that runs it, and the
two paths that edit the lists are written separately.

The attach time, status and termination flag of a mapping are read by no
function here and are left out.
-/

namespace Spinifex.Ebs

open Aws Go

/-- `vm.InstanceState`. -/
inductive InstanceState where
  | provisioning
  | pending
  | running
  | stopping
  | stopped
  | shuttingDown
  | terminated
  | error
deriving DecidableEq, Repr

def InstanceState.text : InstanceState → String
  | .provisioning => "provisioning"
  | .pending => "pending"
  | .running => "running"
  | .stopping => "stopping"
  | .stopped => "stopped"
  | .shuttingDown => "shutting-down"
  | .terminated => "terminated"
  | .error => "error"

/-- `EBSRequest`: one entry of the mount list. -/
structure EBSRequest where
  name : String
  boot : Bool
  efi : Bool
  deviceName : String
  hotplugPort : Nat
  nbdURI : String
  blockDevice : String
  blockSizeBytes : Nat
  deleteOnTermination : Bool
deriving DecidableEq, Repr

/-- The request for a volume at a device, before anything is mounted. -/
def EBSRequest.new (volumeID device : String) (boot : Bool) : EBSRequest :=
  ⟨volumeID, boot, false, device, 0, "", "", 0, false⟩

/-- One block device mapping; an unset field is `none`. -/
structure BlockDeviceMapping where
  deviceName : Option String
  volumeID : Option String
deriving DecidableEq, Repr

/-- The part of an `ec2.Instance` the volume paths use. -/
structure Ec2Instance where
  rootDeviceName : String
  blockDeviceMappings : List BlockDeviceMapping
deriving DecidableEq, Repr

/-- The part of a `vm.VM` the volume paths use. -/
structure VM where
  accountID : String
  status : InstanceState
  directBoot : Bool
  ebsRequests : List EBSRequest
  ec2Instance : Option Ec2Instance
  terminationProtected : Bool
  lastNode : String
  unpublishOwed : List String
deriving DecidableEq, Repr

namespace VM

/-- The names of the volumes a record lists. -/
def volumes (vm : VM) : List String :=
  vm.ebsRequests.map EBSRequest.name

def mappings (vm : VM) : List BlockDeviceMapping :=
  (vm.ec2Instance.map Ec2Instance.blockDeviceMappings).getD []

/-- Change the mappings of a record that has an API view. -/
def editMappings (vm : VM) (edit : List BlockDeviceMapping → List BlockDeviceMapping) : VM :=
  { vm with
    ec2Instance := vm.ec2Instance.map fun ec2 =>
        { ec2 with blockDeviceMappings := edit ec2.blockDeviceMappings } }

/-- The device names a record uses. -/
def usedDevices (vm : VM) : List String :=
  (vm.ebsRequests.map EBSRequest.deviceName).filter (· ≠ "") ++
    vm.mappings.filterMap BlockDeviceMapping.deviceName

end VM

/-! ## Slots -/

/-- The device names AWS reserves for attached volumes. -/
def attachDevices : List String :=
  ["f", "g", "h", "i", "j", "k", "l", "m", "n", "o", "p"].map ("/dev/sd" ++ ·)

/-- `nextAvailableDevice`: the first free name, or none as `""`. -/
def nextAvailableDevice (vm : VM) : String :=
  (attachDevices.find? fun device => device ∉ vm.usedDevices).getD ""

/-- The number of hot-plug ports. -/
def ebsHotPlugSlotCount : Nat := 11

/-- `freeHotplugEBSPort`: the lowest free port, or none as 0. -/
def freeHotplugEBSPort (requests : List EBSRequest) : Nat :=
  (((List.range ebsHotPlugSlotCount).map (· + 1)).find?
    fun port => port ∉ requests.map EBSRequest.hotplugPort).getD 0

/-! ## The record of a stopped instance -/

/-- `findVolumeRequest`. -/
def findVolumeRequest (vm : VM) (volumeID : String) : Option EBSRequest :=
  vm.ebsRequests.find? fun request => request.name = volumeID

/-- Drop the first request for a volume. -/
def dropRequest (volumeID : String) (vm : VM) : VM :=
  { vm with ebsRequests := vm.ebsRequests.eraseP fun request => request.name = volumeID }

def dropMappings (volumeID : String) (vm : VM) : VM :=
  vm.editMappings fun mappings => mappings.filter fun mapping => mapping.volumeID ≠ some volumeID

/-- `removeVolumeFromRecord`: the record, and if a volume was there. -/
def removeVolumeFromRecord (volumeID : String) (vm : VM) : VM × Bool :=
  match findVolumeRequest vm volumeID with
  | none => (vm, false)
  | some request =>
    if request.efi then (vm, false) else (dropMappings volumeID (dropRequest volumeID vm), true)

/-- `RootDeviceName`: the root device of every image. -/
def defaultRootDeviceName : String := "/dev/sda1"

def rootDeviceName (vm : VM) : String :=
  match vm.ec2Instance with
  | some ec2 =>
    if ec2.rootDeviceName ≠ "" then ec2.rootDeviceName else defaultRootDeviceName
  | none => defaultRootDeviceName

/-- `stoppedAttachDevice`: the device a volume takes, and if it boots. -/
def stoppedAttachDevice (vm : VM) (requested : String) : Except ErrorCode (String × Bool) :=
  if requested = "" then
    match
      attachDevices.find? fun device => device ∉ vm.usedDevices with
    | some device => .ok (device, false)
    | none => .error .attachmentLimitExceeded
  else if requested ∈ vm.usedDevices then
    .error .invalidParameterValue
  else if requested = rootDeviceName vm ∧ vm.ebsRequests.any EBSRequest.boot then
    .error .invalidParameterValue
  else
    .ok (requested, decide (requested = rootDeviceName vm))

/-- Add the mapping of a volume to the API view. -/
def addMapping (volumeID device : String) (vm : VM) : VM :=
  vm.editMappings fun mappings => mappings ++ [⟨some device, some volumeID⟩]

/-- `addVolumeToRecord`. -/
def addVolumeToRecord (volumeID device : String) (boot : Bool) (vm : VM) : VM :=
  addMapping volumeID device
    { vm with ebsRequests := vm.ebsRequests ++ [.new volumeID device boot] }

/-! ## The record of a running instance -/

/-- Replace the first request of the same name. -/
def replaceRequest (request : EBSRequest) :
    List EBSRequest → List EBSRequest
  | [] => []
  | old :: requests =>
    if old.name = request.name then request :: requests else old :: replaceRequest request requests

/-- Replace the request for a volume, or add it. -/
def recordRequest (request : EBSRequest) (vm : VM) : VM :=
  { vm with
    ebsRequests := if request.name ∈ vm.volumes then
        replaceRequest request vm.ebsRequests
      else
        vm.ebsRequests ++ [request] }

/-! ## What the edits do to the list of volumes -/

variable (vm : VM)

@[simp]
theorem volumes_dropRequest (volumeID : String) :
    (dropRequest volumeID vm).volumes = vm.volumes.erase volumeID := by
  unfold dropRequest VM.volumes
  induction vm.ebsRequests with
  | nil => rfl
  | cons request requests induction =>
    by_cases named : request.name = volumeID
    · simp [named]
    · simpa [named, List.erase_cons] using induction

@[simp]
theorem volumes_dropMappings (volumeID : String) :
    (dropMappings volumeID vm).volumes = vm.volumes :=
  rfl

variable (volumeID device : String)

@[simp]
theorem volumes_addVolumeToRecord (boot : Bool) :
    (addVolumeToRecord volumeID device boot vm).volumes = vm.volumes ++ [volumeID] := by
  simp [addVolumeToRecord, VM.volumes, addMapping, VM.editMappings, EBSRequest.new]

variable {vm : VM} {request : EBSRequest}

theorem volumes_recordRequest (unlisted : request.name ∉ vm.volumes) :
    (recordRequest request vm).volumes = vm.volumes ++ [request.name] := by
  unfold recordRequest
  rw [if_neg unlisted]
  simp [VM.volumes]

variable {volumeID : String}

theorem mem_volumes_of_find (found : findVolumeRequest vm volumeID = some request) :
    volumeID ∈ vm.volumes := by
  have member := List.mem_of_find?_eq_some found
  have named := List.find?_some found
  rw [decide_eq_true_eq] at named
  exact List.mem_map.2 ⟨request, member, named⟩

/-- A removal that found something removed a listed volume. -/
theorem removeVolumeFromRecord_eq (removed : (removeVolumeFromRecord volumeID vm).2 = true) :
    volumeID ∈ vm.volumes ∧ (removeVolumeFromRecord volumeID vm).1.volumes =
      vm.volumes.erase volumeID := by
  unfold removeVolumeFromRecord at removed ⊢
  split at removed
  · cases removed
  next request found =>
    split_ifs at removed with efi
    simp [efi, mem_volumes_of_find found]

/-- A removal that found nothing left the record alone. -/
theorem removeVolumeFromRecord_of_not (kept : (removeVolumeFromRecord volumeID vm).2 = false) :
    (removeVolumeFromRecord volumeID vm).1 = vm := by
  unfold removeVolumeFromRecord at kept ⊢
  split at kept
  · rfl
  next request found =>
    split_ifs at kept with efi
    rw [if_pos efi]

end Spinifex.Ebs
