import Mathlib.Data.List.Nodup
import Spinifex.Ebs.Record

/-!
# The slots of a record

Every volume of an instance takes a device name and, while the instance runs, a
hot-plug port; at most one volume is the boot volume, and the API view has one
mapping per volume.  The edits of the running and of the stopped path keep the
slots apart, and so does the allocation of ports at a launch, if an attach adds
a volume the record does not list yet at a device name it does not use.
-/

namespace Spinifex.Ebs

open Aws List EBSRequest

/-! ## Launching -/

/--
`buildDrives`: give every data volume without a port a free one.  The launch
ends at the first volume for which there is none.
-/
def allocatePorts (done : List EBSRequest) :
    List EBSRequest → List EBSRequest
  | [] => done
  | request :: requests =>
    if request.boot || request.efi || request.hotplugPort ≠ 0 then
      allocatePorts (done ++ [request]) requests
    else
      let port := freeHotplugEBSPort (done ++ request :: requests)
      if port = 0 then
        done ++ request :: requests
      else
        allocatePorts (done ++ [{ request with hotplugPort := port }]) requests

/-- The record a launch leaves; a microvm has no ports. -/
def VM.launched (vm : VM) (microvm : Bool) : VM :=
  { vm with
    ebsRequests := if microvm then vm.ebsRequests else allocatePorts [] vm.ebsRequests }

/-! ## Slots that are apart -/

def EBSRequest.mapping (request : EBSRequest) : BlockDeviceMapping :=
  ⟨some request.deviceName, some request.name⟩

/-- The attached volumes: every request but that of the firmware. -/
def attached (requests : List EBSRequest) : List EBSRequest :=
  requests.filter fun request => !request.efi

/-- No two requests share a name, a device, a port or the boot flag. -/
structure Distinct (requests : List EBSRequest) : Prop where
  names : (requests.map EBSRequest.name).Nodup
  devices : ((attached requests).map EBSRequest.deviceName).Nodup
  ports : ((requests.map EBSRequest.hotplugPort).filter (· ≠ 0)).Nodup
  boot : (requests.filter EBSRequest.boot).length ≤ 1

/-- The slots of a record are apart, and its mappings describe them. -/
structure VM.Slotted (vm : VM) : Prop where
  described : vm.ec2Instance.isSome
  distinct : Distinct vm.ebsRequests
  mapped : vm.mappings.Perm ((attached vm.ebsRequests).map EBSRequest.mapping)

/-- A request that takes no slot another one has. -/
structure EBSRequest.Fits (request : EBSRequest) (requests : List EBSRequest) : Prop where
  name : request.name ∉ requests.map EBSRequest.name
  device : ∀ other ∈ requests, other.deviceName ≠ request.deviceName
  port : request.hotplugPort = 0 ∨ request.hotplugPort ∉ requests.map EBSRequest.hotplugPort
  boot : request.boot = true → requests.filter EBSRequest.boot = []

/-! ## Lists of requests -/

theorem Distinct.sublist
    (distinct : Distinct whole) (sublist : part.Sublist whole) : Distinct part where
  names := distinct.names.sublist (sublist.map _)
  devices := distinct.devices.sublist ((sublist.filter _).map _)
  ports := distinct.ports.sublist ((sublist.map _).filter _)
  boot := Nat.le_trans (sublist.filter _).length_le distinct.boot

/-- At most one more entry, which is not there yet. -/
theorem nodup_append_fresh {entries more : List Entry}
    (distinct : entries.Nodup) (one : more.Sublist [entry])
    (fresh : entry ∉ entries) : (entries ++ more).Nodup := by
  apply List.Nodup.append distinct ((nodup_singleton entry).sublist one)
  intro other present added
  cases mem_singleton.1 (one.subset added)
  exact fresh present

variable {requests : List EBSRequest} {request : EBSRequest}

theorem Distinct.add (distinct : Distinct requests) (fits : request.Fits requests) :
    Distinct (requests ++ [request]) where
  names := by
    rw [map_append]
    exact nodup_append_fresh distinct.names (.refl _) fits.name
  devices := by
    rw [attached, filter_append, map_append]
    apply nodup_append_fresh distinct.devices (filter_sublist.map deviceName)
    intro used
    rcases mem_map.1 used with ⟨other, present, same⟩
    exact fits.device other (mem_filter.1 present).1 same
  ports := by
    rw [map_append, filter_append]
    rcases fits.port with none | free
    · simpa [none] using distinct.ports
    · apply nodup_append_fresh distinct.ports filter_sublist
      exact fun used => free (mem_filter.1 used).1
  boot := by
    by_cases boots : request.boot = true
    · simp [fits.boot boots, boots]
    · simpa [boots] using distinct.boot

/-- Giving a request a free port. -/
theorem Distinct.setPort {port : Nat} (distinct : Distinct (done ++ request :: requests))
    (free : port ∉ (done ++ request :: requests).map hotplugPort) :
    Distinct (done ++ { request with hotplugPort := port } :: requests)
    where
  names := by simpa using distinct.names
  devices := by
    have same :
        (attached (done ++ { request with hotplugPort := port } :: requests)).map deviceName =
          (attached (done ++ request :: requests)).map
            deviceName := by
      by_cases efi : request.efi <;> simp [attached, efi]
    rw [same]
    exact distinct.devices
  ports := by
    have others : ((done ++ requests).map hotplugPort |>.filter (· ≠ 0)).Nodup :=
      distinct.ports.sublist
        (((List.Sublist.append_left (sublist_cons_self _ _) done).map _).filter _)
    have moved :
        ((done ++ { request with hotplugPort := port } ::
            requests).map hotplugPort |>.filter (· ≠ 0)).Perm
          (((done ++ requests).map hotplugPort |>.filter (· ≠ 0)) ++ [port].filter (· ≠ 0)) := by
      rw [← filter_append]
      apply List.Perm.filter _
      simp only [map_append, map_cons, append_assoc]
      apply List.Perm.append_left _
      exact (perm_append_singleton port _).symm
    rw [moved.nodup_iff]
    apply nodup_append_fresh others filter_sublist
    intro used
    apply free
    have present := (mem_filter.1 used).1
    simp only [map_append, mem_append, map_cons, mem_cons] at present ⊢
    tauto
  boot := by
    have same :
        ((done ++ { request with hotplugPort := port } :: requests).filter EBSRequest.boot).length =
          ((done ++ request :: requests).filter EBSRequest.boot).length := by
      by_cases boots : request.boot <;> simp [boots]
    rw [same]
    exact distinct.boot

/-- Dropping the request of a name drops all requests of that name. -/
theorem eraseP_eq_filter (names : (requests.map name).Nodup) (volumeID : String) :
    (requests.eraseP fun request => request.name = volumeID) =
      requests.filter fun request => request.name ≠ volumeID := by
  induction requests with
  | nil => rfl
  | cons request requests induction =>
    rw [map_cons, nodup_cons] at names
    by_cases named : request.name = volumeID
    · have others : ∀ other ∈ requests, other.name ≠ volumeID := by
        intro other present same
        refine names.1 (mem_map.2 ⟨other, present, ?_⟩)
        rw [same, named]
      have kept : (requests.filter fun other => other.name ≠ volumeID) = requests :=
        filter_eq_self.2 fun other present => decide_eq_true (others other present)
      rw [filter_cons_of_neg (by simp [named]), kept]
      simp [named]
    · simpa [named] using induction names.2

/-! ## The choice of a slot -/

theorem freeHotplugEBSPort_free (found : freeHotplugEBSPort requests ≠ 0) :
    freeHotplugEBSPort requests ∉ requests.map hotplugPort := by
  unfold freeHotplugEBSPort at found ⊢
  cases searched : ((range ebsHotPlugSlotCount).map (· + 1)).find?
    fun port => port ∉ requests.map hotplugPort with
  | none =>
    rw [searched] at found
    exact absurd rfl found
  | some port => simpa using find?_some searched

theorem ne_empty_of_mem_attachDevices (offered : device ∈ attachDevices) : device ≠ "" := by
  rintro rfl
  revert offered
  decide

/-- A device name that no request and no mapping uses. -/
def VM.Vacant (vm : VM) (device : String) : Prop :=
  device ≠ "" ∧ device ∉ vm.usedDevices

variable {vm : VM}

theorem VM.Vacant.device {device : String} (vacant : vm.Vacant device) :
    ∀ other ∈ vm.ebsRequests, other.deviceName ≠ device := by
  rintro other present rfl
  refine vacant.2 (mem_append_left _ ?_)
  refine mem_filter.2 ⟨mem_map_of_mem present, ?_⟩
  exact decide_eq_true vacant.1

theorem nextAvailableDevice_vacant (found : nextAvailableDevice vm ≠ "") :
    vm.Vacant (nextAvailableDevice vm) := by
  refine ⟨found, ?_⟩
  unfold nextAvailableDevice at found ⊢
  cases searched : attachDevices.find? fun device => device ∉ vm.usedDevices with
  | none =>
    rw [searched] at found
    exact absurd rfl found
  | some device => simpa using find?_some searched

/-- A chosen device is vacant, and boots only if nothing else does. -/
theorem stoppedAttachDevice_ok {boot : Bool}
    (chosen : stoppedAttachDevice vm requested = .ok (device, boot)) :
    vm.Vacant device ∧ (boot = true → vm.ebsRequests.filter EBSRequest.boot = []) := by
  unfold stoppedAttachDevice at chosen
  split at chosen
  · split at chosen
    next searched =>
      cases chosen
      refine ⟨⟨?_, by simpa using find?_some searched⟩, nofun⟩
      exact ne_empty_of_mem_attachDevices (mem_of_find?_eq_some searched)
    · cases chosen
  next given =>
    split at chosen
    · cases chosen
    next unused =>
      split at chosen
      · cases chosen
      next rootless =>
        cases chosen
        refine ⟨⟨given, unused⟩, fun root => ?_⟩
        rw [decide_eq_true_eq] at root
        have bootless : ¬vm.ebsRequests.any boot = true := fun boots => rootless ⟨root, boots⟩
        rw [filter_eq_nil_iff]
        intro request present boots
        exact bootless (any_eq_true.2 ⟨request, present, boots⟩)

/-! ## The edits of a record -/

namespace VM.Slotted

variable {vm : VM} {request : EBSRequest}

section

variable (slotted : vm.Slotted)

include slotted

/-- Adding a request that fits, and its mapping. -/
theorem add (fits : request.Fits vm.ebsRequests) (volume : request.efi = false) :
    (addMapping request.name request.deviceName
      { vm with ebsRequests := vm.ebsRequests ++ [request] }).Slotted := by
  rcases Option.isSome_iff_exists.1 slotted.described with ⟨ec2, view⟩
  have mapped := slotted.mapped
  refine ⟨?_, slotted.distinct.add fits, ?_⟩
  · simp [addMapping, VM.editMappings, view]
  · simp only [addMapping, VM.editMappings, VM.mappings, view, Option.map_some, Option.getD_some,
      attached, filter_append, map_append] at mapped ⊢
    apply mapped.append
    simp [volume, mapping]

/-- The edit of an attach to a stopped instance. -/
theorem addUnlessTaken {boot : Bool} (unlisted : volumeID ∉ vm.volumes) (vacant : vm.Vacant device)
    (bootless : boot = true → vm.ebsRequests.filter EBSRequest.boot = []) :
    (addVolumeToRecord volumeID device boot vm).Slotted :=
  slotted.add ⟨unlisted, vacant.device, .inl rfl, bootless⟩ rfl

/-- The two edits of an attach to a running instance. -/
theorem recordRequest (fits : request.Fits vm.ebsRequests) (volume : request.efi = false) :
    (addMapping request.name request.deviceName (Ebs.recordRequest request vm)).Slotted := by
  have unlisted : request.name ∉ vm.volumes := fits.name
  rw [Ebs.recordRequest, if_neg unlisted]
  exact slotted.add fits volume

/-- The two edits of a detach. -/
theorem drop (volumeID : String) : (dropMappings volumeID (dropRequest volumeID vm)).Slotted := by
  rcases Option.isSome_iff_exists.1 slotted.described with ⟨ec2, view⟩
  have mapped := slotted.mapped
  refine ⟨?_, slotted.distinct.sublist eraseP_sublist, ?_⟩
  · simp [dropMappings, dropRequest, VM.editMappings, view]
  · simp only [dropMappings, dropRequest, VM.editMappings, VM.mappings, view, Option.map_some,
      Option.getD_some, eraseP_eq_filter slotted.distinct.names] at mapped ⊢
    refine (mapped.filter _).trans (.of_eq ?_)
    rw [filter_map]
    simp [attached, mapping, Function.comp_def, filter_filter, Bool.and_comm]

theorem removeVolumeFromRecord
    (volumeID : String) : (Ebs.removeVolumeFromRecord volumeID vm).1.Slotted := by
  unfold Ebs.removeVolumeFromRecord
  split
  · exact slotted
  · split
    · exact slotted
    · exact slotted.drop volumeID

end

end VM.Slotted

/-! ## The allocation of ports -/

theorem allocatePorts_distinct (distinct : Distinct (done ++ requests)) :
    Distinct (allocatePorts done requests) ∧ (attached (allocatePorts done requests)).map mapping =
        (attached (done ++ requests)).map mapping := by
  induction requests generalizing done with
  | nil => simpa [allocatePorts] using distinct
  | cons request requests induction =>
    unfold allocatePorts
    split
    · have shifted : done ++ request :: requests = (done ++ [request]) ++ requests := by simp
      rw [shifted] at distinct ⊢
      exact induction distinct
    · extract_lets port
      split
      · exact ⟨distinct, rfl⟩
      next found =>
        have moved := distinct.setPort (freeHotplugEBSPort_free found)
        have shifted : done ++ { request with hotplugPort := port } :: requests =
            (done ++ [{ request with hotplugPort := port }]) ++ requests := by simp
        rw [shifted] at moved
        rcases induction moved with ⟨apart, same⟩
        refine ⟨apart, same.trans ?_⟩
        by_cases efi : request.efi <;> simp [attached, mapping, efi]

theorem VM.Slotted.launched (slotted : vm.Slotted) (microvm : Bool) :
    (vm.launched microvm).Slotted := by
  cases microvm with
  | true => exact slotted
  | false =>
    have initial : Distinct ([] ++ vm.ebsRequests) := slotted.distinct
    rcases allocatePorts_distinct initial with ⟨apart, same⟩
    refine ⟨slotted.described, apart, ?_⟩
    exact slotted.mapped.trans (.of_eq same.symm)

end Spinifex.Ebs
