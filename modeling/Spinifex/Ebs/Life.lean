import Spinifex.Ebs.Layout

/-!
# Volumes keep their slots

An instance is started and stopped, and volumes are attached to it and detached
from it, one request at a time and through whichever path its state selects.
The stopped path checks a requested device name against the record, the running
path takes any.  As long as no attach to a running instance asks for a name in
use, and no attach adds a volume the record lists, every record keeps its slots
apart.
-/

namespace Spinifex.Ebs

open Aws Concurrency Go Function

section

variable {Index : Type}

/-- A stopped instance is started on a node. -/
def Starts (id node : String) (microvm : Bool) (before after : Cluster Index) : Prop :=
  ∃ vm, before.stopped id = some vm ∧ after.documents = before.documents ∧
    after.stopped = update before.stopped id none ∧
    after.running = update before.running id
      (some ⟨node, { vm.launched microvm with status := .running }⟩)

/-- A running instance is stopped. -/
def Stops (id : String) (before after : Cluster Index) : Prop :=
  ∃ host, before.running id = some host ∧ after.documents = before.documents ∧
    after.running = update before.running id none ∧
    after.stopped = update before.stopped id (some { host.vm with status := .stopped })

/--
An attach adds a volume that the instance's records do not list, and to a
running instance at no device name its record uses.
-/
def AttachVolumeInput.Fits (input : AttachVolumeInput) (before : Cluster Index) : Prop :=
  let id := input.instanceID.getD ""
  let device := input.device.getD ""
  (∀ vm, before.Records id vm → input.volumeID.getD "" ∉ vm.volumes) ∧
    ∀ host, before.running id = some host → device ≠ "" → device ∉ host.vm.usedDevices

/-- Attaches that fit, detaches, starts and stops, one at a time. -/
inductive Life (index : Index) (initial : Cluster Index) : Cluster Index → Prop where
  | initially : Life index initial initial
  | attach {before after : Cluster Index}
    {account : String} {input : AttachVolumeInput}
    {result : Except ErrorCode VolumeAttachment}
    (life : Life index initial before)
    (fits : input.Fits before)
    (run : (system Index).Executes index (Gateway.attachVolume input account) before result
      after) :
    Life index initial after
  | detach {before after : Cluster Index}
    {account : String} {input : DetachVolumeInput}
    {result : Except ErrorCode VolumeAttachment}
    (life : Life index initial before)
    (run : (system Index).Executes index (Gateway.detachVolume input account) before result
      after) :
    Life index initial after
  | start {before after : Cluster Index}
    {id node : String} {microvm : Bool}
    (life : Life index initial before)
    (starts : Starts id node microvm before after) :
    Life index initial after
  | stop {before after : Cluster Index} {id : String}
    (life : Life index initial before)
    (stops : Stops id before after) :
    Life index initial after

variable {index : Index} {initial before after : Cluster Index} {id : String}

section

variable (tidy : before.Tidy)

include tidy

/-- The records of one instance are replaced by tidy ones. -/
theorem Cluster.Tidy.replaced (documents : after.documents = before.documents)
    (stopped : after.stopped = update before.stopped id vm)
    (running : after.running = update before.running id host)
    (slotted : ∀ found, vm = some found ∨ host.map Running.vm = some found → found.Slotted) :
    after.Tidy := by
  constructor
  · unfold Cluster.Keyed
    rw [documents]
    exact tidy.keyed
  intro other found recorded
  unfold Cluster.Records at recorded
  rw [stopped, running] at recorded
  by_cases same : other = id
  · subst other
    rw [update_self, update_self] at recorded
    exact slotted found recorded
  · rw [update_of_ne same, update_of_ne same] at recorded
    exact tidy.slotted other found recorded

theorem Cluster.Tidy.start (starts : Starts id node microvm before after) : after.Tidy := by
  rcases starts with ⟨vm, stored, documents, stopped, running⟩
  apply tidy.replaced documents stopped running
  rintro found (nothing | launched)
  · cases nothing
  · cases launched
    have slotted := (tidy.slotted id vm (.inl stored)).launched microvm
    exact { slotted with }

theorem Cluster.Tidy.stop (stops : Stops id before after) : after.Tidy := by
  rcases stops with ⟨host, stored, documents, running, stopped⟩
  apply tidy.replaced documents stopped running
  rintro found (left | nothing)
  · cases left
    have slotted := tidy.slotted id host.vm (.inr (by rw [stored]; rfl))
    exact { slotted with }
  · cases nothing

theorem Cluster.Tidy.attach (fits : input.Fits before)
    (run : (system Index).Executes index (Gateway.attachVolume input account) before result after) :
    after.Tidy := by
  let id := input.instanceID.getD ""
  refine (laying index (tidy.recordPair id) ?_ ?_).gatewayAttachVolume _ _ _
    ⟨tidy.reads id, trivial⟩ run
  · exact fun vm stored => fits.1 vm (.inl stored)
  · intro host stored
    refine ⟨fits.1 host.vm (.inr ?_), fits.2 host stored⟩
    exact Option.map_eq_some_iff.2 ⟨host, stored, rfl⟩

end

/--
Whatever is attached, detached, started and stopped, and through whichever
path, no two volumes of an instance share a device name or a port, at most one
is the boot volume, and the mappings describe the attached volumes one to one.
-/
theorem attached_volumes_keep_distinct_slots
    (tidy : initial.Tidy) (life : Life index initial after) : after.Tidy := by
  induction life with
  | initially => exact tidy
  | attach life fits run induction => exact induction.attach fits run
  | detach life run induction =>
    exact ensures_detachVolume _ _ _ _ _ induction run
  | start life starts induction => exact induction.start starts
  | stop life stops induction => exact induction.stop stops

end

/-! ## Two lives -/

namespace Sample

/-- The root volume of a running instance. -/
def root : EBSRequest :=
  ⟨"vol-0", true, false, "/dev/sda1", 0, "nbd:unix:root", "", 0, true⟩

/-- A running instance with its root volume. -/
def host : Running :=
  ⟨"node", ⟨account, .running, false, [root],
    some ⟨"/dev/sda1", [root.mapping]⟩, false, "node", []⟩⟩

/-- One available volume and the running instance. -/
def hosting : Cluster Unit where
  documents key := if key = volume.key then some volume else none
  stopped _ := none
  running id := if id = "i-1" then some host else none
  attachMu _ := none
  guests id := if id = "i-1" then some .empty else none
  exports _ _ := false

/-- An attach of the volume at a device. -/
def attachAt (device : String) : Session (Except ErrorCode VolumeAttachment) :=
  Gateway.attachVolume ⟨some "vol-1", some "i-1", some device⟩ account

/-- The device names of the attached volumes of the instance. -/
def devices (cluster : Cluster Unit) : Option (List String) :=
  (cluster.running "i-1").map fun host => (attached host.vm.ebsRequests).map EBSRequest.deviceName

theorem hosting_tidy : hosting.Tidy where
  keyed key found stored := by
    simp only [hosting] at stored
    split at stored
    next same =>
      cases stored
      exact same.symm
    · cases stored
  slotted id vm recorded := by
    rcases recorded with stored | stored
    · cases stored
    · simp only [hosting] at stored
      split at stored
      · cases stored
        exact ⟨rfl, ⟨by decide, by decide, by decide, by decide⟩, .refl _⟩
      · cases stored

end Sample

open Sample

/--
An attach to a running instance asks for the device name of the root volume.
Nothing compares it with the record, and both volumes have the name then.
-/
theorem running_attach_takes_used_device :
    hosting.Tidy ∧ ∃ result after,
      (system Unit).Executes () (attachAt "/dev/sda1") hosting result after ∧
        (result.toBool, devices after) = (true, some ["/dev/sda1", "/dev/sda1"]) := by
  refine ⟨hosting_tidy, ?_⟩
  exact System.Resolver.exists_of_alone (scheduler Unit)
      (show ((scheduler Unit).alone () (attachAt "/dev/sda1")
            hosting (List.replicate 40 .works)).map
              (fun ended => (ended.1.toBool, devices ended.2)) =
          some _
        from rfl)

/-- An attach that leaves the device to the node keeps the slots apart. -/
theorem running_attach_keeps_slots :
    ∃ after, Life () hosting after ∧ after.Tidy ∧
      devices after = some ["/dev/sda1", "/dev/sdf"] := by
  have ran : ((scheduler Unit).alone () (attachAt "")
        hosting (List.replicate 40 .works)).map (fun ended => devices ended.2) =
      some (some ["/dev/sda1", "/dev/sdf"]) := rfl
  rcases System.Resolver.exists_of_alone (scheduler Unit) ran with ⟨result, after, run, seen⟩
  have life : Life () hosting after := by
    refine .attach .initially ⟨?_, fun _ _ given => ?_⟩ run
    · rintro vm (stored | stored)
      · cases stored
      · cases stored
        decide
    · exact absurd rfl given
  exact ⟨after, life, attached_volumes_keep_distinct_slots hosting_tidy life, seen⟩

end Spinifex.Ebs
