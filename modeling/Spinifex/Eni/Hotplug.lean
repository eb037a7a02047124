import Spinifex.Concurrency.Sequential
import Spinifex.Ebs.Record
import Spinifex.Eni.Slots

/-!
# Plugging interfaces into a running guest

The pipelines that plug an interface into a guest and unplug it, the start of a
guest and its relaunch, over the calls they make on the monitor, the host's taps
and the guest's process.

A call may fail, and the guest is slow: a removed device stays until the guest
lets go of it, a new one may not be listed at once.  A responsive guest is one
that adds no device it reports an error for and drops a device as soon as it is
told to.
-/

namespace Spinifex.Eni

open Concurrency Go System Option AList
open Ebs (InstanceState)

/-! ## Calls -/

inductive DeviceCall where
  | setupTap (eniID mac : String)
  | netdevAdd (netdevID ifname : String)
  | deviceAdd (deviceID busID netdevID mac : String)
  | deviceDel (deviceID : String)
  | netdevDel (netdevID : String)
  | queryPCI
  | cleanupTap (tapName : String)
  | endQEMU
  | prepare
  | launch
  | connect
  | status
deriving DecidableEq, Repr

/-- What each call is answered with; errors are texts. -/
def DeviceReply : DeviceCall → Type
  | .queryPCI => Except String (List String)
  | .cleanupTap _ => Unit
  | .status => InstanceState
  | _ => Except String Unit

/-- A program over the calls. -/
abbrev Pipeline := Program DeviceCall DeviceReply

/-- Set up the tap of an interface. -/
def setupTap (eniID mac : String) : Pipeline (Except String Unit) :=
  .call (.setupTap eniID mac) .done

/-- `netdev_add`. -/
def netdevAdd (netdevID ifname : String) : Pipeline (Except String Unit) :=
  .call (.netdevAdd netdevID ifname) .done

/-- `device_add`. -/
def deviceAdd (deviceID busID netdevID mac : String) : Pipeline (Except String Unit) :=
  .call (.deviceAdd deviceID busID netdevID mac) .done

/-- `device_del`. -/
def deviceDel (deviceID : String) : Pipeline (Except String Unit) :=
  .call (.deviceDel deviceID) .done

/-- `netdev_del`. -/
def netdevDel (netdevID : String) : Pipeline (Except String Unit) :=
  .call (.netdevDel netdevID) .done

/-- `query-pci`: the names of the devices the guest has. -/
def queryPCI : Pipeline (Except String (List String)) :=
  .call .queryPCI .done

/-- `cleanupENITap`: a failure is only logged. -/
def cleanupENITap (tapName : String) : Pipeline Unit :=
  .call (.cleanupTap tapName) .done

/-- `endQEMUForRelaunch`. -/
def endQEMUForRelaunch : Pipeline (Except String Unit) :=
  .call .endQEMU .done

/-- What a start does before it resets the slots. -/
def prepare : Pipeline (Except String Unit) :=
  .call .prepare .done

/-- What a start does after it: configure and start the process. -/
def launch : Pipeline (Except String Unit) :=
  .call .launch .done

/-- A new monitor connection. -/
def connect : Pipeline (Except String Unit) :=
  .call .connect .done

/-- The status of the instance by now. -/
def statusNow : Pipeline InstanceState :=
  .call .status .done

/-! ## Errors -/

/-- The error values of the pipelines. -/
inductive Sentinel where
  | invalidTransition
  | qmpUnavailable
  | attachmentLimitExceeded
  | eniNotAttached
  | eniPipelineTimeout
  | relaunchFailed
deriving DecidableEq, Repr

/-- The text of each error value. -/
def Sentinel.text : Sentinel → String
  | .invalidTransition => "invalid state transition"
  | .qmpUnavailable => "QMP unavailable for instance"
  | .attachmentLimitExceeded => "attachment limit exceeded"
  | .eniNotAttached => "ENI not attached to instance"
  | .eniPipelineTimeout => "ENI hot-plug pipeline timed out"
  | .relaunchFailed => "relaunch after reboot failed"

/-- An error of a pipeline. -/
abbrev Failure := Go.Failure Sentinel

/-- An error value with a text after it. -/
def Sentinel.detail (sentinel : Sentinel) (text : String) : Failure :=
  ⟨[sentinel], sentinel.text ++ ": " ++ text⟩

/-- An error under a text that says what failed. -/
def underText (text : String) (cause : Failure) : Failure :=
  ⟨cause.sentinels, text ++ ": " ++ cause.text⟩

/-- An error of a call under a text that says what failed. -/
def callFailure (text cause : String) : Failure :=
  ⟨[], text ++ ": " ++ cause⟩

/-! ## Pipelines -/

/-- `AttachPollMax`. -/
def attachPollMax : Nat := 25

/-- `DetachPollMaxSoft`. -/
def detachPollMaxSoft : Nat := 25

/-- The polls of `waitForPCIDevice` that are left. -/
def pollPCI (deviceID : String) (wantPresent : Bool) (maxAttempts : Nat) :
    Nat → Pipeline (Except Failure Unit)
  | 0 =>
    return .error (Sentinel.eniPipelineTimeout.detail
      ("device " ++ deviceID ++ " want_present=" ++ toString wantPresent))
  | left + 1 => do
      match ← queryPCI with
      | .error text =>
        return .error (callFailure ("query-pci attempt " ++ toString (maxAttempts - left)) text)
      | .ok devices =>
        if decide (deviceID ∈ devices) = wantPresent then
          return .ok ()
        else
          pollPCI deviceID wantPresent maxAttempts left

/-- `waitForPCIDevice`. -/
def waitForPCIDevice (deviceID : String) (wantPresent : Bool) : Pipeline (Except Failure Unit) :=
  let maxAttempts := if wantPresent then attachPollMax else detachPollMaxSoft
  pollPCI deviceID wantPresent maxAttempts maxAttempts

/-- The part of a `VM` the pipelines work on. -/
structure VM where
  id : String
  instanceType : String
  directBoot : Bool
  status : InstanceState
  connected : Bool
  eniRequests : ENIRequests

/-- The four steps of an attach on a slot, and their rollbacks. -/
def plug (eniID mac : String) (slot : Nat) : Pipeline (Except Failure Unit) := do
  match ← setupTap eniID mac with
  | .error text => return .error (callFailure "tap/ovs setup" text)
  | .ok () =>
    match ← netdevAdd (eniNetdevID slot) (tapDeviceName eniID) with
    | .error text =>
      cleanupENITap (tapDeviceName eniID)
      return .error (callFailure "QMP netdev_add" text)
    | .ok () =>
      match ← deviceAdd (eniDeviceID slot) (eniBusID slot) (eniNetdevID slot) mac with
      | .error text =>
        let _ ← netdevDel (eniNetdevID slot)
        cleanupENITap (tapDeviceName eniID)
        return .error (callFailure "QMP device_add" text)
      | .ok () =>
        match ← waitForPCIDevice (eniDeviceID slot) true with
        | .error failure =>
          let _ ← deviceDel (eniDeviceID slot)
          let _ ← netdevDel (eniNetdevID slot)
          cleanupENITap (tapDeviceName eniID)
          return .error (underText "query-pci wait (attach)" failure)
        | .ok () => return .ok ()

/-- Why a pipeline is refused: no running guest, or no monitor. -/
def refusal (vm : VM) (action : String) : Option Failure :=
  if vm.status ≠ .running then
    some (Sentinel.invalidTransition.detail
      (action ++ " instance " ++ vm.id ++ " in state " ++ vm.status.text))
  else if !vm.connected then some (Sentinel.qmpUnavailable.detail ("instance " ++ vm.id)) else none

/-- The error of an attach without a free slot. -/
def limitExceeded : Failure :=
  ⟨[.attachmentLimitExceeded], Sentinel.attachmentLimitExceeded.text⟩

/-- A `VM` with other slots. -/
def VM.withRequests (vm : VM) (requests : ENIRequests) : VM :=
  { vm with eniRequests := requests }

/-- `HotPlugENI`. -/
def hotPlugENI (vm : VM) (eniID mac : String) : Pipeline (Except Failure Nat × VM) := do
  match refusal vm "cannot hot-plug ENI on" with
  | some failure => return (.error failure, vm)
  | none =>
    match vm.eniRequests.slotOf eniID with
    | some existing => return (.ok existing, vm)
    | none =>
      match vm.eniRequests.availableSlots with
      | [] => return (.error limitExceeded, vm)
      | slot :: rest =>
        let taken := vm.eniRequests.take eniID slot rest
        match ← plug eniID mac slot with
        | .error failure =>
          let freed := taken.release eniID slot
          return (.error failure, vm.withRequests freed)
        | .ok () => return (.ok slot, vm.withRequests taken)

/-- The end of a detach: the device leaves, then netdev and tap go. -/
def awaitUnplug (eniID : String) (slot : Nat) (force : Bool) : Pipeline (Except Failure Unit) := do
  match ← waitForPCIDevice (eniDeviceID slot) false, force with
  | .error failure, false =>
    return .error (underText "query-pci wait (detach)" failure)
  | _, _ =>
    let _ ← netdevDel (eniNetdevID slot)
    cleanupENITap (tapDeviceName eniID)
    return .ok ()

/-- The steps of a detach on a slot; a forced one goes on after errors. -/
def unplug (eniID : String) (slot : Nat) (force : Bool) : Pipeline (Except Failure Unit) := do
  match ← deviceDel (eniDeviceID slot), force with
  | .error text, false => return .error (callFailure "QMP device_del" text)
  | _, _ => awaitUnplug eniID slot force

/-- `HotUnplugENI`. -/
def hotUnplugENI (vm : VM) (eniID : String) (force : Bool) :
    Pipeline (Except Failure Unit × VM) := do
  match refusal vm "cannot hot-unplug ENI from" with
  | some failure => return (.error failure, vm)
  | none =>
    match vm.eniRequests.slotOf eniID with
    | none => return (.error (Sentinel.eniNotAttached.detail eniID), vm)
    | some slot =>
      match ← unplug eniID slot force with
      | .error failure => return (.error failure, vm)
      | .ok () =>
        let freed := vm.eniRequests.release eniID slot
        return (.ok (), vm.withRequests freed)

/-! ## Starting a guest -/

/-- The slots as `startQEMU` leaves them. -/
def VM.resetSlots (vm : VM) : VM :=
  if vm.directBoot then vm else vm.withRequests (vm.eniRequests.initENIRequests vm.instanceType)

/-- `startQEMU`. -/
def startQEMU (vm : VM) : Pipeline (Except Failure Unit × VM) := do
  match ← prepare with
  | .error text => return (.error ⟨[], text⟩, vm)
  | .ok () =>
    match ← launch with
    | .error text => return (.error ⟨[], text⟩, vm.resetSlots)
    | .ok () => return (.ok (), vm.resetSlots)

/-- A reboot gives way to a change of status. -/
def interrupted (vm : VM) (status : InstanceState) : Failure :=
  Sentinel.invalidTransition.detail
    ("reboot of " ++ vm.id ++ " interrupted in state " ++ status.text)

/-- `relaunchGuest`. -/
def relaunchGuest (vm : VM) : Pipeline (Except Failure Unit × VM) := do
  if vm.status ≠ .running then
    return (.error (interrupted vm vm.status), vm)
  else
    match ← endQEMUForRelaunch with
    | .error text =>
      return (.error (callFailure "end QEMU for reboot" text), vm)
    | .ok () =>
      let status ← statusNow
      if status ≠ .running then
        return (.error (interrupted vm status), vm)
      else
        match ← startQEMU vm with
        | (.error failure, started) =>
          let marked := Sentinel.relaunchFailed.detail "start QEMU"
          return (.error (marked.wrap failure), started)
        | (.ok (), started) =>
          match ← connect with
          | .error text =>
            let marked := Sentinel.relaunchFailed.detail "connect QMP"
            return (.error (marked.wrap ⟨[], text⟩), started)
          | .ok () => return (.ok (), { started with connected := true })

/-! ## The machine -/

/-- A device of a guest: whether it is listed, and about to leave. -/
structure Device where
  mac : String
  shown : Bool
  leaving : Bool
deriving DecidableEq, Repr

/-- The devices of a guest by their names. -/
structure Guest where
  devices : AList fun _ : String => Device

def Guest.device (guest : Guest) (deviceID : String) : Option Device :=
  guest.devices.lookup deviceID

/-- A guest with another device under a name, or none. -/
def Guest.setDevice (guest : Guest) (deviceID : String) :
    Option Device → Guest
  | none => ⟨guest.devices.erase deviceID⟩
  | some device => ⟨guest.devices.insert deviceID device⟩

/-- The names of the devices that are listed. -/
def Guest.listed (guest : Guest) : List String :=
  guest.devices.keys.filter fun deviceID => (guest.device deviceID).any Device.shown

/-- The guest that runs, if one does, and the taps of the host. -/
structure Machine where
  guest : Option Guest
  taps : String → Bool

namespace Machine

/-- The device of that name in the guest. -/
def device (machine : Machine) (deviceID : String) : Option Device :=
  machine.guest.bind fun guest => guest.device deviceID

/-- A machine whose guest has another device under a name, or none. -/
def setDevice (machine : Machine) (guest : Guest) (deviceID : String)
    (device : Option Device) : Machine :=
  { machine with guest := some (guest.setDevice deviceID device) }

/-- A machine with or without a tap. -/
def setTap (machine : Machine) (tapName : String) (present : Bool) : Machine :=
  { machine with taps := Function.update machine.taps tapName present }

end Machine

/-- A guest without a plugged interface. -/
def Guest.Fresh (guest : Guest) : Prop :=
  ∀ slot, guest.device (eniDeviceID slot) = none

/-- What a call is answered with and leaves behind. -/
def perform (responsive : Bool) :
    (call : DeviceCall) → Machine → DeviceReply call → Machine → Prop
  | .setupTap eniID _, before, reply, after =>
    after = before.setTap (tapDeviceName eniID) true ∨ reply ≠ Except.ok () ∧ after = before
  | .netdevAdd _ _, before, reply, after =>
    after = before ∧ (reply = Except.ok () → before.guest.isSome)
  | .deviceAdd deviceID _ _ mac, before, reply, after =>
    (∃ guest shown, before.guest = some guest ∧ guest.device deviceID = none ∧
      after = before.setDevice guest deviceID (some ⟨mac, shown, false⟩) ∧
      (responsive = true → reply = Except.ok ())) ∨ reply ≠ Except.ok () ∧ after = before
  | .deviceDel deviceID, before, reply, after =>
    (∃ guest device, before.guest = some guest ∧ guest.device deviceID = some device ∧
          (after = before.setDevice guest deviceID none ∨
            responsive = false ∧ after = before.setDevice guest deviceID
              (some { device with leaving := true }))) ∨
      reply ≠ Except.ok () ∧ after = before ∧ (responsive = true → before.device deviceID = none)
  | .netdevDel _, before, _, after => after = before
  | .queryPCI, before, reply, after =>
    after = before ∧ ∀ devices, reply = Except.ok devices →
      ∃ guest, before.guest = some guest ∧ devices.Perm guest.listed
  | .cleanupTap tapName, before, _, after =>
    after = before.setTap tapName false ∨ after = before
  | .endQEMU, before, reply, after =>
    after = { before with guest := none } ∨ reply ≠ Except.ok () ∧ after = before
  | .prepare, before, _, after => after = before
  | .launch, before, reply, after =>
    (∃ guest : Guest, guest.Fresh ∧ after = { before with guest := some guest }) ∨
      reply ≠ Except.ok () ∧ after = before
  | .connect, before, reply, after =>
    after = before ∨ reply ≠ Except.ok () ∧ after = { before with guest := none }
  | .status, before, _, after => after = before

/-- What the guest does by itself. -/
inductive Settles (before : Machine) : Machine → Prop where
  | shows {guest : Guest} {deviceID : String} {device : Device}
    (runs : before.guest = some guest)
    (present : guest.device deviceID = some device) :
    Settles before (before.setDevice guest deviceID (some { device with shown := true }))
  | leaves {guest : Guest} {deviceID : String} {device : Device}
    (runs : before.guest = some guest)
    (present : guest.device deviceID = some device)
    (leaving : device.leaving = true) :
    Settles before (before.setDevice guest deviceID none)

/-- The calls on a machine. -/
def machinery (responsive : Bool) : System Unit DeviceCall DeviceReply Machine Unit where
  perform _ := perform responsive
  drift := Settles
  finish _ _ machine := machine

/-! ## What calls do to the plugged devices -/

namespace Machine

variable {machine before after : Machine} {guest : Guest}
    {deviceID other : String} {device : Option Device}

theorem device_eq (runs : machine.guest = some guest) :
    machine.device deviceID = guest.device deviceID := by
  rw [Machine.device, runs]
  rfl

@[simp]
theorem device_setDevice_self :
    (machine.setDevice guest deviceID device).device deviceID = device := by
  cases device with
  | none => exact lookup_erase deviceID guest.devices
  | some device => exact lookup_insert guest.devices

theorem device_setDevice_of_ne (runs : machine.guest = some guest) (different : other ≠ deviceID) :
    (machine.setDevice guest deviceID device).device other = machine.device other := by
  rw [device_eq runs]
  cases device with
  | none => exact lookup_erase_ne different
  | some device => exact lookup_insert_ne different

/-- A device that is there was there before, and is listed if it was. -/
def Shrinks (deviceID : String) (before after : Machine) : Prop :=
  ∀ later, after.device deviceID = some later → ∃ earlier, before.device deviceID = some earlier ∧
    (earlier.shown = true → later.shown = true)

theorem Shrinks.refl (deviceID : String) (machine : Machine) : Shrinks deviceID machine machine :=
  fun later present => ⟨later, present, id⟩

theorem shrinks_of_eq
    (same : after.device deviceID = before.device deviceID) : Shrinks deviceID before after :=
  fun later present => ⟨later, same ▸ present, id⟩

theorem shrinks_of_none (absent : after.device deviceID = none) :
    Shrinks deviceID before after := by
  intro later present
  simp [absent] at present

/-- Changing a device that is there. -/
theorem shrinks_setDevice (runs : before.guest = some guest)
    (present : guest.device other = some earlier)
    (shows : earlier.shown = true → later.shown = true) :
    Shrinks deviceID before (before.setDevice guest other (some later)) := by
  by_cases same : deviceID = other
  · subst same
    intro found isFound
    rw [device_setDevice_self] at isFound
    obtain rfl := some.inj isFound
    exact ⟨earlier, (device_eq runs).trans present, shows⟩
  · exact shrinks_of_eq (device_setDevice_of_ne runs same)

/-- Removing a device. -/
theorem shrinks_removeDevice (runs : before.guest = some guest) :
    Shrinks deviceID before (before.setDevice guest other none) := by
  by_cases same : deviceID = other
  · subst same
    exact shrinks_of_none device_setDevice_self
  · exact shrinks_of_eq (device_setDevice_of_ne runs same)

end Machine

open Machine

/-- What a guest lists. -/
theorem mem_listed {guest : Guest} :
    deviceID ∈ guest.listed ↔
      ∃ device, guest.device deviceID = some device ∧ device.shown = true := by
  rw [Guest.listed, List.mem_filter, any_eq_true]
  constructor
  · rintro ⟨-, device, present, shown⟩
    exact ⟨device, present, shown⟩
  · rintro ⟨device, present, shown⟩
    refine ⟨mem_keys.1 (lookup_isSome.1 ?_), device, present, shown⟩
    exact isSome_iff_exists.2 ⟨device, present⟩

variable {before after : Machine}

/-- What the guest does by itself adds no device. -/
theorem shrinks_of_settles (settles : Settles before after)
    (deviceID : String) : Shrinks deviceID before after := by
  cases settles with
  | shows runs present => exact shrinks_setDevice runs present fun _ => rfl
  | leaves runs present leaving => exact shrinks_removeDevice runs

/-- The name a call adds a device under. -/
def DeviceCall.adds : DeviceCall → Option String
  | .deviceAdd deviceID _ _ _ => some deviceID
  | _ => none

/-- A call adds a device under its own name at most. -/
theorem shrinks_of_perform (performed : perform responsive call before reply after)
    (other : call.adds ≠ some (eniDeviceID slot)) : Shrinks (eniDeviceID slot) before after := by
  cases call with
  | setupTap eniID mac =>
    rcases performed with rfl | ⟨-, rfl⟩
    · exact shrinks_of_eq rfl
    · exact .refl _ _
  | netdevAdd netdevID ifname =>
    obtain ⟨rfl, -⟩ := performed
    exact .refl _ _
  | deviceAdd deviceID busID netdevID mac =>
    rcases performed with ⟨guest, shown, runs, -, rfl, -⟩ | ⟨-, rfl⟩
    · refine shrinks_of_eq (device_setDevice_of_ne runs ?_)
      rintro rfl
      exact other rfl
    · exact .refl _ _
  | deviceDel deviceID =>
    rcases performed with ⟨guest, device, runs, present, rfl | ⟨-, rfl⟩⟩ | ⟨-, rfl, -⟩
    · exact shrinks_removeDevice runs
    · exact shrinks_setDevice runs present id
    · exact .refl _ _
  | netdevDel netdevID =>
    obtain rfl := performed
    exact .refl _ _
  | queryPCI =>
    obtain ⟨rfl, -⟩ := performed
    exact .refl _ _
  | cleanupTap tapName =>
    rcases performed with rfl | rfl
    · exact shrinks_of_eq rfl
    · exact .refl _ _
  | endQEMU =>
    rcases performed with rfl | ⟨-, rfl⟩
    · exact shrinks_of_none rfl
    · exact .refl _ _
  | prepare =>
    obtain rfl := performed
    exact .refl _ _
  | launch =>
    rcases performed with ⟨guest, fresh, rfl⟩ | ⟨-, rfl⟩
    · exact shrinks_of_none (fresh slot)
    · exact .refl _ _
  | connect =>
    rcases performed with rfl | ⟨-, rfl⟩
    · exact .refl _ _
    · exact shrinks_of_none rfl
  | status =>
    obtain rfl := performed
    exact .refl _ _

/-! ## Rules -/

/-- A property of the plugged devices that fewer of them keep. -/
def Closed (property : Machine → Prop) : Prop :=
  ∀ before after, (∀ slot, Shrinks (eniDeviceID slot) before after) →
    property before → property after

section

variable {responsive : Bool} {property pre post : Machine → Prop}

theorem Closed.and (first : Closed pre) (second : Closed post) :
    Closed fun machine => pre machine ∧ post machine :=
  fun before after shrinks holds =>
    ⟨first before after shrinks holds.1, second before after shrinks holds.2⟩

variable {fact : Prop}

theorem Closed.imp (closed : Closed property) : Closed fun machine => fact → property machine :=
  fun before after shrinks holds isFact => closed before after shrinks (holds isFact)

theorem Closed.steady (closed : Closed property) : (machinery responsive).Steady property :=
  fun _ _ settles holds => closed _ _ (fun _ => shrinks_of_settles settles _) holds

variable {call : DeviceCall}

/-- A call that adds no device keeps a closed property. -/
theorem Closed.perform {before after : Machine} {reply : DeviceReply call}
    (closed : Closed property) (adds : call.adds = none)
    (performed : perform responsive call before reply after) (holds : property before) :
    property after := by
  refine closed _ _ (fun slot => ?_) holds
  apply shrinks_of_perform performed
  rw [adds]
  rintro ⟨⟩

variable {Result : Type} {program : Pipeline Result}

/-- So does a program of such calls. -/
theorem Closed.confined (closed : Closed property)
    (only : program.Only fun call => call.adds = none) :
    (machinery responsive).Confined () property program fun _ => True :=
  confined_only closed.steady
    (fun _ _ _ _ adds holds performed => closed.perform adds performed holds)
    only

theorem Closed.request (closed : Closed property) (adds : call.adds = none) :
    (machinery responsive).Ensures () property (.call call .done : Pipeline (DeviceReply call))
      fun _ machine => property machine :=
  ensures_request closed.steady (fun _ => closed.steady)
    fun _ _ _ holds performed => closed.perform adds performed holds

/-- And so does one whose results are of some kind whatever happens. -/
theorem Closed.ensures {fact : Result → Prop} (closed : Closed property)
    (only : program.Only fun call => call.adds = none) (yields : program.Yields fact) :
    (machinery responsive).Ensures () property program
      fun result machine => property machine ∧ fact result := by
  intro before result after holds run
  obtain ⟨-, isFact⟩ := run.notes yields
  exact ⟨(closed.confined only _ _ _ holds run).1, isFact⟩

theorem only_pollPCI (deviceID : String) (wantPresent : Bool) (maxAttempts left : Nat) :
    (pollPCI deviceID wantPresent maxAttempts left).Only fun call => call.adds = none := by
  induction left with
  | zero => trivial
  | succ left induction =>
    refine ⟨rfl, fun reply => ?_⟩
    cases reply with
    | error text => trivial
    | ok devices =>
      change (if decide (deviceID ∈ devices) = wantPresent then _
        else _ : Pipeline (Except Failure Unit)).Only _
      split
      · trivial
      · exact induction

/-- Waiting for a device, or for its absence. -/
theorem ensures_pollPCI {deviceID : String} (closed : Closed pre)
    (judged : ∀ machine, pre machine → ((∃ device,
        machine.device deviceID = some device ∧ device.shown = true) ↔ wantPresent = true) →
      post machine)
    (closedPost : Closed post) (left : Nat) :
    (machinery responsive).Ensures () pre (pollPCI deviceID wantPresent maxAttempts left)
      fun result machine => pre machine ∧ (result = .ok () → post machine) := by
  induction left with
  | zero =>
    refine ensures_pure closed.steady fun machine holds => ?_
    exact ⟨holds, nofun⟩
  | succ left induction =>
    have asked :
        (machinery responsive).Ensures () pre queryPCI
          fun reply machine => pre machine ∧ ((∃ devices, reply = .ok devices ∧
                decide (deviceID ∈ devices) = wantPresent) →
            post machine) := by
      apply ensures_request closed.steady (fun reply => (closed.and closedPost.imp).steady)
      rintro before reply after holds ⟨rfl, listed⟩
      refine ⟨holds, ?_⟩
      rintro ⟨devices, isReply, wanted⟩
      obtain ⟨guest, runs, perm⟩ := listed devices isReply
      apply judged _ holds
      rw [device_eq runs, ← mem_listed, ← perm.mem_iff, ← wanted]
      simp
    refine ensures_bind asked (either (fun _ => ?_) fun devices => ?_)
    · refine ensures_pure (closed.and closedPost.imp).steady ?_
      intro machine holds
      exact ⟨holds.1, nofun⟩
    dsimp only
    split
    next wanted =>
      refine ensures_pure (closed.and closedPost.imp).steady ?_
      intro machine holds
      exact ⟨holds.1, fun _ => holds.2 ⟨devices, rfl, wanted⟩⟩
    · exact induction.strengthen fun machine holds => holds.1

/-! ## Plugged devices -/

/-- The slot has no device. -/
def Absent (slot : Nat) (machine : Machine) : Prop :=
  machine.device (eniDeviceID slot) = none

/-- A device of the slot is listed. -/
def Listed (slot : Nat) (machine : Machine) : Prop :=
  ∀ device, machine.device (eniDeviceID slot) = some device → device.shown = true

/-- Devices of other slots are listed, and their slots are not free. -/
def TidyBut (slot : Nat) (free : Nat → Prop) (machine : Machine) : Prop :=
  ∀ other, other ≠ slot → Listed other machine ∧ (free other → Absent other machine)

variable (slot : Nat)

theorem closed_absent : Closed (Absent slot) := by
  intro before after shrinks absent
  refine eq_none_iff_forall_ne_some.2 fun later present => ?_
  obtain ⟨earlier, there, -⟩ := shrinks slot later present
  rw [absent] at there
  cases there

theorem closed_listed : Closed (Listed slot) := by
  intro before after shrinks listed later present
  obtain ⟨earlier, there, shows⟩ := shrinks slot later present
  exact shows (listed earlier there)

variable (free : Nat → Prop)

theorem closed_tidyBut : Closed (TidyBut slot free) := by
  intro before after shrinks tidy other different
  exact ⟨closed_listed other before after shrinks (tidy other different).1,
      fun isFree => closed_absent other before after shrinks ((tidy other different).2 isFree)⟩

variable {machine : Machine}

theorem Absent.listed {slot : Nat} (absent : Absent slot machine) : Listed slot machine := by
  intro device present
  rw [absent] at present
  cases present

/-- Every device is listed, and a free slot has none. -/
abbrev Tidy (slot : Nat) (free : Nat → Prop) (machine : Machine) : Prop :=
  TidyBut slot free machine ∧ Listed slot machine

/-- Every device is listed, and the slot, like a free one, has none. -/
abbrev Vacant (slot : Nat) (free : Nat → Prop) (machine : Machine) : Prop :=
  TidyBut slot free machine ∧ Absent slot machine

theorem closed_tidy : Closed (Tidy slot free) :=
  (closed_tidyBut slot free).and (closed_listed slot)

theorem closed_vacant : Closed (Vacant slot free) :=
  (closed_tidyBut slot free).and (closed_absent slot)

theorem closed_outcome :
    Closed fun machine => Tidy slot free machine ∧ (fact → Vacant slot free machine) :=
  (closed_tidy slot free).and (closed_vacant slot free).imp

variable {slot : Nat} {free : Nat → Prop} {eniID mac : String}

theorem Vacant.tidy (vacant : Vacant slot free machine) : Tidy slot free machine :=
  ⟨vacant.1, vacant.2.listed⟩

/-- A responsive guest adds no device it reports an error for. -/
theorem ensures_deviceAdd :
    (machinery true).Ensures () (Vacant slot free) (deviceAdd (eniDeviceID slot) busID netdevID mac)
      fun reply machine => TidyBut slot free machine ∧
        (reply ≠ .ok () → Vacant slot free machine) := by
  refine ensures_request (closed_vacant slot free).steady (fun reply =>
      ((closed_tidyBut slot free).and (closed_vacant slot free).imp).steady) ?_
  rintro before reply after vacant performed
  rcases performed with ⟨guest, shown, runs, -, rfl, answered⟩ | ⟨-, rfl⟩
  · refine ⟨?_, fun failed => absurd (answered rfl) failed⟩
    intro other different
    have same :
        (before.setDevice guest (eniDeviceID slot)
            (some ⟨mac, shown, false⟩)).device (eniDeviceID other) =
          before.device (eniDeviceID other) :=
      device_setDevice_of_ne runs fun names =>
        different (Go.repr_injective ((String.append_right_inj _).1 names))
    have kept := vacant.1 other different
    unfold Listed Absent at kept ⊢
    rwa [same]
  · exact ⟨vacant.1, fun _ => vacant⟩

/-- A responsive guest drops a device that it is told to. -/
theorem ensures_deviceDel :
    (machinery true).Ensures () (TidyBut slot free) (deviceDel (eniDeviceID slot))
      fun _ machine => Vacant slot free machine := by
  refine ensures_request (closed_tidyBut slot free).steady
    (fun reply => (closed_vacant slot free).steady) ?_
  intro before reply after tidy performed
  have kept : TidyBut slot free after :=
    @Closed.perform true _ (.deviceDel (eniDeviceID slot)) before after
      reply (closed_tidyBut slot free) rfl performed tidy
  refine ⟨kept, ?_⟩
  rcases performed with ⟨guest, device, runs, -, rfl | ⟨impossible, -⟩⟩ | ⟨-, rfl, absent⟩
  · exact device_setDevice_self
  · cases impossible
  · exact absent rfl

/-- Waiting until a device is listed. -/
theorem ensures_waitForPCIDevice_present :
    (machinery responsive).Ensures () (TidyBut slot free) (waitForPCIDevice (eniDeviceID slot) true)
      fun result machine => TidyBut slot free machine ∧
        (result = .ok () → Tidy slot free machine) := by
  refine ensures_pollPCI (closed_tidyBut slot free) ?_ (closed_tidy slot free) _
  intro machine tidy seen
  obtain ⟨device, present, shown⟩ := seen.2 rfl
  refine ⟨tidy, fun other found => ?_⟩
  obtain rfl := some.inj (present.symm.trans found)
  exact shown

/-- Waiting until a listed device is gone. -/
theorem ensures_waitForPCIDevice_absent :
    (machinery responsive).Ensures () (Tidy slot free) (waitForPCIDevice (eniDeviceID slot) false)
      fun result machine => Tidy slot free machine ∧
        (result = .ok () → Vacant slot free machine) := by
  refine ensures_pollPCI (closed_tidy slot free) ?_ (closed_vacant slot free) _
  rintro machine ⟨tidy, listed⟩ seen
  refine ⟨tidy, eq_none_iff_forall_ne_some.2 ?_⟩
  intro device present
  exact absurd (seen.1 ⟨device, present, listed device present⟩) (by simp)

/-- A pipeline that gives up on a vacant slot leaves it vacant. -/
theorem ensures_givesUp
    {program : Pipeline (Except Failure Unit)} (only : program.Only fun call => call.adds = none)
    (yields : program.Yields (· ≠ .ok ())) :
    (machinery responsive).Ensures () (Vacant slot free) program
      fun result machine => Tidy slot free machine ∧
        (result ≠ .ok () → Vacant slot free machine) := by
  intro before result after holds run
  have kept := (closed_vacant slot free).ensures only yields before result after holds run
  exact ⟨kept.1.tidy, fun _ => kept.1⟩

/-- An attach on a vacant slot leaves a listed device there, or none. -/
theorem ensures_plug :
    (machinery true).Ensures () (Vacant slot free) (plug eniID mac slot)
      fun result machine => Tidy slot free machine ∧
        (result ≠ .ok () → Vacant slot free machine) := by
  have closed := closed_vacant slot free
  refine ensures_bind (closed.request rfl)
    (either (fun _ => ensures_givesUp trivial nofun) fun tapped => ?_)
  refine ensures_bind (closed.request rfl) (either (fun _ => ?_) fun backed => ?_)
  · exact ensures_givesUp ⟨rfl, fun _ => trivial⟩ fun _ => nofun
  refine ensures_bind ensures_deviceAdd (either (fun _ => ?_) fun added => ?_)
  · refine System.Ensures.strengthen (ensures_givesUp ?_ ?_) fun machine holds => holds.2 (by simp)
    · exact ⟨rfl, fun _ => ⟨rfl, fun _ => trivial⟩⟩
    · exact fun _ _ => nofun
  refine ensures_bind (ensures_waitForPCIDevice_present.strengthen
      fun machine holds => holds.1) fun result => ?_
  cases result with
  | error failure =>
    refine ensures_bind (ensures_deviceDel.strengthen fun machine holds => holds.1) fun reply => ?_
    refine ensures_givesUp ?_ ?_
    · exact ⟨rfl, fun _ => ⟨rfl, fun _ => trivial⟩⟩
    · exact fun _ _ => nofun
  | ok listed =>
    refine ensures_pure ((closed_tidyBut slot free).and (closed_tidy slot free).imp).steady ?_
    intro machine holds
    exact ⟨holds.2 rfl, fun failed => absurd rfl failed⟩

/-- What the deletion of a device leaves to the rest of a detach. -/
abbrev Deleted (force : Bool) (slot : Nat) (free : Nat → Prop) (machine : Machine) : Prop :=
  Tidy slot free machine ∧ (force = true → Vacant slot free machine)

variable {force : Bool}

/-- The end of a detach. -/
theorem ensures_awaitUnplug :
    (machinery responsive).Ensures () (Deleted force slot free) (awaitUnplug eniID slot force)
      fun result machine => Tidy slot free machine ∧
        (result = .ok () → Vacant slot free machine) := by
  have waited : (machinery responsive).Ensures () (Deleted force slot free)
      (waitForPCIDevice (eniDeviceID slot) false)
      fun result machine => Tidy slot free machine ∧
        (result = .ok () ∨ force = true → Vacant slot free machine) := by
    intro before result after holds run
    have seen := ensures_waitForPCIDevice_absent before result after holds.1 run
    refine ⟨seen.1, ?_⟩
    rintro (found | forced)
    · exact seen.2 found
    · exact ((closed_vacant slot free).confined
          (only_pollPCI (eniDeviceID slot) false _ _) before result after
          (holds.2 forced) run).1
  have cleared : (machinery responsive).Ensures () (Vacant slot free) (do
          let _ ← netdevDel (eniNetdevID slot)
          cleanupENITap (tapDeviceName eniID)
          return .ok () : Pipeline (Except Failure Unit))
        fun result machine => Tidy slot free machine ∧
          (result = .ok () → Vacant slot free machine) := by
    have only : (do
          let _ ← netdevDel (eniNetdevID slot)
          cleanupENITap (tapDeviceName eniID)
          return .ok () : Pipeline (Except Failure Unit)).Only
          fun call => call.adds = none :=
      ⟨rfl, fun _ => ⟨rfl, fun _ => trivial⟩⟩
    intro before result after holds run
    have kept := ((closed_vacant slot free).confined only _ _ _ holds run).1
    exact ⟨kept.tidy, fun _ => kept⟩
  refine ensures_bind waited fun result => ?_
  cases result with
  | ok gone =>
    exact cleared.strengthen fun machine holds => holds.2 (Or.inl rfl)
  | error failure =>
    cases force with
    | true =>
      exact cleared.strengthen fun machine holds => holds.2 (Or.inr rfl)
    | false =>
      refine ensures_pure (closed_outcome slot free).steady ?_
      intro machine holds
      exact ⟨holds.1, nofun⟩

/-- A detach from a slot leaves no device there if it succeeds. -/
theorem ensures_unplug (forced : force = true → responsive = true) :
    (machinery responsive).Ensures () (Tidy slot free) (unplug eniID slot force)
      fun result machine => Tidy slot free machine ∧
        (result = .ok () → Vacant slot free machine) := by
  have deleted : (machinery responsive).Ensures () (Tidy slot free) (deviceDel (eniDeviceID slot))
      fun _ machine => Deleted force slot free machine := by
    intro before reply after holds run
    have kept := @Closed.request responsive _ (.deviceDel (eniDeviceID slot))
        (closed_tidy slot free) rfl before reply after holds run
    refine ⟨kept, fun isForced => ?_⟩
    obtain rfl := forced isForced
    exact ensures_deviceDel before reply after holds.1 run
  refine ensures_bind deleted fun reply => ?_
  cases reply with
  | ok done => exact ensures_awaitUnplug
  | error text =>
    cases force with
    | true => exact ensures_awaitUnplug
    | false =>
      refine ensures_pure (closed_outcome slot free).steady ?_
      intro machine holds
      exact ⟨holds.1, nofun⟩

end

/-! ## A healthy machine -/

/-- What a machine on which nothing fails does with a call. -/
def healthyAnswer :
    (call : DeviceCall) → Machine → Option (DeviceReply call × Machine)
  | .setupTap eniID _, machine =>
    some (.ok (), machine.setTap (tapDeviceName eniID) true)
  | .netdevAdd _ _, machine => machine.guest.map fun _ => (.ok (), machine)
  | .deviceAdd deviceID _ _ mac, machine =>
    machine.guest.bind fun guest => if guest.device deviceID = none then
        some (.ok (), machine.setDevice guest deviceID (some ⟨mac, true, false⟩))
      else
        none
  | .deviceDel deviceID, machine =>
    machine.guest.bind fun guest => (guest.device deviceID).map fun _ =>
        (.ok (), machine.setDevice guest deviceID none)
  | .netdevDel _, machine => some (.ok (), machine)
  | .queryPCI, machine =>
    machine.guest.map fun guest => (.ok guest.listed, machine)
  | .cleanupTap tapName, machine => some ((), machine.setTap tapName false)
  | .endQEMU, machine => some (.ok (), { machine with guest := none })
  | .prepare, machine => some (.ok (), machine)
  | .launch, machine => some (.ok (), { machine with guest := some ⟨∅⟩ })
  | .connect, machine => some (.ok (), machine)
  | .status, machine => some (.running, machine)

theorem perform_healthyAnswer (answered : healthyAnswer call before = some (reply, after)) :
    perform responsive call before reply after := by
  cases call with
  | setupTap eniID mac =>
    cases answered
    exact Or.inl rfl
  | netdevAdd netdevID ifname =>
    obtain ⟨guest, runs, same⟩ := map_eq_some_iff.1 answered
    cases same
    exact ⟨rfl, fun _ => by rw [runs]; rfl⟩
  | deviceAdd deviceID busID netdevID mac =>
    obtain ⟨guest, runs, added⟩ := bind_eq_some_iff.1 answered
    split at added
    next absent =>
      cases added
      exact Or.inl ⟨guest, true, runs, absent, rfl, fun _ => rfl⟩
    · cases added
  | deviceDel deviceID =>
    obtain ⟨guest, runs, removed⟩ := bind_eq_some_iff.1 answered
    obtain ⟨device, present, left⟩ := map_eq_some_iff.1 removed
    cases left
    exact Or.inl ⟨guest, device, runs, present, Or.inl rfl⟩
  | netdevDel netdevID =>
    cases answered
    rfl
  | queryPCI =>
    obtain ⟨guest, runs, listed⟩ := map_eq_some_iff.1 answered
    cases listed
    refine ⟨rfl, fun devices isReply => ⟨guest, runs, ?_⟩⟩
    obtain rfl := Except.ok.inj isReply
    exact List.Perm.refl _
  | cleanupTap tapName | endQEMU =>
    cases answered
    exact Or.inl rfl
  | prepare =>
    cases answered
    rfl
  | launch =>
    cases answered
    exact Or.inl ⟨⟨∅⟩, fun slot => lookup_empty _, rfl⟩
  | connect =>
    cases answered
    exact Or.inl rfl
  | status =>
    cases answered
    rfl

/-- Runs on a healthy machine. -/
def healthy (responsive : Bool) : (machinery responsive).Resolver Unit where
  call _ call machine _ := healthyAnswer call machine
  drift _ _ := none
  call_sound _ _ _ _ _ _ := perform_healthyAnswer
  drift_sound := by
    rintro before choice after ⟨⟩

end Spinifex.Eni
