import Spinifex.Ebs.Gateway

/-!
# Schedules

Runs of a deployment that can be evaluated.  Each step of a schedule says if
the call works, as it does on a healthy cluster, or is reported as failed
without having done anything; a guest unplugs a device or exits when the
schedule says so.
-/

namespace Spinifex.Ebs

open Concurrency Go

/-- What a schedule decides about one step. -/
inductive Choice where
  | works
  | fails
  | unplugs (instanceID volumeID : String)
  | exits (instanceID : String)

/-- The error of a call that is made to fail. -/
def outage : Failure := ⟨[], "unavailable"⟩

/-- What a guest does with a command it can carry out. -/
def Guest.carryOut (volumeID : String) :
    QMPCommand → Guest → Option Guest
  | .objectAdd, guest => some guest
  | .objectDel, guest => some guest
  | .blockdevAdd, guest => some (guest.addNode volumeID)
  | .deviceAdd _, guest =>
    if ready :
        guest.devices volumeID = none ∧ guest.nodes volumeID = true then
      some (guest.setDevice volumeID .plugged ready.2)
    else
      none
  | .deviceDel, guest =>
    if present : guest.devices volumeID ≠ none then
      some (guest.setDevice volumeID .unplugging (guest.backed volumeID present))
    else
      none
  | .blockdevDel, guest =>
    if unused : guest.devices volumeID = none then some (guest.dropNode volumeID unused) else none

theorem Guest.carryOut_sound (done : Guest.carryOut volumeID command guest = some changed) :
    Guest.Does volumeID command guest changed := by
  cases command with
  | objectAdd =>
    cases done
    exact .objectAdd guest
  | objectDel =>
    cases done
    exact .objectDel guest
  | blockdevAdd =>
    cases done
    exact .blockdevAdd guest
  | deviceAdd port =>
    simp only [carryOut] at done
    split at done
    next ready =>
      cases done
      exact .deviceAdd guest port ready.1 ready.2
    · cases done
  | deviceDel =>
    simp only [carryOut] at done
    split at done
    next present =>
      cases done
      exact .deviceDel guest present
    · cases done
  | blockdevDel =>
    simp only [carryOut] at done
    split at done
    next unused =>
      cases done
      exact .blockdevDel guest unused
    · cases done

/-- The answers of healthy surroundings. -/
def healthy : (question : Question) → Answer question
  | .now => 0
  | .timestamp => "2026-01-01T00:00:00Z"
  | .zone => ""
  | .replyArrives => true
  | .cancelled => false
  | .parseNBDURI _ => .ok ()
  | .expandVolume _ _ _ => .ok ()
  | .teardownVolume _ _ => .ok ()
  | .hasSnapshots _ => .ok false
  | .lastNode _ => .ok none
  | .members => ["node"]
  | .recordObligation _ => .ok ()
  | .leaked => .ok []
  | .deleteInternal _ => .ok ()
  | .transition _ _ => .ok ()
  | .writeTerminated _ => .ok ()

section

variable {Index : Type}

/-- The answer of a call that works. -/
def works (index : Index) :
    (op : Op) → Cluster Index → Option (Reply op × Cluster Index)
  | .getVolume key _, before =>
    match before.documents key with
    | some volume => some (.ok volume, before)
    | none => some (.error Sentinel.noSuchKey.failure, before)
  | .putVolume _ volume, before => some (.ok (), before.putDocument volume)
  | .deleteVolume key, before => some (.ok (), before.removeDocument key)
  | .listKeys, before => some (.ok [], before)
  | .isStopped instanceID, before =>
    some ((before.stopped instanceID).isSome, before)
  | .loadStopped instanceID, before =>
    some (.ok (before.stopped instanceID), before)
  | .updateStopped instanceID mutate, before =>
    match before.stopped instanceID with
    | some vm => some (.committed vm [], before.putStopped instanceID (mutate vm))
    | none => some (.failed Sentinel.recordNotFound.failure none [], before)
  | .route instanceID, before =>
    some ((before.running instanceID).map Running.node, before)
  | .get instanceID, before =>
    some ((before.running instanceID).map Running.vm, before)
  | .updateState instanceID mutate, before =>
    some ((), before.editRunning instanceID mutate)
  | .lock instanceID, before =>
    if before.attachMu instanceID = none then
      some ((), before.setLock instanceID (some index))
    else
      none
  | .unlock instanceID, before => some ((), before.setLock instanceID none)
  | .qmp instanceID volumeID command, before =>
    ((before.guests instanceID).bind (Guest.carryOut volumeID command)).map fun guest =>
        (.ok (), before.setGuest instanceID (some guest))
  | .qemuConfirmedDead instanceID, before =>
    some ((before.guests instanceID).isNone, before)
  | .publish node volumeID, before =>
    some (.ok (.nbd "nbd:unix:export"), before.setExport node volumeID true)
  | .unpublish node volumeID, before =>
    some (.ok (), before.setExport node volumeID false)
  | .deleteStopped instanceID, before =>
    some (.ok (), before.removeStopped instanceID)
  | .shutdown instanceID, before => some ((), before.setGuest instanceID none)
  | .forget instanceID, before => some ((), before.removeRunning instanceID)
  | .ask question, before => some (healthy question, before)

/-- The answer of a call that fails and does nothing. -/
def fails :
    (op : Op) → Cluster Index → Option (Reply op × Cluster Index)
  | .getVolume _ _, before => some (.error outage, before)
  | .putVolume _ _, before => some (.error outage, before)
  | .deleteVolume _, before => some (.error outage, before)
  | .listKeys, before => some (.error outage, before)
  | .loadStopped _, before => some (.error outage, before)
  | .updateStopped _ _, before => some (.failed outage none [], before)
  | .qmp instanceID _ _, before =>
    some (.error (.other "unavailable"), before.setGuest instanceID (before.guests instanceID))
  | .publish _ _, before => some (.error .refused, before)
  | .unpublish _ _, before => some (.error outage, before)
  | .deleteStopped _, before => some (.error outage, before)
  | .ask (.writeTerminated _), before => some (.error outage, before)
  | .ask .replyArrives, before => some (false, before)
  | _, _ => none

/-- The answer a schedule chooses. -/
def answer (index : Index) (op : Op) (before : Cluster Index) :
    Choice → Option (Reply op × Cluster Index)
  | .works => works index op before
  | .fails => fails op before
  | _ => none

variable {before after : Cluster Index}

theorem works_sound (answered : works index op before = some (reply, after)) :
    perform index op before reply after := by
  cases op with
  | getVolume key purpose =>
    simp only [works] at answered
    split at answered
    next stored =>
      cases answered
      exact ⟨rfl, stored⟩
    next stored =>
      cases answered
      exact ⟨rfl, fun _ => stored⟩
  | putVolume seen volume | deleteVolume key =>
    cases answered
    exact .inl rfl
  | listKeys =>
    cases answered
    exact rfl
  | isStopped instanceID =>
    cases answered
    exact ⟨rfl, fun present => Option.isSome_iff_ne_none.1 present⟩
  | loadStopped instanceID =>
    cases answered
    refine ⟨rfl, ?_⟩
    rintro record ⟨⟩
    rfl
  | updateStopped instanceID mutate =>
    simp only [works] at answered
    split at answered
    next vm stored =>
      cases answered
      exact .inl ⟨vm, rfl, stored, rfl⟩
    · cases answered
      exact .inr ⟨rfl, rfl⟩
  | route instanceID =>
    cases answered
    exact ⟨rfl, fun _ named => named⟩
  | get instanceID =>
    cases answered
    exact ⟨rfl, rfl⟩
  | updateState instanceID mutate =>
    cases answered
    exact rfl
  | lock instanceID =>
    simp only [works] at answered
    split at answered
    next free =>
      cases answered
      exact ⟨free, rfl⟩
    · cases answered
  | unlock instanceID =>
    cases answered
    exact rfl
  | qmp instanceID volumeID command =>
    simp only [works, Option.map_eq_some_iff, Option.bind_eq_some_iff] at answered
    rcases answered with ⟨changed, ⟨guest, present, done⟩, same⟩
    cases same
    exact ⟨some changed, ⟨guest, changed, present, rfl, Guest.carryOut_sound done⟩, rfl⟩
  | qemuConfirmedDead instanceID =>
    cases answered
    exact ⟨rfl, fun gone => Option.isNone_iff_eq_none.1 gone⟩
  | publish node volumeID =>
    cases answered
    exact rfl
  | unpublish node volumeID | deleteStopped instanceID =>
    cases answered
    exact .inl rfl
  | shutdown instanceID =>
    cases answered
    exact ⟨none, .inl rfl, rfl⟩
  | forget instanceID | ask question =>
    cases answered
    exact rfl

theorem fails_sound
    (answered : fails op before = some (reply, after)) : perform index op before reply after := by
  cases op with
  | getVolume key purpose =>
    cases answered
    exact ⟨rfl, nofun⟩
  | putVolume seen volume | deleteVolume key =>
    cases answered
    exact .inr ⟨nofun, rfl⟩
  | listKeys =>
    cases answered
    exact rfl
  | loadStopped instanceID =>
    cases answered
    exact ⟨rfl, nofun⟩
  | updateStopped instanceID mutate =>
    cases answered
    exact .inr ⟨rfl, rfl⟩
  | qmp instanceID volumeID command =>
    cases answered
    exact ⟨_, .inl rfl, rfl⟩
  | publish node volumeID =>
    cases answered
    exact .inl rfl
  | unpublish node volumeID | deleteStopped instanceID =>
    cases answered
    exact .inr ⟨nofun, rfl⟩
  | ask question =>
    cases question with
    | replyArrives | writeTerminated instanceID =>
      cases answered
      exact rfl
    | _ => cases answered
  | _ => cases answered

/-- The drift a schedule chooses. -/
def drifts (before : Cluster Index) :
    Choice → Option (Cluster Index)
  | .unplugs instanceID volumeID =>
    match before.guests instanceID with
    | some guest =>
      if guest.devices volumeID = some .unplugging then
        some (before.setGuest instanceID (some (guest.dropDevice volumeID)))
      else
        none
    | none => none
  | .exits instanceID => some (before.setGuest instanceID none)
  | _ => none

theorem drifts_sound (drifted : drifts before choice = some after) : Drift before after := by
  cases choice with
  | works | fails => cases drifted
  | unplugs instanceID volumeID =>
    simp only [drifts] at drifted
    split at drifted
    next present =>
      split at drifted
      next leaving =>
        cases drifted
        exact .unplugged present leaving
      · cases drifted
    · cases drifted
  | exits instanceID =>
    cases drifted
    exact .exited

variable (Index)

def scheduler : (system Index).Resolver Choice where
  call index op before choice := answer index op before choice
  drift := drifts
  call_sound := by
    intro index op before choice reply after answered
    cases choice with
    | works => exact works_sound answered
    | fails => exact fails_sound answered
    | unplugs instanceID volumeID => cases answered
    | exits instanceID => cases answered
  drift_sound _ _ _ drifted := drifts_sound drifted

end

/-! ## A small cluster -/

namespace Sample

/-- The account of the small cluster. -/
def account : String := "000000000001"

def volume : Volume :=
  ⟨"vol-1", account, 8, .available, none, "", "", "", "gp3", 3000, [], "handle", none⟩

/-- The record of a stopped instance without volumes. -/
def stopped : VM :=
  ⟨account, .stopped, false, [], some ⟨"/dev/sda1", []⟩, false, "", []⟩

/-- One volume and two stopped instances. -/
def cluster (Index : Type) : Cluster Index where
  documents key := if key = volume.key then some volume else none
  stopped id := if id = "i-1" ∨ id = "i-2" then some stopped else none
  running _ := none
  attachMu _ := none
  guests _ := none
  exports _ _ := false

/-- One step of a thread whose call works. -/
def step {Index : Type} (index : Index) : System.Move Index Choice :=
  .thread index .works

/-- Several such steps. -/
def steps {Index : Type} (count : Nat) (index : Index) : List (System.Move Index Choice) :=
  List.replicate count (step index)

end Sample

end Spinifex.Ebs
