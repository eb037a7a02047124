import Spinifex.Eni.Hotplug

/-!
# Histories of hot-plug slots

One instance and its machine under any sequence of attaches, detaches,
adoptions, releases, relaunches and starts, with any call of a pipeline failing.
The slots of the record stay exact as long as a guest is started over an empty
slot map and an adoption takes a free slot for an interface without one.  No
free slot has a device if, besides, a release is of an interface without a
device and the guest is responsive in the pipelines that do not wait for it.
-/

namespace Spinifex.Eni

open Concurrency ENIRequests System Eni List
open Ebs (InstanceState)

/-! ## Worlds -/

/-- An instance and its machine. -/
structure World where
  vm : VM
  machine : Machine

/-- An instance of a type right after its first launch. -/
def World.cold (id instanceType : String) : World where
  vm := (VM.mk id instanceType false .running true .blank).resetSlots
  machine := ⟨some ⟨∅⟩, fun _ => false⟩

/-- What happens to an instance. -/
inductive Action where
  | hotPlugENI (eniID mac : String)
  | hotUnplugENI (eniID : String) (force : Bool)
  | adoptENISlot (eniID : String) (slot : Nat)
  | releaseENISlot (eniID : String)
  | relaunchGuest
  | startQEMU
  | ends
  | moves (status : InstanceState)

/-- One action, and whether the guest is responsive during it. -/
structure Event where
  action : Action
  responsive : Bool

/-- A pipeline that returns the instance beside its result. -/
def World.Runs {Result : Type} (responsive : Bool)
    (program : Pipeline (Result × VM)) (before after : World) : Prop :=
  ∃ result, (machinery responsive).Executes () program before.machine
    (result, after.vm) after.machine

/-- What an event leaves behind. -/
def World.Step (event : Event) (before after : World) : Prop :=
  match event.action with
  | .hotPlugENI eniID mac =>
    before.Runs event.responsive (Eni.hotPlugENI before.vm eniID mac) after
  | .hotUnplugENI eniID force =>
    before.Runs event.responsive (Eni.hotUnplugENI before.vm eniID force) after
  | .adoptENISlot eniID slot =>
    after.vm = before.vm.withRequests (before.vm.eniRequests.adoptENISlot eniID slot) ∧
      after.machine = before.machine
  | .releaseENISlot eniID =>
    after.vm = before.vm.withRequests (before.vm.eniRequests.releaseENISlot eniID) ∧
      after.machine = before.machine
  | .relaunchGuest =>
    before.Runs event.responsive (Eni.relaunchGuest before.vm) after
  | .startQEMU => before.Runs event.responsive (Eni.startQEMU before.vm) after
  | .ends =>
    after.vm = before.vm ∧ after.machine = { before.machine with guest := none }
  | .moves status =>
    after.vm = { before.vm with status := status } ∧ after.machine = before.machine

/--
What keeps the slots of the record exact: an adoption of a free slot for an
interface without one, and a start over an empty slot map.
-/
def World.Orderly (event : Event) (before : World) : Prop :=
  match event.action with
  | .adoptENISlot eniID slot => before.vm.eniRequests.Adoptable eniID slot
  | .relaunchGuest | .startQEMU => before.vm.eniRequests.attachedByENIID = ∅
  | _ => True

/--
What keeps devices out of the free slots as well: a responsive guest where a
pipeline frees a slot without having seen the device go, and a release of an
interface without a device.
-/
def World.Meets (event : Event) (before : World) : Prop :=
  World.Orderly event before ∧ match event.action with
    | .hotPlugENI _ _ => event.responsive = true
    | .hotUnplugENI _ force => force = true → event.responsive = true
    | .releaseENISlot eniID =>
      ∀ slot, before.vm.eniRequests.slotOf eniID = some slot → Absent slot before.machine
    | _ => True

variable (allowed : Event → World → Prop)

/-- A step of a kind of events. -/
def World.Takes (before after : World) : Prop :=
  ∃ event, allowed event before ∧ before.Step event after

/-- The worlds that a history of a kind of events leads to. -/
def World.Reaches (start world : World) : Prop :=
  Relation.ReflTransGen (World.Takes allowed) start world

/-! ## Exact slots -/

/-- Every device is listed, and no free slot has one. -/
def AllTidy (free : Nat → Prop) (machine : Machine) : Prop :=
  ∀ slot, Listed slot machine ∧ (free slot → Absent slot machine)

theorem closed_allTidy (free : Nat → Prop) : Closed (AllTidy free) := by
  intro before after shrinks tidy slot
  exact ⟨closed_listed slot before after shrinks (tidy slot).1, fun isFree =>
        closed_absent slot before after shrinks ((tidy slot).2 isFree)⟩

theorem AllTidy.tidy (tidy : AllTidy free machine) (slot : Nat) : Tidy slot free machine :=
  ⟨fun other _ => tidy other, (tidy slot).1⟩

theorem Tidy.all
    (tidy : Tidy slot free machine) (others : ∀ other, other ≠ slot → wider other → free other)
    (here : wider slot → Absent slot machine) : AllTidy wider machine := by
  intro other
  by_cases same : other = slot
  · subst same
    exact ⟨tidy.2, here⟩
  · exact ⟨(tidy.1 other same).1, fun isFree => (tidy.1 other same).2 (others other same isFree)⟩

/-- The slots of the record are exact. -/
structure VM.InOrder (count : Nat) (vm : VM) : Prop where
  slots : hotPlugENISlotsForType vm.instanceType = count
  inOrder : vm.eniRequests.InOrder count

/-- The slots of the record are exact, and so are the devices. -/
structure World.Exact (count : Nat) (world : World) : Prop extends world.vm.InOrder count where
  tidy : AllTidy (· ∈ world.vm.eniRequests.availableSlots) world.machine

namespace World

variable {count : Nat} {vm : VM} {eniID mac : String}

theorem ensures_unchanged (result : Result) :
    (machinery responsive).Ensures () (AllTidy (· ∈ vm.eniRequests.availableSlots))
      (return (result, vm) : Pipeline (Result × VM))
      fun outcome => AllTidy (· ∈ outcome.2.eniRequests.availableSlots) :=
  ensures_pure (closed_allTidy (· ∈ vm.eniRequests.availableSlots)).steady fun _ tidy => tidy

/-- A slot given back may be vacant. -/
theorem Tidy.append {machine : Machine}
    (tidy : Tidy slot (· ∈ free) machine) (absent : Absent slot machine) :
    AllTidy (· ∈ free ++ [slot]) machine := by
  refine tidy.all ?_ fun _ => absent
  intro other different member
  exact (mem_append.1 member).resolve_right fun last => different (mem_singleton.1 last)

/-- Attaching keeps free slots without a device if the guest is responsive. -/
theorem ensures_hotPlugENI (inOrder : vm.eniRequests.InOrder count) :
    (machinery true).Ensures () (AllTidy (· ∈ vm.eniRequests.availableSlots))
      (hotPlugENI vm eniID mac)
      fun outcome => AllTidy (· ∈ outcome.2.eniRequests.availableSlots) := by
  unfold hotPlugENI
  split
  · exact ensures_unchanged _
  split
  · exact ensures_unchanged _
  next unmapped =>
    split
    · exact ensures_unchanged _
    next slot rest free =>
      have taken := inOrder.take free unmapped
      have mapped : (vm.eniRequests.take eniID slot rest).slotOf eniID = some slot :=
        AList.lookup_insert _
      have isFree : slot ∈ vm.eniRequests.availableSlots := by
        rw [free]
        exact mem_cons_self
      have once : slot ∉ rest := by
        intro twice
        exact taken.not_mapped_of_free twice mapped
      refine ensures_bind (ensures_plug.strengthen fun machine tidy => (⟨fun other different =>
              ⟨(tidy other).1, fun later => (tidy other).2 ?_⟩,
            (tidy slot).2 isFree⟩ :
            Vacant slot (· ∈ rest) machine)) fun result => ?_
      · rw [free]
        exact mem_cons_of_mem _ later
      cases result with
      | error failure =>
        refine ensures_pure (closed_outcome slot _).steady ?_
        intro machine left
        exact Tidy.append left.1 (left.2 nofun).2
      | ok plugged =>
        refine ensures_pure (closed_outcome slot _).steady ?_
        intro machine left
        exact Tidy.all left.1 (fun _ _ member => member) fun member => absurd member once

variable {responsive : Bool}

/-- Detaching keeps them so if a forced one is of a responsive guest. -/
theorem ensures_hotUnplugENI {force : Bool} (forced : force = true → responsive = true)
    (inOrder : vm.eniRequests.InOrder count) :
    (machinery responsive).Ensures () (AllTidy (· ∈ vm.eniRequests.availableSlots))
      (hotUnplugENI vm eniID force)
      fun outcome => AllTidy (· ∈ outcome.2.eniRequests.availableSlots) := by
  unfold hotUnplugENI
  split
  · exact ensures_unchanged _
  split
  · exact ensures_unchanged _
  next slot mapped =>
    refine ensures_bind ((ensures_unplug forced).strengthen
        fun machine tidy => AllTidy.tidy tidy slot) fun result => ?_
    cases result with
    | error failure =>
      refine ensures_pure (closed_outcome slot _).steady ?_
      intro machine left
      exact Tidy.all left.1 (fun _ _ member => member)
        fun free => absurd mapped (inOrder.not_mapped_of_free free)
    | ok gone =>
      refine ensures_pure (closed_outcome slot _).steady ?_
      intro machine left
      exact Tidy.append left.1 (left.2 rfl).2

/-! ## What an attach and a detach leave -/

/-- No error of the pipeline is the refusal for lack of slots. -/
def Other (result : Except Failure Unit) : Prop :=
  ∀ failure, result = .error failure → failure.is .attachmentLimitExceeded = false

theorem other_callFailure (text cause : String) : Other (.error (callFailure text cause)) := by
  rintro failure ⟨⟩
  rfl

theorem other_ok : Other (.ok ()) := by
  rintro failure ⟨⟩

theorem yields_pollPCI (deviceID : String) (wantPresent : Bool) (maxAttempts left : Nat) :
    (pollPCI deviceID wantPresent maxAttempts left).Yields Other := by
  induction left with
  | zero =>
    rintro failure ⟨⟩
    rfl
  | succ left induction =>
    intro reply
    cases reply with
    | error text => exact other_callFailure _ _
    | ok devices =>
      change (if decide (deviceID ∈ devices) = wantPresent then _
        else _ : Pipeline (Except Failure Unit)).Yields _
      split
      · exact other_ok
      · exact induction

theorem yields_plug (slot : Nat) : (plug eniID mac slot).Yields Other := by
  intro tapped
  cases tapped with
  | error text => exact other_callFailure _ _
  | ok done =>
    intro backed
    cases backed with
    | error text =>
      intro cleaned
      exact other_callFailure _ _
    | ok done =>
      intro added
      cases added with
      | error text =>
        intro removed cleaned
        exact other_callFailure _ _
      | ok done =>
        have polled : (waitForPCIDevice (eniDeviceID slot) true).Yields Other :=
          yields_pollPCI _ _ _ _
        change (waitForPCIDevice (eniDeviceID slot) true >>= _ :
          Pipeline (Except Failure Unit)).Yields Other
        refine Program.notes_bind.2 (polled.mono ?_)
        intro result ghost other
        cases result with
        | error failure =>
          intro deleted removed cleaned
          rintro wrapped ⟨⟩
          exact other failure rfl
        | ok listed => exact other_ok

theorem is_of_refusal {failure : Failure}
    (refused : refusal vm action = some failure) : failure.is .attachmentLimitExceeded = false := by
  unfold refusal at refused
  split at refused
  · cases refused
    rfl
  · split at refused
    · cases refused
      rfl
    · cases refused

/--
An attach keeps the slots of the record exact; it is refused for lack of slots
only if none is free, and the slot it gets was free or its own.
-/
theorem yields_hotPlugENI (inOrder : vm.InOrder count) :
    (hotPlugENI vm eniID mac).Yields fun outcome => outcome.2.InOrder count ∧
      (∀ failure, outcome.1 = .error failure →
        failure.is .attachmentLimitExceeded = true → vm.eniRequests.availableSlots = []) ∧
      ∀ slot, outcome.1 = .ok slot → vm.eniRequests.slotOf eniID = some slot ∨
        slot ∈ vm.eniRequests.availableSlots := by
  unfold hotPlugENI
  split
  next failure refused =>
    refine ⟨inOrder, ?_, by rintro slot ⟨⟩⟩
    rintro same ⟨⟩ limited
    simp [is_of_refusal refused] at limited
  · split
    next existing mapped =>
      refine ⟨inOrder, by rintro failure ⟨⟩, ?_⟩
      rintro slot ⟨⟩
      exact Or.inl mapped
    next unmapped =>
      split
      next none =>
        exact ⟨inOrder, fun _ _ _ => none, by rintro slot ⟨⟩⟩
      next slot rest free =>
        have taken := inOrder.inOrder.take free unmapped
        refine Program.notes_bind.2 ((yields_plug slot).mono ?_)
        intro result ghost other
        cases result with
        | error failure =>
          refine ⟨⟨inOrder.slots, taken.release (AList.lookup_insert _)⟩, ?_, by rintro slot ⟨⟩⟩
          rintro same ⟨⟩ limited
          simp [other failure rfl] at limited
        | ok plugged =>
          refine ⟨⟨inOrder.slots, taken⟩, by rintro failure ⟨⟩, ?_⟩
          rintro taken ⟨⟩
          rw [free]
          exact Or.inr mem_cons_self

/-- Detaching keeps the slots of the record exact. -/
theorem yields_hotUnplugENI (inOrder : vm.InOrder count) :
    (hotUnplugENI vm eniID force).Yields fun outcome => outcome.2.InOrder count := by
  unfold hotUnplugENI
  split
  · exact inOrder
  · split
    · exact inOrder
    next slot mapped =>
      refine Program.notes_bind.2 (Program.notes_of_forall ?_)
      rintro (failure | gone) ghost
      · exact inOrder
      · exact ⟨inOrder.slots, inOrder.inOrder.release mapped⟩

/-- The instance with the slots it had, or with a new free list. -/
def Restarted (before after : VM) : Prop :=
  after.instanceType = before.instanceType ∧ (after.eniRequests = before.eniRequests ∨
    after.eniRequests = before.eniRequests.initENIRequests before.instanceType)

theorem restarted_refl (vm : VM) : Restarted vm vm :=
  ⟨rfl, Or.inl rfl⟩

theorem restarted_resetSlots (vm : VM) : Restarted vm vm.resetSlots := by
  unfold VM.resetSlots
  split
  · exact restarted_refl vm
  · exact ⟨rfl, Or.inr rfl⟩

theorem yields_startQEMU : (startQEMU vm).Yields fun outcome => Restarted vm outcome.2 := by
  intro prepared
  cases prepared with
  | error text => exact restarted_refl vm
  | ok ready =>
    intro launched
    cases launched with
    | error text | ok runs => exact restarted_resetSlots vm

theorem only_startQEMU : (startQEMU vm).Only fun call => call.adds = none := by
  refine ⟨rfl, fun prepared => ?_⟩
  cases prepared with
  | error text => trivial
  | ok ready =>
    refine ⟨rfl, fun launched => ?_⟩
    cases launched with
    | error text | ok runs => trivial

theorem yields_relaunchGuest : (relaunchGuest vm).Yields fun outcome => Restarted vm outcome.2 := by
  unfold relaunchGuest
  split
  · exact restarted_refl vm
  · intro ended
    cases ended with
    | error text => exact restarted_refl vm
    | ok gone =>
      intro (status : InstanceState)
      change (if status ≠ .running then _ else _ : Pipeline (Except Failure Unit × VM)).Yields _
      split
      · exact restarted_refl vm
      · refine Program.notes_bind.2 (yields_startQEMU.mono ?_)
        rintro ⟨result, started⟩ ghost restarted
        cases result with
        | error failure => exact restarted
        | ok runs =>
          intro connected
          cases connected with
          | error text | ok fresh => exact restarted

theorem only_relaunchGuest : (relaunchGuest vm).Only fun call => call.adds = none := by
  unfold relaunchGuest
  split
  · trivial
  · refine ⟨rfl, fun ended => ?_⟩
    cases ended with
    | error text => trivial
    | ok gone =>
      refine ⟨rfl, fun (status : InstanceState) => ?_⟩
      change (if status ≠ .running then _ else _ : Pipeline (Except Failure Unit × VM)).Only _
      split
      · trivial
      · apply Program.only_bind only_startQEMU
        rintro ⟨result, started⟩
        cases result with
        | error failure => trivial
        | ok runs =>
          refine ⟨rfl, fun connected => ?_⟩
          cases connected with
          | error text | ok fresh => trivial

variable {before : World} {after : World}

section

variable {started : VM} (empty : vm.eniRequests.attachedByENIID = ∅)

include empty

/-- A start over an empty slot map keeps the slots of the record exact. -/
theorem inOrder_restarted (inOrder : vm.InOrder count) (restarted : Restarted vm started) :
    started.InOrder count := by
  obtain ⟨sameType, kept | reset⟩ := restarted
  · exact ⟨sameType ▸ inOrder.slots, kept ▸ inOrder.inOrder⟩
  · refine ⟨sameType ▸ inOrder.slots, ?_⟩
    rw [reset, ← inOrder.slots]
    exact inOrder_initENIRequests_iff.2 empty

/-- Every slot is free before a start over an empty slot map. -/
theorem free_of_restarted (inOrder : vm.InOrder count) (later : started.InOrder count)
    (free : slot ∈ started.eniRequests.availableSlots) :
    slot ∈ vm.eniRequests.availableSlots := by
  have inRange := later.inOrder.mem_iff.1 (Or.inl free)
  apply (inOrder.inOrder.mem_iff.2 inRange).resolve_right
  rintro ⟨eniID, mapped⟩
  unfold slotOf at mapped
  simp [empty, AList.lookup_empty] at mapped

end

/-! ## Steps and histories -/

/-- An orderly event keeps the slots of the record exact. -/
theorem inOrder_step (inOrder : before.vm.InOrder count) (orderly : Orderly event before)
    (step : before.Step event after) : after.vm.InOrder count := by
  obtain ⟨action, responsive⟩ := event
  obtain ⟨vm, machine⟩ := after
  cases action with
  | hotPlugENI eniID mac =>
    obtain ⟨result, run⟩ := step
    obtain ⟨-, kept, -⟩ := run.notes (yields_hotPlugENI inOrder)
    exact kept
  | hotUnplugENI eniID force =>
    obtain ⟨result, run⟩ := step
    obtain ⟨-, kept⟩ := run.notes (yields_hotUnplugENI inOrder)
    exact kept
  | adoptENISlot eniID slot =>
    obtain ⟨rfl, rfl⟩ := step
    exact ⟨inOrder.slots, inOrder.inOrder.adoptENISlot orderly⟩
  | releaseENISlot eniID =>
    obtain ⟨rfl, rfl⟩ := step
    exact ⟨inOrder.slots, inOrder.inOrder.releaseENISlot⟩
  | relaunchGuest =>
    obtain ⟨result, run⟩ := step
    obtain ⟨-, restarted⟩ := run.notes yields_relaunchGuest
    exact inOrder_restarted orderly inOrder restarted
  | startQEMU =>
    obtain ⟨result, run⟩ := step
    obtain ⟨-, restarted⟩ := run.notes yields_startQEMU
    exact inOrder_restarted orderly inOrder restarted
  | ends | moves status =>
    obtain ⟨rfl, rfl⟩ := step
    exact ⟨inOrder.slots, inOrder.inOrder⟩

section

variable (exact' : before.Exact count)

include exact'

variable {Result : Type} {program : Pipeline (Result × VM)}

/-- A pipeline that starts the guest over an empty slot map. -/
theorem Exact.runs (empty : before.vm.eniRequests.attachedByENIID = ∅)
    (only : program.Only fun call => call.adds = none)
    (yields : program.Yields fun outcome => Restarted before.vm outcome.2)
    (runs : before.Runs responsive program after) : after.Exact count := by
  obtain ⟨result, run⟩ := runs
  have kept := (closed_allTidy (· ∈ before.vm.eniRequests.availableSlots)).ensures
      only yields _ _ _ exact'.tidy run
  have inOrder := inOrder_restarted empty exact'.toInOrder kept.2
  refine ⟨inOrder, fun slot => ⟨(kept.1 slot).1, fun free => ?_⟩⟩
  exact (kept.1 slot).2 (free_of_restarted empty exact'.toInOrder inOrder free)

/-- An event that meets the condition keeps the slots exact. -/
theorem Exact.step
    (meets : Meets event before) (step : before.Step event after) : after.Exact count := by
  have inOrder := inOrder_step exact'.toInOrder meets.1 step
  obtain ⟨action, responsive⟩ := event
  obtain ⟨vm, machine⟩ := after
  cases action with
  | hotPlugENI eniID mac =>
    obtain ⟨result, run⟩ := step
    obtain rfl : responsive = true := meets.2
    exact ⟨inOrder, ensures_hotPlugENI exact'.inOrder _ _ _ exact'.tidy run⟩
  | hotUnplugENI eniID force =>
    obtain ⟨result, run⟩ := step
    exact ⟨inOrder, ensures_hotUnplugENI meets.2 exact'.inOrder _ _ _ exact'.tidy run⟩
  | adoptENISlot eniID slot =>
    obtain ⟨rfl, rfl⟩ := step
    refine ⟨inOrder, fun other => ⟨(exact'.tidy other).1, fun free => ?_⟩⟩
    exact (exact'.tidy other).2 (mem_of_mem_adoptENISlot free)
  | releaseENISlot eniID =>
    obtain ⟨rfl, rfl⟩ := step
    refine ⟨inOrder, fun other => ⟨(exact'.tidy other).1, fun free => ?_⟩⟩
    rcases mem_releaseENISlot free with before | mapped
    · exact (exact'.tidy other).2 before
    · exact meets.2 other mapped
  | relaunchGuest =>
    exact exact'.runs meets.1 only_relaunchGuest yields_relaunchGuest step
  | startQEMU => exact exact'.runs meets.1 only_startQEMU yields_startQEMU step
  | ends =>
    obtain ⟨rfl, rfl⟩ := step
    refine ⟨inOrder, closed_allTidy _ before.machine _ ?_ exact'.tidy⟩
    exact fun slot => Machine.shrinks_of_none rfl
  | moves status =>
    obtain ⟨rfl, rfl⟩ := step
    exact ⟨inOrder, exact'.tidy⟩

end

theorem exact_cold (id instanceType : String) :
    Exact (hotPlugENISlotsForType instanceType) (World.cold id instanceType) where
  slots := rfl
  inOrder := inOrder_initENIRequests_iff.2 rfl
  tidy slot := by
    have absent : Absent slot (World.cold id instanceType).machine :=
      @AList.lookup_empty String (fun _ => Device) _ (eniDeviceID slot)
    exact ⟨absent.listed, fun _ => absent⟩

variable {world : World} {id instanceType : String}

/-- The slots of the record are exact throughout an orderly history. -/
theorem Reaches.inOrder (reached : Reaches Orderly (World.cold id instanceType) world) :
    world.vm.InOrder (hotPlugENISlotsForType instanceType) := by
  induction reached with
  | refl => exact (exact_cold id instanceType).toInOrder
  | tail _ takes induction =>
    obtain ⟨event, orderly, step⟩ := takes
    exact inOrder_step induction orderly step

/-- The slots are exact throughout a history that meets the condition. -/
theorem Reaches.exact (reached : Reaches Meets (World.cold id instanceType) world) :
    world.Exact (hotPlugENISlotsForType instanceType) := by
  induction reached with
  | refl => exact exact_cold id instanceType
  | tail _ takes induction =>
    obtain ⟨event, meets, step⟩ := takes
    exact induction.step meets step

/-! ## Histories on a healthy machine -/

/-- A pipeline on a healthy machine. -/
def runWell {Result : Type} (world : World) (program : Pipeline (Result × VM)) : Option World :=
  ((healthy true).alone () program world.machine
    (List.replicate 16 ())).map fun outcome => ⟨outcome.1.2, outcome.2⟩

theorem runs_of_runWell (ran : world.runWell program = some after) :
    world.Runs true program after := by
  obtain ⟨⟨⟨result, vm⟩, machine⟩, computed, rfl⟩ := Option.map_eq_some_iff.1 ran
  exact ⟨result, (healthy true).alone_sound computed⟩

/-- An action on a healthy machine. -/
def act (world : World) : Action → Option World
  | .hotPlugENI eniID mac => world.runWell (Eni.hotPlugENI world.vm eniID mac)
  | .hotUnplugENI eniID force =>
    world.runWell (Eni.hotUnplugENI world.vm eniID force)
  | .adoptENISlot eniID slot =>
    some ⟨world.vm.withRequests (world.vm.eniRequests.adoptENISlot eniID slot), world.machine⟩
  | .releaseENISlot eniID =>
    some ⟨world.vm.withRequests (world.vm.eniRequests.releaseENISlot eniID), world.machine⟩
  | .relaunchGuest => world.runWell (Eni.relaunchGuest world.vm)
  | .startQEMU => world.runWell (Eni.startQEMU world.vm)
  | .ends => some ⟨world.vm, { world.machine with guest := none }⟩
  | .moves status => some ⟨{ world.vm with status := status }, world.machine⟩

theorem step_of_act (acted : world.act action = some after) :
    world.Step ⟨action, true⟩ after := by
  cases action with
  | hotPlugENI eniID mac | hotUnplugENI eniID force =>
    exact runs_of_runWell acted
  | adoptENISlot eniID slot | releaseENISlot eniID =>
    cases acted
    exact ⟨rfl, rfl⟩
  | relaunchGuest | startQEMU => exact runs_of_runWell acted
  | ends | moves status =>
    cases acted
    exact ⟨rfl, rfl⟩

/-- Actions one after the other on a healthy machine. -/
def play (world : World) : List Action → Option World
  | [] => some world
  | action :: actions =>
    (world.act action).bind fun after => after.play actions

theorem reaches_of_play {allowed : Event → World → Prop}
    (allows : ∀ action ∈ actions, ∀ before, allowed ⟨action, true⟩ before)
    (reached : Reaches allowed start world) (played : world.play actions = some after) :
    Reaches allowed start after := by
  induction actions generalizing world with
  | nil =>
    cases played
    exact reached
  | cons action actions induction =>
    obtain ⟨middle, acted, rest⟩ := Option.bind_eq_some_iff.1 played
    refine induction (fun later member => allows later (mem_cons_of_mem _ member))
      (reached.tail ⟨⟨action, true⟩, ?_, step_of_act acted⟩) rest
    exact allows action mem_cons_self world

/-! ## The slots of an instance -/

/--
In every orderly history of an instance: no two attached interfaces share a
slot; the free list has no duplicates; the free and the mapped slots are apart
and together the slots of the type; an attach is refused for lack of slots only
if as many interfaces are attached as the type has slots; and if the events all
meet the whole condition, it gets its own slot, or one without a device.
-/
theorem eni_slots_exact_when_met {world : World}
    (reached : Reaches Orderly (World.cold id instanceType) world) :
    (∀ first second slot, world.vm.eniRequests.slotOf first = some slot →
      world.vm.eniRequests.slotOf second = some slot → first = second) ∧
    world.vm.eniRequests.availableSlots.Nodup ∧
    (∀ slot ∈ world.vm.eniRequests.availableSlots, ∀ eniID,
      world.vm.eniRequests.slotOf eniID ≠ some slot) ∧
    (∀ slot, (slot ∈ world.vm.eniRequests.availableSlots ∨
        ∃ eniID, world.vm.eniRequests.slotOf eniID = some slot) ↔
      1 ≤ slot ∧ slot ≤ hotPlugENISlotsForType instanceType) ∧
    ∀ responsive eniID mac result vm machine, (machinery responsive).Executes ()
        (Eni.hotPlugENI world.vm eniID mac) world.machine (result, vm) machine →
      (∀ failure, result = .error failure → failure.is .attachmentLimitExceeded = true →
        world.vm.eniRequests.attachedByENIID.keys.length = hotPlugENISlotsForType instanceType) ∧
      (Reaches Meets (World.cold id instanceType) world → ∀ slot, result = .ok slot →
        world.vm.eniRequests.slotOf eniID = some slot ∨
          world.machine.device (eniDeviceID slot) = none) := by
  have inOrder := reached.inOrder
  refine ⟨?_, ?_, ?_, ?_, ?_⟩
  · intro first second slot isFirst isSecond
    exact inOrder.inOrder.slotOf_injective isFirst isSecond
  · exact (nodup_append.1 inOrder.inOrder.nodup).1
  · intro slot free eniID
    exact inOrder.inOrder.not_mapped_of_free free
  · intro slot
    exact inOrder.inOrder.mem_iff
  · intro responsive eniID mac result vm machine run
    obtain ⟨-, -, refused, granted⟩ := run.notes (yields_hotPlugENI inOrder)
    refine ⟨fun failure failed limited => ?_, fun meets slot got => ?_⟩
    · exact inOrder.inOrder.length_keys (refused failure failed limited)
    · rcases granted slot got with own | free
      · exact Or.inl own
      · exact Or.inr ((meets.exact.tidy slot).2 free)

/-- Two interfaces are attached, the first one is detached and the guest ends. -/
theorem eni_slots_exact_after_detach :
    ∃ world, Reaches Meets (World.cold "i-1" "t3.micro") world ∧
      world.vm.eniRequests.availableSlots = [1] ∧
      world.vm.eniRequests.slotOf "eni-2" = some 2 ∧
      (∀ eniID, world.vm.eniRequests.slotOf eniID = some 2 → "eni-2" = eniID) ∧
      ∀ responsive mac slot vm machine, (machinery responsive).Executes ()
          (Eni.hotPlugENI world.vm "eni-3" mac) world.machine (.ok slot, vm) machine →
        world.vm.eniRequests.slotOf "eni-3" = some slot ∨
          world.machine.device (eniDeviceID slot) = none := by
  have played : ((World.cold "i-1" "t3.micro").play
        [.hotPlugENI "eni-1" "02:00:00:00:00:01", .hotPlugENI "eni-2" "02:00:00:00:00:02",
          .hotUnplugENI "eni-1" true, .ends]).map
      (fun world => (world.vm.eniRequests.availableSlots, world.vm.eniRequests.slotOf "eni-2")) =
      some ([1], some 2) := by
    rfl
  obtain ⟨world, reached, slots⟩ := Option.map_eq_some_iff.1 played
  have orderly : Reaches Orderly (World.cold "i-1" "t3.micro") world :=
    reaches_of_play (by simp [Orderly]) .refl reached
  have meets : Reaches Meets (World.cold "i-1" "t3.micro") world :=
    reaches_of_play (by simp [Meets, Orderly]) .refl reached
  have slot := congrArg Prod.snd slots
  obtain ⟨distinct, -, -, -, attach⟩ := eni_slots_exact_when_met orderly
  refine ⟨world, meets, congrArg Prod.fst slots, slot, ?_, ?_⟩
  · intro eniID
    exact distinct "eni-2" eniID 2 slot
  · intro responsive mac slot vm machine run
    exact (attach responsive "eni-3" mac _ vm machine run).2 meets slot rfl

/--
An interface is attached to the first slot, the guest is relaunched, and a
second interface is attached to the same slot while the first one keeps it.
-/
theorem relaunch_hands_out_mapped_slot :
    ∃ world, Reaches (fun _ _ => True) (World.cold "i-1" "t3.micro") world ∧
      world.vm.eniRequests.slotOf "eni-1" = some 1 ∧
      world.vm.eniRequests.slotOf "eni-2" = some 1 := by
  have played : ((World.cold "i-1" "t3.micro").play
        [.hotPlugENI "eni-1" "02:00:00:00:00:01", .relaunchGuest,
          .hotPlugENI "eni-2" "02:00:00:00:00:02"]).map
      (fun world => (world.vm.eniRequests.slotOf "eni-1", world.vm.eniRequests.slotOf "eni-2")) =
      some (some 1, some 1) := by
    rfl
  obtain ⟨world, reached, slots⟩ := Option.map_eq_some_iff.1 played
  refine ⟨world, reaches_of_play (fun _ _ _ => trivial) .refl reached, ?_⟩
  exact ⟨congrArg Prod.fst slots, congrArg Prod.snd slots⟩

end World

end Spinifex.Eni
