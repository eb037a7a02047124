import Spinifex.Concurrency.Auxiliary
import Spinifex.Concurrency.Discipline
import Spinifex.Ebs.Footprint

/-!
# Who is in charge of a volume

Between the put that claims a volume and the record edit that lists it, and
between the edit that drops it and the put that releases it, neither a record
nor the store says which call will take the next step.  The custody map does:
it is an auxiliary variable that names the call in charge of each volume that
is in use and in no record.

The map is kept for the runs in which every put of an in-use document finds
the stored document available.  In those runs the document of every volume an
instance holds is in use by that instance. -/

namespace Spinifex.Ebs

open Aws Concurrency Go Cluster Function

variable {Index : Type}

/-! ## Records and documents -/

namespace Cluster

variable (cluster : Cluster Index)

/-- The volumes the record of an instance lists. -/
def listed (id : String) : List String :=
  match cluster.stopped id with
  | some vm => vm.volumes
  | none => ((cluster.running id).map fun host => host.vm.volumes).getD []

/-- The document of a volume says that an instance uses it. -/
def Assigned (volumeID instanceID : String) : Prop :=
  ∃ volume, cluster.documents volume.key = some volume ∧
    volume.volumeID = volumeID ∧ volume.HeldBy instanceID

/-- No instance has the volume in its record or its guest. -/
structure Free (cluster : Cluster Index) (volumeID : String) : Prop where
  unlisted : ∀ id, volumeID ∉ cluster.listed id
  unplugged : ∀ id, ¬cluster.InGuest id volumeID

end Cluster

/-! ## The condition and the custody map -/

/-- The change of a record lists a volume that was not listed. -/
def Adds (mutate : VM → VM) (vm : VM) : Prop :=
  ∃ volumeID ∈ (mutate vm).volumes, volumeID ∉ vm.volumes

instance (mutate : VM → VM) (vm : VM) : Decidable (Adds mutate vm) :=
  inferInstanceAs (Decidable (∃ volumeID ∈ _, _))

/-- A stored change that lists a volume is acknowledged, and every attempt listed one. -/
def Update.Straight (mutate : VM → VM) : Update → Prop
  | .committed vm lost => Adds mutate vm → ∀ earlier ∈ lost, Adds mutate earlier
  | .failed _ stored _ => ∀ vm ∈ stored, ¬ Adds mutate vm

/--
A put of an in-use document finds the stored one available, and a change of a
stopped record that lists a volume goes through without a hitch.
-/
def Unclaimed (_ : Index) :
    (op : Op) → Cluster Index → Reply op → Prop
  | .putVolume _ volume, before, _ =>
    volume.state = .inUse → (before.documents volume.key).map Volume.state = some .available
  | .updateStopped _ mutate, _, update => update.Straight mutate
  | _, _, _ => True

/-- The call in charge of each volume, if one is. -/
abbrev Custody (Index : Type) := String → Option Index

/-- A volume put on a list is in no call's charge, one taken off is. -/
def handOver (index : Index) (before after : List String) (held : Custody Index) : Custody Index :=
  fun volumeID => if volumeID ∈ after then
      if volumeID ∈ before then held volumeID else none
    else if volumeID ∈ before then some index else held volumeID

section

variable {index : Index} {before after : List String} {held : Custody Index} {volumeID : String}

theorem handOver_of_mem (member : volumeID ∈ after)
    (settled : volumeID ∈ before → held volumeID = none) :
    handOver index before after held volumeID = none := by
  unfold handOver
  split_ifs with old
  · exact settled old
  · rfl

theorem handOver_of_dropped (old : volumeID ∈ before) (absent : volumeID ∉ after) :
    handOver index before after held volumeID = some index := by
  unfold handOver
  rw [if_neg absent, if_pos old]

theorem handOver_of_not_mem (unlisted : volumeID ∉ before) (absent : volumeID ∉ after) :
    handOver index before after held volumeID = held volumeID := by
  unfold handOver
  rw [if_neg absent, if_neg unlisted]

theorem handOver_self (listed : List String) : handOver index listed listed held = held := by
  funext volumeID
  unfold handOver
  split_ifs <;> rfl

end

/-- How a call changes the custody map. -/
def custody : Follow Index Op (Cluster Index) (Custody Index)
  | index, .putVolume _ volume, _, after, held =>
    if after.documents volume.key = some volume then
      Function.update held volume.volumeID (if volume.state = .inUse then some index else none)
    else
      held
  | index, .updateStopped id _, before, after, held =>
    handOver index (before.listed id) (after.listed id) held
  | index, .updateState id _, before, after, held =>
    handOver index (before.listed id) (after.listed id) held
  | _, _, _, _, held => held

/-- A cluster and its custody map. -/
abbrev Watched (Index : Type) := Cluster Index × Custody Index

/-- The runs in which no claim overwrites another. -/
def unclaimed (Index : Type) : System Index Op Reply (Cluster Index) Outcome :=
  (system Index).restrict Unclaimed

/-- Those runs beside the custody map. -/
def watched (Index : Type) : System Index Op Reply (Watched Index) Outcome :=
  (unclaimed Index).observed custody

/-! ## Order -/

/-- The documents, records and guests of a cluster agree. -/
structure Consistent (cluster : Cluster Index) : Prop where
  keyed : ∀ key volume, cluster.documents key = some volume → volume.key = key
  unique : ∀ first second : Volume, cluster.documents first.key = some first →
    cluster.documents second.key = some second → first.volumeID = second.volumeID → first = second
  listed : ∀ id volumeID, volumeID ∈ cluster.listed id → cluster.Assigned volumeID id
  distinct : ∀ id, (cluster.listed id).Nodup
  apart : ∀ id, cluster.stopped id ≠ none → cluster.running id = none
  idle : ∀ id, cluster.stopped id ≠ none → cluster.guests id = none
  inGuest : ∀ id volumeID, cluster.InGuest id volumeID → cluster.Assigned volumeID id

/-- A consistent cluster none of whose listed volumes is in a call's charge. -/
structure InOrder (state : Watched Index) : Prop where
  consistent : Consistent state.1
  settled : ∀ id volumeID, volumeID ∈ state.1.listed id → state.2 volumeID = none

/-- What the calls of others leave to a call. -/
structure Spares (index : Index) (before after : Watched Index) : Prop where
  custody : ∀ volume : Volume, before.2 volume.volumeID = some index →
    before.1.documents volume.key = some volume → volume.state = .inUse →
    after.2 volume.volumeID = some index ∧ after.1.documents volume.key = some volume
  lock : ∀ id, before.1.attachMu id = some index → after.1.attachMu id = some index ∧
    after.1.running id = before.1.running id ∧
    ∀ volumeID, after.1.InGuest id volumeID → before.1.InGuest id volumeID

theorem Spares.refl (index : Index) (state : Watched Index) : Spares index state state :=
  ⟨fun _ owned stored _ => ⟨owned, stored⟩, fun _ locked => ⟨locked, rfl, fun _ => id⟩⟩

theorem Spares.trans {first second third : Watched Index} (left : Spares index first second)
    (right : Spares index second third) : Spares index first third := by
  constructor
  · intro volume owned stored inUse
    have kept := left.custody volume owned stored inUse
    exact right.custody volume kept.1 kept.2 inUse
  · intro id locked
    have kept := left.lock id locked
    have later := right.lock id kept.1
    exact ⟨later.1, later.2.1.trans kept.2.1, fun volumeID inside =>
        kept.2.2 volumeID (later.2.2 volumeID inside)⟩

theorem Cluster.assigned_unique (consistent : Consistent cluster)
    (first : cluster.Assigned volumeID left)
    (second : cluster.Assigned volumeID right) : left = right := by
  rcases first with ⟨volume, stored, rfl, held⟩
  rcases second with ⟨other, storedOther, same, heldOther⟩
  cases consistent.unique other volume storedOther stored same
  exact held.2.symm.trans heldOther.2

/-! ## Writing a document -/

section

variable {state : Watched Index} {old volume : Volume}

theorem Cluster.putDocument_self (cluster : Cluster Index) :
    (cluster.putDocument volume).documents volume.key = some volume :=
  update_self _ _ _

variable {cluster : Cluster Index}

/-- Only the one document under a key changes. -/
theorem Cluster.putDocument_of_ne {other : Volume} (different : other.volumeID ≠ volume.volumeID) :
    (cluster.putDocument volume).documents other.key = cluster.documents other.key := by
  refine update_of_ne (fun same => different ?_) _ _
  exact congrArg Key.volume same

theorem Cluster.Assigned.put {volumeID id : String} (assigned : cluster.Assigned volumeID id)
    (different : volumeID ≠ volume.volumeID) :
    (cluster.putDocument volume).Assigned volumeID id := by
  rcases assigned with ⟨other, stored, rfl, held⟩
  exact ⟨other, (putDocument_of_ne different).trans stored, rfl, held⟩

/-- A document is only replaced by one under the same key. -/
theorem Consistent.of_put (consistent : Consistent cluster)
    (stored : cluster.documents volume.key = some old)
    (found : (cluster.putDocument volume).documents other.key = some other) :
    other = volume ∨ other.volumeID ≠ volume.volumeID ∧
      cluster.documents other.key = some other := by
  by_cases same : other.key = volume.key
  · left
    rw [same] at found
    cases found.symm.trans cluster.putDocument_self
    rfl
  · right
    have kept : (cluster.putDocument volume).documents other.key = cluster.documents other.key :=
      update_of_ne same _ _
    rw [kept] at found
    refine ⟨fun named => same ?_, found⟩
    have keyed := consistent.keyed _ _ stored
    have equal := consistent.unique other old found (by rw [keyed]; exact stored)
        (named.trans (congrArg Key.volume keyed.symm))
    rw [equal, keyed]

/-- A volume whose document is not in use is free. -/
theorem Consistent.free_of_stored (consistent : Consistent cluster)
    (stored : cluster.documents volume.key = some old)
    (unused : old.state ≠ .inUse) : cluster.Free volume.volumeID := by
  have unassigned : ∀ id, ¬cluster.Assigned volume.volumeID id := by
    rintro id ⟨other, found, named, held⟩
    have keyed := consistent.keyed _ _ stored
    cases consistent.unique other old found (by rw [keyed]; exact stored)
      (named.trans (congrArg Key.volume keyed.symm))
    exact unused held.1
  exact ⟨fun id member => unassigned id (consistent.listed id _ member),
      fun id inside => unassigned id (consistent.inGuest id _ inside)⟩

/-- A free volume's document may be replaced. -/
theorem InOrder.put (inOrder : InOrder state)
    (stored : state.1.documents volume.key = some old) (free : state.1.Free volume.volumeID)
    (custodian : Option Index) :
    InOrder (state.1.putDocument volume, Function.update state.2 volume.volumeID custodian) := by
  have consistent := inOrder.consistent
  have different : ∀ {id volumeID}, volumeID ∈ state.1.listed id → volumeID ≠ volume.volumeID := by
    rintro id _ member rfl
    exact free.unlisted id member
  refine ⟨⟨?_, ?_, ?_, ?_, ?_, ?_, ?_⟩, ?_⟩
  · intro key other found
    by_cases same : key = volume.key
    · subst key
      cases found.symm.trans state.1.putDocument_self
      rfl
    · exact consistent.keyed key other ((update_of_ne same _ _).symm.trans found)
  · intro first second foundFirst foundSecond named
    rcases consistent.of_put stored foundFirst with
      rfl | ⟨other, keptFirst⟩
    · rcases consistent.of_put stored foundSecond with
        rfl | ⟨other, _⟩
      · rfl
      · exact absurd named.symm other
    · rcases consistent.of_put stored foundSecond with
        rfl | ⟨_, keptSecond⟩
      · exact absurd named other
      · exact consistent.unique first second keptFirst keptSecond named
  · intro id volumeID member
    exact (consistent.listed id volumeID member).put (different member)
  · exact consistent.distinct
  · exact consistent.apart
  · exact consistent.idle
  · intro id volumeID inside
    apply (consistent.inGuest id volumeID inside).put
    rintro rfl
    exact free.unplugged id inside
  · intro id volumeID member
    exact (update_of_ne (different member) _ _).trans (inOrder.settled id volumeID member)

/-- A put spares every call that is not in charge of the volume. -/
theorem Spares.put {index : Index} (consistent : Consistent state.1)
    (stored : state.1.documents volume.key = some old)
    (foreign : state.2 volume.volumeID = some index → old.state ≠ .inUse)
    (custodian : Option Index) :
    Spares index state (state.1.putDocument volume,
      Function.update state.2 volume.volumeID custodian) := by
  constructor
  · intro other owned found inUse
    by_cases named : other.volumeID = volume.volumeID
    · have keyed := consistent.keyed _ _ stored
      have same := consistent.unique other old found (by rw [keyed]; exact stored)
          (named.trans (congrArg Key.volume keyed.symm))
      subst other
      exact absurd inUse (foreign (named ▸ owned))
    · exact ⟨(update_of_ne named _ _).trans owned, (putDocument_of_ne named).trans found⟩
  · intro id locked
    exact ⟨locked, rfl, fun _ inside => inside⟩

end

/-! ## Editing a record -/

section

variable {state : Watched Index} {after : Cluster Index}
    {index : Index} {id : String} {cluster : Cluster Index}

theorem Cluster.Assigned.congr (assigned : cluster.Assigned volumeID id)
    (documents : after.documents = cluster.documents) : after.Assigned volumeID id := by
  rcases assigned with ⟨volume, stored, named, held⟩
  exact ⟨volume, documents ▸ stored, named, held⟩

theorem Cluster.InGuest.congr (inside : after.InGuest id volumeID)
    (guests : after.guests = cluster.guests) : cluster.InGuest id volumeID := by
  rcases inside with ⟨guest, present, plugged⟩
  exact ⟨guest, guests ▸ present, plugged⟩

/-- An edit of one record that lists only volumes assigned to it. -/
structure Edits (state : Watched Index) (id : String) (after : Cluster Index) : Prop where
  documents : after.documents = state.1.documents
  guests : after.guests = state.1.guests
  attachMu : after.attachMu = state.1.attachMu
  others : ∀ other, other ≠ id → after.listed other = state.1.listed other ∧
    after.running other = state.1.running other
  distinct : (after.listed id).Nodup
  added : ∀ volumeID ∈ after.listed id, volumeID ∉ state.1.listed id → state.1.Assigned volumeID id
  kept : ∀ other, (after.stopped other = none ↔ state.1.stopped other = none) ∧
    (after.running other = none ↔ state.1.running other = none)

theorem InOrder.edit (inOrder : InOrder state) (edits : Edits state id after) :
    InOrder (after, handOver index (state.1.listed id) (after.listed id) state.2) := by
  have consistent := inOrder.consistent
  have documents := edits.documents
  refine ⟨⟨documents ▸ consistent.keyed, documents ▸ consistent.unique, ?_, ?_, ?_, ?_, ?_⟩, ?_⟩
  · intro other volumeID member
    refine Cluster.Assigned.congr ?_ documents
    by_cases same : other = id
    · subst other
      by_cases old : volumeID ∈ state.1.listed id
      · exact consistent.listed id volumeID old
      · exact edits.added volumeID member old
    · rw [(edits.others other same).1] at member
      exact consistent.listed other volumeID member
  · intro other
    by_cases same : other = id
    · subst other
      exact edits.distinct
    · rw [(edits.others other same).1]
      exact consistent.distinct other
  · intro other present
    exact (edits.kept other).2.2 (consistent.apart other
        fun absent => present ((edits.kept other).1.2 absent))
  · intro other present
    rw [edits.guests]
    exact consistent.idle other fun absent => present ((edits.kept other).1.2 absent)
  · intro other volumeID inside
    exact (consistent.inGuest other volumeID (inside.congr edits.guests)).congr documents
  · intro other volumeID member
    by_cases same : other = id
    · subst other
      exact handOver_of_mem member (inOrder.settled _ volumeID)
    · rw [(edits.others other same).1] at member
      have elsewhere : volumeID ∉ state.1.listed id := by
        intro old
        exact same (assigned_unique consistent (consistent.listed other volumeID member)
            (consistent.listed id volumeID old))
      by_cases new : volumeID ∈ after.listed id
      · exact handOver_of_mem new fun old => absurd old elsewhere
      · exact (handOver_of_not_mem elsewhere new).trans (inOrder.settled other volumeID member)

/-- An edit spares the calls whose volumes and locks it leaves alone. -/
theorem Spares.edit (inOrder : InOrder state) (edits : Edits state id after)
    (unlocked : state.1.attachMu id = some other → after.running id = state.1.running id)
    (foreign : ∀ volumeID ∈ after.listed id,
      volumeID ∉ state.1.listed id → state.2 volumeID ≠ some other) :
    Spares other state (after, handOver index (state.1.listed id) (after.listed id) state.2) := by
  constructor
  · intro volume owned stored inUse
    refine ⟨?_, edits.documents ▸ stored⟩
    have unlisted : volume.volumeID ∉ state.1.listed id := by
      intro member
      have settled := inOrder.settled id _ member
      simp [owned] at settled
    have absent : volume.volumeID ∉ after.listed id := fun member => foreign _ member unlisted owned
    exact (handOver_of_not_mem unlisted absent).trans owned
  · intro target locked
    refine ⟨edits.attachMu ▸ locked, ?_, ?_⟩
    · by_cases same : target = id
      · subst target
        exact unlocked locked
      · exact (edits.others target same).2
    · intro volumeID inside
      exact inside.congr edits.guests

variable {host : Running}

theorem Consistent.listed_of_running (consistent : Consistent cluster)
    (present : cluster.running id = some host) : cluster.listed id = host.vm.volumes := by
  have started : cluster.stopped id = none := by
    by_contra stopped
    cases (consistent.apart id stopped).symm.trans present
  simp [Cluster.listed, started, present]

theorem Cluster.listed_of_stopped
    (stored : cluster.stopped id = some vm) : cluster.listed id = vm.volumes := by
  simp [listed, stored]

variable {mutate : VM → VM}

/-- The edit of a running record lists what the new record does. -/
theorem Consistent.listed_editRunning (consistent : Consistent cluster) (mutate : VM → VM)
    (present : cluster.running id = some host) :
    (cluster.editRunning id mutate).listed id = (mutate host.vm).volumes := by
  have started : cluster.stopped id = none := by
    by_contra stopped
    cases (consistent.apart id stopped).symm.trans present
  simp [Cluster.listed, Cluster.editRunning, started, present]

/-- An edit of a record no node runs changes nothing. -/
theorem Cluster.editRunning_of_absent (absent : cluster.running id = none) :
    cluster.editRunning id mutate = cluster := by
  have same : update cluster.running id ((cluster.running id).map fun host =>
            { host with vm := mutate host.vm }) =
        cluster.running := by
    rw [absent]
    exact update_eq_self_iff.2 absent.symm
  unfold editRunning
  rw [same]

theorem Edits.running (inOrder : InOrder state) (present : state.1.running id = some host)
    (distinct : (mutate host.vm).volumes.Nodup)
    (added : ∀ volumeID ∈ (mutate host.vm).volumes,
      volumeID ∉ host.vm.volumes → state.1.Assigned volumeID id) :
    Edits state id (state.1.editRunning id mutate) := by
  have consistent := inOrder.consistent
  have new := consistent.listed_editRunning mutate present
  have old := consistent.listed_of_running present
  refine ⟨rfl, rfl, rfl, fun other different => ?_, ?_, ?_, ?_⟩
  · have same : (state.1.editRunning id mutate).running other = state.1.running other :=
      update_of_ne different ..
    refine ⟨?_, same⟩
    unfold listed
    rw [same]
    rfl
  · rwa [new]
  · rwa [new, old]
  · intro other
    refine ⟨Iff.rfl, ?_⟩
    by_cases same : other = id
    · subst other
      simp only [Cluster.editRunning, update_self, present]
      exact iff_of_false nofun nofun
    · simp only [Cluster.editRunning, update_of_ne same]

theorem Edits.stopped (stored : state.1.stopped id = some vm) (distinct : changed.volumes.Nodup)
    (added : ∀ volumeID ∈ changed.volumes, volumeID ∉ vm.volumes → state.1.Assigned volumeID id) :
    Edits state id (state.1.putStopped id changed) := by
  have written := state.1.stopped_putStopped_self id changed
  have new := listed_of_stopped written
  have old := listed_of_stopped stored
  refine ⟨rfl, rfl, rfl, fun other different => ?_, ?_, ?_, ?_⟩
  · refine ⟨?_, rfl⟩
    unfold listed
    rw [stopped_putStopped_of_ne different]
    rfl
  · rwa [new]
  · rwa [new, old]
  · intro other
    refine ⟨?_, Iff.rfl⟩
    by_cases same : other = id
    · subst other
      rw [written, stored]
      exact iff_of_false nofun nofun
    · rw [stopped_putStopped_of_ne same]

end

/-! ## Steps that only take from guests -/

section

variable {index : Index} {before after : Cluster Index}

/-- Nothing changes but exports, and guests that lose devices. -/
structure Fades (before after : Cluster Index) : Prop where
  documents : after.documents = before.documents
  stopped : after.stopped = before.stopped
  running : after.running = before.running
  attachMu : after.attachMu = before.attachMu
  absent : ∀ id, before.guests id = none → after.guests id = none
  inGuest : ∀ id volumeID, after.InGuest id volumeID → before.InGuest id volumeID

variable (cluster : Cluster Index)

theorem Fades.refl : Fades cluster cluster :=
  ⟨rfl, rfl, rfl, rfl, fun _ absent => absent, fun _ _ inside => inside⟩

theorem Fades.setExport (node volumeID : String)
    (exported : Bool) : Fades cluster (cluster.setExport node volumeID exported) :=
  ⟨rfl, rfl, rfl, rfl, fun _ absent => absent, fun _ _ inside => inside⟩

variable {guest : Option Guest}

/-- A guest that has only lost devices. -/
theorem Fades.setGuest {id : String} (absent : before.guests id = none → guest = none)
    (fewer : ∀ changed ∈ guest, ∀ volumeID,
      changed.devices volumeID ≠ none → before.InGuest id volumeID) :
    Fades before (before.setGuest id guest) := by
  refine ⟨rfl, rfl, rfl, rfl, fun other gone => ?_, ?_⟩
  · by_cases same : other = id
    · subst other
      exact (before.guests_setGuest_self _ _).trans (absent gone)
    · exact (guests_setGuest_of_ne same).trans gone
  · rintro other volumeID ⟨changed, present, plugged⟩
    by_cases same : other = id
    · subst other
      rw [before.guests_setGuest_self] at present
      exact fewer changed present volumeID plugged
    · rw [guests_setGuest_of_ne same] at present
      exact ⟨changed, present, plugged⟩

variable {volumeID other : String} {changed : Guest}

/-- The device of a volume that a command touches was there before. -/
theorem Guest.Does.devices {guest : Guest} (done : Guest.Does volumeID command guest changed)
    (plugged : changed.devices other ≠ none) :
    guest.devices other ≠ none ∨ other = volumeID ∧ ∃ port, command = .deviceAdd port := by
  cases done with
  | objectAdd | objectDel | blockdevAdd => exact .inl plugged
  | deviceAdd _ port absent backed =>
    by_cases same : other = volumeID
    · exact .inr ⟨same, port, rfl⟩
    · simp only [Guest.setDevice, update_of_ne same] at plugged
      exact .inl plugged
  | deviceDel _ present =>
    by_cases same : other = volumeID
    · subst other
      exact .inl present
    · simp only [Guest.setDevice, update_of_ne same] at plugged
      exact .inl plugged
  | blockdevDel unused => exact .inl plugged

/-- What a command leaves in a guest was there, or it was plugged in. -/
theorem Guest.Runs.devices (ran : Guest.Runs volumeID command guest reply left)
    (present : left = some changed) (plugged : changed.devices other ≠ none) :
    (∃ old, guest = some old ∧ old.devices other ≠ none) ∨
      other = volumeID ∧ ∃ port, command = .deviceAdd port := by
  have same : left = guest → ∃ old, guest = some old ∧ old.devices other ≠ none := by
    intro unchanged
    exact ⟨changed, unchanged ▸ present, plugged⟩
  have carried : (∃ old new, guest = some old ∧ left = some new ∧
      Guest.Does volumeID command old new) → (∃ old, guest = some old ∧ old.devices other ≠ none) ∨
      other = volumeID ∧ ∃ port, command = .deviceAdd port := by
    rintro ⟨old, new, rfl, rfl, done⟩
    cases present
    rcases done.devices plugged with was | added
    · exact .inl ⟨old, rfl, was⟩
    · exact .inr added
  rcases reply with error | _
  · cases error with
    | deviceNotFound | nodeNotFound => exact .inl (same ran.1)
    | nodeInUse => exact .inl (same ran)
    | other text =>
      rcases ran with unchanged | done
      · exact .inl (same unchanged)
      · exact carried done
  · exact carried ran

theorem Guest.Runs.absent (ran : Guest.Runs volumeID command none reply left) : left = none := by
  rcases reply with error | _
  · cases error with
    | deviceNotFound | nodeNotFound => exact ran.1
    | nodeInUse => exact ran
    | other text =>
      rcases ran with unchanged | ⟨_, _, missing, _⟩
      · exact unchanged
      · cases missing
  · rcases ran with ⟨_, _, missing, _⟩
    cases missing

/-- A passive call changes nothing a call in charge knows. -/
theorem Op.Passive.fades {reply : Reply op} (passive : op.Passive)
    (performed : perform index op before reply after) : Fades before after := by
  cases becomes_of_perform performed with
  | same => exact .refl _
  | putDocument | removeDocument | putStopped | removeStopped | editRunning | removeRunning | lock
  | unlock => cases passive
  | publish | unpublish => exact .setExport _ _ _ _
  | shutdown left =>
    rcases left with rfl | rfl
    · exact Fades.setGuest (fun _ => rfl) nofun
    · exact Fades.setGuest (fun absent => absent)
          fun changed present volumeID plugged => ⟨changed, present, plugged⟩
  | command ran =>
    refine Fades.setGuest (fun absent => ?_) ?_
    · rw [absent] at ran
      exact ran.absent
    · intro changed present other plugged
      rcases ran.devices present plugged with ⟨old, was, there⟩ | ⟨_, port, rfl⟩
      · exact ⟨old, was, there⟩
      · cases passive

variable {held : Custody Index}

theorem Op.Passive.custody (passive : op.Passive) : custody index op before after held = held := by
  cases op with
  | putVolume seen volume | updateStopped id mutate | updateState id mutate =>
    cases passive
  | _ => rfl

theorem Drift.fades (drifted : Drift before after) : Fades before after := by
  cases drifted with
  | @unplugged id volumeID guest present leaving =>
    refine Fades.setGuest (fun absent => ?_) ?_
    · cases present.symm.trans absent
    · rintro _ ⟨⟩ other plugged
      refine ⟨guest, present, ?_⟩
      by_cases same : other = volumeID
      · subst other
        rw [leaving]
        nofun
      · simp only [Guest.dropDevice, update_of_ne same] at plugged
        exact plugged
  | @exited id =>
    apply Fades.setGuest (fun _ => rfl)
    rintro _ ⟨⟩

theorem Fades.listed
    (fades : Fades before after) (id : String) : after.listed id = before.listed id := by
  unfold Cluster.listed
  rw [fades.stopped, fades.running]

theorem InOrder.fades
    (inOrder : InOrder (before, held)) (fades : Fades before after) : InOrder (after, held) := by
  have consistent := inOrder.consistent
  refine ⟨⟨?_, ?_, ?_, ?_, ?_, ?_, ?_⟩, ?_⟩
  · exact fades.documents ▸ consistent.keyed
  · exact fades.documents ▸ consistent.unique
  · intro id volumeID member
    rw [fades.listed] at member
    exact (consistent.listed id volumeID member).congr fades.documents
  · intro id
    rw [fades.listed]
    exact consistent.distinct id
  · intro id present
    rw [fades.stopped] at present
    rw [fades.running]
    exact consistent.apart id present
  · intro id present
    rw [fades.stopped] at present
    exact fades.absent id (consistent.idle id present)
  · intro id volumeID inside
    exact (consistent.inGuest id volumeID (fades.inGuest id volumeID inside)).congr fades.documents
  · intro id volumeID member
    rw [fades.listed] at member
    exact inOrder.settled id volumeID member

theorem Spares.fades (fades : Fades before after) : Spares index (before, held) (after, held) := by
  refine ⟨fun volume owned stored _ => ?_, fun id locked => ?_⟩
  · exact ⟨owned, fades.documents ▸ stored⟩
  · exact ⟨fades.attachMu ▸ locked, congrFun fades.running id, fades.inGuest id⟩

theorem InOrder.setLock (inOrder : InOrder (before, held))
    (id : String) (holder : Option Index) : InOrder (before.setLock id holder, held) :=
  ⟨⟨inOrder.consistent.keyed, inOrder.consistent.unique,
    inOrder.consistent.listed, inOrder.consistent.distinct,
    inOrder.consistent.apart, inOrder.consistent.idle,
    inOrder.consistent.inGuest⟩, inOrder.settled⟩

end

/-! ## The discipline -/

/-- Calls keep order and leave each other's volumes and locks alone. -/
def exclusion (Index : Type) : Discipline (watched Index) where
  invariant := InOrder
  evolves before after := ∀ id, before.1.stopped id ≠ none → after.1.stopped id ≠ none
  spares := Spares
  evolves_refl _ _ present := present
  evolves_trans left right id present := right id (left id present)
  spares_refl := Spares.refl
  spares_trans := Spares.trans
  drift_evolves := by
    rintro ⟨before, held⟩ ⟨after, kept⟩ inOrder ⟨drifted, same⟩
    have fades := Drift.fades drifted
    cases same
    refine ⟨fun id present => ?_, fun _ => .fades fades, inOrder.fades fades⟩
    exact fades.stopped ▸ present

end Spinifex.Ebs
