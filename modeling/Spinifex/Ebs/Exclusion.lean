import Mathlib.Data.List.Nodup
import Spinifex.Ebs.Custody
import Spinifex.Ebs.Schedule

/-!
# One writer for each volume

What a call knows while it holds a hot-plug lock or is in charge of a volume,
one rule for each kind of call that changes something, and from them the
programs of attach and detach.
-/

namespace Spinifex.Ebs

open Aws Concurrency Go Cluster Function List
open Concurrency.Discipline

variable {Index : Type} {index : Index}

/-! ## What a call knows -/

/-- The call holds the hot-plug lock of an instance, if one is named. -/
def Locked (index : Index) (lock : Option String) (state : Watched Index) : Prop :=
  ∀ id ∈ lock, state.1.attachMu id = some index

/-- The call is in charge of a volume its instance uses. -/
structure Owns (index : Index) (id : String) (volume : Volume) (state : Watched Index) : Prop where
  charge : state.2 volume.volumeID = some index
  stored : state.1.documents volume.key = some volume
  held : volume.HeldBy id

/-- The call is in charge of a volume that has left its instance. -/
structure Releasing (index : Index) (lock : Option String) (id : String)
    (volume : Volume) (state : Watched Index) : Prop where
  locked : Locked index lock state
  owns : Owns index id volume state
  clear : state.1.stopped id ≠ none ∨ lock = some id ∧ ¬state.1.InGuest id volume.volumeID

/-- The locked record of a running instance lists a volume. -/
structure Lists (index : Index) (id volumeID : String) (state : Watched Index) : Prop where
  locked : Locked index (some id) state
  listed : ∃ host, state.1.running id = some host ∧ volumeID ∈ host.vm.volumes

variable (lock : Option String) (id volumeID : String) (volume : Volume)

theorem locked_stable : (exclusion Index).Stable index (Locked index lock) := by
  intro before after relied _ locked id member
  exact (relied.spares.lock id (locked id member)).1

theorem owns_stable : (exclusion Index).Stable index (Owns index id volume) := by
  intro before after relied _ owns
  have kept := relied.spares.custody volume owns.charge owns.stored owns.held.1
  exact ⟨kept.1, kept.2, owns.held⟩

theorem stopped_stable : (exclusion Index).Stable index fun state => state.1.stopped id ≠ none :=
  fun _ _ relied _ present => relied.evolves id present

theorem unplugged_stable :
    (exclusion Index).Stable index fun state =>
      Locked index (some id) state ∧ ¬state.1.InGuest id volumeID := by
  intro before after relied holds met
  refine ⟨locked_stable _ relied holds met.1, fun inside => ?_⟩
  have locked := relied.spares.lock id (met.1 id rfl)
  exact met.2 (locked.2.2 volumeID inside)

theorem releasing_stable : (exclusion Index).Stable index (Releasing index lock id volume) := by
  intro before after relied holds releasing
  refine ⟨locked_stable lock relied holds releasing.locked,
      owns_stable id volume relied holds releasing.owns, ?_⟩
  rcases releasing.clear with present | ⟨rfl, out⟩
  · exact .inl (relied.evolves id present)
  · exact .inr ⟨rfl, (unplugged_stable id _ relied holds ⟨releasing.locked, out⟩).2⟩

theorem lists_stable : (exclusion Index).Stable index (Lists index id volumeID) := by
  intro before after relied holds lists
  refine ⟨locked_stable _ relied holds lists.locked, ?_⟩
  have locked := relied.spares.lock id (lists.locked id rfl)
  rw [locked.2.1]
  exact lists.listed

/-! ## Passive calls -/

theorem passive_keeps {before after : Watched Index}
    (passive : op.Passive) (inOrder : InOrder before)
    (performed : (watched Index).perform index op before reply after) :
    (exclusion Index).Keeps index before after ∧ (exclusion Index).Relies index before after := by
  rcases before with ⟨before, held⟩
  rcases after with ⟨after, kept⟩
  rcases performed with ⟨⟨performed, _⟩, followed⟩
  have fades := passive.fades performed
  cases followed.trans passive.custody
  have evolved : (exclusion Index).evolves (before, held) (after, held) :=
    fun id present => fades.stopped ▸ present
  exact ⟨⟨evolved, fun _ _ => .fades fades, inOrder.fades fades⟩, ⟨evolved, .fades fades⟩⟩

/-- From a precondition the program keeps order and ends as stated. -/
abbrev Orders {First : Type} (index : Index) (pre : Watched Index → Prop) (program : Session First)
    (post : First → Watched Index → Prop) : Prop :=
  (exclusion Index).Ensures index pre program post

/-- A passive program keeps what its call knows. -/
theorem orders_passive {program : Session First} (passive : Passive program)
    (stable : (exclusion Index).Stable index pre) : Orders index pre program fun _ => pre :=
  fun _ _ holds => upholds_only (fun _ _ _ _ allowed inOrder performed =>
        passive_keeps allowed inOrder performed)
      passive stable holds

/-- What a passive call learns. -/
theorem orders_passive_call {post : Reply op → Watched Index → Prop}
    (passive : op.Passive) (stable : (exclusion Index).Stable index pre)
    (learn : ∀ (before : Watched Index) (reply : Reply op) (after : Watched Index), InOrder before →
      pre before → pre after → perform index op before.1 reply after.1 → post reply after) :
    Orders index pre (call op) post := by
  apply ensures_request stable
  intro before reply after inOrder met performed
  have outcome := passive_keeps passive inOrder performed
  exact ⟨outcome.1, learn before reply after inOrder met
      (stable outcome.2 outcome.1.invariant met) performed.1.1⟩

/-- A document that is read was stored while the reader knew the same. -/
theorem orders_getVolume (stable : (exclusion Index).Stable index pre)
    (account volumeID : String) (purpose : Purpose) :
    Orders index pre (getVolume account volumeID purpose) fun found state =>
      pre state ∧ ∀ volume, found = .ok volume → volume.key = ⟨account, volumeID⟩ ∧ ∃ before,
        InOrder before ∧ pre before ∧ before.1.documents volume.key = some volume := by
  unfold getVolume
  split
  · refine ensures_pure fun _ holds => ⟨holds, ?_⟩
    rintro volume ⟨⟩
  next key valid =>
    cases volumeKey_eq_ok valid
    refine orders_passive_call trivial stable ?_
    intro before reply after inOrder met kept performed
    refine ⟨kept, ?_⟩
    rintro volume rfl
    have stored : before.1.documents ⟨account, volumeID⟩ = some volume := performed.2
    have keyed := inOrder.consistent.keyed _ _ stored
    exact ⟨keyed, before, inOrder, met, keyed ▸ stored⟩

/-! ## Locks -/

/-- A lock that a thread does not hold changes hands. -/
theorem spares_setLock {other : Index} (elsewhere : before.attachMu id ≠ some other)
    (holder : Option Index) : Spares other (before, held) (before.setLock id holder, held) := by
  refine ⟨fun _ owned stored _ => ⟨owned, stored⟩, ?_⟩
  intro target locked
  refine ⟨?_, rfl, fun _ inside => inside⟩
  have different : target ≠ id := by
    rintro rfl
    exact elsewhere locked
  exact (update_of_ne different _ _).trans locked

theorem orders_lock :
    Orders index (fun _ => True) (call (.lock id)) fun _ => Locked index (some id) := by
  apply ensures_request (Stable.const True)
  rintro ⟨before, held⟩ reply ⟨after, kept⟩ inOrder _ ⟨⟨performed, _⟩, followed⟩
  have free : before.attachMu id = none := performed.1
  cases performed.2
  cases followed
  have spares (other : Index) :
      Spares other (before, held) (before.setLock id (some index), held) :=
    spares_setLock id (by simp [free]) _
  refine ⟨⟨fun _ present => present, fun other _ => spares other,
      inOrder.setLock id (some index)⟩, ?_⟩
  rintro _ ⟨⟩
  exact update_self _ _ _

theorem orders_unlock :
    Orders index (Locked index (some id)) (call (.unlock id)) fun _ _ =>
      True := by
  apply ensures_request (locked_stable _)
  rintro ⟨before, held⟩ reply ⟨after, kept⟩ inOrder locked ⟨⟨performed, _⟩, followed⟩
  cases performed
  cases followed
  have mine : before.attachMu id = some index := locked id rfl
  refine ⟨⟨fun _ present => present, fun other different => ?_, inOrder.setLock id none⟩, trivial⟩
  apply spares_setLock
  rw [mine]
  exact fun same => different (Option.some.inj same).symm

/-! ## Claiming and releasing -/

section

variable {id : String} {volume : Volume} {expected : Volume}

/-- What an unconditional put did to the cluster and the map. -/
theorem put_cases {before after : Watched Index}
    (performed : (watched Index).perform index (.putVolume expected volume) before reply after) :
    after = (before.1.putDocument volume, update before.2 volume.volumeID
            (if volume.state = .inUse then some index else none)) ∨
      reply ≠ .ok () ∧ after.1 = before.1 ∧
        (before.1.documents volume.key ≠ some volume → after.2 = before.2) := by
  rcases before with ⟨before, held⟩
  rcases after with ⟨after, kept⟩
  rcases performed with ⟨⟨landed | ⟨failed, unchanged⟩, _⟩, followed⟩
  · left
    cases landed
    exact Prod.ext rfl (followed.trans (if_pos before.putDocument_self))
  · right
    refine ⟨failed, unchanged, fun different => ?_⟩
    cases unchanged
    exact followed.trans (if_neg different)

/-- The put of a claim puts its call in charge. -/
theorem orders_claim (stable : (exclusion Index).Stable index pre)
    (expected : Volume) (held : volume.HeldBy id) :
    Orders index pre (putVolume expected volume) fun reply state =>
      pre state ∧ (reply = .ok () → Owns index id volume state) := by
  unfold putVolume
  split
  · exact ensures_pure fun _ holds => ⟨holds, nofun⟩
  apply ensures_request stable
  intro before reply after inOrder met performed
  have admitted : (before.1.documents volume.key).map Volume.state = some .available :=
    performed.1.2 held.1
  rcases Option.map_eq_some_iff.1 admitted with ⟨old, stored, available⟩
  have unused : old.state ≠ .inUse := by
    rw [available]
    decide
  rcases put_cases performed with rfl | ⟨failed, same, kept⟩
  · rw [if_pos held.1]
    have ordered :=
      inOrder.put stored (inOrder.consistent.free_of_stored stored unused) (some index)
    have spares : ∀ other, Spares other before (before.1.putDocument volume,
        update before.2 volume.volumeID (some index)) :=
      fun other => .put inOrder.consistent stored (fun _ => unused) _
    have relied : (exclusion Index).Relies index before (before.1.putDocument volume,
        update before.2 volume.volumeID (some index)) :=
      ⟨fun _ present => present, spares index⟩
    refine ⟨⟨fun _ present => present, fun other _ => spares other,
        ordered⟩, stable relied ordered met, fun _ => ?_⟩
    exact ⟨update_self _ _ _, before.1.putDocument_self, held⟩
  · have unwritten : before.1.documents volume.key ≠ some volume := by
      rw [stored]
      rintro ⟨⟩
      exact unused held.1
    have unchanged : after = before := Prod.ext same (kept unwritten)
    subst after
    exact ⟨.refl inOrder, met, fun done => absurd done failed⟩

variable {lock : Option String}

/-- A volume that has left its instance is free. -/
theorem Releasing.free (inOrder : InOrder state)
    (releasing : Releasing index lock id volume state) : state.1.Free volume.volumeID := by
  have consistent := inOrder.consistent
  constructor
  · intro other member
    have settled := inOrder.settled other _ member
    simp [releasing.owns.charge] at settled
  · intro other inside
    have assigned : state.1.Assigned volume.volumeID id :=
      ⟨volume, releasing.owns.stored, rfl, releasing.owns.held⟩
    cases assigned_unique consistent (consistent.inGuest other _ inside) assigned
    rcases releasing.clear with present | ⟨_, out⟩
    · rcases inside with ⟨guest, running, _⟩
      simp [consistent.idle id present] at running
    · exact out inside

/-- The put of a release. -/
theorem orders_release {written : Volume} (keyed : written.key = volume.key)
    (unused : written.state ≠ .inUse) :
    Orders index (Releasing index lock id volume) (putVolume expected written)
      fun _ => Locked index lock := by
  unfold putVolume
  split
  · exact ensures_pure fun _ releasing => releasing.locked
  apply ensures_request (releasing_stable lock id volume)
  intro before reply after inOrder releasing performed
  have named : written.volumeID = volume.volumeID := congrArg Key.volume keyed
  have stored : before.1.documents written.key = some volume := by
    rw [keyed]
    exact releasing.owns.stored
  rcases put_cases performed with rfl | ⟨_, same, kept⟩
  · refine ⟨⟨fun _ present => present, fun other different => ?_, ?_⟩, releasing.locked⟩
    · refine .put inOrder.consistent stored (fun charge => ?_) _
      rw [named, releasing.owns.charge] at charge
      cases charge
      exact absurd rfl different
    · exact inOrder.put stored (named ▸ releasing.free inOrder) _
  · have unwritten : before.1.documents written.key ≠ some written := by
      rw [stored]
      rintro ⟨⟩
      exact unused releasing.owns.held.1
    have unchanged : after = before := Prod.ext same (kept unwritten)
    subst after
    exact ⟨.refl inOrder, releasing.locked⟩

/-- The call has the lock of an instance and is in charge of a volume. -/
def Charged (index : Index) (id : String) (volume : Volume) (state : Watched Index) : Prop :=
  Locked index (some id) state ∧ Owns index id volume state

theorem charged_stable (id : String) (volume : Volume) :
    (exclusion Index).Stable index (Charged index id volume) :=
  (locked_stable (some id)).and (owns_stable id volume)

/-- Plugging in a volume the call is in charge of. -/
theorem orders_deviceAdd :
    Orders index (Charged index id volume) (sendQMPCommand id volume.volumeID (.deviceAdd port))
      fun _ => Charged index id volume := by
  apply ensures_request (charged_stable id volume)
  rintro ⟨before, held⟩ reply ⟨after, kept⟩ inOrder ⟨locked, owns⟩
    ⟨⟨⟨guest, ran, changed⟩, _⟩, followed⟩
  cases changed
  cases followed
  have consistent := inOrder.consistent
  have inside : ∀ other volumeID, (before.setGuest id guest).InGuest other volumeID →
      before.InGuest other volumeID ∨ other = id ∧ volumeID = volume.volumeID := by
    rintro other volumeID ⟨left, present, plugged⟩
    by_cases same : other = id
    · subst other
      have present : guest = some left := (before.guests_setGuest_self id guest).symm.trans present
      rcases ran.devices present plugged with ⟨old, was, there⟩ | ⟨added, _⟩
      · exact .inl ⟨old, was, there⟩
      · exact .inr ⟨rfl, added⟩
    · have present : before.guests other = some left :=
        (guests_setGuest_of_ne same).symm.trans present
      exact .inl ⟨left, present, plugged⟩
  refine ⟨⟨fun _ present => present, fun other different => ?_, ?_⟩,
      locked, owns.charge, owns.stored, owns.held⟩
  · refine ⟨fun _ owned stored _ => ⟨owned, stored⟩, ?_⟩
    intro target owned
    refine ⟨owned, rfl, fun volumeID plugged => ?_⟩
    rcases inside target volumeID plugged with was | ⟨rfl, _⟩
    · exact was
    · cases owned.symm.trans (locked target rfl)
      exact absurd rfl different
  · refine ⟨{ consistent with idle := ?_, inGuest := ?_ }, inOrder.settled⟩
    · intro other present
      have absent := consistent.idle other present
      by_cases same : other = id
      · subst other
        rw [absent] at ran
        exact (before.guests_setGuest_self id guest).trans ran.absent
      · exact (guests_setGuest_of_ne same).trans absent
    · intro other volumeID plugged
      rcases inside other volumeID plugged with was | ⟨rfl, rfl⟩
      · exact consistent.inGuest other volumeID was
      · exact ⟨volume, owns.stored, rfl, owns.held⟩

end

/-! ## Editing records -/

section

variable {id volumeID : String} {before : Watched Index}

/-- A new list for a record: nothing is in it twice, and its call is in charge of what is new. -/
structure Relists (index : Index) (id : String) (before : Watched Index)
    (old new : List String) : Prop where
  distinct : new.Nodup
  added : ∀ volumeID ∈ new, volumeID ∉ old →
    before.1.Assigned volumeID id ∧ before.2 volumeID = some index

section

variable {old : List String} {volume : Volume} (inOrder : InOrder before)
  (listed : before.1.listed id = old)

include inOrder listed

/-- A list that keeps or loses volumes. -/
theorem Relists.of_sublist (fewer : new.Sublist old) : Relists index id before old new := by
  subst listed
  exact ⟨(inOrder.consistent.distinct id).sublist fewer,
    fun _ member unlisted => absurd (fewer.subset member) unlisted⟩

theorem Owns.unlisted (owns : Owns index id volume before) : volume.volumeID ∉ old := by
  intro member
  have settled := inOrder.settled id _ (listed ▸ member)
  simp [owns.charge] at settled

/-- A list with a volume the call is in charge of. -/
theorem Owns.relists (owns : Owns index id volume before) :
    Relists index id before old (old ++ [volume.volumeID]) := by
  refine ⟨?_, fun volumeID member unlisted => ?_⟩
  · rw [← concat_eq_append]
    exact List.Nodup.concat (owns.unlisted inOrder listed) (listed ▸ inOrder.consistent.distinct id)
  · rcases mem_append.1 member with old | member
    · exact absurd old unlisted
    · cases mem_singleton.1 member
      exact ⟨⟨volume, owns.stored, rfl, owns.held⟩, owns.charge⟩

end

/-- An edit of a record that no other call has locked keeps the discipline. -/
theorem edit_keeps (inOrder : InOrder before) (edits : Edits before id changed)
    (relists : Relists index id before (before.1.listed id) (changed.listed id))
    (unlocked : ∀ other ≠ index, before.1.attachMu id = some other →
      changed.running id = before.1.running id) :
    (exclusion Index).Keeps index before (changed, handOver index (before.1.listed id)
      (changed.listed id) before.2) := by
  refine ⟨fun other present absent => ?_, fun other different => ?_, inOrder.edit edits⟩
  · exact present ((edits.kept other).1.1 absent)
  · refine .edit inOrder edits (unlocked other different) fun volumeID member new charge => ?_
    cases charge.symm.trans (relists.added volumeID member new).2
    exact different rfl

/-- An edit under the hot-plug lock keeps the discipline. -/
theorem edit_running_keeps (inOrder : InOrder before)
    (locked : Locked index (some id) before) (present : before.1.running id = some host)
    (relists : Relists index id before host.vm.volumes (mutate host.vm).volumes) :
    (exclusion Index).Keeps index before (before.1.editRunning id mutate,
      handOver index host.vm.volumes (mutate host.vm).volumes before.2) := by
  have edits : Edits before id (before.1.editRunning id mutate) := .running inOrder present
    relists.distinct fun volumeID member new => (relists.added volumeID member new).1
  rw [← inOrder.consistent.listed_of_running present,
    ← inOrder.consistent.listed_editRunning mutate present] at relists ⊢
  refine edit_keeps inOrder edits relists fun other different owned => ?_
  cases owned.symm.trans (locked id rfl)
  exact absurd rfl different

variable {after : Watched Index}

/-- What an edit of a running record did. -/
theorem updateState_cases (inOrder : InOrder before)
    (performed : (watched Index).perform index (.updateState id mutate) before reply after) :
    (before.1.running id = none ∧ after = before) ∨ ∃ host,
      before.1.running id = some host ∧ after =
        (before.1.editRunning id mutate, handOver index host.vm.volumes
          (mutate host.vm).volumes before.2) := by
  rcases before with ⟨before, held⟩
  rcases after with ⟨after, kept⟩
  rcases performed with ⟨⟨edited, _⟩, followed⟩
  have consistent := inOrder.consistent
  have edited : after = before.editRunning id mutate := edited
  subst after
  have followed : kept = handOver index (before.listed id)
      ((before.editRunning id mutate).listed id) held :=
    followed
  rcases Option.eq_none_or_eq_some (before.running id) with
    absent | ⟨host, present⟩
  · have same : before.editRunning id mutate = before := editRunning_of_absent absent
    rw [same, handOver_self] at followed
    exact .inl ⟨absent, Prod.ext same followed⟩
  · rw [consistent.listed_of_running present,
      consistent.listed_editRunning mutate present] at followed
    exact .inr ⟨host, present, Prod.ext rfl followed⟩

variable {volume : Volume}

/-- Recording a volume the call is in charge of. -/
theorem orders_recordRequest (named : request.name = volume.volumeID) :
    Orders index (Charged index id volume) (call (.updateState id (recordRequest request)))
      fun _ => Locked index (some id) := by
  apply ensures_request (charged_stable id volume)
  intro before reply after inOrder ⟨locked, owns⟩ performed
  rcases updateState_cases inOrder performed with ⟨_, same⟩ | ⟨host, present, rfl⟩
  · subst after
    exact ⟨.refl inOrder, locked⟩
  · have listed := inOrder.consistent.listed_of_running present
    have unlisted := owns.unlisted inOrder listed
    refine ⟨edit_running_keeps inOrder locked present ?_, locked⟩
    rw [volumes_recordRequest (named ▸ unlisted), named]
    exact owns.relists inOrder listed

/-- A listed volume has left the guest. -/
def Unplugged (index : Index) (id volumeID : String) (state : Watched Index) : Prop :=
  Lists index id volumeID state ∧ Locked index (some id) state ∧ ¬state.1.InGuest id volumeID

theorem unplugged_lists_stable (id volumeID : String) :
    (exclusion Index).Stable index (Unplugged index id volumeID) :=
  (lists_stable id volumeID).and (unplugged_stable id volumeID)

/-- Dropping a volume that has left the guest. -/
theorem orders_dropRequest :
    Orders index (Unplugged index id volumeID)
      (call (.updateState id (dropRequest volumeID))) fun _ state =>
        ∃ volume, volume.volumeID = volumeID ∧ Releasing index (some id) id volume state := by
  apply ensures_request (unplugged_lists_stable id volumeID)
  rintro before reply after inOrder ⟨lists, _, out⟩ performed
  have consistent := inOrder.consistent
  rcases lists.listed with ⟨host, present, member⟩
  have listed := consistent.listed_of_running present
  rcases updateState_cases inOrder performed with ⟨absent, _⟩ | ⟨same, found, rfl⟩
  · cases absent.symm.trans present
  cases present.symm.trans found
  rcases consistent.listed id volumeID (listed ▸ member) with ⟨volume, stored, rfl, held⟩
  refine ⟨edit_running_keeps inOrder lists.locked present ?_,
      volume, rfl, ⟨lists.locked, ⟨?_, stored, held⟩, .inr ⟨rfl, out⟩⟩⟩
  · rw [volumes_dropRequest]
    exact .of_sublist inOrder listed (erase_sublist ..)
  · apply handOver_of_dropped member
    rw [volumes_dropRequest, ← listed]
    exact (consistent.distinct id).not_mem_erase

/-- An edit of a running record that leaves its volumes alone. -/
theorem orders_editMappings (same : ∀ vm : VM, (mutate vm).volumes = vm.volumes)
    (stable : (exclusion Index).Stable index pre)
    (locked : ∀ state, pre state → Locked index (some id) state)
    (kept : ∀ before : Watched Index, pre before → pre (before.1.editRunning id mutate, before.2)) :
    Orders index pre (call (.updateState id mutate)) fun _ => pre := by
  apply ensures_request stable
  intro before reply after inOrder met performed
  rcases updateState_cases inOrder performed with ⟨_, same⟩ | ⟨host, present, rfl⟩
  · subst after
    exact ⟨.refl inOrder, met⟩
  · have relists : Relists index id before host.vm.volumes (mutate host.vm).volumes :=
      .of_sublist inOrder (inOrder.consistent.listed_of_running present) (same host.vm ▸ .refl _)
    have keeps := edit_running_keeps inOrder (locked before met) present relists
    rw [same, handOver_self] at keeps ⊢
    exact ⟨keeps, kept before met⟩

/-- An edit of a stopped record keeps the discipline. -/
theorem edit_stopped_keeps (inOrder : InOrder before) (stored : before.1.stopped id = some vm)
    (relists : Relists index id before vm.volumes changed.volumes) :
    (exclusion Index).Keeps index before (before.1.putStopped id changed,
      handOver index vm.volumes changed.volumes before.2) := by
  have edits : Edits before id (before.1.putStopped id changed) :=
    .stopped stored relists.distinct
      fun volumeID member new => (relists.added volumeID member new).1
  have new : (before.1.putStopped id changed).listed id = changed.volumes :=
    listed_of_stopped (stopped_putStopped_self _ _ _)
  rw [← listed_of_stopped stored, ← new] at relists ⊢
  exact edit_keeps inOrder edits relists fun _ _ _ => rfl

/-- What an edit of a stopped record did. -/
theorem updateStopped_cases
    (performed : (watched Index).perform index (.updateStopped id mutate) before reply after) :
    (reply.stored = none ∧ after = before) ∨ ∃ vm, reply.stored = some vm ∧
      before.1.stopped id = some vm ∧ after = (before.1.putStopped id (mutate vm),
      handOver index vm.volumes (mutate vm).volumes before.2) := by
  rcases before with ⟨before, held⟩
  rcases after with ⟨after, kept⟩
  rcases performed with ⟨⟨edited, _⟩, followed⟩
  have followed : kept = handOver index (before.listed id) (after.listed id) held := followed
  rcases edited with ⟨vm, changed, stored, rfl⟩ | ⟨unstored, rfl⟩
  · have new : (before.putStopped id (mutate vm)).listed id = (mutate vm).volumes :=
      listed_of_stopped (stopped_putStopped_self _ _ _)
    rw [listed_of_stopped stored, new] at followed
    exact .inr ⟨vm, changed, stored, Prod.ext rfl followed⟩
  · rw [handOver_self] at followed
    exact .inl ⟨unstored, Prod.ext rfl followed⟩

/-- An attempt that lists a volume finds no conflict. -/
theorem stoppedAttachDevice_of_adds (adds : Adds (addUnlessTaken volumeID device boot) vm) :
    ∃ chosen, stoppedAttachDevice vm device = .ok chosen := by
  cases slot : stoppedAttachDevice vm device with
  | ok chosen => exact ⟨chosen, rfl⟩
  | error code =>
    obtain ⟨other, listed, unlisted⟩ := adds
    rw [addUnlessTaken, slot] at listed
    exact absurd listed unlisted

/-- Attempts that all list a volume find no conflict. -/
theorem conflictIn_eq_none
    (adds : ∀ vm ∈ found, Adds (addUnlessTaken volumeID device boot) vm) :
    conflictIn device found = none := by
  refine List.findSome?_eq_none_iff.2 fun vm member => ?_
  obtain ⟨chosen, free⟩ := stoppedAttachDevice_of_adds (adds vm member)
  rw [free]

/-- Recording a claimed volume; if that fails it can be released. -/
theorem orders_addUnlessTaken (device : String) (boot : Bool) :
    Orders index (fun state => state.1.stopped id ≠ none ∧ Owns index id volume state)
      (call (.updateStopped id (addUnlessTaken volume.volumeID device boot)))
      fun update state => (∀ vm, update.result = .ok vm → conflictIn device update.found ≠ none) →
        Releasing index none id volume state := by
  apply ensures_request ((stopped_stable id).and (owns_stable id volume))
  rintro before reply after inOrder ⟨present, owns⟩ performed
  have releasing : Releasing index none id volume before := ⟨nofun, owns, .inl present⟩
  have straight : reply.Straight (addUnlessTaken volume.volumeID device boot) := performed.1.2
  rcases updateStopped_cases performed with ⟨_, same⟩ | ⟨vm, changed, stored, rfl⟩
  · subst after
    exact ⟨.refl inOrder, fun _ => releasing⟩
  have listed := listed_of_stopped stored
  cases slot : stoppedAttachDevice vm device with
  | error code =>
    have same : addUnlessTaken volume.volumeID device boot vm = vm := by
      rw [addUnlessTaken, slot]
    rw [same]
    refine ⟨edit_stopped_keeps inOrder stored (.of_sublist inOrder listed (.refl _)), fun _ => ?_⟩
    · rw [handOver_self]
      exact ⟨nofun, { owns with }, .inl (by
            rw [before.1.stopped_putStopped_self]
            nofun)⟩
  | ok chosen =>
    have lists : (addUnlessTaken volume.volumeID device boot vm).volumes = vm.volumes ++
        [volume.volumeID] := by
      rw [addUnlessTaken, slot]
      exact volumes_addVolumeToRecord _ _ _ _
    refine ⟨edit_stopped_keeps inOrder stored ?_, fun taken => ?_⟩
    · rw [lists]
      exact owns.relists inOrder listed
    · have adds : Adds (addUnlessTaken volume.volumeID device boot) vm := by
        refine ⟨volume.volumeID, ?_, fun member => ?_⟩
        · rw [lists]
          exact List.mem_append_right _ (List.mem_singleton.2 rfl)
        · have settled := inOrder.settled id _ (listed ▸ member)
          cases settled.symm.trans owns.charge
      cases reply with
      | failed failure kept lost => exact absurd adds (straight vm changed)
      | committed found lost =>
        cases changed
        exact absurd (conflictIn_eq_none (List.forall_mem_cons.2 ⟨adds, straight adds⟩))
          (taken vm rfl)

/-- Dropping a volume from a stopped record. -/
theorem orders_removeVolumeFromRecord (volumeID : String) :
    Orders index (fun _ => True) (call
        (.updateStopped id fun vm => (removeVolumeFromRecord volumeID vm).1))
      fun update state => ∀ vm, update.result = .ok vm →
        (removeVolumeFromRecord volumeID vm).2 = true →
          ∃ volume, volume.volumeID = volumeID ∧ Releasing index none id volume state := by
  apply ensures_request (Stable.const True)
  intro before reply after inOrder _ performed
  have committed {vm : VM} (told : reply.result = .ok vm) : reply.stored = some vm := by
    obtain ⟨lost, rfl⟩ := Update.stored_of_result told
    rfl
  rcases updateStopped_cases performed with ⟨unstored, same⟩ | ⟨vm, changed, stored, rfl⟩
  · subst after
    refine ⟨.refl inOrder, fun vm told => ?_⟩
    cases unstored.symm.trans (committed told)
  have consistent := inOrder.consistent
  have listed := listed_of_stopped stored
  cases removed : (removeVolumeFromRecord volumeID vm).2 with
  | false =>
    have same := removeVolumeFromRecord_of_not removed
    refine ⟨edit_stopped_keeps inOrder stored ?_, ?_⟩
    · rw [same]
      exact .of_sublist inOrder listed (.refl _)
    · intro other told wrong
      cases changed.symm.trans (committed told)
      cases removed.symm.trans wrong
  | true =>
    have outcome := removeVolumeFromRecord_eq removed
    rcases consistent.listed id volumeID (listed ▸ outcome.1) with ⟨volume, found, rfl, held⟩
    refine ⟨edit_stopped_keeps inOrder stored ?_, ?_⟩
    · rw [outcome.2]
      exact .of_sublist inOrder listed (erase_sublist ..)
    · intro other told _
      refine ⟨volume, rfl, nofun, ⟨?_, found, held⟩, .inl ?_⟩
      · apply handOver_of_dropped outcome.1
        rw [outcome.2, ← listed]
        exact (consistent.distinct id).not_mem_erase
      · rw [before.1.stopped_putStopped_self]
        nofun

end

end Spinifex.Ebs
