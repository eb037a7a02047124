import Spinifex.Ebs.Attaches
import Spinifex.Ebs.Exclusion

/-!
# Attach and detach keep order

The programs of attach and ordinary detach against the rules of their calls.
Each path is in charge of the volume from its claim to the edit that records
it, or from the edit that drops it to its release, and a release is only made
after the volume has left the guest.
-/

namespace Spinifex.Ebs

open Aws Concurrency Go Gateway
open Concurrency.Discipline

section

variable {Index First : Type} {index : Index} {id : String}

/-- A program that keeps order while its call has a hot-plug lock. -/
abbrev Holding (index : Index) (id : String) (program : Session First) : Prop :=
  Orders index (Locked index (some id)) program fun _ => Locked index (some id)

/-- A program that keeps order from any state. -/
abbrev Orderly (index : Index) (program : Session First) : Prop :=
  Orders index (fun _ => True) program fun _ _ => True

theorem holding_pure (result : First) : Holding index id (pure result : Session First) :=
  ensures_pure fun _ locked => locked

theorem holding_passive (passive : Passive program) : Holding index id program :=
  orders_passive passive (locked_stable _)

theorem orders_pure (result : First) :
    Orders index pre (pure result : Session First) fun _ _ => True :=
  ensures_trivial

theorem orderly_passive (passive : Passive program) : Orderly index program :=
  orders_passive passive (Stable.const True)

end

variable {Index : Type} {index : Index} {id volumeID : String} {volume : Volume}

/-! ## The document -/

/-- A successful update to in-use is a claim. -/
theorem orders_updateVolumeState_inUse (stable : (exclusion Index).Stable index pre)
    (account volumeID id device : String) :
    Orders index pre (updateVolumeState account volumeID .inUse id device)
      fun written state => pre state ∧ (written = .ok () → ∃ volume, volume.volumeID = volumeID ∧
        Owns index id volume state) := by
  refine ensures_bind (orders_getVolume stable account volumeID _)
    (either (fun _ => ensures_pure fun _ met => ⟨met.1, nofun⟩) fun read => ?_)
  intro seen inOrder met
  have named : read.volumeID = volumeID := congrArg Key.volume (met.2 read rfl).1
  refine ensures_bind (orders_passive (reading_attachTime id).passive stable)
    (fun attachedAt => ?_) inOrder met.1
  have held : (read.attach (writtenState .inUse id) id device attachedAt).HeldBy id :=
    ⟨by simp [Volume.attach, writtenState], rfl⟩
  refine ensures_bind (orders_claim stable read held)
    (either (fun _ => ensures_pure fun _ met => ⟨met.1, by rintro ⟨⟩⟩) fun done => ?_)
  refine ensures_pure fun _ met => ⟨met.1, fun _ => ⟨_, ?_, met.2 rfl⟩⟩
  exact named

variable (node account device : String)

/-- An update to available is a release. -/
theorem orders_updateVolumeState_available :
    Orders index (Releasing index lock id volume)
      (updateVolumeState account volume.volumeID .available "" "") fun _ => Locked index lock := by
  have stable : (exclusion Index).Stable index (Releasing index lock id volume) :=
    releasing_stable lock id volume
  refine ensures_bind (orders_getVolume stable account _ _)
    (either (fun _ => ensures_pure fun _ met => met.1.locked) fun read => ?_)
  intro seen inOrder met
  obtain ⟨keyed, before, ordered, releasing, stored⟩ := met.2 read rfl
  cases ordered.consistent.unique read volume stored
    releasing.owns.stored (congrArg Key.volume keyed)
  refine ensures_bind (orders_passive (reading_attachTime "").passive stable)
    (fun attachedAt => ?_) inOrder met.1
  have unused : (volume.attach (writtenState .available "") "" "" attachedAt).state ≠ .inUse := by
    simp [Volume.attach, writtenState]
  refine ensures_bind (orders_release (volume.key_attach _ _ _ _) unused) fun written => ?_
  cases written <;> exact ensures_pure fun _ locked => locked

/-! ## Leaving the guest -/

/-- A device is gone once its block node could be removed. -/
theorem unplugged_of_blockdevDel
    (performed : perform index (.qmp id volumeID .blockdevDel) before reply after)
    (gone : reply = .ok () ∨ reply = .error .nodeNotFound) : ¬after.InGuest id volumeID := by
  rcases performed with ⟨guest, ran, rfl⟩
  rintro ⟨left, present, plugged⟩
  rw [before.guests_setGuest_self] at present
  rcases gone with rfl | rfl
  · rcases ran with ⟨old, changed, _, same, done⟩
    cases same.symm.trans present
    cases done with
    | blockdevDel _ unused => exact plugged unused
  · have absent := ran.2 left (ran.1 ▸ present)
    simp [left.backed volumeID plugged] at absent

theorem orders_blockdevDel (stable : (exclusion Index).Stable index pre) :
    Orders index pre (sendQMPCommand id volumeID .blockdevDel)
      fun reply state => pre state ∧ (reply = .ok () ∨ reply = .error .nodeNotFound →
        ¬state.1.InGuest id volumeID) := by
  refine orders_passive_call trivial stable ?_
  intro before reply after _ _ kept performed
  exact ⟨kept, unplugged_of_blockdevDel performed⟩

/-- A rollback that reports success has emptied the guest. -/
theorem orders_rollbackHotAttach (named : request.name = volume.volumeID) :
    Orders index (Charged index id volume) (rollbackHotAttach node id request)
      fun undone state => Locked index (some id) state ∧
        (undone = true → Releasing index (some id) id volume state) := by
  refine ensures_bind (orders_blockdevDel (charged_stable id volume))
    (either (fun _ => ensures_pure fun _ met => ⟨met.1.1, nofun⟩) fun done => ?_)
  have stable : (exclusion Index).Stable index (Releasing index (some id) id volume) :=
    releasing_stable _ _ _
  refine ensures_then (orders_passive (passive_call trivial) stable)
    (fun _ met => ⟨met.1.1, met.1.2, .inr ⟨rfl, named ▸ met.2 (.inl rfl)⟩⟩)
    fun _ => ?_
  exact ensures_bind (orders_passive (passive_unmountOne _ _) stable)
    (either (fun _ => ensures_pure fun _ met => ⟨met.locked, nofun⟩)
      fun done => ensures_pure fun _ met => ⟨met.locked, fun _ => met⟩)

/-! ## Attaching to a running instance -/

namespace Manager

variable (node account : String)

theorem orders_plugDevice (named : request.name = volume.volumeID) :
    Orders index (Charged index id volume) (plugDevice node id account request)
      fun _ => Locked index (some id) := by
  unfold plugDevice
  rw [named]
  refine ensures_bind orders_deviceAdd (either (fun _ => ?_) fun done => ?_)
  · refine ensures_bind (orders_rollbackHotAttach node named) fun undone => ?_
    cases undone with
    | false => exact ensures_left
    | true =>
      exact ensures_then (orders_updateVolumeState_available account)
        (fun _ met => met.2 rfl) fun _ => holding_pure _
  refine ensures_bind (orders_recordRequest named) fun _ => ?_
  refine ensures_bind (orders_editMappings (fun vm => rfl) (locked_stable _)
      (fun _ locked => locked) (fun _ locked => locked)) fun _ => ?_
  exact holding_pure _

/-! ## Detaching from a running instance -/

theorem orders_tryBlockdevDel (stable : (exclusion Index).Stable index pre) (attempts : Nat) :
    Orders index pre (tryBlockdevDel id volumeID attempts) fun removed state =>
      pre state ∧ (removed = .ok () → ¬state.1.InGuest id volumeID) := by
  induction attempts with
  | zero => exact ensures_pure fun _ holds => ⟨holds, nofun⟩
  | succ attempts induction =>
    refine ensures_bind (orders_blockdevDel stable) fun removed => ?_
    split
    · exact ensures_pure fun _ met => ⟨met.1, fun _ => met.2 (.inl rfl)⟩
    · exact ensures_pure fun _ met => ⟨met.1, fun _ => met.2 (.inr rfl)⟩
    · exact induction.given fun _ met => met.1
    · exact ensures_pure fun _ met => ⟨met.1, nofun⟩

/-- A volume that could be unplugged is out of the guest. -/
theorem orders_unplugVolume (force : Bool) :
    Orders index (Lists index id volumeID) (unplugVolume id volumeID force)
      fun unplugged state => Locked index (some id) state ∧
        (unplugged = .ok () → Unplugged index id volumeID state) := by
  have stable : (exclusion Index).Stable index (Lists index id volumeID) := lists_stable id volumeID
  have asks : Orders index (Lists index id volumeID) (call (.qemuConfirmedDead id))
      fun dead state => Lists index id volumeID state ∧
        (dead = true → ¬state.1.InGuest id volumeID) := by
    refine orders_passive_call trivial stable ?_
    intro before reply after _ _ kept performed
    refine ⟨kept, fun dead => ?_⟩
    rintro ⟨guest, present, _⟩
    simp [performed.1, performed.2 dead] at present
  refine ensures_bind asks fun dead => ?_
  cases dead with
  | true =>
    exact ensures_pure fun _ met => ⟨met.1.locked, fun _ => ⟨met.1, met.1.locked, met.2 rfl⟩⟩
  | false =>
    refine ensures_then (orders_passive (passive_requestUnplug _ _ _) stable)
      (fun _ met => met.1) fun asked => ?_
    cases asked with
    | error failure => exact ensures_pure fun _ met => ⟨met.locked, nofun⟩
    | ok done =>
      refine ensures_bind (orders_tryBlockdevDel stable _)
        (either (fun _ => ensures_pure fun _ met => ⟨met.1.locked, nofun⟩) fun done => ?_)
      exact ensures_then (orders_passive (passive_call trivial)
          (unplugged_lists_stable id volumeID))
        (fun _ met => ⟨met.1, met.1.locked, met.2 rfl⟩) fun _ =>
          ensures_pure fun _ met => ⟨met.2.1, fun _ => met⟩

theorem orders_releaseVolume :
    Orders index (Unplugged index id request.name) (releaseVolume node id account request)
      fun _ => Locked index (some id) := by
  refine ensures_bind (orders_passive (passive_unmountOne _ _)
      (unplugged_lists_stable id request.name)) fun released => ?_
  cases released with
  | error failure => exact ensures_pure fun _ met => met.2.1
  | ok done =>
    refine ensures_bind orders_dropRequest fun _ => ?_
    rintro seen inOrder ⟨volume, named, releasing⟩
    rw [← named]
    have edits :
        Orders index (Releasing index (some id) id volume)
          (call (.updateState id (dropMappings volume.volumeID)))
          fun _ => Releasing index (some id) id volume :=
      orders_editMappings (fun vm => rfl) (releasing_stable _ _ _)
        (fun _ releasing => releasing.locked) (fun _ releasing =>
          ⟨releasing.locked, ⟨releasing.owns.charge, releasing.owns.stored, releasing.owns.held⟩,
            releasing.clear⟩)
    exact ensures_bind edits (fun _ => ensures_bind (orders_updateVolumeState_available account)
        fun _ => holding_pure _) inOrder releasing

/-- The requests of a locked record are listed. -/
theorem orders_requests :
    Orders index (Locked index (some id)) (requests id) fun requests state =>
      Locked index (some id) state ∧ ∀ request ∈ requests, Lists index id request.name state := by
  have gets : Orders index (Locked index (some id)) (call (.get id)) fun found state =>
        Locked index (some id) state ∧ ∀ vm ∈ found,
          ∃ host, state.1.running id = some host ∧ host.vm = vm := by
    refine orders_passive_call trivial (locked_stable (some id)) ?_
    intro before reply after _ _ locked performed
    refine ⟨locked, fun vm member => ?_⟩
    rw [performed.2] at member
    rw [performed.1]
    exact Option.map_eq_some_iff.1 member
  refine ensures_bind gets
    (Option.forall.2 ⟨ensures_pure fun _ met => ⟨met.1, nofun⟩, fun vm => ?_⟩)
  refine ensures_pure fun _ met => ⟨met.1, fun request member => ?_⟩
  rcases met.2 vm rfl with ⟨host, present, rfl⟩
  exact ⟨met.1, host, present, List.mem_map.2 ⟨request, member, rfl⟩⟩

theorem holding_detachLocked (volumeID device : String) (force : Bool) :
    Holding index id (detachLocked node id account volumeID device force) := by
  refine ensures_bind orders_requests fun requests => ?_
  split
  · exact ensures_left
  next request found =>
    split_ifs
    · exact ensures_left
    · exact ensures_left
    refine ensures_then (orders_unplugVolume force)
      (fun _ met => met.2 request (List.mem_of_find?_eq_some found))
      fun unplugged => ?_
    cases unplugged with
    | error failure => exact ensures_left
    | ok done =>
      exact (orders_releaseVolume node account).given fun _ met => met.2 rfl

theorem orderly_detachVolume (id volumeID device : String) (force : Bool) :
    Orderly index (detachVolume node id volumeID device force) := by
  refine ensures_bind (orderly_passive (passive_call trivial))
    (Option.forall.2 ⟨orders_pure _, fun vm => ?_⟩)
  dsimp only
  split_ifs
  · exact orders_pure _
  · refine ensures_bind (orders_lock id) fun _ => ?_
    refine ensures_bind (holding_detachLocked ..) fun _ => ?_
    exact ensures_bind (orders_unlock id) fun _ => orders_pure _

end Manager

/-! ## Stopped instances -/

theorem orders_recordClaim (boot : Bool) :
    Orders index (fun state => state.1.stopped id ≠ none ∧ Owns index id volume state)
      (recordClaim id device boot volume) fun _ _ => True := by
  have release (code : ErrorCode) : Orders index (Releasing index none id volume) (do
          let _ ← releaseClaim volume
          return .error code : Session (Except ErrorCode VolumeAttachment))
        fun _ _ => True :=
    ensures_bind (orders_release (volume.key_attach _ _ _ _) nofun) fun _ => orders_pure _
  refine ensures_bind (orders_addUnlessTaken device boot) fun update => ?_
  split
  next found =>
    refine (release _).given fun _ met => met fun _ _ => ?_
    rw [found]
    nofun
  next failure _ told =>
    refine (release _).given fun _ met => met fun vm wrong => ?_
    cases told.symm.trans wrong
  · exact orders_pure _

theorem orders_claimForStopped (boot : Bool) (volume : Volume) :
    Orders index (fun state => state.1.stopped id ≠ none)
      (claimForStopped id device boot volume) fun _ _ => True := by
  refine ensures_bind (orders_passive (passive_ask _) (stopped_stable id)) fun time => ?_
  refine ensures_bind (orders_claim (stopped_stable id) volume ⟨rfl, rfl⟩)
    (either (fun _ => orders_pure _) fun done => ?_)
  exact (orders_recordClaim device boot).given fun _ met => ⟨met.1, met.2 rfl⟩

/-- A stopped record that was loaded is still there. -/
theorem orders_loadVisible (id account : String) :
    Orders index (fun _ => True) (loadVisible id account) fun loaded state =>
      ∀ vm, loaded = .ok vm → state.1.stopped id ≠ none := by
  have loads : Orders index (fun _ => True) (call (.loadStopped id)) fun reply state =>
        ∀ vm, reply = .ok (some vm) → state.1.stopped id ≠ none := by
    refine orders_passive_call trivial (Stable.const True) ?_
    intro before reply after _ _ _ performed vm loaded
    rw [performed.1, performed.2 _ loaded]
    nofun
  refine ensures_bind loads fun loaded => ?_
  rcases loaded with failure | _ | vm
  · exact ensures_pure fun _ _ => nofun
  · exact ensures_pure fun _ _ => nofun
  · dsimp only
    split_ifs
    · exact ensures_pure fun _ met _ _ => met vm rfl
    · exact ensures_pure fun _ _ => nofun

/-- A successful record edit leaves its call in charge of the volume. -/
theorem orders_detachVolumeFromStopped (id volumeID account : String) :
    Orders index (fun _ => True) (detachVolumeFromStopped id volumeID account)
      fun detached state => ∀ attachment, detached = .ok attachment → ∃ volume,
        volume.volumeID = volumeID ∧ Releasing index none id volume state := by
  unfold detachVolumeFromStopped
  split_ifs
  · exact ensures_pure fun _ _ => nofun
  refine ensures_bind (orderly_passive (reading_loadVisible ..).passive)
    (either (fun _ => ensures_pure fun _ _ => nofun) fun stored => ?_)
  dsimp only
  split
  · exact ensures_pure fun _ _ => nofun
  split_ifs
  · exact ensures_pure fun _ _ => nofun
  refine ensures_bind (orders_removeVolumeFromRecord volumeID) fun update => ?_
  split
  · exact ensures_pure fun _ _ => nofun
  next vm told =>
    split_ifs with removed
    · exact ensures_pure fun _ met _ _ => met vm told removed
    · exact ensures_pure fun _ _ => nofun

/-- The release that follows a record edit. -/
theorem orders_forceDetachVolume :
    Orders index (Releasing index none id volume)
      (forceDetachVolume ⟨some volume.volumeID, none, none, some true⟩ account)
      fun _ _ => True := by
  have stable : (exclusion Index).Stable index (Releasing index none id volume) :=
    releasing_stable _ _ _
  unfold forceDetachVolume
  dsimp only [Option.getD_some]
  split_ifs
  · exact orders_pure _
  refine ensures_bind (orders_passive (passive_getVolume _ _ _) stable)
    (either (fun _ => ?_) fun read => ?_)
  · dsimp only
    split_ifs <;> exact orders_pure _
  dsimp only
  split_ifs
  · exact orders_pure _
  · exact orders_pure _
  refine ensures_bind (orders_passive (passive_recordCleared _) stable)
    (either (fun _ => orders_pure _) fun done => ?_)
  refine ensures_bind (orders_updateVolumeState_available account) fun written => ?_
  cases written <;> exact orders_pure _

/-! ## Requests -/

/-- A reply that arrives is the handler's. -/
theorem orders_natsRequest (stable : (exclusion Index).Stable index learned)
    (handled : Orders index pre handler fun reply state =>
      ∀ attachment, reply = .ok attachment → learned state) :
    Orders index pre (natsRequest handler) fun reply state =>
      ∀ attachment, reply = .ok attachment → learned state := by
  refine ensures_bind handled fun reply => ?_
  have kept : (exclusion Index).Stable index fun state =>
        ∀ attachment, reply = .ok attachment → learned state :=
    fun _ _ relied holds met attachment replied => stable relied holds (met attachment replied)
  refine ensures_bind (orders_passive (passive_ask _) kept) fun arrives => ?_
  split_ifs
  · exact ensures_pure fun _ met => met
  · exact ensures_pure fun _ _ => nofun

theorem orders_natsRequest_true (handled : Orders index pre handler fun _ _ => True) :
    Orders index pre (natsRequest handler) fun _ _ => True :=
  (orders_natsRequest (Stable.const True)
    (handled.gives fun _ _ _ _ _ => trivial)).gives fun _ _ _ => trivial

theorem orderly_handleDetachVolume (id volumeID device account : String) (force : Bool) :
    Orderly index (Daemon.handleDetachVolume node id volumeID device account force) := by
  refine ensures_bind (orderly_passive (reading_commandInstance ..).passive)
    (either (fun _ => orders_pure _) fun vm => ?_)
  split_ifs
  · exact orders_pure _
  refine ensures_bind (Manager.orderly_detachVolume node id volumeID device force)
      (either (fun _ => orders_pure _) fun device => ?_)
  exact orderly_passive (reading_respondWithVolumeAttachment ..).passive

/-- What an attach knows: the lock it holds, and the volume it is in charge of. -/
def Ordered (index : Index) (id : String) : Stage → Watched Index → Prop
  | .locked _ | .chosen _ _ | .mounted _ _ | .fitted _ _ | .spared | .ended _ =>
    Locked index (some id)
  | .claimed _ request result => fun state => Locked index (some id) state ∧ (result = .ok () →
    ∃ volume, volume.volumeID = request.name ∧ Owns index id volume state)
  | .loaded vm => fun state => ∀ stored, vm = .ok stored → state.1.stopped id ≠ none
  | .found _ _ => fun state => state.1.stopped id ≠ none
  | _ => fun _ => True

theorem ordered_stable (stage : Stage) :
    (exclusion Index).Stable index (Ordered index id stage) := by
  cases stage with
  | claimed node request result =>
    refine (locked_stable _).and fun before after relied inOrder owns done => ?_
    obtain ⟨volume, named, owns⟩ := owns done
    exact ⟨volume, named, owns_stable id volume relied inOrder owns⟩
  | locked | chosen | mounted | fitted | spared | ended => exact locked_stable _
  | loaded => exact fun _ _ relied inOrder met vm loaded =>
      stopped_stable id relied inOrder (met vm loaded)
  | found => exact stopped_stable id
  | _ => exact Stable.const True

/-- An attach keeps order. -/
def ordering (index : Index) (id volumeID device account : String) :
    Attaches id volumeID device account where
  holds before program after :=
    Orders index (Ordered index id before) program fun result => Ordered index id (after result)
  done same := ensures_pure fun _ met => same ▸ met
  bind := ensures_bind
  reading reading := orders_passive (Reading.passive reading) (ordered_stable _)
  refuse _ _ := orders_pure _
  route := orderly_passive (passive_call trivial)
  check _ := orderly_passive (passive_getVolume _ _ _)
  attachUnavailable _ := orderly_passive (reading_attachUnavailable ..).passive
  zone _ := orderly_passive (passive_ask _)
  decline _ _ := orders_pure _
  lock _ := orders_lock id
  attachDevice _ := holding_passive (Manager.reading_attachDevice ..).passive
  mountOne _ := holding_passive (passive_mountOne _ _)
  requests _ _ := holding_passive (Manager.reading_requests _).passive
  qmp passive := holding_passive (passive_call passive)
  abandon held passive := by
    cases held with
    | claimed => exact (holding_passive passive).given fun _ met => met.1
    | _ => exact holding_passive passive
  fail _ := holding_pure _
  claim _ _ _ := orders_updateVolumeState_inUse (locked_stable _) _ _ _ _
  plugDevice _ := by
    rintro seen inOrder ⟨locked, claimed⟩
    obtain ⟨volume, named, owns⟩ := claimed rfl
    exact Manager.orders_plugDevice _ _ named.symm inOrder ⟨locked, owns⟩
  unlock _ := orders_unlock id
  respond _ := orderly_passive (reading_respondWithVolumeAttachment ..).passive
  loadVisible := orders_loadVisible id account
  getVolume _ := (orders_passive (passive_getVolume _ _ _) (stopped_stable id)).given
    fun _ met => met _ rfl
  claimForStopped _ _ := orders_claimForStopped _ _ _

theorem orderly_attachVolume (input : AttachVolumeInput) (account : String) :
    Orderly index (attachVolume input account) :=
  (ordering index (input.instanceID.getD "") _ _ account).gatewayAttachVolume

theorem orderly_detachFromStopped (id volumeID account : String) :
    Orderly index (detachFromStopped id volumeID account) := by
  have stable : (exclusion Index).Stable index fun state => ∃ volume, volume.volumeID = volumeID ∧
      Releasing index none id volume state := by
    rintro before after relied holds ⟨volume, named, releasing⟩
    exact ⟨volume, named, releasing_stable none id volume relied holds releasing⟩
  refine ensures_bind (orders_natsRequest stable
      (orders_detachVolumeFromStopped id volumeID account)) fun edited => ?_
  cases edited with
  | error code => exact orders_pure _
  | ok attachment =>
    intro seen inOrder met
    rcases met attachment rfl with ⟨volume, rfl, releasing⟩
    exact orders_natsRequest_true (orders_forceDetachVolume account) inOrder releasing

theorem orderly_detachVolume
    (ordinary : input.force.getD false = false) : Orderly index (detachVolume input account) := by
  unfold detachVolume
  dsimp only
  split_ifs
  · exact orders_pure _
  refine ensures_bind (orderly_passive (passive_detachInstance _ _ _))
    (either (fun _ => orders_pure _) fun id => ?_)
  refine ensures_bind (orderly_passive (passive_call trivial)) fun stopped => ?_
  split_ifs
  · exact orderly_detachFromStopped id _ account
  rw [ordinary]
  refine ensures_bind (orderly_passive (passive_call trivial)) fun node => ?_
  cases node with
  | some node =>
    exact orders_natsRequest_true (orderly_handleDetachVolume _ _ _ _ _ _)
  | none => exact orders_pure _

end Spinifex.Ebs
