import Spinifex.Ebs.Footprint

/-!
# Programs that release the volumes of an instance

A terminate and a detach are followed here once, for any property of programs
that sequencing keeps, that passive parts have, and that is known of the calls
that write: the clearing of a document and the changes of the instance's
records.  What the records list is learned from the calls that read them.
-/

namespace Spinifex.Ebs

open Aws Concurrency Go Manager List.Subset Ebs Gateway List

/-- A record with the requests of another one, or fewer. -/
structure VM.Within (vm whole : VM) : Prop where
  accountID : vm.accountID = whole.accountID
  ebsRequests : vm.ebsRequests ⊆ whole.ebsRequests

theorem VM.Within.refl (vm : VM) : vm.Within vm :=
  ⟨rfl, List.Subset.refl _⟩

theorem VM.Within.trans {first second third : VM} (left : first.Within second)
    (right : second.Within third) : first.Within third :=
  ⟨left.accountID.trans right.accountID, List.Subset.trans left.ebsRequests right.ebsRequests⟩

variable (volumeID : String)

theorem within_dropRequest (vm : VM) : (dropRequest volumeID vm).Within vm :=
  ⟨rfl, eraseP_subset⟩

theorem within_dropMappings (vm : VM) : (dropMappings volumeID vm).Within vm :=
  ⟨rfl, refl _⟩

theorem within_removeVolumeFromRecord
    (vm : VM) : (removeVolumeFromRecord volumeID vm).1.Within vm := by
  unfold removeVolumeFromRecord
  split
  · exact .refl vm
  · split_ifs
    · exact .refl vm
    · exact (within_dropMappings volumeID _).trans (within_dropRequest volumeID vm)

/--
A property of programs, with what is learned from their results.  `Lists` is
known of the requests in a record of the instance and its owner, and `Runs` if
the record is that of the running instance; the document of a listed volume may
be cleared if the volume is `Named`.
-/
structure Releases (id : String) where
  holds {First : Type} (program : Session First) (learned : First → Prop) : Prop
  pure {First : Type} {learned : First → Prop} {result : First} (fact : learned result) :
    holds (pure result) learned
  bind {First Second : Type} {program : Session First} {next : First → Session Second}
    {middle : First → Prop} {learned : Second → Prop} (first : holds program middle)
    (rest : ∀ result, middle result → holds (next result) learned) :
    holds (program >>= next) learned
  passive {First : Type} {program : Session First} (passive : Passive program) :
    holds program fun _ => True
  Lists : String → List EBSRequest → Prop
  Runs : String → List EBSRequest → Prop
  Named : String → Prop
  Free : String → String → Prop
  within {owner : String} {some all : List EBSRequest} (listed : Lists owner all)
    (part : some ⊆ all) : Lists owner some
  again {owner other : String} {first second : List EBSRequest} (once : Runs owner first)
    (twice : Runs other second) : Lists owner second
  free {owner account : String} {requests : List EBSRequest} {request : EBSRequest}
    (listed : Lists owner requests) (present : request ∈ requests) (volume : request.efi = false)
    (named : Named request.name)
    (allowed : account = owner ∨ isInstanceVisible account owner = true) : Free account request.name
  clear {account volumeID : String} (state : VolumeState) (free : Free account volumeID) :
    holds (updateVolumeState account volumeID state "" "") fun _ => True
  loadStopped : holds (call (.loadStopped id)) fun loaded =>
    ∀ vm, loaded = .ok (some vm) → Lists vm.accountID vm.ebsRequests
  get : holds (call (.get id)) fun found => ∀ vm, found = some vm → Runs vm.accountID vm.ebsRequests
  updateStopped {mutate : VM → VM} (within : ∀ vm, (mutate vm).Within vm) :
    holds (call (.updateStopped id mutate)) fun _ => True
  updateState {mutate : VM → VM} (within : ∀ vm, (mutate vm).Within vm) :
    holds (call (.updateState id mutate)) fun _ => True
  deleteStopped : holds (call (.deleteStopped id)) fun _ => True
  forget : holds (call (.forget id)) fun _ => True
  lock : holds (call (.lock id)) fun _ => True
  unlock : holds (call (.unlock id)) fun _ => True

namespace Releases

variable {id : String} (walk : Releases id) {First Second : Type} {next : First → Session Second}

theorem passive_bind (passive : Passive program)
    (rest : ∀ result, walk.holds (next result) learned) : walk.holds (program >>= next) learned :=
  walk.bind (walk.passive passive) fun result _ => rest result

/-- A program from whose result nothing is learned. -/
theorem follow (first : walk.holds program middle)
    (rest : ∀ result, walk.holds (next result) learned) : walk.holds (program >>= next) learned :=
  walk.bind first fun result _ => rest result

theorem ask {next : Answer question → Session Second}
    (rest : ∀ reply, walk.holds (next reply) learned) :
    walk.holds (ask question >>= next) learned :=
  walk.passive_bind (passive_ask question) rest

/-- Nothing is claimed of an attachment that was not made. -/
theorem failed {learned : Prop} :
    walk.holds (Pure.pure (.error code) : Session (Except ErrorCode First))
      fun reply => ∀ attachment, reply = .ok attachment → learned :=
  walk.pure nofun

/-! ## Documents -/

variable {account volumeID : String}

theorem forceDetachVolume (free : walk.Free account (input.volumeID.getD "")) :
    walk.holds (forceDetachVolume input account) fun _ => True := by
  unfold Ebs.forceDetachVolume
  extract_lets volumeID
  split
  · exact walk.pure trivial
  refine walk.passive_bind (passive_getVolume _ _ _) (either (fun _ => ?_) fun volume => ?_)
  · dsimp only
    split <;> exact walk.pure trivial
  dsimp only
  split
  · exact walk.pure trivial
  split
  · exact walk.pure trivial
  refine walk.passive_bind (passive_recordCleared _)
    (either (fun _ => walk.pure trivial) fun done => ?_)
  refine walk.follow (walk.clear _ free) fun written => ?_
  cases written <;> exact walk.pure trivial

theorem deleteVolume {volumeID : Option String} (free : walk.Free account (volumeID.getD "")) :
    walk.holds (deleteVolume volumeID account) fun _ => True := by
  unfold Ebs.deleteVolume
  extract_lets named
  split
  · exact walk.pure trivial
  refine walk.passive_bind (passive_getVolume _ _ _) (either (fun _ => ?_) fun volume => ?_)
  · dsimp only
    split <;> exact walk.pure trivial
  dsimp only
  split
  · exact walk.pure trivial
  split
  · exact walk.pure trivial
  split
  · exact walk.pure trivial
  refine walk.ask fun snapshots => ?_
  split
  · exact walk.pure trivial
  · exact walk.pure trivial
  refine walk.follow (walk.clear _ free) fun written => ?_
  cases written <;> exact walk.pure trivial

theorem clearAttachment
    (free : walk.Free account volumeID) (rest : walk.holds cleared fun _ => True) :
    walk.holds (clearAttachment account volumeID wrap cleared) fun _ => True := by
  refine walk.follow (walk.clear _ free) (either (fun _ => ?_) fun done => ?_)
  · dsimp only
    split <;> exact walk.pure trivial
  exact rest

variable (owed : OwedUnpublish)

theorem deleteVolumeOnTerminate (free : walk.Free account volumeID) :
    walk.holds (deleteVolumeOnTerminate volumeID account owed) fun _ => True := by
  refine walk.passive_bind (passive_getVolume _ _ _) fun found => ?_
  split
  · exact walk.pure trivial
  refine walk.passive_bind (passive_recordTerminateObligation _ _ _)
    (either (fun _ => walk.pure trivial) fun done => ?_)
  apply walk.clearAttachment free
  refine walk.follow (walk.deleteVolume free) fun deleted => ?_
  cases deleted <;> exact walk.pure trivial

theorem detachVolumeOnTerminate (free : walk.Free account volumeID) :
    walk.holds (detachVolumeOnTerminate volumeID account owed) fun _ => True :=
  walk.passive_bind (passive_recordTerminateObligation _ _ _)
    (either (fun _ => walk.pure trivial) fun _ => walk.clearAttachment free (walk.pure trivial))

/-! ## Termination -/

section

variable (named : ∀ volumeID, walk.Named volumeID) {requests : List EBSRequest}

include named

theorem deleteInstanceVolumes {lastErr : Option TeardownError}
    (listed : walk.Lists vm.accountID requests) :
    walk.holds (deleteInstanceVolumes id vm lastErr requests) fun _ => True := by
  induction requests generalizing lastErr with
  | nil => exact walk.pure trivial
  | cons request requests induction =>
    have tail := walk.within listed (subset_cons_self request requests)
    unfold Ebs.deleteInstanceVolumes
    split
    · exact walk.ask fun _ => induction tail
    next volume =>
      have free := walk.free listed (.head _) (eq_false_of_ne_true volume) (named _) (.inl rfl)
      split
      · refine walk.follow (walk.deleteVolumeOnTerminate _ free) fun deleted => ?_
        cases deleted <;> exact induction tail
      · refine walk.follow (walk.detachVolumeOnTerminate _ free) fun detached => ?_
        cases detached <;> exact induction tail

theorem terminateStoppedInstance (account : String) :
    walk.holds (terminateStoppedInstance id account) fun _ => True := by
  unfold Ebs.terminateStoppedInstance
  split
  · exact walk.pure trivial
  refine walk.bind walk.loadStopped fun loaded known => ?_
  rcases loaded with failure | _ | vm
  · exact walk.pure trivial
  · exact walk.pure trivial
  dsimp only
  split
  · exact walk.pure trivial
  split
  · exact walk.pure trivial
  split
  · exact walk.pure trivial
  refine walk.follow (walk.deleteInstanceVolumes named (known vm rfl)) fun _ => ?_
  refine walk.ask (either (fun _ => walk.pure trivial) fun done => ?_)
  refine walk.follow walk.deleteStopped fun dropped => ?_
  cases dropped with
  | ok done => exact walk.pure trivial
  | error failure => exact walk.follow walk.deleteStopped fun _ => walk.pure trivial

theorem deleteVolumes {leftPublished : List String} (listed : walk.Lists account requests) :
    walk.holds (deleteVolumes node id account leftPublished firstErr requests) fun _ => True := by
  induction requests generalizing firstErr with
  | nil => exact walk.pure trivial
  | cons request requests induction =>
    have tail := walk.within listed (subset_cons_self request requests)
    unfold Manager.deleteVolumes
    extract_lets owed
    split
    · refine walk.ask fun deleted => ?_
      cases deleted <;> exact induction tail
    next volume =>
      have free := walk.free listed (.head _) (eq_false_of_ne_true volume) (named _) (.inl rfl)
      have released : walk.holds (releaseOnTerminate request account owed)
          fun _ => True := by
        unfold releaseOnTerminate
        split
        · exact walk.deleteVolumeOnTerminate owed free
        · exact walk.detachVolumeOnTerminate owed free
      refine walk.follow released fun released => ?_
      cases released <;> exact induction tail

theorem terminate (node : String) : walk.holds (terminate node id) fun _ => True := by
  refine walk.passive_bind (passive_call trivial)
    (Option.forall.2 ⟨walk.pure trivial, fun vm => ?_⟩)
  dsimp only
  split
  · exact walk.pure trivial
  refine walk.ask (either (fun _ => walk.pure trivial) fun done => ?_)
  refine walk.follow (walk.updateState fun vm => ⟨rfl, refl _⟩) fun _ => ?_
  refine walk.follow (?_ : walk.holds _ fun _ => True) fun _ => ?_
  · refine walk.passive_bind (passive_call trivial) fun _ => ?_
    refine walk.bind walk.get fun found known => ?_
    cases found with
    | none => exact walk.pure trivial
    | some vm =>
      refine walk.passive_bind (passive_unmountVolumes _ _) fun owed => ?_
      refine walk.follow (walk.updateState fun vm => ⟨rfl, refl _⟩) fun _ => ?_
      exact walk.deleteVolumes named (walk.again (known vm rfl) (known vm rfl))
  · exact walk.ask (either (fun _ => walk.pure trivial)
      fun _ => walk.follow walk.forget fun _ => walk.pure trivial)

theorem terminateInstance (account : String) :
    walk.holds (terminateInstance id account) fun _ => True := by
  refine walk.passive_bind (passive_call trivial)
    (Option.forall.2 ⟨walk.terminateStoppedInstance named account, fun node => ?_⟩)
  refine walk.passive_bind (passive_call trivial)
    (Option.forall.2 ⟨walk.pure trivial, fun vm => ?_⟩)
  dsimp only
  split
  · exact walk.pure trivial
  split
  · exact walk.pure trivial
  refine walk.follow (walk.terminate named node) fun ended => ?_
  cases ended <;> exact walk.pure trivial

end

/-! ## Detaching -/

theorem natsRequest {learned : Prop}
    (handled : walk.holds handler fun reply => ∀ attachment, reply = .ok attachment → learned) :
    walk.holds (natsRequest handler)
      fun reply => ∀ attachment, reply = .ok attachment → learned := by
  refine walk.bind handled fun reply known => ?_
  refine walk.ask fun arrived => ?_
  split
  · exact walk.pure known
  · exact walk.failed

/-- A handler from whose reply nothing is learned. -/
theorem handled (handled : walk.holds handler fun _ => True) :
    walk.holds (Gateway.natsRequest handler) fun _ => True := by
  refine walk.follow handled fun reply => ?_
  refine walk.ask fun arrived => ?_
  split <;> exact walk.pure trivial

theorem forceDetach (free : walk.Free account volumeID) :
    walk.holds (Gateway.forceDetach volumeID account) fun _ => True :=
  walk.handled (walk.forceDetachVolume free)

theorem loadVisible (account : String) :
    walk.holds (loadVisible id account) fun loaded => ∀ vm, loaded = .ok vm →
      isInstanceVisible account vm.accountID = true ∧ walk.Lists vm.accountID vm.ebsRequests := by
  refine walk.bind walk.loadStopped fun loaded known => ?_
  rcases loaded with failure | _ | vm
  · exact walk.pure nofun
  · exact walk.pure nofun
  dsimp only
  split
  next visible =>
    apply walk.pure
    rintro _ ⟨⟩
    exact ⟨visible, known vm rfl⟩
  · exact walk.pure nofun

variable (named : walk.Named volumeID) {requests : List EBSRequest}

include named

/-- A detach that succeeds found a volume it may release. -/
theorem detachVolumeFromStopped (account : String) :
    walk.holds (detachVolumeFromStopped id volumeID account)
      fun reply => ∀ attachment, reply = .ok attachment → walk.Free account volumeID := by
  unfold Ebs.detachVolumeFromStopped
  split
  · exact walk.failed
  refine walk.bind (walk.loadVisible account) fun loaded known => ?_
  cases loaded with
  | error code => exact walk.failed
  | ok vm =>
    obtain ⟨visible, listed⟩ := known vm rfl
    dsimp only
    split
    · exact walk.failed
    next request found =>
      split
      · exact walk.failed
      next volume =>
        have called := find?_some found
        rw [decide_eq_true_eq] at called
        have free : walk.Free account volumeID := by
          rw [← called] at named ⊢
          exact walk.free listed (mem_of_find?_eq_some found) (eq_false_of_ne_true volume)
            named (.inr visible)
        refine walk.follow (walk.updateStopped (within_removeVolumeFromRecord volumeID))
          fun edited => ?_
        cases edited.result with
        | error failure => exact walk.pure fun _ _ => free
        | ok stored =>
          dsimp only
          split <;> exact walk.pure fun _ _ => free

theorem detachFromStopped (account : String) :
    walk.holds (detachFromStopped id volumeID account) fun _ => True := by
  refine walk.bind (walk.natsRequest (walk.detachVolumeFromStopped named account))
    fun reply known => ?_
  cases reply with
  | error code => exact walk.pure trivial
  | ok attachment => exact walk.forceDetach (known attachment rfl)

omit named in
theorem releaseVolume (node : String) (free : walk.Free account request.name) :
    walk.holds (releaseVolume node id account request) fun _ => True := by
  refine walk.passive_bind (passive_unmountOne _ _)
    (either (fun _ => walk.pure trivial) fun done => ?_)
  refine walk.follow (walk.updateState (within_dropRequest _)) fun _ => ?_
  refine walk.follow (walk.updateState (within_dropMappings _)) fun _ => ?_
  exact walk.follow (walk.clear _ free) fun _ => walk.pure trivial

omit named in
theorem withAttachMu (stepped : walk.holds step fun _ => True) :
    walk.holds (withAttachMu id step) fun _ => True := by
  refine walk.follow walk.lock fun _ => ?_
  refine walk.follow stepped fun result => ?_
  exact walk.follow walk.unlock fun _ => walk.pure trivial

variable {device : String} {force : Bool}

theorem detachLocked (node : String) (running : walk.Runs account requests) :
    walk.holds (Manager.detachLocked node id account volumeID device force) fun _ => True := by
  have listed : walk.holds (Manager.requests id) (walk.Lists account) := by
    refine walk.bind walk.get fun found known => ?_
    cases found with
    | none => exact walk.pure (walk.within (walk.again running running) (nil_subset _))
    | some vm => exact walk.pure (walk.again running (known vm rfl))
  refine walk.bind listed fun found listed => ?_
  split
  · exact walk.pure trivial
  next request matching =>
    split
    · exact walk.pure trivial
    next volume =>
      split
      · exact walk.pure trivial
      have called : request.name = volumeID := by
        have same := find?_some matching
        rwa [decide_eq_true_eq] at same
      have free := walk.free listed (mem_of_find?_eq_some matching)
        (Bool.or_eq_false_iff.1 (eq_false_of_ne_true volume)).2 (called ▸ named) (.inl rfl)
      exact walk.passive_bind (passive_unplugVolume _ _ _)
        (either (fun _ => walk.pure trivial) fun done => walk.releaseVolume node free)

theorem detachVolume (node : String) :
    walk.holds (detachVolume node id volumeID device force) fun _ => True := by
  refine walk.bind walk.get fun found known => ?_
  cases found with
  | none => exact walk.pure trivial
  | some vm =>
    dsimp only
    split
    · exact walk.pure trivial
    exact walk.withAttachMu (walk.detachLocked named node (known vm rfl))

theorem detachFromRunning (account : String) (forced : force = true → walk.Free account volumeID) :
    walk.holds (Gateway.detachFromRunning id volumeID device account force) fun _ => True := by
  refine walk.passive_bind (passive_call trivial) fun routed => ?_
  cases routed with
  | some node =>
    apply walk.handled
    refine walk.passive_bind (reading_commandInstance ..).passive
      (either (fun _ => walk.pure trivial) fun vm => ?_)
    dsimp only
    split
    · exact walk.pure trivial
    refine walk.follow (walk.detachVolume named node)
      (either (fun _ => walk.pure trivial) fun device => ?_)
    exact walk.passive (reading_respondWithVolumeAttachment ..).passive
  | none =>
    dsimp only
    split
    next demanded => exact walk.forceDetach (forced demanded)
    · exact walk.pure trivial

end Releases

end Spinifex.Ebs
