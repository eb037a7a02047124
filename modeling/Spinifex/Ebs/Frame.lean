import Spinifex.Concurrency.Sequential
import Spinifex.Ebs.Custody
import Spinifex.Ebs.Releases

/-!
# What a request about one instance leaves alone

A detach that names an instance and a terminate of an instance release the
volumes the instance's record lists, and a forced detach the volume it names.
None of them looks at the instance on the volume's document.  They are shown
here to clear only documents that are unattached or name the instance, provided
that the record lists, and a forced detach names, no other volume.
-/

namespace Spinifex.Ebs

open Aws Concurrency Go Option Function System

/-! ## Attachments -/

namespace Cluster

variable {Index : Type} (cluster : Cluster Index)

/-- Every document is stored under its own key. -/
def Keyed : Prop :=
  ∀ key volume, cluster.documents key = some volume → volume.key = key

/-- The document of a volume is unattached, or names the instance. -/
def Yields (id account volumeID : String) : Prop :=
  ∀ key, volumeKey account volumeID = .ok key →
    ∀ volume ∈ cluster.documents key, volume.attachedInstance = "" ∨ volume.attachedInstance = id

/-- A record of an instance, stopped or running. -/
def Records (id : String) (vm : VM) : Prop :=
  cluster.stopped id = some vm ∨ (cluster.running id).map Running.vm = some vm

/--
If a record of the instance lists a volume, then the volume's document is
unattached or names the instance.
-/
def Releasable (id volumeID : String) : Prop :=
  ∀ vm, cluster.Records id vm → ∀ request ∈ vm.ebsRequests, request.efi = false →
    request.name = volumeID → ∀ account, isInstanceVisible account vm.accountID = true →
    cluster.Yields id account volumeID

/--
A document that does not name the instance keeps its attachment, and if it
names another one, all of its content.
-/
def KeepsOthers (id : String) (before after : Cluster Index) : Prop :=
  ∀ key, (∀ volume ∈ before.documents key, volume.attachedInstance ≠ id) →
    (after.documents key).map Volume.attachedInstance =
        (before.documents key).map Volume.attachedInstance ∧
      ∀ volume ∈ before.documents key,
        volume.attachedInstance ≠ "" → after.documents key = some volume

end Cluster

/-! ## What a request about an instance may do -/

/-- A document is as it was, or an attachment to the instance is gone. -/
def Cleared (id : String) (before after : Option Volume) : Prop :=
  after = before ∨ ∃ old new, before = some old ∧ after = some new ∧
    (old.attachedInstance = "" ∨ old.attachedInstance = id) ∧
    new.attachedInstance = ""

/-- What a request about an instance has done so far. -/
structure Released {Index : Type} (id : String) (start now : Cluster Index) : Prop where
  keyed : now.Keyed
  documents : ∀ key, Cleared id (start.documents key) (now.documents key)
  stopped : ∀ vm, now.stopped id = some vm →
    ∃ whole, start.stopped id = some whole ∧ vm.Within whole
  running : ∀ host, now.running id = some host →
    ∃ whole, start.running id = some whole ∧ host.vm.Within whole.vm

section

variable {Index : Type} {index : Index} {id : String} {start before after : Cluster Index}

theorem Released.refl (keyed : start.Keyed) : Released id start start :=
  ⟨keyed, fun _ => .inl rfl, fun vm stored => ⟨vm, stored, .refl vm⟩,
    fun host stored => ⟨host, stored, .refl host.vm⟩⟩

theorem Released.keepsOthers (released : Released id start after) : start.KeepsOthers id after := by
  intro key others
  rcases released.documents key with
    same | ⟨old, new, found, left, owner, cleared⟩
  · exact ⟨by rw [same], fun volume stored _ => same.trans stored⟩
  · have unattached : old.attachedInstance = "" := owner.resolve_right (others old found)
    refine ⟨?_, fun volume stored attached => ?_⟩
    · rw [left, found, map_some, map_some, cleared, unattached]
    · cases found.symm.trans stored
      exact absurd unattached attached

section

variable (released : Released id start before)

include released

theorem Released.fades (fades : Fades before after) : Released id start after := by
  obtain ⟨keyed, documents, stopped, running⟩ := released
  refine ⟨?_, ?_, ?_, ?_⟩
  · unfold Cluster.Keyed
    rwa [fades.documents]
  · rwa [fades.documents]
  · rwa [fades.stopped]
  · rwa [fades.running]

theorem Released.clearDocument (found : start.documents volume.key = some old)
    (owner : old.attachedInstance = "" ∨ old.attachedInstance = id)
    (cleared : volume.attachedInstance = "") : Released id start (before.putDocument volume) := by
  refine ⟨fun key other => ?_, fun key => ?_, released.stopped, released.running⟩
  · simp only [Cluster.putDocument, update_apply]
    split
    next same =>
      rintro ⟨⟩
      exact same.symm
    · exact released.keyed key other
  · simp only [Cluster.putDocument, update_apply]
    split
    next same =>
      subst key
      exact .inr ⟨old, volume, found, rfl, owner, cleared⟩
    · exact released.documents key

theorem Released.putStopped (stored : before.stopped id = some vm)
    (within : changed.Within vm) : Released id start (before.putStopped id changed) := by
  refine { released with stopped := ?_ }
  intro other found
  rw [before.stopped_putStopped_self] at found
  cases found
  rcases released.stopped vm stored with ⟨whole, listed, part⟩
  exact ⟨whole, listed, within.trans part⟩

theorem Released.removeStopped : Released id start (before.removeStopped id) := by
  refine { released with stopped := ?_ }
  intro vm found
  simp only [Cluster.removeStopped, update_self] at found
  cases found

theorem Released.editRunning
    (within : ∀ vm, (mutate vm).Within vm) : Released id start (before.editRunning id mutate) := by
  refine { released with running := ?_ }
  intro host found
  simp only [Cluster.editRunning, update_self, map_eq_some_iff] at found
  rcases found with ⟨old, stored, rfl⟩
  rcases released.running old stored with ⟨whole, listed, part⟩
  exact ⟨whole, listed, (within old.vm).trans part⟩

theorem Released.removeRunning : Released id start (before.removeRunning id) := by
  refine { released with running := ?_ }
  intro host found
  simp only [Cluster.removeRunning, update_self] at found
  cases found

end

end

/-! ## Programs that release only what they may -/

section

variable {Index : Type} (index : Index) (id : String) (start : Cluster Index)

/-- A program that clears only attachments to the instance. -/
abbrev Narrow {First : Type} (program : Session First) (learned : First → Prop) : Prop :=
  (system Index).Confined index (Released id start) program learned

variable {index id start} {First Second : Type}

theorem released_steady : (system Index).Steady (Released id start) :=
  fun _ _ drifted released => released.fades (Drift.fades drifted)

theorem narrow_pure
    (fact : learned result) : Narrow index id start (pure result : Session First) learned :=
  confined_pure released_steady fact

theorem narrow_call (keeps : ∀ before reply after, Released id start before →
      perform index op before reply after → Released id start after ∧ learned reply) :
    Narrow index id start (call op) learned :=
  confined_request released_steady keeps

variable {program : Session First}

theorem narrow_passive (passive : Passive program) : Narrow index id start program fun _ => True :=
  confined_only released_steady (fun _ _ _ _ allowed released performed =>
      released.fades (Op.Passive.fades allowed performed))
    passive

variable {next : First → Session Second}

/-! ### Documents -/

theorem narrow_getVolume (account volumeID : String) (purpose : Purpose) :
    Narrow index id start (getVolume account volumeID purpose)
      fun found => ∀ volume, found = .ok volume → volumeKey account volumeID = .ok volume.key ∧
        ∃ old, start.documents volume.key = some old := by
  unfold getVolume
  split
  · apply narrow_pure
    rintro volume ⟨⟩
  next key valid =>
    refine narrow_call fun before reply after released read => ?_
    have same : after = before := read.1
    subst after
    refine ⟨released, ?_⟩
    rintro volume rfl
    have stored : before.documents key = some volume := read.2
    have named : volume.key = key := released.keyed _ _ stored
    rw [named]
    refine ⟨valid, ?_⟩
    rcases released.documents key with
      kept | ⟨old, new, found, _, _, _⟩
    · exact ⟨volume, kept ▸ stored⟩
    · exact ⟨old, found⟩

theorem narrow_putVolume (found : start.documents volume.key = some old)
    (owner : old.attachedInstance = "" ∨ old.attachedInstance = id)
    (cleared : volume.attachedInstance = "") :
    Narrow index id start (putVolume seen volume) fun _ => True := by
  unfold putVolume
  split
  · exact narrow_pure trivial
  refine narrow_call fun before reply after released put => ?_
  refine ⟨?_, trivial⟩
  rcases put with rfl | ⟨_, rfl⟩
  · exact released.clearDocument found owner cleared
  · exact released

variable {account : String}

theorem narrow_updateVolumeState (state : VolumeState) (free : start.Yields id account volumeID) :
    Narrow index id start (updateVolumeState account volumeID state "" "") fun _ => True := by
  refine confined_bind (narrow_getVolume _ _ _) fun found read => ?_
  cases found with
  | error failure => exact narrow_pure trivial
  | ok volume =>
    rcases read volume rfl with ⟨valid, old, stored⟩
    have owner := free _ valid old stored
    refine confined_bind (narrow_passive (reading_attachTime _).passive) fun time _ => ?_
    refine confined_bind (narrow_putVolume stored owner rfl) fun written _ => ?_
    cases written <;> exact narrow_pure trivial

/-! ### Records -/

variable {request : EBSRequest}

/-- A listed volume may be released by the instance's own account. -/
theorem Cluster.Releasable.owner (releasable : start.Releasable id request.name)
    (recorded : start.Records id whole) (listed : request ∈ whole.ebsRequests)
    (volume : request.efi = false) : start.Yields id whole.accountID request.name := by
  by_cases unowned : whole.accountID = ""
  · intro key valid
    rw [unowned] at valid
    cases valid
  · apply releasable whole recorded request listed volume rfl _
    rw [isInstanceVisible, if_neg unowned, decide_eq_true_eq]

/-- The requests are all listed by a record of the instance. -/
def Listed (id : String) (start : Cluster Index) (account : String)
    (requests : List EBSRequest) : Prop :=
  ∃ whole, start.Records id whole ∧ account = whole.accountID ∧ requests ⊆ whole.ebsRequests

theorem narrow_loadStopped :
    Narrow index id start (call (.loadStopped id)) fun loaded =>
      ∀ vm, loaded = .ok (some vm) → Listed id start vm.accountID vm.ebsRequests := by
  refine narrow_call fun before reply after released load => ?_
  have same : after = before := load.1
  subst after
  refine ⟨released, ?_⟩
  rintro vm rfl
  rcases released.stopped vm (load.2 _ rfl) with ⟨whole, stored, within⟩
  exact ⟨whole, .inl stored, within.accountID, within.ebsRequests⟩

/-- The requests of the running instance, and its owner. -/
def Hosted (id : String) (start : Cluster Index) (owner : String)
    (requests : List EBSRequest) : Prop :=
  ∃ host, start.running id = some host ∧ owner = host.vm.accountID ∧ requests ⊆ host.vm.ebsRequests

theorem narrow_get :
    Narrow index id start (call (.get id)) fun found => ∀ vm, found = some vm →
      Hosted id start vm.accountID vm.ebsRequests := by
  refine narrow_call fun before reply after released read => ?_
  have same : after = before := read.1
  subst after
  refine ⟨released, ?_⟩
  rintro vm rfl
  rcases map_eq_some_iff.1 read.2.symm with ⟨host, stored, rfl⟩
  rcases released.running host stored with ⟨whole, found, within⟩
  exact ⟨whole, found, within.accountID, within.ebsRequests⟩

theorem narrow_updateStopped (within : ∀ vm, (mutate vm).Within vm) :
    Narrow index id start (call (.updateStopped id mutate)) fun _ => True := by
  refine narrow_call fun before reply after released edit => ?_
  refine ⟨?_, trivial⟩
  rcases edit with ⟨vm, _, stored, rfl⟩ | ⟨_, rfl⟩
  · exact released.putStopped stored (within vm)
  · exact released

theorem narrow_updateState (within : ∀ vm, (mutate vm).Within vm) :
    Narrow index id start (call (.updateState id mutate)) fun _ => True := by
  refine narrow_call fun before reply after released edit => ?_
  subst after
  exact ⟨released.editRunning within, trivial⟩

theorem narrow_deleteStopped : Narrow index id start (call (.deleteStopped id)) fun _ => True := by
  refine narrow_call fun before reply after released drop => ?_
  refine ⟨?_, trivial⟩
  rcases drop with rfl | ⟨_, rfl⟩
  · exact released.removeStopped
  · exact released

theorem narrow_forget : Narrow index id start (call (.forget id)) fun _ => True := by
  refine narrow_call fun before reply after released drop => ?_
  subst after
  exact ⟨released.removeRunning, trivial⟩

theorem narrow_setLock (locks : ∀ before reply after, perform index op before reply after →
      ∃ other holder, after = before.setLock other holder) :
    Narrow index id start (call op) fun _ => True := by
  refine narrow_call fun before reply after released locked => ?_
  rcases locks _ _ _ locked with ⟨other, holder, rfl⟩
  exact ⟨{ released with }, trivial⟩

variable (index id start)

/-- The programs that clear only attachments to the instance. -/
def narrow : Releases id where
  holds := Narrow index id start
  pure := narrow_pure
  bind := System.confined_bind
  passive := narrow_passive
  Lists := Listed id start
  Runs := Hosted id start
  Named := start.Releasable id
  Free := start.Yields id
  within := by
    rintro owner some all ⟨whole, recorded, same, part⟩ fewer
    exact ⟨whole, recorded, same, List.Subset.trans fewer part⟩
  again := by
    rintro owner other first second ⟨host, stored, same, _⟩ ⟨again, found, _, part⟩
    cases stored.symm.trans found
    exact ⟨host.vm, .inr (by rw [stored, map_some]), same, part⟩
  free := by
    rintro owner account requests request ⟨whole, recorded, rfl, part⟩ present volume named allowed
    rcases allowed with rfl | visible
    · exact named.owner recorded (part present) volume
    · exact named whole recorded request (part present) volume rfl account visible
  clear := narrow_updateVolumeState
  loadStopped := narrow_loadStopped
  get := narrow_get
  updateStopped := narrow_updateStopped
  updateState := narrow_updateState
  deleteStopped := narrow_deleteStopped
  forget := narrow_forget
  lock := narrow_setLock fun _ _ _ locked => ⟨_, _, locked.2⟩
  unlock := narrow_setLock fun _ _ _ unlocked => ⟨_, _, unlocked⟩

variable {index id start}

/-- A detach that names the instance it is about. -/
theorem narrow_detachVolume (named : input.instanceID = some id)
    (given : id ≠ "") (releasable : start.Releasable id (input.volumeID.getD ""))
    (forced : input.force = some true → start.Yields id account (input.volumeID.getD "")) :
    Narrow index id start (Gateway.detachVolume input account) fun _ => True := by
  have chosen : Gateway.detachInstance input (input.volumeID.getD "") account = pure (.ok id) := by
    rw [Gateway.detachInstance, named, getD_some, if_pos given]
  unfold Gateway.detachVolume
  extract_lets volumeID
  split
  · exact narrow_pure trivial
  rw [chosen]
  show Narrow index id start (call (.isStopped id) >>= _) _
  refine confined_bind (narrow_passive (passive_call trivial)) fun stopped _ => ?_
  split
  · exact (narrow index id start).detachFromStopped releasable account
  · refine (narrow index id start).detachFromRunning releasable account fun demanded => ?_
    apply forced
    cases flag : input.force with
    | none =>
      simp [flag] at demanded
    | some value =>
      rw [flag, getD_some] at demanded
      rw [demanded]

end

end Spinifex.Ebs
