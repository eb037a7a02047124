import Spinifex.Concurrency.Discipline
import Spinifex.Ebs.Attaches
import Spinifex.Ebs.Releases

/-!
# An accepted deletion

`DeleteVolume` records the state `deleting` with an unconditional put, and
every other writer of the document puts unconditionally too.  A run is
undisturbed when no put overwrites a document its caller has not seen, and no
`UpdateVolumeState` to another state starts from a deleting document.  In such
runs a deletion once recorded is final: whatever the calls in flight, the
document stays as it is until the reclaimer removes it, and is not written
again after that.
-/

namespace Spinifex.Ebs

open Aws Concurrency Go

/-! ## Undisturbed runs -/

section

variable {Index : Type}

/--
A put finds the document its caller changed; an update to another state does
not start from a deleting document.
-/
def Undisturbed (_ : Index) :
    (op : Op) → Cluster Index → Reply op → Prop
  | .putVolume seen volume, before, _ =>
    before.documents volume.key = some seen
  | .getVolume key (.update state), before, _ =>
    (before.documents key).map Volume.state = some .deleting → state = .deleting
  | _, _, _ => True

variable (Index)

/-- The undisturbed runs of a deployment. -/
def undisturbed : System Index Op Reply (Cluster Index) Outcome :=
  (system Index).restrict Undisturbed

end

/-! ## What may become of a document -/

variable (stored : Option Volume)

/-- There is no document but one that records a deletion. -/
def Gone : Prop :=
  ∀ volume ∈ stored, volume.Deleted

/-- A deletion stays recorded, and no document appears. -/
structure Final (before after : Option Volume) : Prop where
  absent : before = none → after = none
  gone : Gone before → Gone after

theorem Final.refl : Final stored stored :=
  ⟨id, id⟩

theorem Final.trans {first second third : Option Volume}
    (left : Final first second) (right : Final second third) : Final first third :=
  ⟨right.absent ∘ left.absent, right.gone ∘ left.gone⟩

/-- The calls that leave every document alone. -/
def Op.Neutral : Op → Prop
  | .putVolume _ _ => False
  | .deleteVolume _ => False
  | _ => True

section

variable {Index : Type} {after : Cluster Index}

theorem Op.Neutral.documents (neutral : op.Neutral)
    (performed : perform index op before reply after) : after.documents = before.documents := by
  cases becomes_of_perform performed with
  | putDocument seen volume | removeDocument key => cases neutral
  | _ => rfl

theorem Drift.documents (drifted : Drift before after) : after.documents = before.documents := by
  cases drifted with
  | unplugged present leaving | exited => rfl

end

/-- Deletions are final, whatever else happens. -/
def finality (Index : Type) : Discipline (undisturbed Index) where
  invariant _ := True
  evolves before after := ∀ key, Final (before.documents key) (after.documents key)
  evolves_refl cluster key := .refl (cluster.documents key)
  evolves_trans left right key := (left key).trans (right key)
  drift_evolves := by
    intro before after _ drifted
    refine ⟨fun key => ?_, fun _ => trivial, trivial⟩
    rw [Drift.documents drifted]
    exact .refl _

/-! ## Programs that keep deletions final -/

/-- A program none of whose writes undoes a deletion. -/
def Preserves {First : Type} (program : Session First) : Prop :=
  ∀ (Index : Type) (index : Index) (seen : Cluster Index),
    (finality Index).Upholds index (fun _ _ => True) program seen

section

variable {First Second : Type}

theorem preserves_pure (result : First) : Preserves (pure result : Session First) :=
  fun _ _ _ => trivial

variable {program : Session First} {next : First → Session Second}

theorem preserves_bind (first : Preserves program) (rest : ∀ result, Preserves (next result)) :
    Preserves (program >>= next) := by
  intro Index index seen
  refine Discipline.upholds_bind.2 ((first Index index seen).mono ?_ trivial)
  intro result shared _ _
  exact rest result Index index shared

variable {op : Op}

theorem Final.neutral (neutral : op.Neutral)
    (performed : perform index op before reply after) (key : Key) :
    Final (before.documents key) (after.documents key) := by
  rw [neutral.documents performed]
  exact .refl _

/-- A call that leaves the documents alone. -/
theorem preserves_call (neutral : op.Neutral) : Preserves (call op) := by
  intro Index index seen before _ _ reply after performed
  exact ⟨⟨.neutral neutral performed.1, fun _ _ => trivial, trivial⟩, trivial⟩

theorem Op.Passive.neutral (allowed : op.Passive) : op.Neutral := by
  cases op with
  | putVolume seen volume | deleteVolume key => exact allowed
  | _ => trivial

theorem preserves_passive (passive : Passive program) : Preserves program := by
  induction program with
  | done result => exact preserves_pure result
  | call op next induction =>
    exact preserves_bind (preserves_call passive.1.neutral) fun reply =>
        induction reply (passive.2 reply)

theorem preserves_passive_bind (passive : Passive program)
    (rest : ∀ result, Preserves (next result)) : Preserves (program >>= next) :=
  preserves_bind (preserves_passive passive) rest

theorem preserves_ask (question : Question) : Preserves (ask question) :=
  preserves_call trivial

/-- A put that keeps a deletion it has seen. -/
theorem preserves_putVolume {seen volume : Volume}
    (kept : seen.Deleted → volume.Deleted) : Preserves (putVolume seen volume) := by
  unfold putVolume
  split
  · exact preserves_pure _
  intro Index index start before _ _ reply after performed
  refine ⟨⟨fun key => ?_, fun _ _ => trivial, trivial⟩, trivial⟩
  have found : before.documents volume.key = some seen := performed.2
  rcases performed.1 with rfl | ⟨_, rfl⟩
  · by_cases same : key = volume.key
    · subst key
      simp only [Cluster.putDocument, Function.update_self, found]
      constructor
      · rintro ⟨⟩
      · rintro gone _ ⟨⟩
        exact kept (gone seen rfl)
    · simp only [Cluster.putDocument, Function.update_of_ne same]
      exact .refl _
  · exact .refl _

theorem preserves_removeVolume (account volumeID : String) :
    Preserves (removeVolume account volumeID) := by
  unfold removeVolume
  split
  · exact preserves_pure _
  intro Index index start before _ _ reply after performed
  refine ⟨⟨fun key => ?_, fun _ _ => trivial, trivial⟩, trivial⟩
  rcases performed.1 with rfl | ⟨_, rfl⟩
  · refine ⟨fun absent => ?_, fun gone => ?_⟩
    · simp only [Cluster.removeDocument, Function.update_apply]
      split
      · rfl
      · exact absent
    · simp only [Cluster.removeDocument, Function.update_apply]
      split
      · rintro _ ⟨⟩
      · exact gone
  · exact .refl _

/-- A read made to write a state: a deletion found is written again. -/
theorem preserves_getVolume_bind {next : Except Failure Volume → Session Second}
    (failed : ∀ failure, Preserves (next (.error failure)))
    (found : ∀ volume, (volume.state = .deleting → state = .deleting) →
      Preserves (next (.ok volume))) :
    Preserves (getVolume account volumeID (.update state) >>= next) := by
  unfold getVolume
  split
  · exact failed _
  next key _ =>
    intro Index index start before _ _ reply after performed
    have same : after = before := performed.1.1
    refine ⟨⟨fun key => ?_, fun _ _ => trivial, trivial⟩, ?_⟩
    · rw [same]
      exact .refl _
    cases reply with
    | error failure => exact failed failure Index index after
    | ok volume =>
      refine found volume (fun deleting => ?_) Index index after
      have stored : before.documents key = some volume := performed.1.2
      have admitted :
          (before.documents key).map Volume.state = some .deleting → state = .deleting :=
        performed.2
      rw [stored] at admitted
      exact admitted (congrArg some deleting)

end

/-! ## The writers -/

/-- An update keeps deletions unless it attaches a deleting volume. -/
theorem preserves_updateVolumeState
    (account volumeID : String) (state : VolumeState) (attachedInstance deviceName : String)
    (detached : writtenState state attachedInstance = .deleting → attachedInstance = "") :
    Preserves (updateVolumeState account volumeID state attachedInstance deviceName) := by
  refine preserves_getVolume_bind (fun _ => preserves_pure _) fun volume keeps => ?_
  refine preserves_bind ?_ fun attachedAt => ?_
  · unfold attachTime
    split
    · exact preserves_bind (preserves_ask _) fun _ => preserves_pure _
    · exact preserves_pure _
  · refine preserves_bind (preserves_putVolume fun deleted => ?_) fun written => ?_
    · exact ⟨keeps deleted.1, detached (keeps deleted.1)⟩
    · cases written <;> exact preserves_pure _

theorem preserves_clear (account volumeID : String) :
    Preserves (updateVolumeState account volumeID .available "" "") :=
  preserves_updateVolumeState _ _ _ _ _ fun _ => rfl

theorem preserves_modifyVolume
    (input : ModifyVolumeInput) (account : String) : Preserves (modifyVolume input account) := by
  unfold modifyVolume modifyVolumeFor
  split
  · exact preserves_pure _
  split_ifs
  · exact preserves_pure _
  refine preserves_passive_bind (passive_getVolume _ _ _)
    (either (fun _ => preserves_pure _) fun volume => ?_)
  dsimp only
  split
  · exact preserves_pure _
  split
  · exact preserves_pure _
  split_ifs
  · exact preserves_pure _
  · exact preserves_pure _
  refine preserves_bind (preserves_ask _) (either (fun _ => preserves_pure _) fun done => ?_)
  refine preserves_bind (preserves_ask _) fun time => ?_
  refine preserves_bind (preserves_putVolume id) fun written => ?_
  cases written <;> exact preserves_pure _

variable {account volumeID : String}

/-- What the programs that release volumes preserve. -/
def preserving (id : String) : Releases id where
  holds program learned := ∀ (Index : Type) (index : Index) (seen : Cluster Index),
    (finality Index).Upholds index (fun result _ => learned result) program seen
  pure fact _ _ _ := fact
  bind first rest Index index seen := Discipline.upholds_bind.2 ((first Index index seen).mono
    (fun result shared _ met => rest result met Index index shared) trivial)
  passive := preserves_passive
  Lists _ _ := True
  Runs _ _ := True
  Named _ := True
  Free _ _ := True
  within _ _ := trivial
  again _ _ := trivial
  free _ _ _ _ _ := trivial
  clear _ _ := preserves_updateVolumeState _ _ _ _ _ fun _ => rfl
  loadStopped Index index seen :=
    (@preserves_call (.loadStopped id) trivial Index index seen).mono
      (fun _ _ _ _ _ _ => trivial) trivial
  get Index index seen :=
    (@preserves_call (.get id) trivial Index index seen).mono (fun _ _ _ _ _ _ => trivial) trivial
  updateStopped _ := preserves_call trivial
  updateState _ := preserves_call trivial
  deleteStopped := preserves_call trivial
  forget := preserves_call trivial
  lock := preserves_call trivial
  unlock := preserves_call trivial

/-! ## The sweeps -/

theorem preserves_reclaimVolumes
    (reclaimed : Nat) (volumes : List Volume) : Preserves (reclaimVolumes reclaimed volumes) := by
  induction volumes generalizing reclaimed with
  | nil => exact preserves_pure _
  | cons volume volumes induction =>
    refine preserves_bind (preserves_ask _) fun cancelled => ?_
    split_ifs
    · exact preserves_pure _
    · exact induction _
    refine preserves_bind (preserves_ask _) (either (fun _ => induction _) fun done => ?_)
    refine preserves_bind (preserves_removeVolume _ _) fun removed => ?_
    cases removed with
    | ok done => exact induction _
    | error failure =>
      dsimp only
      split_ifs <;> exact induction _

theorem preserves_reclaimSweep : Preserves reclaimSweep := by
  exact preserves_passive_bind passive_listAllVolumes
    (either (fun _ => preserves_pure _) fun volumes => preserves_reclaimVolumes _ _)

theorem preserves_markVolumeOrphaned (account volumeID : String) (tags : List (String × String))
    (attachedInstance : String) :
    Preserves (markVolumeOrphaned account volumeID tags attachedInstance) := by
  refine preserves_bind (preserves_ask _) fun time => ?_
  exact preserves_passive_bind (passive_getVolume _ _ _)
    (either (fun _ => preserves_pure _) fun volume => preserves_putVolume id)

theorem preserves_markVolumes (leaked : List String) (marked : Nat)
    (volumes : List Volume) : Preserves (markVolumes leaked marked volumes) := by
  induction volumes generalizing marked with
  | nil => exact preserves_pure _
  | cons volume volumes induction =>
    refine preserves_bind (preserves_ask _) fun cancelled => ?_
    split_ifs
    · exact preserves_pure _
    · exact induction _
    refine preserves_bind (preserves_markVolumeOrphaned _ _ _ _)
      (either (fun _ => induction _) fun done => ?_)
    exact preserves_bind (preserves_clear _ _) fun _ => induction _

theorem preserves_leakSweep : Preserves leakSweep := by
  refine preserves_bind (preserves_ask _) (either (fun _ => preserves_pure _) fun leaked => ?_)
  dsimp only
  split_ifs
  · exact preserves_pure _
  exact preserves_passive_bind passive_listAllVolumes
    (either (fun _ => preserves_pure _) fun volumes => preserves_markVolumes _ _ _)

/-! ## Attaching -/

theorem preserves_plugDevice (node id account : String) (request : EBSRequest) :
    Preserves (Manager.plugDevice node id account request) := by
  refine preserves_bind (preserves_call trivial) (either (fun _ => ?_) fun done => ?_)
  · refine preserves_passive_bind (passive_rollbackHotAttach _ _ _) fun undone => ?_
    split_ifs
    · exact preserves_bind (preserves_clear _ _) fun _ => preserves_pure _
    · exact preserves_pure _
  refine preserves_bind (preserves_call trivial) fun _ => ?_
  exact preserves_bind (preserves_call trivial) fun _ => preserves_pure _

theorem preserves_recordClaim (id device : String) (boot : Bool)
    (inUse : claimed.state = .inUse) : Preserves (recordClaim id device boot claimed) := by
  have release : Preserves (releaseClaim claimed) := by
    refine preserves_putVolume fun deleted => ?_
    simp [deleted.1] at inUse
  refine preserves_bind (preserves_call trivial) fun update => ?_
  split
  · exact preserves_bind release fun _ => preserves_pure _
  · exact preserves_bind release fun _ => preserves_pure _
  · exact preserves_pure _

theorem preserves_claimForStopped (id device : String) (boot : Bool)
    (available : volume.state = .available) :
    Preserves (claimForStopped id device boot volume) := by
  refine preserves_bind (preserves_ask _) fun time => ?_
  refine preserves_bind (preserves_putVolume fun deleted => ?_) fun written => ?_
  · simp [deleted.1] at available
  · cases written with
    | error failure => exact preserves_pure _
    | ok done => exact preserves_recordClaim id device boot rfl

/-- What an attach preserves, at every stage the same. -/
def preservingAttach (id volumeID device account : String) :
    Attaches id volumeID device account where
  holds _ program _ := Preserves program
  done _ := preserves_pure _
  bind := preserves_bind
  reading reading := preserves_passive (Reading.passive reading)
  refuse _ _ := preserves_pure _
  route := preserves_call trivial
  check _ := preserves_passive (passive_getVolume _ _ _)
  attachUnavailable _ := preserves_passive (reading_attachUnavailable ..).passive
  zone _ := preserves_ask _
  decline _ _ := preserves_pure _
  lock _ := preserves_call trivial
  attachDevice _ := preserves_passive (Manager.reading_attachDevice ..).passive
  mountOne _ := preserves_passive (passive_mountOne _ _)
  requests _ _ := preserves_passive (Manager.reading_requests _).passive
  qmp _ := preserves_call trivial
  abandon _ := preserves_passive
  fail _ := preserves_pure _
  claim _ _ _ := preserves_updateVolumeState _ _ _ _ _ (by simp [writtenState])
  plugDevice _ := preserves_plugDevice _ _ _ _
  unlock _ := preserves_call trivial
  respond _ := preserves_passive (reading_respondWithVolumeAttachment ..).passive
  loadVisible := preserves_passive (reading_loadVisible ..).passive
  getVolume _ := preserves_passive (passive_getVolume _ _ _)
  claimForStopped available _ := preserves_claimForStopped _ _ _ available

/-! ## Requests -/

theorem preserves_detachVolume (input : DetachVolumeInput) (account : String) :
    Preserves (Gateway.detachVolume input account) := by
  unfold Gateway.detachVolume
  dsimp only
  split_ifs
  · exact preserves_pure _
  refine preserves_passive_bind (passive_detachInstance _ _ _)
    (either (fun _ => preserves_pure _) fun id => ?_)
  refine preserves_bind (preserves_call trivial) fun stopped => ?_
  split_ifs
  · exact (preserving id).detachFromStopped trivial account
  · exact (preserving id).detachFromRunning trivial account fun _ => trivial

/-- Every request of the API and every sweep keeps deletions final. -/
theorem preserves_program (request : Request) : Preserves request.program := by
  cases request with
  | attachVolume account input =>
    exact preserves_bind (preservingAttach _ _ _ _).gatewayAttachVolume fun _ => preserves_pure _
  | detachVolume account input =>
    exact preserves_bind (preserves_detachVolume _ _) fun _ => preserves_pure _
  | modifyVolume account input =>
    exact preserves_bind (preserves_modifyVolume _ _) fun _ => preserves_pure _
  | deleteVolume account volumeID =>
    exact preserves_bind ((preserving "").deleteVolume trivial) fun _ => preserves_pure _
  | deleteVolumeOnTerminate account volumeID owed =>
    exact preserves_bind ((preserving "").deleteVolumeOnTerminate owed trivial)
      fun _ => preserves_pure _
  | detachVolumeOnTerminate account volumeID owed =>
    exact preserves_bind ((preserving "").detachVolumeOnTerminate owed trivial)
      fun _ => preserves_pure _
  | terminateInstance account id =>
    exact preserves_bind ((preserving id).terminateInstance (fun _ => trivial) account)
      fun _ => preserves_pure _
  | leakSweep =>
    exact preserves_bind preserves_leakSweep fun _ => preserves_pure _
  | reclaimSweep =>
    exact preserves_bind preserves_reclaimSweep fun _ => preserves_pure _

/-! ## Attaches of a deleted volume -/

section

variable {Index : Type} {index : Index} {key : Key}

/-- What an attach knows of a volume that was deleted before it began. -/
def Refusal (key : Key) : Stage → Cluster Index → Prop
  | .idle, cluster | .routed _, cluster | .loaded _, cluster => Gone (cluster.documents key)
  | .checked _ read, _ | .found _ read, _ => ∀ volume, read = .ok volume → volume.Deleted
  | .answered reply, _ => ∃ code, reply = .error code
  | _, _ => False

/-- A deletion outlasts whatever is read in between. -/
theorem Refusal.reading (stage : Stage) (reading : Reading program) :
    (finality Index).Ensures index (Refusal key stage) program fun _ => Refusal key stage := by
  intro seen _ met
  have preserved := preserves_passive (Reading.passive reading) Index index seen
  refine preserved.evolves.mono (fun _ shared _ evolved => ?_) trivial
  cases stage with
  | idle | routed node | loaded vm => exact (evolved.2 key).gone met
  | _ => exact met

/-- A read of a deleted volume finds the deletion or nothing. -/
theorem ensures_deleted {account volumeID : String} :
    (finality Index).Ensures index (fun cluster => Gone (cluster.documents ⟨account, volumeID⟩))
      (getVolume account volumeID .inspect)
      fun read _ => ∀ volume, read = .ok volume → volume.Deleted := by
  unfold Ebs.getVolume
  split
  · refine Discipline.ensures_pure fun _ _ => ?_
    rintro volume ⟨⟩
  next key valid =>
    cases volumeKey_eq_ok valid
    intro start _ gone before relied _ reply after performed
    have same : after = before := performed.1.1
    subst after
    refine ⟨⟨fun key => .refl _, fun _ _ => trivial, trivial⟩, ?_⟩
    rintro volume rfl
    exact (relied.evolves _).gone gone volume performed.1.2

theorem Volume.Deleted.unavailable {volume : Volume} (deleted : volume.Deleted) :
    volume.state ≠ .available := by
  rw [deleted.1]
  decide

/-- An attach that begins after the deletion is refused. -/
def refusing {id : String} (volumeID device account : String) (named : id ≠ "") :
    Attaches id volumeID device account where
  holds before program after := ∀ (Index : Type) (index : Index),
    (finality Index).Ensures index (Refusal ⟨account, volumeID⟩ before) program
      fun result => Refusal ⟨account, volumeID⟩ (after result)
  done same _ _ := Discipline.ensures_pure fun _ met => same ▸ met
  bind first rest Index index := Discipline.ensures_bind (first Index index)
    fun result => rest result Index index
  reading reading _ _ := Refusal.reading _ reading
  refuse _ _ _ _ := Discipline.ensures_pure fun _ _ => ⟨_, rfl⟩
  route _ _ := Refusal.reading .idle (@reading_call (.route id) trivial)
  check _ _ _ := ensures_deleted
  attachUnavailable _ _ _ := by
    intro seen _ deleted
    have elsewhere : _ ≠ id := (deleted _ rfl).2 ▸ named.symm
    rw [Daemon.attachUnavailable, if_neg elsewhere]
    exact ⟨_, rfl⟩
  zone available _ _ _ _ deleted := absurd available (deleted _ rfl).unavailable
  decline _ _ _ _ _ _ := False.elim
  lock _ _ _ _ _ := False.elim
  attachDevice _ _ _ _ _ := False.elim
  mountOne _ _ _ _ _ := False.elim
  requests _ _ _ _ _ _ := False.elim
  qmp _ _ _ _ _ := False.elim
  abandon held _ _ _ _ _ met := by cases held <;> cases met
  fail _ _ _ _ _ := False.elim
  claim _ _ _ _ _ _ _ := False.elim
  plugDevice _ _ _ _ _ := False.elim
  unlock _ _ _ _ _ := False.elim
  respond _ _ _ _ _ := False.elim
  loadVisible _ _ := Refusal.reading .idle (reading_loadVisible _ _)
  getVolume _ _ _ := ensures_deleted
  claimForStopped available _ _ _ _ _ deleted := absurd available (deleted _ rfl).unavailable

end

/-- From a deletion on, an attach ends in an error. -/
theorem refuses_attachVolume (input : AttachVolumeInput) (account : String)
    (Index : Type) (index : Index) :
    (finality Index).Ensures index
      (fun cluster => Gone (cluster.documents ⟨account, input.volumeID.getD ""⟩))
      (Gateway.attachVolume input account) fun result _ => ∃ code, result = .error code := by
  by_cases named : input.instanceID.getD "" = ""
  · unfold Gateway.attachVolume
    rw [if_pos (.inr named)]
    exact Discipline.ensures_pure fun _ _ => ⟨_, rfl⟩
  · exact (refusing _ _ _ named).gatewayAttachVolume Index index

end Spinifex.Ebs
