import Spinifex.Ebs.OneWriter
import Spinifex.Ebs.Secure

/-!
# Duplicate attaches

Any number of attaches of one volume to one instance, with any of their steps
failing.  In the timely runs an attach that reports success has made the
attachment secure, and no other attach undoes it.
-/

namespace Spinifex.Ebs

open Aws Concurrency Go Option
open Concurrency.Discipline Concurrency.Program

variable {Index : Type} {index : Index} {id : String} {key : Key} {seen : Watched Index}

/-! ## Parts that unpublish nothing -/

theorem mild_updateVolumeState (account volumeID : String) (state : VolumeState)
    (attachedInstance deviceName : String) :
    (updateVolumeState account volumeID state attachedInstance deviceName).Only Op.Mild := by
  have reads : ∀ {First : Type} {program : Session First}, Reading program → program.Only Op.Mild :=
    fun reading => Only.mono reading fun _ => .reading
  refine only_bind (reads (reading_getVolume _ _ _))
    (either (fun _ => only_pure _) fun volume => ?_)
  refine only_bind (reads (reading_attachTime _)) fun time => ?_
  refine only_bind ?_ fun written => ?_
  · unfold putVolume
    split
    · exact only_pure _
    · exact ⟨.put _ _, fun _ => trivial⟩
  · cases written <;> exact only_pure _

variable {First : Type} {program : Session First}

theorem Mild.benign (mild : program.Only Op.Mild) : program.Only Op.Benign :=
  Only.mono mild fun _ mild => mild.benign

/-! ## Attaching to a running instance -/

/-- A call with the hot-plug lock that ends well ends secure. -/
def Lands (index : Index) (id : String) (key : Key) {Failed Done : Type}
    (result : Except Failed Done) (state : Watched Index) : Prop :=
  Locked index (some id) state ∧ ∀ done, result = .ok done → state.1.Secure id key.volume

variable {request : EBSRequest}

/-- A block node that could be removed was not used by a device. -/
theorem assures_blockdevDel :
    Assures index id key (Locked index (some id))
      (sendQMPCommand id key.volume .blockdevDel) fun reply state =>
        Locked index (some id) state ∧ (reply = .ok () → Bare index id key state) := by
  apply refine_request (locked_lasting _)
  intro before reply after inOrder locked performed kept
  have keeps := timely_keeps performed trivial
  have still : Locked index (some id) after := fun other member =>
    keeps.attachMu other index (locked other member)
  have ran : perform index (.qmp id key.volume .blockdevDel) before.1 reply after.1 :=
    performed.1.1.1
  exact ⟨keeps.security, still, fun done => ⟨still, unplugged_of_blockdevDel ran (.inl done)⟩⟩

/-- A rollback unpublishes only what has left the guest. -/
theorem assures_rollbackHotAttach (node : String) (named : request.name = key.volume) :
    Assures index id key (Locked index (some id))
      (rollbackHotAttach node id request) fun _ => Locked index (some id) := by
  unfold rollbackHotAttach
  rw [named]
  refine ensures_bind assures_blockdevDel
    (either (fun _ => ensures_left) fun done => ?_)
  refine ensures_then (assures_bare (passive_call trivial)) (fun _ met => met.2 rfl) fun _ => ?_
  refine ensures_bind (assures_bare (passive_unmountOne _ _)) fun released => ?_
  cases released <;> exact ensures_pure fun _ bare => bare.1

/-- A device that could be plugged in makes the attachment secure. -/
theorem assures_deviceAdd :
    Assures index id key (Ready index id key node) (sendQMPCommand id key.volume (.deviceAdd port))
      (Lands index id key) := by
  apply refine_request (ready_lasting node)
  intro before reply after inOrder ready performed kept
  have keeps := timely_keeps performed trivial
  refine ⟨keeps.security, fun other member =>
        keeps.attachMu other index (ready.bare.1 other member), ?_⟩
  rintro ⟨⟩ rfl
  constructor
  · rcases performed.1.1.1 with ⟨guest, ran, changed⟩
    rcases ran with ⟨old, new, _, rfl, done⟩
    rw [changed]
    refine .inl ⟨new, before.1.guests_setGuest_self _ _, ?_⟩
    cases done with
    | deviceAdd _ _ absent backed => simp [Guest.setDevice]
  · intro host present
    have sits := (keeps.node id).trans ready.node
    rw [present, map_some] at sits
    cases sits
    exact keeps.exports _ _ ready.exported

/-- An edit of the running record keeps the lock and the attachment. -/
theorem assures_updateState :
    Assures index id key (fun state => Locked index (some id) state ∧ state.1.Secure id key.volume)
      (call (.updateState id mutate)) fun _ state =>
        Locked index (some id) state ∧ state.1.Secure id key.volume := by
  apply refine_request ((locked_lasting (some id)).and secure_lasting)
  intro before reply after _ met performed kept
  have keeps := timely_keeps performed trivial
  exact ⟨keeps.security, fun other member => keeps.attachMu other index (met.1 other member),
      keeps.secure met.2⟩

namespace Manager

variable {node : String}

theorem assures_plugDevice (named : request.name = key.volume) :
    Assures index id key (Ready index id key node)
      (plugDevice node id account request) (Lands index id key) := by
  unfold plugDevice
  rw [named]
  refine ensures_bind assures_deviceAdd (either (fun _ => ?_) fun done => ?_)
  · refine ensures_then (assures_rollbackHotAttach node named) (fun _ met => met.1) fun undone => ?_
    cases undone with
    | false => exact ensures_pure fun _ locked => ⟨locked, nofun⟩
    | true =>
      exact ensures_bind (assures_locked (Mild.benign (mild_updateVolumeState _ _ _ _ _)))
        fun _ => ensures_pure fun _ locked => ⟨locked, nofun⟩
  refine ensures_then assures_updateState (fun _ met => ⟨met.1, met.2 done rfl⟩) fun _ => ?_
  exact ensures_bind assures_updateState fun _ =>
    ensures_pure fun _ met => ⟨met.1, fun _ _ => met.2⟩

/-- The lock is held, and the instance runs on a node. -/
def Placed (index : Index) (id : String) (key : Key) (node : String)
    (state : Watched Index) : Prop :=
  Bare index id key state ∧ Sits id node state

theorem placed_lasting (node : String) : Lasting index id key (Placed index id key node) :=
  bare_lasting.and (sits_lasting node)

/-- A volume that could be mounted is published. -/
theorem assures_mountOne (named : request.name = key.volume) :
    Assures index id key (Placed index id key node) (mountOne node request)
      fun mounted state => Bare index id key state ∧ ∀ changed, mounted = .ok changed →
        changed.name = key.volume ∧ Ready index id key node state := by
  have published : Assures index id key (Placed index id key node)
      (call (.publish node request.name)) fun mounted state =>
          Bare index id key state ∧ ∀ exported, mounted = .ok exported →
            Ready index id key node state := by
    apply refine_request (placed_lasting node)
    intro before reply after inOrder met performed kept
    have outcome := met.1.passive inOrder performed trivial
    have keeps := timely_keeps performed trivial
    refine ⟨outcome.1, outcome.2, ?_⟩
    rintro exported rfl
    refine ⟨outcome.2, ?_, (keeps.node id).trans met.2⟩
    have landed : after.1 = before.1.setExport node request.name true := performed.1.1.1
    rw [landed, named]
    simp [Cluster.setExport]
  refine ensures_bind published (either (fun _ => ?_) fun exported => ?_)
  · refine ensures_pure fun _ met => ⟨met.1, ?_⟩
    rintro changed ⟨⟩
  refine ensures_pure fun _ met => ⟨met.1, ?_⟩
  rintro changed ⟨⟩
  refine ⟨?_, met.2 exported rfl⟩
  cases exported <;> exact named

/-- The lock is taken while the volume is in no guest. -/
theorem assures_lock :
    Assures index id key (Sits id node) (call (.lock id)) fun _ =>
      Placed index id key node := by
  apply refine_request (sits_lasting node)
  intro before reply after inOrder sits performed kept
  have keeps := timely_keeps performed trivial
  have taken : after.1 = before.1.setLock id (some index) := performed.1.1.1.2
  have timely : (before.1.documents key).map Volume.state = some .available := performed.1.2
  rcases map_eq_some_iff.1 timely with ⟨volume, stored, available⟩
  have unused : volume.state ≠ .inUse := by
    rw [available]
    decide
  have keyed : volume.key = key := inOrder.consistent.keyed _ _ stored
  have free : before.1.Free key.volume := by
    rw [← keyed] at stored ⊢
    exact inOrder.consistent.free_of_stored stored unused
  refine ⟨keeps.security, ⟨?_, ?_⟩, (keeps.node id).trans sits⟩
  · rintro _ ⟨⟩
    rw [taken]
    exact Function.update_self _ _ _
  · rw [taken]
    exact free.unplugged id

theorem assures_unlock :
    Assures index id key (Locked index (some id)) (call (.unlock id)) fun _ _ => True := by
  apply refine_request (locked_lasting (some id))
  intro before reply after inOrder locked performed kept
  have freed : after.1 = before.1.setLock id none := performed.1.1.1
  refine ⟨⟨⟨?_, fun secure => ?_⟩, ?_⟩, trivial⟩
  · rw [freed]
    rfl
  · rw [freed]
    exact ⟨secure.holds, secure.exported⟩
  · intro other different owned
    cases owned.symm.trans (locked id rfl)
    exact absurd rfl different

end Manager

/-- What a request that reports success has achieved. -/
def Delivers (id : String) (key : Key) (result : Except ErrorCode VolumeAttachment)
    (state : Watched Index) : Prop :=
  ∀ attachment, result = .ok attachment → state.1.Secure id key.volume

/-- A request that is refused has nothing to show. -/
theorem assures_refused :
    Assures index id key pre (pure (.error code) : Session (Except ErrorCode VolumeAttachment))
      (Delivers id key) :=
  ensures_pure fun _ _ => nofun

/-- The answer to an attach that finds a secure attachment. -/
theorem assures_respond :
    Assures index id key (fun state => state.1.Secure id key.volume)
      (Daemon.respondWithVolumeAttachment volumeID id device state) (Delivers id key) :=
  (assures_reading (reading_respondWithVolumeAttachment _ _ _ _)
    secure_lasting).gives fun _ _ met _ _ => met

section

variable {node device account : String}

/-- A document that is not available belongs to a secure attachment. -/
theorem assures_inspect :
    Assures index id key (Sits id node) (getVolume account key.volume .inspect)
      fun found state => Sits id node state ∧ ∀ volume, found = .ok volume →
        volume.state = .available ∨ state.1.Secure id key.volume := by
  unfold getVolume
  split
  · refine ensures_pure fun _ sits => ⟨sits, ?_⟩
    rintro volume ⟨⟩
  next read valid =>
    refine assures_read trivial (sits_lasting node) ?_
    intro state reply inOrder _ performed timely
    rintro volume rfl
    have stored : state.1.documents read = some volume := performed.2
    have named : read.volume = key.volume := by
      rw [volumeKey_eq_ok valid]
    exact timely named volume stored

theorem assures_route :
    Assures index id key (fun _ => True) (call (.route id))
      fun routed state => ∀ node, routed = some node → Sits id node state := by
  refine Ensures.gives (assures_read trivial (Stable.const True) ?_) fun _ _ met => met.2
  intro state reply _ _ performed _ node routed
  exact performed.2 node routed

theorem assures_attachUnavailable :
    Assures index id key (fun state => state.1.Secure id key.volume)
      (Daemon.attachUnavailable id key.volume device volume) (Delivers id key) := by
  unfold Daemon.attachUnavailable
  split
  · split
    · exact assures_refused
    · exact assures_respond
  · exact assures_refused

/-! ## Attaching to a stopped instance -/

theorem benign_releaseClaim (claimed : Volume) : (releaseClaim claimed).Only Op.Benign := by
  unfold releaseClaim putVolume
  split
  · exact only_pure _
  · exact ⟨trivial, fun _ => trivial⟩

theorem addUnlessTaken_subset (volumeID device : String) (boot : Bool) (vm : VM) :
    vm.volumes ⊆ (addUnlessTaken volumeID device boot vm).volumes := by
  unfold addUnlessTaken
  split
  · exact List.Subset.refl _
  · rw [volumes_addVolumeToRecord]
    exact List.subset_append_left _ _

/-- A record that could take the volume lists it. -/
theorem assures_addUnlessTaken (device : String) (boot : Bool) :
    Assures index id key (fun _ => True)
      (call (.updateStopped id (addUnlessTaken key.volume device boot)))
      fun update state => ∀ vm, update.result = .ok vm → conflictIn device update.found = none →
        state.1.Secure id key.volume := by
  apply refine_request (Stable.const True)
  intro before reply after _ _ performed kept
  have keeps := timely_keeps performed (addUnlessTaken_subset _ _ _)
  refine ⟨keeps.security, ?_⟩
  intro vm told calm
  obtain ⟨lost, rfl⟩ := Update.stored_of_result told
  obtain ⟨chosen, free⟩ : ∃ chosen, stoppedAttachDevice vm device = .ok chosen := by
    have none := List.findSome?_eq_none_iff.1 calm vm (List.mem_cons_self ..)
    cases slot : stoppedAttachDevice vm device with
    | ok chosen => exact ⟨chosen, rfl⟩
    | error code => simp [slot] at none
  have landed : after.1 = before.1.putStopped id (addUnlessTaken key.volume device boot vm) := by
    rcases performed.1.1.1 with ⟨found, changed, _, landed⟩ | ⟨unstored, _⟩
    · cases changed
      exact landed
    · cases unstored
  have stored : after.1.stopped id = some (addUnlessTaken key.volume device boot vm) := by
    rw [landed]
    exact before.1.stopped_putStopped_self _ _
  have consistent : Consistent after.1 := kept.invariant.consistent
  refine ⟨.inr ⟨_, stored, ?_⟩, fun host present => ?_⟩
  · rw [addUnlessTaken, free, volumes_addVolumeToRecord]
    exact List.mem_append_right _ (List.mem_singleton.2 rfl)
  · have apart := consistent.apart id (by rw [stored]; exact some_ne_none _)
    cases apart.symm.trans present

theorem assures_recordClaim (named : claimed.volumeID = key.volume) :
    Assures index id key (fun _ => True)
      (recordClaim id device boot claimed) (Delivers id key) := by
  unfold recordClaim
  rw [named]
  refine ensures_bind (assures_addUnlessTaken device boot) fun update => ?_
  split
  · exact ensures_bind (fun _ _ _ => protects_benign (benign_releaseClaim _))
      fun _ => assures_refused
  · exact ensures_bind (fun _ _ _ => protects_benign (benign_releaseClaim _))
      fun _ => assures_refused
  next vm calm told =>
    exact ensures_pure fun _ met _ _ => met vm told calm

theorem assures_claimForStopped (named : volume.volumeID = key.volume) :
    Assures index id key (fun _ => True)
      (claimForStopped id device boot volume) (Delivers id key) := by
  refine ensures_bind (assures_reading (reading_ask _) (Stable.const True)) fun time => ?_
  have puts : (putVolume volume (volume.attach .inUse id device (some time))).Only Op.Benign := by
    unfold putVolume
    split
    · exact only_pure _
    · exact ⟨trivial, fun _ => trivial⟩
  exact ensures_bind (fun _ _ _ => protects_benign puts)
    (either (fun _ => assures_refused) fun done => assures_recordClaim named)

/-- A document that is read is the one asked for. -/
theorem assures_getVolume :
    Assures index id key (fun _ => True) (getVolume account key.volume .inspect) fun found _ =>
        ∀ volume, found = .ok volume → volume.volumeID = key.volume := by
  unfold getVolume
  split
  · refine ensures_pure fun _ _ => ?_
    rintro volume ⟨⟩
  next read valid =>
    apply refine_request (Stable.const True)
    intro before reply after inOrder _ performed kept
    refine ⟨(timely_keeps performed trivial).security, ?_⟩
    rintro volume rfl
    have keyed : volume.key = read := inOrder.consistent.keyed _ _ performed.1.1.1.2
    rw [volumeKey_eq_ok valid] at keyed
    exact congrArg Key.volume keyed

/-- What an attach knows of the attachment it makes. -/
def Securing (index : Index) (id : String) (key : Key) : Stage → Watched Index → Prop
  | .routed node => fun state => ∀ host, node = some host → Sits id host state
  | .checked node read => fun state => Sits id node state ∧ ∀ volume, read = .ok volume →
    volume.state = .available ∨ state.1.Secure id key.volume
  | .ready node => Sits id node
  | .locked node | .chosen node _ => Manager.Placed index id key node
  | .mounted node result => fun state => Bare index id key state ∧ ∀ changed, result = .ok changed →
    changed.name = key.volume ∧ Ready index id key node state
  | .fitted node request | .claimed node request _ => fun state =>
    request.name = key.volume ∧ Ready index id key node state
  | .spared => Bare index id key
  | .ended result => Lands index id key result
  | .released result => fun state => ∀ done, result = .ok done → state.1.Secure id key.volume
  | .found _ read => fun _ => ∀ volume, read = .ok volume → volume.volumeID = key.volume
  | .answered reply => Delivers id key reply
  | _ => fun _ => True

theorem securing_lasting (stage : Stage) : Lasting index id key (Securing index id key stage) := by
  cases stage with
  | routed node => exact .given sits_lasting
  | checked node read =>
    exact (sits_lasting node).and (.given fun _ _ _ relied inOrder =>
      .imp_right (secure_lasting relied inOrder))
  | ready node => exact sits_lasting node
  | locked node | chosen node => exact Manager.placed_lasting node
  | mounted node result => exact bare_lasting.and (.given fun _ =>
      (Stable.const _).and (ready_lasting node))
  | fitted node request | claimed node request => exact (Stable.const _).and (ready_lasting node)
  | spared => exact bare_lasting
  | ended => exact (locked_lasting _).and (.given fun _ => secure_lasting)
  | released | answered => exact .given fun _ => secure_lasting
  | _ => exact Stable.const _

/-- An attach that reports success leaves a secure attachment. -/
def securing (index : Index) (id : String) (key : Key) (device account : String) :
    Attaches id key.volume device account where
  holds before program after := Assures index id key (Securing index id key before) program
    fun result => Securing index id key (after result)
  done same := ensures_pure fun _ met => same ▸ met
  bind := ensures_bind
  reading reading := assures_reading reading (securing_lasting _)
  refuse _ _ := assures_refused
  route := assures_route
  check _ := assures_inspect.given fun _ met => met _ rfl
  attachUnavailable unavailable := assures_attachUnavailable.given fun _ met =>
    (met.2 _ rfl).resolve_left unavailable
  zone _ := (assures_reading (reading_ask _) (sits_lasting _)).given fun _ met => met.1
  decline _ _ := ensures_pure fun _ _ => nofun
  lock _ := Manager.assures_lock
  attachDevice _ := assures_reading (Manager.reading_attachDevice _ _) (Manager.placed_lasting _)
  mountOne _ := Manager.assures_mountOne rfl
  requests node request := (assures_reading (Manager.reading_requests _)
    (securing_lasting (.fitted node request))).given fun _ met => met.2 _ rfl
  qmp passive := by
    rintro seen inOrder ⟨named, ready⟩
    have mild : (sendQMPCommand id _ _).Only Op.Mild := ⟨.qmp passive, fun _ => trivial⟩
    exact (assures_ready mild).gives (fun _ _ ready => ⟨named, ready⟩) inOrder ready
  abandon held passive := by
    cases held with
    | chosen | mounted => exact (assures_bare passive).given fun _ met => met.1
    | fitted | claimed => exact (assures_bare passive).given fun _ met => met.2.bare
  fail _ := ensures_pure fun _ bare => ⟨bare.1, nofun⟩
  claim _ _ _ := by
    rintro seen inOrder ⟨named, ready⟩
    exact (assures_ready (mild_updateVolumeState _ _ _ _ _)).gives
      (fun _ _ ready => ⟨named, ready⟩) inOrder ready
  plugDevice _ := by
    rintro seen inOrder ⟨named, ready⟩
    exact Manager.assures_plugDevice named inOrder ready
  unlock result := by
    cases result with
    | error failure =>
      exact Ensures.given (Manager.assures_unlock.gives fun _ _ _ => nofun) fun _ lands => lands.1
    | ok chosen =>
      exact Ensures.given ((Assures.secure Manager.assures_unlock).gives
        fun _ _ met _ _ => met.2) fun _ lands => ⟨lands.1, lands.2 chosen rfl⟩
  respond _ := assures_respond.given fun _ met => met _ rfl
  loadVisible := assures_reading (reading_loadVisible _ _) (Stable.const True)
  getVolume _ := assures_getVolume
  claimForStopped _ _ := by
    intro seen inOrder named
    exact assures_claimForStopped (named _ rfl) inOrder trivial

end

/-! ## Every timely run -/

/-- Attaches of one volume to one instance. -/
structure DuplicateDeployment (Index : Type) (id : String) (key : Key) extends
    Deployment Index where
  duplicate : ∀ index, ∃ account device, requests index =
    .attachVolume account ⟨some key.volume, some id, device⟩
  consistent : Consistent initial

section

variable [DecidableEq Index]

/--
Once an attach has returned success, the instance has the volume, its node
exports it and the document is in use by the instance, whatever the other
attaches have done and will do.
-/
theorem DuplicateDeployment.successful_attach_stays_secure
    (deployment : DuplicateDeployment Index id key)
    {pool : RequestPool Index} {attachment : VolumeAttachment}
    (reached : (timely Index id key).Reachable deployment.start pool)
    (returned : pool.thread index = .returned (.attached (.ok attachment))) :
    pool.shared.Secure id key.volume ∧ pool.shared.Assigned key.volume id := by
  rcases System.Reachable.observed reached fun _ : String => none with ⟨held, observed⟩
  have inOrder : InOrder (deployment.initial, fun _ => (none : Option Index)) :=
    ⟨deployment.consistent, fun _ _ _ => rfl⟩
  have upholds : ∀ index, (exclusion Index).Upholds index ((exclusion Index).Settles index)
      (deployment.requests index).program
      (deployment.initial, fun _ => none) := by
    intro index
    rcases deployment.duplicate index with ⟨account, device, same⟩
    rw [same]
    exact upholds_andThen inOrder (orderly_attachVolume _ account inOrder trivial)
        fun _ _ _ _ => settles_unchanged fun _ => rfl
  have protects : ∀ index, Protects index id key (fun outcome state =>
            ∀ attachment, outcome = .attached (.ok attachment) → state.1.Secure id key.volume)
          (deployment.requests index).program
          (deployment.initial, fun _ => none) := by
    intro index
    rcases deployment.duplicate index with ⟨account, device, same⟩
    rw [same]
    have attaches :
        Assures index id key (fun _ => True)
          (Gateway.attachVolume ⟨some key.volume, some id, device⟩ account)
          (Delivers id key) :=
      @Attaches.gatewayAttachVolume account ⟨some key.volume, some id, device⟩
        (securing index id key _ account)
    refine upholds_andThen inOrder (attaches inOrder trivial) fun result state _ delivers => ?_
    apply upholds_done.2
    rintro attachment ⟨⟩
    exact delivers attachment rfl
  have guarded := reachable_guarded (timelyWatched_within id key) inOrder upholds observed
  have started : (protection id key Index).PoolUpholds
      (Pool.start (deployment.initial, fun _ => none) fun index =>
          (deployment.requests index).program) :=
    ⟨inOrder, fun index => (protects index).mono
      (fun _ _ _ _ => settles_unchanged fun _ => rfl) inOrder⟩
  have lasting : ∀ outcome : Outcome, Lasting index id key fun state =>
          ∀ attachment, outcome = .attached (.ok attachment) → state.1.Secure id key.volume :=
    fun _ _ _ relied _ met attachment done => relied.evolves.2.secure (met attachment done)
  have secure : pool.shared.Secure id key.volume := by
    rcases started.follow lasting rfl (protects index) guarded.1 with
      ⟨rest, running, _⟩ | ⟨outcome, shared, ended, met, evolved, _⟩
    · cases returned.symm.trans running
    · cases returned.symm.trans ended
      exact evolved.2.secure (met attachment rfl)
  exact ⟨secure, secure.holds.assigned guarded.2.invariant.consistent⟩

end

/-! ## Schedules -/

instance
    (cluster : Cluster Index) (id volumeID : String) : Decidable (cluster.Secure id volumeID) :=
  decidable_of_iff (((∃ guest ∈ cluster.guests id, guest.devices volumeID ≠ none) ∨
      ∃ vm ∈ cluster.stopped id, volumeID ∈ vm.volumes) ∧
        ∀ host ∈ cluster.running id, cluster.exports host.node volumeID = true)
    ⟨fun met => ⟨met.1, met.2⟩, fun secure => ⟨secure.holds, secure.exported⟩⟩

instance (id : String) (key : Key) (index : Index) (op : Op)
    (before : Cluster Index) (reply : Reply op) :
    Decidable (Timely id key index op before reply) := by
  rcases op with ⟨_, ⟨⟩⟩ | _ <;> unfold Timely <;> infer_instance

/-- The resolver of timely runs. -/
def timelyScheduler (Index : Type) (id : String) (key : Key) :
    (timely Index id key).Resolver Choice :=
  System.Resolver.still ((unclaimedScheduler).restrict (Timely id key))

namespace Sample

/-- Two attaches of the volume to the first stopped instance. -/
def duplicates : DuplicateDeployment Bool "i-1" volume.key where
  requests _ := .attachVolume account ⟨some "vol-1", some "i-1", none⟩
  initial := cluster Bool
  duplicate _ := ⟨account, none, rfl⟩
  consistent := cluster_consistent Bool

end Sample

open Sample

/--
Both attaches have read the document as available.  The second one claims the
volume when the first has returned, finds the device taken and makes the
document available, while the record still lists the volume.
-/
theorem losing_attach_releases_volume_of_the_other :
    ∃ pool, (system Bool).still.Reachable duplicates.start pool ∧
      (pool.thread true).result = some (.attached (.ok (attachment "i-1"))) ∧
      (pool.thread false).result = some (.attached (.error .invalidParameterValue)) ∧
      pool.shared.Holds "i-1" "vol-1" ∧
      (pool.shared.documents volume.key).map
          (fun volume => (volume.state, volume.attachedInstance)) =
        some (.available, "") := by
  have played : ((scheduler Bool).still.play duplicates.start
        [steps 5 false, steps 9 true, steps 5 false].flatten).map
      (fun pool => ((pool.thread true).result, (pool.thread false).result,
        pool.shared.stopped "i-1",
        (pool.shared.documents volume.key).map
          fun volume => (volume.state, volume.attachedInstance))) =
      some (some (.attached (.ok (attachment "i-1"))),
        some (.attached (.error .invalidParameterValue)),
        some holding, some (.available, "")) :=
    rfl
  rcases (scheduler Bool).still.exists_of_play played with ⟨pool, reached, seen⟩
  simp only [Prod.mk.injEq] at seen
  rcases seen with ⟨first, second, stored, released⟩
  exact ⟨pool, reached, first, second, holds_of_holding stored, released⟩

/-- A second attach that reads the claim of the first undoes nothing. -/
theorem refused_attach_keeps_attachment :
    ∃ pool, (timely Bool "i-1" volume.key).Reachable duplicates.start pool ∧
      (pool.thread false).result = some (.attached (.error .volumeInUse)) ∧
      pool.shared.Secure "i-1" "vol-1" ∧
      pool.shared.Assigned "vol-1" "i-1" := by
  have played : ((timelyScheduler Bool "i-1" volume.key).play duplicates.start
        [steps 9 true, steps 5 false].flatten).map
      (fun pool => ((pool.thread true).result, (pool.thread false).result)) =
      some (some (.attached (.ok (attachment "i-1"))), some (.attached (.error .volumeInUse))) :=
    rfl
  rcases (timelyScheduler Bool "i-1" volume.key).exists_of_play played with ⟨pool, reached, seen⟩
  simp only [Prod.mk.injEq] at seen
  exact ⟨pool, reached, seen.2,
      duplicates.successful_attach_stays_secure reached (Thread.result_eq_some.1 seen.1)⟩

end Spinifex.Ebs
