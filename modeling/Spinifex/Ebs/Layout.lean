import Spinifex.Ebs.History
import Spinifex.Ebs.Slots

/-!
# What the requests do to the records

Most calls write no record.  A program is followed with the records of its
instance in hand: an attach to a running instance adds a request and then its
mapping, an attach to a stopped one adds both at once, and the detaches remove
them.  Run alone, each leaves records whose slots are apart, given that an
attach adds a volume and, on a running instance, a device name that are new. -/

namespace Spinifex.Ebs

open Aws Concurrency Go System Gateway Option Program

/-! ## Calls that write no record -/

/-- A call that writes no record of an instance. -/
def Op.Quiet : Op → Prop
  | .updateStopped _ _ => False
  | .updateState _ _ => False
  | .deleteStopped _ => False
  | .forget _ => False
  | _ => True

/-- A program of such calls. -/
abbrev Quiet {First : Type} (program : Session First) : Prop :=
  program.Only Op.Quiet

section

variable {Index : Type} {index : Index} {before after : Cluster Index}

theorem Op.Quiet.records (quiet : op.Quiet) (performed : perform index op before reply after) :
    after.stopped = before.stopped ∧ after.running = before.running := by
  cases becomes_of_perform performed with
  | putStopped | removeStopped | editRunning | removeRunning => cases quiet
  | _ => exact ⟨rfl, rfl⟩

end

section

open Concurrency.Program

variable {First : Type}

theorem quiet_passive (passive : Passive program) : Quiet program := by
  refine passive.mono fun op allowed => ?_
  cases op with
  | updateStopped id mutate | updateState id mutate | deleteStopped id
  | forget id => exact allowed
  | _ => trivial

theorem quiet_call (quiet : op.Quiet) : Quiet (call op) :=
  ⟨quiet, fun _ => trivial⟩

theorem quiet_putVolume (seen volume : Volume) : Quiet (putVolume seen volume) := by
  unfold putVolume
  split
  · exact only_pure _
  · exact quiet_call trivial

theorem quiet_updateVolumeState (account volumeID : String) (state : VolumeState)
    (attachedInstance deviceName : String) :
    Quiet (updateVolumeState account volumeID state attachedInstance deviceName) := by
  refine only_bind (quiet_passive (passive_getVolume _ _ _))
    (either (fun _ => only_pure _) fun volume => ?_)
  refine only_bind (quiet_passive (reading_attachTime _).passive) fun time => ?_
  refine only_bind (quiet_putVolume _ _) fun written => ?_
  cases written <;> exact only_pure _

theorem quiet_forceDetach (volumeID account : String) : Quiet (forceDetach volumeID account) := by
  refine only_bind ?_ fun reply => ?_
  · unfold forceDetachVolume
    extract_lets named
    split
    · exact only_pure _
    refine only_bind (quiet_passive (passive_getVolume _ _ _))
      (either (fun _ => ?_) fun volume => ?_)
    · dsimp only
      split <;> exact only_pure _
    dsimp only
    split
    · exact only_pure _
    split
    · exact only_pure _
    refine only_bind (quiet_passive (passive_recordCleared _))
      (either (fun _ => only_pure _) fun done => ?_)
    refine only_bind (quiet_updateVolumeState _ _ _ _ _) fun written => ?_
    cases written <;> exact only_pure _
  · refine only_bind (quiet_passive (passive_ask _)) fun arrived => ?_
    split <;> exact only_pure _

end

/-! ## Records in order -/

section

variable {Index : Type}

/-- Documents are under their keys, and the slots of records apart. -/
structure Cluster.Tidy (cluster : Cluster Index) : Prop where
  keyed : cluster.Keyed
  slotted : ∀ id vm, cluster.Records id vm → vm.Slotted

/-- The records of an instance, stopped and running. -/
structure RecordPair where
  stopped : Option VM
  running : Option Running

/-- The slots of these records are apart. -/
structure RecordPair.Slotted (records : RecordPair) : Prop where
  stopped : ∀ vm ∈ records.stopped, vm.Slotted
  running : ∀ host ∈ records.running, host.vm.Slotted

/-- An instance has these records, and those of the others are in order. -/
structure Cluster.Reads (id : String) (records : RecordPair) (cluster : Cluster Index) : Prop where
  keyed : cluster.Keyed
  stopped : cluster.stopped id = records.stopped
  running : cluster.running id = records.running
  others : ∀ other, other ≠ id → ∀ vm, cluster.Records other vm → vm.Slotted

variable {id : String} {records : RecordPair} {before after : Cluster Index}

theorem Cluster.Reads.tidy
    (reads : before.Reads id records) (slotted : records.Slotted) : before.Tidy := by
  refine ⟨reads.keyed, fun other vm recorded => ?_⟩
  by_cases same : other = id
  · subst other
    rcases recorded with stored | stored
    · exact slotted.stopped vm (reads.stopped ▸ stored)
    · rcases map_eq_some_iff.1 stored with ⟨host, present, rfl⟩
      exact slotted.running host (reads.running ▸ present)
  · exact reads.others other same vm recorded

theorem Cluster.Tidy.reads (tidy : before.Tidy) (id : String) :
    before.Reads id ⟨before.stopped id, before.running id⟩ :=
  ⟨tidy.keyed, rfl, rfl, fun other _ vm recorded => tidy.slotted other vm recorded⟩

theorem Cluster.Tidy.recordPair (tidy : before.Tidy) (id : String) :
    RecordPair.Slotted ⟨before.stopped id, before.running id⟩
    where
  stopped vm stored := tidy.slotted id vm (.inl stored)
  running host stored := by
    refine tidy.slotted id host.vm (.inr ?_)
    exact map_eq_some_iff.2 ⟨host, stored, rfl⟩

theorem Cluster.Reads.of_eq (reads : before.Reads id records) (keyed : after.Keyed)
    (same : after.stopped = before.stopped ∧ after.running = before.running) :
    after.Reads id records := by
  obtain ⟨_, stopped, running, others⟩ := reads
  refine ⟨keyed, ?_, ?_, ?_⟩
  · rw [same.1, stopped]
  · rw [same.2, running]
  · unfold Cluster.Records
    rwa [same.1, same.2]

theorem Cluster.Keyed.drift
    (keyed : before.Keyed) (drifted : Drift before after) : after.Keyed := by
  unfold Cluster.Keyed
  rwa [Drift.documents drifted]

theorem reads_steady : (system Index).Steady (Cluster.Reads id records) := by
  intro before after drifted reads
  have fades := Drift.fades drifted
  exact reads.of_eq (reads.keyed.drift drifted) ⟨fades.stopped, fades.running⟩

theorem Cluster.Tidy.of_eq (tidy : before.Tidy) (keyed : after.Keyed)
    (same : after.stopped = before.stopped ∧ after.running = before.running) : after.Tidy := by
  refine ⟨keyed, fun other vm recorded => ?_⟩
  apply tidy.slotted other vm
  unfold Cluster.Records at recorded ⊢
  rwa [same.1, same.2] at recorded

theorem tidy_steady : (system Index).Steady Cluster.Tidy := by
  intro before after drifted tidy
  have fades := Drift.fades drifted
  exact tidy.of_eq (tidy.keyed.drift drifted) ⟨fades.stopped, fades.running⟩

end

/-! ## Programs that leave every record in order -/

section

variable {Index : Type} (index : Index) (id : String) (records : RecordPair)

/-- Run from these records, the program leaves all records in order. -/
abbrev Lays {First : Type} (program : Session First) : Prop :=
  (system Index).Ensures index (Cluster.Reads id records) program fun _ => Cluster.Tidy

variable {index id records} {First Second : Type} {program : Session First}

theorem confined_quiet (quiet : Quiet program) :
    (system Index).Confined index (Cluster.Reads id records) program fun _ => True :=
  confined_only reads_steady (fun _ _ _ _ allowed reads performed =>
      reads.of_eq (reads.keyed.perform performed) (Op.Quiet.records allowed performed))
    quiet

theorem confined_tidy (quiet : Quiet program) :
    (system Index).Confined index Cluster.Tidy program fun _ => True :=
  confined_only tidy_steady (fun _ _ _ _ allowed tidy performed =>
      tidy.of_eq (tidy.keyed.perform performed) (Op.Quiet.records allowed performed))
    quiet

theorem lays_quiet
    (slotted : records.Slotted) (quiet : Quiet program) : Lays index id records program :=
  fun _ _ _ reads run => (confined_quiet quiet _ _ _ reads run).1.tidy slotted

theorem lays_pure (slotted : records.Slotted) :
    Lays index id records (pure result : Session First) :=
  lays_quiet slotted trivial

variable {next : First → Session Second}

theorem lays_quiet_bind (quiet : Quiet program)
    (rest : ∀ result, Lays index id records (next result)) :
    Lays index id records (program >>= next) :=
  ensures_bind (confined_quiet quiet) fun result => (rest result).strengthen fun _ kept => kept.1

theorem lays_passive_bind (passive : Passive program)
    (rest : ∀ result, Lays index id records (next result)) :
    Lays index id records (program >>= next) :=
  lays_quiet_bind (quiet_passive passive) rest

/-- What follows leaves the records alone. -/
theorem lays_then_quiet (lays : Lays index id records program)
    (quiet : ∀ result, Quiet (next result)) : Lays index id records (program >>= next) :=
  ensures_bind lays fun result _ _ _ tidy run => (confined_tidy (quiet result) _ _ _ tidy run).1

theorem told_read (quiet : op.Quiet)
    (tells : ∀ (before : Cluster Index) reply after, before.Reads id records →
      perform index op before reply after → learned reply) :
    (system Index).Confined index (Cluster.Reads id records) (call op) learned :=
  confined_request reads_steady fun before reply after reads performed =>
      ⟨reads.of_eq (reads.keyed.perform performed) (quiet.records performed),
        tells before reply after reads performed⟩

theorem told_get :
    (system Index).Confined index (Cluster.Reads id records) (call (.get id))
      fun found => found = records.running.map Running.vm := by
  refine told_read trivial fun before reply after reads read => ?_
  rw [← reads.running]
  exact read.2

theorem told_loadStopped :
    (system Index).Confined index (Cluster.Reads id records) (call (.loadStopped id)) fun loaded =>
        ∀ record, loaded = .ok record → record = records.stopped := by
  refine told_read trivial fun before reply after reads load record loaded => ?_
  rw [← reads.stopped]
  exact (load.2 record loaded).symm

theorem told_getVolume (account volumeID : String) (purpose : Purpose) :
    (system Index).Confined index (Cluster.Reads id records)
      (getVolume account volumeID purpose) fun found =>
        ∀ volume, found = .ok volume → volume.volumeID = volumeID := by
  unfold getVolume
  split
  · apply confined_pure reads_steady
    rintro volume ⟨⟩
  next key valid =>
    refine told_read trivial fun before reply after reads read => ?_
    rintro volume rfl
    have named : volume.key = key := reads.keyed _ _ read.2
    exact congrArg Key.volume (named.trans (volumeKey_eq_ok valid))

theorem lays_updateState {next : Unit → Session Second} (rest : Lays index id ⟨records.stopped,
        records.running.map fun host => { host with vm := mutate host.vm }⟩
      (next ())) :
    Lays index id records (call (.updateState id mutate) >>= next) := by
  refine ensures_bind (ensures_request reads_steady (fun _ => reads_steady)
        fun before reply after reads edit => ?_)
      fun _ => rest
  subst after
  refine ⟨reads.keyed, reads.stopped, ?_, fun other different vm recorded => ?_⟩
  · simp only [Cluster.editRunning, Function.update_self, reads.running]
  · apply reads.others other different vm
    simpa only [Cluster.Records, Cluster.editRunning,
      Function.update_of_ne different] using recorded

/-- What an update of a stopped record is answered with and leaves. -/
def Edited (id : String) (records : RecordPair) (mutate : VM → VM) (update : Update)
    (after : Cluster Index) : Prop :=
  match update.stored with
  | none => after.Reads id records
  | some vm => records.stopped = some vm ∧ after.Reads id ⟨some (mutate vm), records.running⟩

theorem lays_updateStopped {next : Update → Session Second}
    (unstored : ∀ update, Lays index id records (next update))
    (edited : ∀ update vm, records.stopped = some vm →
      Lays index id ⟨some (mutate vm), records.running⟩ (next update)) :
    Lays index id records (call (.updateStopped id mutate) >>= next) := by
  have asked : (system Index).Ensures index (Cluster.Reads id records)
      (call (.updateStopped id mutate))
      (Edited id records mutate) := by
    refine ensures_request reads_steady (fun update => ?_) fun before update after reads edit => ?_
    · unfold Edited
      cases update.stored with
      | none => exact reads_steady
      | some vm => exact fun _ _ drifted kept => ⟨kept.1, reads_steady _ _ drifted kept.2⟩
    · rcases edit with ⟨vm, changed, stored, rfl⟩ | ⟨unstored, rfl⟩
      · rw [Edited, changed]
        refine ⟨reads.stopped ▸ stored, reads.keyed, before.stopped_putStopped_self id _,
            reads.running, fun other different vm recorded => ?_⟩
        apply reads.others other different vm
        rcases recorded with stored | stored
        · rw [Cluster.stopped_putStopped_of_ne different] at stored
          exact .inl stored
        · exact .inr stored
      · rwa [Edited, unstored]
  refine ensures_bind asked fun update => ?_
  unfold Edited
  cases update.stored with
  | none => exact unstored update
  | some vm => exact fun _ _ _ kept run => edited update vm kept.1 _ _ _ kept.2 run

end

/-! ### Attaching to a running instance -/

section

variable {Index : Type} {index : Index} {id : String} {records : RecordPair}

/-- A request for a volume the record can take, but for its port. -/
structure EBSRequest.Admissible (request : EBSRequest) (vm : VM) : Prop where
  boot : request.boot = false
  efi : request.efi = false
  unlisted : request.name ∉ vm.volumes
  vacant : vm.Vacant request.deviceName

variable {request : EBSRequest} {vm : VM}

theorem EBSRequest.Admissible.applyExport (admissible : request.Admissible vm)
    (exported : Export) : (Ebs.applyExport request exported).Admissible vm := by
  cases exported <;>
    exact { admissible with }

theorem EBSRequest.Admissible.fits (admissible : request.Admissible vm)
    (found : freeHotplugEBSPort vm.ebsRequests ≠ 0) :
    EBSRequest.Fits
      { request with hotplugPort := freeHotplugEBSPort vm.ebsRequests }
      vm.ebsRequests where
  name := admissible.unlisted
  device := admissible.vacant.device
  port := .inr (freeHotplugEBSPort_free found)
  boot boots := by
    cases admissible.boot.symm.trans boots

namespace Manager

variable {host : Running}

theorem lays_plugDevice (slotted : records.Slotted) (fits : ∀ host, records.running = some host →
      request.Fits host.vm.ebsRequests ∧ request.efi = false) :
    Lays index id records (plugDevice node id account request) := by
  refine lays_quiet_bind (quiet_call trivial) (either (fun _ => ?_) fun done => ?_)
  · refine lays_passive_bind (passive_rollbackHotAttach _ _ _) fun undone => ?_
    split
    · exact lays_quiet_bind (quiet_updateVolumeState _ _ _ _ _) fun _ => lays_pure slotted
    · exact lays_pure slotted
  refine lays_updateState (lays_updateState (lays_pure ?_))
  refine ⟨slotted.stopped, fun changed present => ?_⟩
  rw [map_map] at present
  rcases map_eq_some_iff.1 present with ⟨host, running, rfl⟩
  exact (slotted.running host running).recordRequest (fits host running).1 (fits host running).2

theorem told_requests :
    (system Index).Confined index (Cluster.Reads id records) (requests id)
      fun found => ∀ host, records.running = some host → found = host.vm.ebsRequests := by
  refine confined_bind told_get fun found same => ?_
  subst found
  cases records.running with
  | none => exact confined_pure reads_steady nofun
  | some host =>
    apply confined_pure reads_steady
    rintro _ ⟨⟩
    rfl

theorem told_mountOne (node : String) (request : EBSRequest) :
    (system Index).Confined index (Cluster.Reads id records)
      (mountOne node request) fun mounted => ∀ changed, mounted = .ok changed →
        ∃ exported, changed = applyExport request exported := by
  refine confined_bind (confined_quiet (quiet_call trivial)) fun mounted _ => ?_
  cases mounted with
  | error fault =>
    apply confined_pure reads_steady
    rintro changed ⟨⟩
  | ok exported =>
    apply confined_pure reads_steady
    rintro changed ⟨⟩
    exact ⟨exported, rfl⟩

/-- The device an attach takes is vacant if a requested one is. -/
theorem told_attachDevice
    (unused : ∀ host, records.running = some host → device ≠ "" → device ∉ host.vm.usedDevices) :
    (system Index).Confined index (Cluster.Reads id records) (attachDevice id device)
      fun chosen => ∀ host, records.running = some host → chosen ≠ "" → host.vm.Vacant chosen := by
  unfold attachDevice
  split
  · refine confined_bind told_get fun found same => ?_
    subst found
    cases records.running with
    | none => exact confined_pure reads_steady nofun
    | some host =>
      apply confined_pure reads_steady
      rintro _ ⟨⟩
      exact nextAvailableDevice_vacant
  next given =>
    exact confined_pure reads_steady fun host running _ => ⟨given, unused host running given⟩

end Manager

theorem lays_natsRequest
    (lays : Lays index id records handler) : Lays index id records (natsRequest handler) := by
  refine lays_then_quiet lays fun reply => ?_
  refine only_bind (quiet_passive (passive_ask _)) fun arrived => ?_
  split <;> exact only_pure _

/-! ### Attaching to a stopped instance -/

theorem told_loadVisible (account : String) :
    (system Index).Confined index (Cluster.Reads id records)
      (loadVisible id account) fun loaded => ∀ vm, loaded = .ok vm → records.stopped = some vm := by
  refine confined_bind told_loadStopped fun loaded known => ?_
  rcases loaded with failure | _ | vm
  · apply confined_pure reads_steady
    rintro vm ⟨⟩
  · apply confined_pure reads_steady
    rintro vm ⟨⟩
  dsimp only
  split
  · apply confined_pure reads_steady
    rintro _ ⟨⟩
    exact (known _ rfl).symm
  · apply confined_pure reads_steady
    rintro vm ⟨⟩

theorem quiet_releaseClaim (claimed : Volume) : Quiet (releaseClaim claimed) :=
  quiet_putVolume _ _

theorem lays_recordClaim {boot : Bool}
    (slotted : records.Slotted) (stopped : records.stopped = some vm)
    (unlisted : claimed.volumeID ∉ vm.volumes) (vacant : vm.Vacant device)
    (bootless : boot = true → vm.ebsRequests.filter EBSRequest.boot = []) :
    Lays index id records (recordClaim id device boot claimed) := by
  refine lays_updateStopped (fun update => ?_) fun update stored same => ?_
  · split
    · exact lays_quiet_bind (quiet_releaseClaim _) fun _ => lays_pure slotted
    · exact lays_quiet_bind (quiet_releaseClaim _) fun _ => lays_pure slotted
    · exact lays_pure slotted
  cases stopped.symm.trans same
  have added : RecordPair.Slotted
      ⟨some (addUnlessTaken claimed.volumeID device boot vm), records.running⟩ := by
    refine ⟨?_, slotted.running⟩
    rintro _ ⟨⟩
    unfold addUnlessTaken
    split
    · exact slotted.stopped vm stopped
    · exact (slotted.stopped vm stopped).addUnlessTaken unlisted vacant bootless
  split
  · exact lays_quiet_bind (quiet_releaseClaim _) fun _ => lays_pure added
  · exact lays_quiet_bind (quiet_releaseClaim _) fun _ => lays_pure added
  · exact lays_pure added

variable {account : String}

theorem lays_claimForStopped (slotted : records.Slotted) (stopped : records.stopped = some vm)
    (unlisted : volume.volumeID ∉ vm.volumes)
    (picked : stoppedAttachDevice vm device = .ok (chosen, boot)) :
    Lays index id records (claimForStopped id chosen boot volume) := by
  rcases stoppedAttachDevice_ok picked with ⟨vacant, bootless⟩
  refine lays_passive_bind (passive_ask _) fun time => ?_
  extract_lets claimed
  exact lays_quiet_bind (quiet_putVolume _ _) (either (fun _ => lays_pure slotted)
    fun done => lays_recordClaim slotted stopped unlisted vacant bootless)

/-! ### Attaching -/

/-- What an attach learns from the records it was given. -/
def Known (records : RecordPair) (volumeID : String) : Stage → Prop
  | .chosen _ device => ∀ host, records.running = some host → device ≠ "" → host.vm.Vacant device
  | .mounted _ result => ∀ host, records.running = some host → ∀ request, result = .ok request →
    request.Admissible host.vm
  | .fitted _ request | .claimed _ request _ => request.hotplugPort ≠ 0 →
    ∀ host, records.running = some host → request.Fits host.vm.ebsRequests ∧ request.efi = false
  | .loaded vm => ∀ stored, vm = .ok stored → records.stopped = some stored
  | .found vm read => records.stopped = some vm ∧
    ∀ volume, read = .ok volume → volume.volumeID = volumeID
  | _ => True

/-- The records are untouched until an attach has ended. -/
def Laying (id : String) (records : RecordPair) (volumeID : String) (stage : Stage)
    (cluster : Cluster Index) : Prop :=
  match stage with
  | .ended _ | .released _ | .answered _ => cluster.Tidy
  | stage => cluster.Reads id records ∧ Known records volumeID stage

variable {volumeID : String} {stage : Stage}

theorem Laying.tidy
    (slotted : records.Slotted) (laying : Laying id records volumeID stage cluster) :
    cluster.Tidy := by
  cases stage with
  | ended | released | answered => exact laying
  | _ => exact laying.1.tidy slotted

theorem laying_steady (stage : Stage) :
    (system Index).Steady (Laying id records volumeID stage) := by
  intro before after drifted laying
  cases stage with
  | ended | released | answered => exact tidy_steady _ _ drifted laying
  | _ => exact ⟨reads_steady _ _ drifted laying.1, laying.2⟩

variable {First : Type}

theorem laying_quiet (quiet : Quiet program) :
    (system Index).Ensures index (Laying id records volumeID stage) program
      fun _ => Laying id records volumeID stage := by
  intro before result after laying run
  cases stage with
  | ended | released | answered => exact (confined_tidy quiet _ _ _ laying run).1
  | _ => exact ⟨(confined_quiet quiet _ _ _ laying.1 run).1, laying.2⟩

theorem laying_over (slotted : records.Slotted) (quiet : Quiet program) :
    (system Index).Ensures index (Laying id records volumeID stage) program fun _ => Cluster.Tidy :=
  fun _ _ _ laying run => (laying_quiet quiet _ _ _ laying run).tidy slotted

theorem laying_told {next : First → Prop}
    (told : (system Index).Confined index (Cluster.Reads id records) program learned)
    (follows : known → ∀ result, learned result → next result) :
    (system Index).Ensures index (fun cluster => cluster.Reads id records ∧ known) program
      fun result cluster => cluster.Reads id records ∧ next result :=
  fun _ _ _ met run => ⟨(told _ _ _ met.1 run).1, follows met.2 _ (told _ _ _ met.1 run).2⟩

/-- The conditions of an attach to the instance with these records. -/
def laying (index : Index) {volumeID device account : String} (slotted : records.Slotted)
    (unlisted : ∀ vm, records.stopped = some vm → volumeID ∉ vm.volumes)
    (admitted : ∀ host, records.running = some host →
      volumeID ∉ host.vm.volumes ∧ (device ≠ "" → device ∉ host.vm.usedDevices)) :
    Attaches id volumeID device account where
  holds before program after := (system Index).Ensures index (Laying id records volumeID before)
    program fun result => Laying id records volumeID (after result)
  done same := System.ensures_pure (laying_steady _) fun _ met => same ▸ met
  bind := System.ensures_bind
  reading reading := laying_quiet (quiet_passive (Reading.passive reading))
  refuse _ _ := laying_over slotted (Program.only_pure _)
  route := laying_quiet (quiet_call trivial)
  check _ := laying_quiet (quiet_passive (passive_getVolume _ _ _))
  attachUnavailable _ := laying_over slotted (quiet_passive (reading_attachUnavailable ..).passive)
  zone _ := laying_quiet (quiet_passive (passive_ask _))
  decline _ _ := laying_over slotted (Program.only_pure _)
  lock _ := laying_quiet (quiet_call trivial)
  attachDevice _ := laying_told (Manager.told_attachDevice fun host running =>
    (admitted host running).2) fun _ _ vacant => vacant
  mountOne given := laying_told (Manager.told_mountOne _ _)
    fun vacant mounted known host running request done => by
      obtain ⟨exported, rfl⟩ := known request done
      exact EBSRequest.Admissible.applyExport
        ⟨rfl, rfl, (admitted host running).1, vacant host running given⟩ exported
  requests _ _ := laying_told Manager.told_requests
    fun admissible listed same ported host running => by
      cases same host running
      exact ⟨(admissible host running _ rfl).fits ported, (admissible host running _ rfl).efi⟩
  qmp passive := laying_quiet (quiet_call trivial)
  abandon held passive := by
    cases held <;>
      exact laying_told (confined_quiet (quiet_passive passive)) fun _ _ _ => trivial
  fail _ := laying_over slotted (Program.only_pure _)
  claim _ _ _ := laying_quiet (quiet_updateVolumeState _ _ _ _ _)
  plugDevice ported _ _ _ met run := Manager.lays_plugDevice slotted (met.2 ported) _ _ _ met.1 run
  unlock _ := laying_quiet (quiet_call trivial)
  respond _ := laying_quiet (quiet_passive (reading_respondWithVolumeAttachment ..).passive)
  loadVisible := laying_told (told_loadVisible account) fun _ _ known => known
  getVolume _ := laying_told (told_getVolume _ _ _) fun stopped _ named => ⟨stopped _ rfl, named⟩
  claimForStopped _ picked _ _ _ met run := lays_claimForStopped slotted met.2.1
    ((met.2.2 _ rfl).symm ▸ unlisted _ met.2.1) picked _ _ _ met.1 run

/-! ### Detaching -/

theorem lays_detachFromStopped (slotted : records.Slotted) :
    Lays index id records (detachFromStopped id volumeID account) := by
  refine lays_then_quiet (lays_natsRequest ?_) fun reply => ?_
  · unfold detachVolumeFromStopped
    split
    · exact lays_pure slotted
    refine lays_passive_bind (reading_loadVisible ..).passive fun loaded => ?_
    cases loaded with
    | error code => exact lays_pure slotted
    | ok vm =>
      dsimp only
      split
      · exact lays_pure slotted
      split
      · exact lays_pure slotted
      refine lays_updateStopped (fun update => ?_) fun update stored same => ?_
      · split
        · exact lays_pure slotted
        · split <;> exact lays_pure slotted
      have removed : RecordPair.Slotted ⟨some (removeVolumeFromRecord volumeID stored).1,
          records.running⟩ := by
        refine ⟨?_, slotted.running⟩
        rintro _ ⟨⟩
        exact (slotted.stopped stored same).removeVolumeFromRecord volumeID
      split
      · exact lays_pure removed
      · split <;> exact lays_pure removed
  · cases reply with
    | error code => exact only_pure _
    | ok attachment => exact quiet_forceDetach _ _

namespace Manager

theorem lays_releaseVolume {request : EBSRequest} (slotted : records.Slotted) :
    Lays index id records (releaseVolume node id account request) := by
  refine lays_passive_bind (passive_unmountOne _ _)
    (either (fun _ => lays_pure slotted) fun done => ?_)
  refine lays_updateState (lays_updateState ?_)
  refine lays_quiet_bind (quiet_updateVolumeState _ _ _ _ _) fun _ => lays_pure ?_
  refine ⟨slotted.stopped, fun changed present => ?_⟩
  rw [map_map] at present
  rcases map_eq_some_iff.1 present with ⟨host, running, rfl⟩
  exact (slotted.running host running).drop request.name

theorem lays_detachVolume (slotted : records.Slotted) :
    Lays index id records (detachVolume node id volumeID device force) := by
  refine lays_quiet_bind (quiet_call trivial) (Option.forall.2 ⟨lays_pure slotted, fun vm => ?_⟩)
  dsimp only
  split
  · exact lays_pure slotted
  refine lays_quiet_bind (quiet_call trivial) fun _ => ?_
  refine lays_then_quiet ?_ fun _ => only_bind (quiet_call trivial) fun _ => only_pure _
  refine lays_passive_bind (reading_requests _).passive fun listed => ?_
  split
  · exact lays_pure slotted
  split
  · exact lays_pure slotted
  split
  · exact lays_pure slotted
  exact lays_passive_bind (passive_unplugVolume _ _ _)
    (either (fun _ => lays_pure slotted) fun done => lays_releaseVolume slotted)

end Manager

theorem lays_detachFromRunning (slotted : records.Slotted) :
    Lays index id records (detachFromRunning id volumeID device account force) := by
  refine lays_quiet_bind (quiet_call trivial) (Option.forall.2 ⟨?_, fun node => ?_⟩)
  · dsimp only
    split
    · exact lays_quiet slotted (quiet_forceDetach _ _)
    · exact lays_pure slotted
  apply lays_natsRequest
  refine lays_passive_bind (reading_commandInstance ..).passive
    (either (fun _ => lays_pure slotted) fun vm => ?_)
  dsimp only
  split
  · exact lays_pure slotted
  refine lays_then_quiet (Manager.lays_detachVolume slotted)
    (either (fun _ => only_pure _) fun device => ?_)
  exact quiet_passive (reading_respondWithVolumeAttachment ..).passive

/-- A program that leaves records in order, whatever they are. -/
theorem ensures_tidy (id : String)
    (lays : ∀ records, RecordPair.Slotted records → Lays index id records program) :
    (system Index).Ensures index Cluster.Tidy program fun _ => Cluster.Tidy :=
  fun _ _ _ tidy run => lays _ (tidy.recordPair id) _ _ _ (tidy.reads id) run

theorem ensures_detachVolume (input : DetachVolumeInput) (account : String) :
    (system Index).Ensures index Cluster.Tidy (detachVolume input account)
      fun _ => Cluster.Tidy := by
  unfold detachVolume
  extract_lets volumeID
  split
  · exact ensures_pure tidy_steady fun _ tidy => tidy
  have looked : (system Index).Ensures index Cluster.Tidy
      (detachInstance input volumeID account)
      fun _ => Cluster.Tidy :=
    ensures_tidy "" fun records slotted =>
      lays_quiet slotted (quiet_passive (passive_detachInstance _ _ _))
  refine ensures_bind looked
    (either (fun _ => ensures_pure tidy_steady fun _ tidy => tidy) fun named => ?_)
  refine ensures_tidy named fun records slotted => ?_
  refine lays_quiet_bind (quiet_call trivial) fun stopped => ?_
  split
  · exact lays_detachFromStopped slotted
  · exact lays_detachFromRunning slotted

end

end Spinifex.Ebs
