import Spinifex.Snapshots.Estate

/-!
# The volume and snapshot requests

`CreateVolume`, `DeleteVolume`, `CreateSnapshot`, `CopySnapshot`,
`DeleteSnapshot` and the sweep that reclaims deleted volumes.  The fetches of a
listing, which run side by side, are made one after the other in the order of
the listed keys, and a listing of keys may come in any order.
-/

namespace Spinifex.Snapshots

open Concurrency Go

/-- One call that is not on the index. -/
abbrev ask (op : Op) : Session (Answer op) :=
  State.ask op

/-! ## Documents -/

/-- `Store.GetVolume`. -/
def getVolume (account volumeID : String) : Session (Except Failure Volume) :=
  match partitionedKey account volumeID with
  | .error failure => return .error failure
  | .ok key => ask (.getVolume key)

/-- `Store.PutVolume`. -/
def putVolume (volume : Volume) : Session (Except Failure Unit) :=
  match partitionedKey volume.tenantID volume.volumeID with
  | .error failure => return .error failure
  | .ok _ => WriteReply.result <$> ask (.putVolume volume)

/-- `Store.DeleteVolume`. -/
def deleteVolumeDocument (account volumeID : String) : Session (Except Failure Unit) :=
  match partitionedKey account volumeID with
  | .error failure => return .error failure
  | .ok key => ask (.deleteVolumeDocument key)

/-- `Store.GetSnapshot`. -/
def getSnapshot (account snapshotID : String) : Session (Except Failure Snapshot) :=
  match partitionedKey account snapshotID with
  | .error failure => return .error failure
  | .ok key => ask (.getSnapshot key)

/-- `Store.PutSnapshot`. -/
def putSnapshot (snapshot : Snapshot) : Session (Except Failure Unit) :=
  match partitionedKey snapshot.ownerID snapshot.snapshotID with
  | .error failure => return .error failure
  | .ok _ => WriteReply.result <$> ask (.putSnapshot snapshot)

/-- `Store.DeleteSnapshot`. -/
def deleteSnapshotDocument (account snapshotID : String) : Session (Except Failure Unit) :=
  match partitionedKey account snapshotID with
  | .error failure => return .error failure
  | .ok key => ask (.deleteSnapshotDocument key)

/-- The part of `collectDocuments` that fetches the listed documents. -/
def fetchDocuments (mode : ListMode) :
    List Key → Session (List Volume × List UnreadableDocument)
  | [] => return ([], [])
  | key :: keys => do
      let fetched ← ask (.getVolume key)
      let (documents, skipped) ← fetchDocuments mode keys
      match fetched with
      | .ok document => return (document :: documents, skipped)
      | .error failure =>
        if mode = .listPartial ∧ isNoSuchKey failure then
          return (documents, skipped)
        else
          return (documents, ⟨key, failure⟩ :: skipped)

/-- `collectDocuments` over the volume documents of all accounts. -/
def collectDocuments (mode : ListMode) (clonesOf : Option String) :
    Session (Except Failure (List Volume × List UnreadableDocument)) := do
  match ← ask (.listVolumes clonesOf) with
  | .error failure => return .error failure
  | .ok keys => return .ok (← fetchDocuments mode keys)

/-! ## The index -/

/-- `snapshotRefCASAttempts`. -/
def snapshotRefCASAttempts : Nat := 25

/-- `snapshotRefsConfig`. -/
def snapshotRefsConfig : State.StoreConfig Sentinel where
  attempts := snapshotRefCASAttempts
  exhausted := none

/-- `addSnapshotRef`. -/
def addSnapshotRef (volumeID snapshotID : String) : Session (Except Failure Unit) := do
  match ←
    State.Store.upsert snapshotRefsConfig volumeID []
      fun snapshots => .ok (snapshots ++ [snapshotID], true) with
  | .ok () => return .ok ()
  | .error failure =>
    return .error (State.context ("addSnapshotRef: failed to record " ++ snapshotID ++
      " against volume " ++ volumeID) failure)

/-- `dropEmptySnapshotRefs`. -/
def dropEmptySnapshotRefs (volumeID : String) : Session (Except Failure Unit) := do
  match ← State.Store.get volumeID with
  | .error failure =>
    if failure.is .recordNotFound then
      return .ok ()
    else
      return .error (State.context
        ("dropEmptySnapshotRefs: failed to get KV key " ++ volumeID) failure)
  | .ok (snapshots, revision) =>
    if snapshots ≠ [] then
      return .ok ()
    else
      match ← State.Store.compareAndDelete volumeID revision with
      | .ok () => return .ok ()
      | .error failure =>
        if failure.is .recordConflict then
          return .ok ()
        else
          return .error (State.context ("dropEmptySnapshotRefs: failed to delete KV key "
            ++ volumeID) failure)

/-- The list without a snapshot, and if it was in the list. -/
def withoutSnapshot (snapshotID : String) (snapshots : List String) :
    Except Failure (List String × Bool) :=
  let filtered := snapshots.filter fun snap => snap ≠ snapshotID
  .ok (filtered, decide (filtered.length ≠ snapshots.length))

/-- `removeSnapshotRef`. -/
def removeSnapshotRef (volumeID snapshotID : String) : Session (Except Failure Unit) := do
  match ← State.Store.mutate snapshotRefsConfig volumeID [] (withoutSnapshot snapshotID) with
  | .error failure =>
    if failure.is .recordNotFound then
      return .ok ()
    else
      return .error (State.context ("removeSnapshotRef: failed to drop " ++ snapshotID ++
        " from volume " ++ volumeID) failure)
  | .ok filtered =>
    if filtered = [] then
      dropEmptySnapshotRefs volumeID
    else
      return .ok ()

/-- `volumeHasSnapshotsKV`. -/
def volumeHasSnapshotsKV (volumeID : String) : Session (Except Failure Bool) := do
  let found : Except Failure (Version (State.Stored (List String))) ← State.KeyValue.get volumeID
  match found with
  | .ok ⟨some snapshots, _⟩ => return .ok (snapshots ≠ [])
  | .ok ⟨none, _⟩ => return .error State.Sentinel.decode.failure
  | .error failure =>
    if failure.is .keyNotFound then
      return .ok false
    else
      return .error failure

/-! ## Volumes -/

/-- The snapshot a new volume is created from. -/
structure Source where
  snapshotID : String
  volumeName : String
  sizeGiB : Int
deriving DecidableEq, Repr

/-- Read the snapshot a volume is to be created from, if any. -/
def readSource (snapshotID : Option String) (account : String) :
    Session (Except APIError Source) := do
  let snapshotID := snapshotID.getD ""
  if snapshotID = "" then
    return .ok ⟨"", "", 0⟩
  else
    match ← getSnapshot account snapshotID with
    | .error _ => return .error (.code .invalidSnapshotNotFound)
    | .ok stored => return .ok ⟨snapshotID, stored.volumeID, stored.volumeSize⟩

/-- Undo the allocation of a volume that could not be recorded. -/
def abandonVolume (volumeID handle : String) : Session (Except APIError Volume) := do
  let _ ← ask (.deleteVolume volumeID handle)
  return .error (.code .serverInternal)

/-- Record a volume the provider has allocated. -/
def recordVolume (volume : Volume) : Session (Except APIError Volume) := do
  match ← ask .encryptionEnabled with
  | .error _ => abandonVolume volume.volumeID volume.providerHandle
  | .ok encrypted =>
    let volume := { volume with encrypted := encrypted }
    match ← putVolume volume with
    | .error _ => abandonVolume volume.volumeID volume.providerHandle
    | .ok () => return .ok volume

/-- The part of `createVolume` after its checks. -/
def allocateVolume (zone account : String) (tags : List (String × String))
    (source : Source) (size iops throughput now : Int)
    (volumeID : String) : Session (Except APIError Volume) := do
  match ←
    ask (.createVolume ⟨volumeID, size * 1024 * 1024 * 1024, zone,
      source.snapshotID, source.volumeName⟩) with
  | .error _ => return .error (.code .serverInternal)
  | .ok none => return .error (.code .serverInternal)
  | .ok (some handle) =>
    recordVolume
      { volumeID := volumeID
        tenantID := account
        capacityGiB := size.toNat
        state := .available
        attachedAt := none
        availabilityZone := zone
        attachedInstance := ""
        deviceName := ""
        volumeType := volumeTypeGP3
        iops := iops
        tags := tags
        providerHandle := handle
        modification := none
        createdAt := now
        throughput := throughput
        snapshotID := source.snapshotID
        encrypted := false }

/-- `CreateVolume` on a node in an availability zone. -/
def createVolume (zone : String) (input : Option CreateVolumeInput)
    (account : String) : Session (Except APIError Volume) := do
  match input with
  | none => return .error (.code .invalidParameterValue)
  | some input =>
    if account = "" then
      return .error (.code .authFailure)
    else
      match validateVolumeType (input.volumeType.getD "") with
      | .error error => return .error error
      | .ok () =>
        if input.availabilityZone.getD "" = "" then
          return .error (.code .invalidParameterValue)
        else if input.availabilityZone.getD "" ≠ zone then
          return .error (.code .invalidAvailabilityZone)
        else
          match ← readSource input.snapshotID account with
          | .error error => return .error error
          | .ok source =>
            match chooseSize input.size source.sizeGiB with
            | .error error => return .error error
            | .ok size =>
              let now ← ask .now
              let volumeID ← ask (.generateResourceID "vol")
              match chooseIOPS input.iops size with
              | .error error => return .error error
              | .ok iops =>
                match chooseThroughput input.throughput with
                | .error error => return .error error
                | .ok throughput =>
                  allocateVolume zone account input.tags source size iops throughput now volumeID

/-- `UpdateVolumeState`. -/
def updateVolumeState (account volumeID : String) (state : Ebs.VolumeState)
    (attachedInstance deviceName : String) : Session (Except Failure Unit) := do
  match ← getVolume account volumeID with
  | .error failure =>
    return .error (State.context "failed to get volume metadata" failure)
  | .ok stored =>
    let state := if state = .blank ∧ attachedInstance = "" then .available else state
    let attachedAt ← if attachedInstance ≠ "" then some <$> ask .now else pure none
    match ← putVolume (stored.attach state attachedInstance deviceName attachedAt) with
    | .error failure =>
      return .error (State.context "failed to write volume metadata" failure)
    | .ok () => return .ok ()

/-- `checkVolumeHasNoSnapshots`. -/
def checkVolumeHasNoSnapshots (volumeID : String) : Session (Except APIError Unit) := do
  match ← volumeHasSnapshotsKV volumeID with
  | .error _ => return .error (.code .serverInternal)
  | .ok true => return .error (.code .volumeInUse)
  | .ok false => return .ok ()

/-- `DeleteVolume`. -/
def deleteVolume (volumeID : Option String) (account : String) :
    Session (Except APIError Unit) := do
  let volumeID := volumeID.getD ""
  if volumeID = "" then
    return .error (.code .invalidParameterValue)
  else
    match ← getVolume account volumeID with
    | .error failure =>
      if isNoSuchKey failure then
        return .error (.code .invalidVolumeNotFound)
      else
        return .error (.message .serverInternal
          ("get volume metadata " ++ volumeID ++ ": " ++ failure.text))
    | .ok stored =>
      if stored.tenantID ≠ account then
        return .error (.code .invalidVolumeNotFound)
      else if stored.state = .deleting then
        return .ok ()
      else if stored.attachedInstance ≠ "" ∨
          (stored.state ≠ .available ∧ stored.state ≠ .blank) then
        return .error (.code .volumeInUse)
      else
        match ← checkVolumeHasNoSnapshots volumeID with
        | .error error => return .error error
        | .ok () =>
          match ← updateVolumeState account volumeID .deleting "" "" with
          | .error failure =>
            return .error (.message .serverInternal
              ("mark volume " ++ volumeID ++ " deleting: " ++ failure.text))
          | .ok () => return .ok ()

/-! ## Snapshots -/

/-- `ProviderCreateError`. -/
def providerCreateError (volumeID : String) (failure : Option Failure) : APIError :=
  let failure := failure.getD ⟨[], ""⟩
  if failure.is (.own .unavailable) then
    .code .serviceUnavailable
  else if failure.is (.own .volumeInUse) then
    .message .incorrectState ("The volume '" ++ volumeID ++
      "' is in use. Detach it before creating a snapshot.")
  else
    .code .serverInternal

/-- `providerDeleteError`. -/
def providerDeleteError (snapshotID : String) (failure : Failure) : APIError :=
  if failure.is (.own .volumeInUse) then
    .message .invalidSnapshotInUse ("The snapshot '" ++ snapshotID ++ "' is in use by a volume.")
  else if failure.is (.own .unavailable) || failure.is (.own .noResponders) || failure.is
      (.own .connectionClosed) || failure.is (.own .timeout) || failure.is (.own .deadlineExceeded)
      then
    .message .serviceUnavailable ("delete snapshot " ++ snapshotID ++
      ": storage provider unavailable: " ++ failure.text)
  else
    .message .serverInternal ("delete snapshot " ++ snapshotID ++ ": " ++ failure.text)

/-- `getSnapshotConfig`. -/
def getSnapshotConfig (account snapshotID : String) : Session (Except APIError Snapshot) := do
  match ← getSnapshot account snapshotID with
  | .ok cfg => return .ok cfg
  | .error failure =>
    if isNoSuchKey failure then
      return .error (.code .invalidSnapshotNotFound)
    else
      return .error (.plain failure)

/-- List a snapshot the provider holds, and store its document. -/
def recordSnapshot (snapshot : Snapshot) : Session (Except APIError Snapshot) := do
  match ← addSnapshotRef snapshot.volumeID snapshot.snapshotID with
  | .error _ =>
    let _ ← ask (.deleteSnapshot snapshot.snapshotID snapshot.providerHandle)
    return .error (.code .serverInternal)
  | .ok () =>
    match ← putSnapshot snapshot with
    | .error _ =>
      let _ ← removeSnapshotRef snapshot.volumeID snapshot.snapshotID
      let _ ← ask (.deleteSnapshot snapshot.snapshotID snapshot.providerHandle)
      return .error (.code .serverInternal)
    | .ok () => return .ok snapshot

/-- `Uint64ToInt64`, which stops at the largest signed integer. -/
def uint64ToInt64 (value : Nat) : Int :=
  min (value : Int) maxInt64

/-- The state a snapshot is recorded with. -/
def recordedState (state : SnapshotState) : SnapshotState :=
  if state = .blank then .completed else state

/-- `CreateSnapshot`. -/
def createSnapshot (input : CreateSnapshotInput) (account : String) :
    Session (Except APIError Snapshot) := do
  match input.volumeID with
  | none => return .error (.code .invalidParameterValue)
  | some volumeID =>
    if account = "" then
      return .error (.code .authFailure)
    else
      let snapshotID ← ask (.generateResourceID "snap")
      match ← getVolume account volumeID with
      | .error _ => return .error (.code .invalidVolumeNotFound)
      | .ok volume =>
        if volume.tenantID ≠ account then
          return .error (.code .invalidVolumeNotFound)
        else if volume.capacityGiB = 0 then
          return .error (.code .serverInternal)
        else if volume.state = .creating then
          return .error (.code .incorrectState)
        else
          match ← ask (.createSnapshot snapshotID volumeID volume.providerHandle) with
          | .error failure =>
            return .error (providerCreateError volumeID (some failure))
          | .ok none => return .error (providerCreateError volumeID none)
          | .ok (some created) =>
            let now ← ask .now
            recordSnapshot
              { snapshotID := snapshotID
                volumeID := volumeID
                volumeSize := uint64ToInt64 volume.capacityGiB
                state := recordedState created.state
                progress := "100%"
                startTime := now
                description := input.description.getD ""
                encrypted := volume.encrypted
                ownerID := account
                availabilityZone := volume.availabilityZone
                tags := input.tags
                providerHandle := created.handle }

/-- `CopySnapshot`. -/
def copySnapshot (input : CopySnapshotInput) (account : String) :
    Session (Except APIError Snapshot) := do
  match input.sourceSnapshotID with
  | none => return .error (.code .invalidParameterValue)
  | some sourceSnapshotID =>
    if account = "" then
      return .error (.code .authFailure)
    else
      match ← getSnapshotConfig account sourceSnapshotID with
      | .error error => return .error error
      | .ok source =>
        if source.ownerID ≠ account then
          return .error (.code .unauthorizedOperation)
        else
          let snapshotID ← ask (.generateResourceID "snap")
          match ← ask (.copySnapshot sourceSnapshotID snapshotID source.volumeID) with
          | .error _ => return .error (.code .serverInternal)
          | .ok none => return .error (.code .serverInternal)
          | .ok (some copied) =>
            let now ← ask .now
            recordSnapshot
              { snapshotID := snapshotID
                volumeID := source.volumeID
                volumeSize := source.volumeSize
                state := recordedState copied.state
                progress := "100%"
                startTime := now
                description := input.description.getD source.description
                encrypted := source.encrypted
                ownerID := account
                availabilityZone := source.availabilityZone
                tags := input.tags
                providerHandle := copied.handle }

/-- `unreadableRecordError`. -/
def unreadableRecordError (snapshotID account kind : String)
    (unreadable : List UnreadableDocument) : APIError :=
  match
    unreadable.find? fun doc => doc.key.account ≠ "" ∧ doc.key.account = account with
  | some doc =>
    .message .serverInternal ("Cannot confirm that snapshot '" ++ snapshotID ++
      "' is not in use: the record for " ++ kind ++ " '" ++
      doc.key.id ++ "' could not be read")
  | none =>
    .message .serverInternal ("Cannot confirm that snapshot '" ++ snapshotID ++
      "' is not in use: " ++ toString unreadable.length ++ " " ++
      kind ++ " record(s) could not be read")

/-- The volumes that keep a snapshot from being deleted. -/
def clones (snapshotID : String) (volumes : List Volume) : List Volume :=
  volumes.filter fun volume => volume.snapshotID = snapshotID ∧ volume.Live

/--
`snapshotInUseByVolumes`: a clone, with its name if the caller owns one, none,
or why that is not known.
-/
def snapshotInUseByVolumes (snapshotID account : String) :
    Session (Except APIError (Option String)) := do
  match ← collectDocuments .listPartial (some snapshotID) with
  | .error failure =>
    return .error (.message .serverInternal ("check whether snapshot " ++ snapshotID ++
      " is in use: list volumes: " ++ failure.text))
  | .ok (volumes, unreadable) =>
    let found := clones snapshotID volumes
    match found.find? fun volume => volume.tenantID = account with
    | some volume => return .ok (some volume.volumeID)
    | none =>
      if found ≠ [] then
        return .ok (some "")
      else if unreadable ≠ [] then
        return .error (unreadableRecordError snapshotID account "volume" unreadable)
      else
        return .ok none

/-- `amiInUseBySnapshot`. -/
def amiInUseBySnapshot (snapshotID account : String) : Session (Except APIError Bool) := do
  match ← ask .listAMIs with
  | .error failure =>
    return .error (.message .serverInternal ("check whether snapshot " ++ snapshotID ++
      " is in use: list AMIs: " ++ failure.text))
  | .ok (snapshots, unreadable) =>
    if snapshotID ∈ snapshots then
      return .ok true
    else if unreadable ≠ [] then
      return .error (unreadableRecordError snapshotID account "AMI" unreadable)
    else
      return .ok false

/-- Delete the objects of a snapshot, and say if all are gone. -/
def sweepObjects : List String → Session Bool
  | [] => return true
  | key :: keys => do
      let deleted ← ask (.deleteObject key)
      let rest ← sweepObjects keys
      match deleted with
      | .ok () => return rest
      | .error failure => return isNoSuchKey failure && rest

/-- A document that was not there counts as removed. -/
def removalFailed : Except Failure Unit → Bool
  | .ok () => false
  | .error failure => !isNoSuchKey failure

/-- The part of `DeleteSnapshot` after its checks. -/
def destroySnapshot (account : String) (cfg : Snapshot)
    (snapshotID : String) : Session (Except APIError Unit) := do
  match ← ask (.deleteSnapshot snapshotID cfg.providerHandle) with
  | .error failure => return .error (providerDeleteError snapshotID failure)
  | .ok () =>
    match ← ask (.listObjects snapshotID) with
    | .error _ => return .error (.code .serverInternal)
    | .ok objects =>
      if ← sweepObjects objects then
        let removed ← deleteSnapshotDocument account snapshotID
        if removalFailed removed then
          return .error (.code .serverInternal)
        else
          let _ ← removeSnapshotRef cfg.volumeID snapshotID
          return .ok ()
      else
        return .error (.code .serverInternal)

/--
The part of `DeleteSnapshot` after a scan that found no clone, or that failed:
such a failure is held until the images have been looked at too.
-/
def deleteUncloned (account : String) (cfg : Snapshot) (snapshotID : String)
    (volumeErr : Option APIError) : Session (Except APIError Unit) := do
  match ← amiInUseBySnapshot snapshotID account with
  | .ok true => return .error (.code .invalidSnapshotInUse)
  | .error amiErr => return .error (volumeErr.getD amiErr)
  | .ok false =>
    match volumeErr with
    | some error => return .error error
    | none => destroySnapshot account cfg snapshotID

/-- `DeleteSnapshot`. -/
def deleteSnapshot (snapshotID : Option String) (account : String) :
    Session (Except APIError Unit) := do
  match snapshotID with
  | none => return .error (.code .invalidParameterValue)
  | some snapshotID =>
    if account = "" then
      return .error (.code .authFailure)
    else
      match ← getSnapshotConfig account snapshotID with
      | .error error => return .error error
      | .ok cfg =>
        if cfg.ownerID ≠ account then
          return .error (.code .unauthorizedOperation)
        else
          match ← snapshotInUseByVolumes snapshotID account with
          | .ok (some volumeID) =>
            if volumeID = "" then
              return .error (.message .invalidSnapshotInUse
                ("The snapshot '" ++ snapshotID ++ "' is in use by a volume."))
            else
              return .error (.message .invalidSnapshotInUse
                ("The snapshot '" ++ snapshotID ++ "' is in use by volume '" ++ volumeID ++ "'."))
          | .ok none => deleteUncloned account cfg snapshotID none
          | .error error => deleteUncloned account cfg snapshotID (some error)

/-! ## The reclaim sweep -/

/-- The volumes a sweep has left, and how many it has reclaimed. -/
def reclaim :
    List Volume → Nat → Session (Nat × Option Failure)
  | [], reclaimed => return (reclaimed, none)
  | stored :: volumes, reclaimed => do
      if ← State.waits then
        if stored.state ≠ .deleting then
          reclaim volumes reclaimed
        else
          match ← ask (.deleteVolume stored.volumeID stored.providerHandle) with
          | .error _ => reclaim volumes reclaimed
          | .ok () =>
            match ← deleteVolumeDocument stored.tenantID stored.volumeID with
            | .ok () => reclaim volumes (reclaimed + 1)
            | .error failure =>
              if isNoSuchKey failure then
                reclaim volumes (reclaimed + 1)
              else
                reclaim volumes reclaimed
      else
        return (reclaimed, some State.Sentinel.canceled.failure)

/-- `VolumeReclaimReaper.Sweep`. -/
def sweep : Session (Nat × Option Failure) := do
  match ← collectDocuments .listTolerant none with
  | .error failure => return (0, some failure)
  | .ok (volumes, _) => reclaim volumes 0

/-! ## Requests -/

/-- A request on one of the nodes of the estate. -/
inductive Request where
  | createVolume
    (zone : String) (input : Option CreateVolumeInput)
    (account : String)
  | deleteVolume (volumeID : Option String) (account : String)
  | createSnapshot (input : CreateSnapshotInput) (account : String)
  | copySnapshot (input : CopySnapshotInput) (account : String)
  | deleteSnapshot (snapshotID : Option String) (account : String)
  | sweep

/-- What a request ends with. -/
inductive Outcome where
  | volume (result : Except APIError Volume)
  | snapshot (result : Except APIError Snapshot)
  | deleted (result : Except APIError Unit)
  | swept (reclaimed : Nat) (failure : Option Failure)

def Request.program : Request → Session Outcome
  | .createVolume zone input account =>
    Outcome.volume <$> Snapshots.createVolume zone input account
  | .deleteVolume volumeID account =>
    Outcome.deleted <$> Snapshots.deleteVolume volumeID account
  | .createSnapshot input account =>
    Outcome.snapshot <$> Snapshots.createSnapshot input account
  | .copySnapshot input account =>
    Outcome.snapshot <$> Snapshots.copySnapshot input account
  | .deleteSnapshot snapshotID account =>
    Outcome.deleted <$> Snapshots.deleteSnapshot snapshotID account
  | .sweep => do
      let (reclaimed, failure) ← Snapshots.sweep
      return .swept reclaimed failure

end Spinifex.Snapshots
