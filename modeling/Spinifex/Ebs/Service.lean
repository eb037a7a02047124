import Spinifex.Ebs.Cluster

/-!
# The volume service

`VolumeServiceImpl` and the two sweeps over its documents.  Every writer reads
a document, changes some of its fields and puts the whole document back;
which of them look at the state first differs from one to the next.

The checks for an unconfigured provider, snapshot index or obligation store
are left out, and so are log lines.
-/

namespace Spinifex.Ebs

open Aws Concurrency Go

/-! ## The document store -/

def call (op : Op) : Session (Reply op) :=
  Program.request op

def ask (question : Question) : Session (Answer question) :=
  call (.ask question)

/-- `time.Now`. -/
def now : Session Int :=
  ask .now

/-- `Store.GetVolume`. -/
def getVolume (account volumeID : String) (purpose : Purpose) : Session (Except Failure Volume) :=
  match volumeKey account volumeID with
  | .error failure => return .error failure
  | .ok key => call (.getVolume key purpose)

/-- `Store.PutVolume`: write a document made from the one seen. -/
def putVolume (seen volume : Volume) : Session (Except Failure Unit) :=
  match volumeKey volume.tenantID volume.volumeID with
  | .error failure => return .error failure
  | .ok _ => call (.putVolume seen volume)

/-- `Store.DeleteVolume`. -/
def removeVolume (account volumeID : String) : Session (Except Failure Unit) :=
  match volumeKey account volumeID with
  | .error failure => return .error failure
  | .ok key => call (.deleteVolume key)

/-- Fetch the listed documents, skipping those that cannot be read. -/
def fetchDocuments : List Key → Session (List Volume)
  | [] => return []
  | key :: keys => do
      match ← call (.getVolume key .inspect) with
      | .error _ => fetchDocuments keys
      | .ok volume => return volume :: (← fetchDocuments keys)

/-- `Store.ListAllVolumes`. -/
def listAllVolumes : Session (Except Failure (List Volume)) := do
  match ← call .listKeys with
  | .error failure => return .error failure
  | .ok keys => return .ok (← fetchDocuments keys)

/-! ## State and attachment -/

/-- `GetVolumeMetadata`. -/
def getVolumeMetadata (account volumeID : String) : Session (Except Failure Volume) := do
  match ← getVolume account volumeID .inspect with
  | .error failure => return .error (context "get volume metadata" failure)
  | .ok volume => return .ok volume

/-- The state an update writes: a detached volume is never blank. -/
def writtenState (state : VolumeState) (attachedInstance : String) : VolumeState :=
  if state = .blank ∧ attachedInstance = "" then .available else state

/-- The attach time an update writes. -/
def attachTime (attachedInstance : String) : Session (Option Int) := do
  if attachedInstance ≠ "" then
    return some (← now)
  else
    return none

/-- `UpdateVolumeState`. -/
def updateVolumeState (account volumeID : String) (state : VolumeState)
    (attachedInstance deviceName : String) : Session (Except Failure Unit) := do
  match ← getVolume account volumeID (.update (writtenState state attachedInstance)) with
  | .error failure =>
    return .error (context "failed to get volume metadata" failure)
  | .ok volume =>
    let attachedAt ← attachTime attachedInstance
    match ←
      putVolume volume (volume.attach (writtenState state attachedInstance)
        attachedInstance deviceName attachedAt) with
    | .error failure =>
      return .error (context "failed to write volume metadata" failure)
    | .ok () => return .ok ()

/-! ## Modification -/

/-- `ModifyVolumeInput`; a parameter that is not given is `none`. -/
structure ModifyVolumeInput where
  volumeID : Option String
  size : Option Int
  volumeType : Option String
  iops : Option Int
deriving DecidableEq, Repr

/-- The type of a volume whose document names none. -/
def defaultVolumeType (volumeType : String) : String :=
  if volumeType = "" then "gp3" else volumeType

/-- The document after a modification, and its record of it. -/
def modified (volume : Volume) (input : ModifyVolumeInput) (size time : Int) : Volume :=
  let volumeType := input.volumeType.getD volume.volumeType
  let iops := input.iops.getD volume.iops
  { volume with
    capacityGiB := size.toNat
    volumeType := volumeType
    iops := iops
    modification := some
      { modificationState := "completed"
        progress := 100
        originalSize := volume.capacityGiB
        originalIOPS := volume.iops
        originalVolumeType := defaultVolumeType volume.volumeType
        targetSize := size
        targetIOPS := iops
        targetVolumeType := defaultVolumeType volumeType
        startTime := time
        endTime := time } }

/-- The states and attachments `modifyVolume` refuses. -/
def refusesModification (volume : Volume) (stoppedOwner : String) : Bool :=
  let attached := decide (volume.attachedInstance ≠ "") && decide (volume.state = .inUse)
  decide (volume.state = .creating) || attached != decide (stoppedOwner ≠ "") ||
    attached && decide (volume.attachedInstance ≠ stoppedOwner)

/-- The number of bytes in a GiB. -/
def gibibyte : Int := 1024 * 1024 * 1024

/-- `modifyVolume`: grow a volume. -/
def modifyVolumeFor (input : ModifyVolumeInput) (account stoppedOwner : String) :
    Session (Except ErrorCode (Option VolumeModification)) := do
  match input.volumeID with
  | none => return .error .invalidVolumeIDMalformed
  | some volumeID =>
    if volumeID = "" then
      return .error .invalidVolumeIDMalformed
    else
      match ← getVolume account volumeID .inspect with
      | .error _ => return .error .invalidVolumeNotFound
      | .ok volume =>
        if volume.tenantID ≠ account then
          return .error .invalidVolumeNotFound
        else
          match input.size with
          | none => return .error .invalidParameterValue
          | some size =>
            if size ≤ volume.capacityGiB then
              return .error .invalidParameterValue
            else if refusesModification volume stoppedOwner then
              return .error .incorrectState
            else
              match ← ask (.expandVolume volumeID volume.providerHandle (size * gibibyte)) with
              | .error _ => return .error .serverInternal
              | .ok () =>
                let time ← now
                let changed := modified volume input size time
                match ← putVolume volume changed with
                | .error _ => return .error .serverInternal
                | .ok () => return .ok changed.modification

/-- `ModifyVolume`: refuses an attached volume. -/
def modifyVolume (input : ModifyVolumeInput) (account : String) :
    Session (Except ErrorCode (Option VolumeModification)) :=
  modifyVolumeFor input account ""

/-! ## Obligations -/

/-- `publishingNodes`: the nodes that may still export for an instance. -/
def publishingNodes (instanceID : String) : Session (Except Failure (List String)) := do
  match ← ask (.lastNode instanceID) with
  | .error failure =>
    return .error (context ("read instance " ++ instanceID) failure)
  | .ok found =>
    if found ≠ none ∧ found ≠ some "" then
      return .ok found.toList
    else
      let members ← ask .members
      if members = [] then
        return .error ⟨[], "instance " ++ instanceID ++
          " has no record and no cluster member is known"⟩
      else
        return .ok members

/-- Record one obligation per node. -/
def recordEach (volume : Volume) (time : Int) :
    List String → Session (Except Failure Unit)
  | [] => return .ok ()
  | node :: nodes => do
      match ←
        ask (.recordObligation
          { volumeID := volume.volumeID
            accountID := volume.tenantID
            handle := volume.providerHandle
            nodeID := node
            instanceID := volume.attachedInstance
            attachedAt := volume.attachedAt
            recordedAt := time }) with
      | .error failure => return .error failure
      | .ok () => recordEach volume time nodes

/-- `recordObligations`. -/
def recordObligations (volume : Volume) (nodes : List String) : Session (Except Failure Unit) := do
  let time ← now
  recordEach volume time nodes

/-- `OwedUnpublish`: the publish a terminated instance leaves behind. -/
structure OwedUnpublish where
  nodeID : String
  instanceID : String
deriving DecidableEq, Repr

/-- `recordTerminateObligation`. -/
def recordTerminateObligation (account volumeID : String) (owed : OwedUnpublish) :
    Session (Except Failure Unit) := do
  if owed.nodeID = "" then
    return .ok ()
  else
    match ← getVolume account volumeID .inspect with
    | .error failure =>
      if failure.is .noSuchKey then
        return .ok ()
      else
        return .error (context ("read volume " ++ volumeID ++
            " before recording its unpublish obligation")
          failure)
    | .ok volume =>
      if volume.attachedInstance ≠ owed.instanceID then
        return .ok ()
      else
        match ← recordObligations volume [owed.nodeID] with
        | .error failure =>
          return .error (context ("record unpublish obligation for " ++ volumeID) failure)
        | .ok () => return .ok ()

end Spinifex.Ebs
