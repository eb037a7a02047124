import Spinifex.Ebs.Footprint

/-!
# Programs that attach a volume

An attach is followed here once, for any property of programs that sequencing
keeps.  Its stages are named; what is known at a stage, and why the calls that
write lead from one stage to the next, is left to each property.
-/

namespace Spinifex.Ebs

open Aws Concurrency Go Manager

/--
How far an attach has come, with what its last step returned.  A running
instance is `routed` to its node, and the volume is `mounted` there, `fitted`
with a port and `claimed` under the hot-plug lock; at `spared` it has been given up. -/
inductive Stage where
  | idle
  | routed (node : Option String)
  | checked (node : String) (read : Except Failure Volume)
  | ready (node : String)
  | locked (node : String)
  | chosen (node device : String)
  | mounted (node : String) (result : Except Failure EBSRequest)
  | fitted (node : String) (request : EBSRequest)
  | claimed (node : String) (request : EBSRequest) (result : Except Failure Unit)
  | spared
  | ended (result : Except Failure String)
  | released (result : Except Failure String)
  | loaded (vm : Except ErrorCode VM)
  | found (vm : VM) (read : Except Failure Volume)
  | answered (reply : Except ErrorCode VolumeAttachment)

/-- The stages under the lock at which an attach may give up. -/
inductive Stage.Held : Stage → Prop where
  | chosen {node device : String} : Held (.chosen node device)
  | mounted {node : String} {result : Except Failure EBSRequest} : Held (.mounted node result)
  | fitted {node : String} {request : EBSRequest} : Held (.fitted node request)
  | claimed {node : String} {request : EBSRequest} {failure : Failure} :
    Held (.claimed node request (.error failure))

/-- A property of programs between two stages of an attach. -/
structure Attaches (id volumeID device account : String) where
  holds {First : Type} (before : Stage) (program : Session First) (after : First → Stage) : Prop
  done {First : Type} {result : First} {stage : Stage} {after : First → Stage}
    (same : stage = after result) : holds stage (pure result) after
  bind {First Second : Type} {before : Stage} {program : Session First}
    {next : First → Session Second} {middle : First → Stage} {after : Second → Stage}
    (first : holds before program middle)
    (rest : ∀ result, holds (middle result) (next result) after) :
    holds before (program >>= next) after
  reading {First : Type} {program : Session First} {stage : Stage} (reading : Reading program) :
    holds stage program fun _ => stage
  refuse (stage : Stage) (code : ErrorCode) : holds stage (pure (.error code)) .answered
  route : holds .idle (call (.route id)) .routed
  check (node : String) :
    holds (.routed (some node)) (getVolume account volumeID .inspect) (.checked node)
  attachUnavailable {node : String} {volume : Volume} (unavailable : volume.state ≠ .available) :
    holds (.checked node (.ok volume))
      (Daemon.attachUnavailable id volumeID device volume) .answered
  zone {node : String} {volume : Volume} (available : volume.state = .available) :
    holds (.checked node (.ok volume)) (ask .zone) fun _ => .ready node
  decline (node : String) (failure : Failure) :
    holds (.ready node) (pure (.error failure)) .released
  lock (node : String) : holds (.ready node) (call (.lock id)) fun _ => .locked node
  attachDevice (node : String) :
    holds (.locked node) (Manager.attachDevice id device) (.chosen node)
  mountOne {node chosen : String} (given : chosen ≠ "") :
    holds (.chosen node chosen) (mountOne node (.new volumeID chosen false)) (.mounted node)
  requests (node : String) (request : EBSRequest) :
    holds (.mounted node (.ok request)) (Manager.requests id) fun listed =>
      .fitted node { request with hotplugPort := freeHotplugEBSPort listed }
  qmp {node : String} {request : EBSRequest} {command : QMPCommand}
    (passive : (Op.qmp id request.name command).Passive) :
    holds (.fitted node request) (sendQMPCommand id request.name command)
      fun _ => .fitted node request
  abandon {First : Type} {program : Session First} {stage : Stage} (held : stage.Held)
    (passive : Passive program) : holds stage program fun _ => .spared
  fail (failure : Failure) : holds .spared (pure (.error failure)) .ended
  claim (node owner : String) (request : EBSRequest) : holds (.fitted node request)
    (updateVolumeState owner request.name .inUse id request.deviceName) (.claimed node request)
  plugDevice {node owner : String} {request : EBSRequest} (ported : request.hotplugPort ≠ 0) :
    holds (.claimed node request (.ok ())) (Manager.plugDevice node id owner request) .ended
  unlock (result : Except Failure String) :
    holds (.ended result) (call (.unlock id)) fun _ => .released result
  respond (chosen : String) : holds (.released (.ok chosen))
    (Daemon.respondWithVolumeAttachment volumeID id chosen .attached) .answered
  loadVisible : holds .idle (loadVisible id account) .loaded
  getVolume (vm : VM) : holds (.loaded (.ok vm)) (getVolume account volumeID .inspect) (.found vm)
  claimForStopped {vm : VM} {volume : Volume} {chosen : String} {boot : Bool}
    (available : volume.state = .available)
    (picked : stoppedAttachDevice vm device = .ok (chosen, boot)) :
    holds (.found vm (.ok volume)) (claimForStopped id chosen boot volume) .answered

namespace Attaches

variable {id volumeID device : String} (walk : Attaches id volumeID device account)
    {stage : Stage} {failure : Failure} {node owner : String} {request : EBSRequest}

/-! ## Under the hot-plug lock -/

theorem giveUp (held : stage.Held) : walk.holds stage (pure (.error failure)) .ended :=
  walk.bind (walk.abandon held (Program.only_pure ())) fun _ => walk.fail _

/-- An attach that gives up unpublishes the volume. -/
theorem unmount (held : stage.Held) :
    walk.holds stage (do
      let _ ← unmountOne node request
      return .error failure) .ended :=
  walk.bind (walk.abandon held (passive_unmountOne _ _)) fun _ => walk.fail _

variable (ported : request.hotplugPort ≠ 0)

include ported

theorem claimVolume :
    walk.holds (.fitted node request) (claimVolume node id owner request) .ended := by
  refine walk.bind (walk.claim _ _ _) (either (fun _ => ?_) fun done => walk.plugDevice ported)
  exact walk.bind (walk.abandon .claimed (passive_rollbackHotAttach _ _ _)) fun _ => walk.fail _

theorem backVolume :
    walk.holds (.fitted node request) (backVolume node id owner request) .ended := by
  refine walk.bind (walk.qmp trivial) (either (fun _ => walk.unmount .fitted) fun done => ?_)
  refine walk.bind (walk.qmp trivial) (either (fun _ => ?_) fun done => walk.claimVolume ported)
  exact walk.bind (walk.qmp trivial) fun _ => walk.unmount .fitted

omit ported

theorem attachMounted :
    walk.holds (.mounted node (.ok request)) (attachMounted node id owner request) .ended := by
  refine walk.bind (walk.reading (reading_checkExport _))
    (either (fun _ => walk.unmount .mounted) fun done => ?_)
  refine walk.bind (walk.requests _ _) fun listed => ?_
  dsimp only
  split
  · exact walk.unmount .fitted
  next ported => exact walk.backVolume ported

theorem attachLocked :
    walk.holds (.locked node) (attachLocked node id owner volumeID device) .ended := by
  refine walk.bind (walk.attachDevice _) fun chosen => ?_
  split
  · exact walk.giveUp .chosen
  next given =>
    refine walk.bind (walk.mountOne given) (either (fun _ => ?_) fun request => walk.attachMounted)
    dsimp only
    split
    · exact walk.unmount .mounted
    · exact walk.giveUp .mounted

theorem attachVolume :
    walk.holds (.ready node) (attachVolume node id volumeID device) .released := by
  refine walk.bind (walk.reading (reading_call trivial))
    (Option.forall.2 ⟨walk.decline _ _, fun vm => ?_⟩)
  dsimp only
  split
  · exact walk.decline _ _
  split
  · exact walk.decline _ _
  refine walk.bind (walk.lock _) fun _ => ?_
  refine walk.bind walk.attachLocked fun result => ?_
  exact walk.bind (walk.unlock _) fun _ => walk.done rfl

/-! ## Requests -/

theorem attachChecked :
    walk.holds (.routed (some node)) (Daemon.attachChecked node id volumeID device account)
      .answered := by
  unfold Daemon.attachChecked getVolumeMetadata
  rw [Program.bind_assoc]
  refine walk.bind (walk.check _) (either (fun _ => walk.refuse _ _) fun volume => ?_)
  dsimp only [Program.pure_eq, Program.bind_done]
  split
  · exact walk.refuse _ _
  split
  next unavailable => exact walk.attachUnavailable unavailable
  next available =>
    refine walk.bind (walk.zone (not_not.1 available)) fun zone => ?_
    split
    · exact walk.refuse _ _
    exact walk.bind walk.attachVolume
      (either (fun _ => walk.refuse _ _) fun chosen => walk.respond _)

theorem handleAttachVolume :
    walk.holds (.routed (some node)) (Daemon.handleAttachVolume node id volumeID device account)
      .answered := by
  refine walk.bind (walk.reading (reading_commandInstance _ _))
    (either (fun _ => walk.refuse _ _) fun vm => ?_)
  dsimp only
  split
  · exact walk.refuse _ _
  refine walk.bind (walk.reading (reading_call trivial))
    (Option.forall.2 ⟨walk.refuse _ _, fun vm => ?_⟩)
  dsimp only
  split
  · exact walk.refuse _ _
  · exact walk.attachChecked

theorem attachVolumeToStopped :
    walk.holds .idle (Ebs.attachVolumeToStopped id volumeID device account) .answered := by
  unfold Ebs.attachVolumeToStopped
  split
  · exact walk.refuse _ _
  refine walk.bind walk.loadVisible (either (fun _ => walk.refuse _ _) fun vm => ?_)
  refine walk.bind (walk.getVolume _) (either (fun _ => ?_) fun volume => ?_)
  · dsimp only
    split <;> exact walk.refuse _ _
  dsimp only
  split
  · exact walk.refuse _ _
  split
  · exact walk.refuse _ _
  next available =>
    refine walk.bind (walk.reading (reading_ask _)) fun zone => ?_
    split
    · exact walk.refuse _ _
    split
    · exact walk.refuse _ _
    next picked => exact walk.claimForStopped (not_not.1 available) picked

/-- A reply that arrives is the handler's. -/
theorem natsRequest (handled : walk.holds stage handler .answered) :
    walk.holds stage (Gateway.natsRequest handler) .answered := by
  refine walk.bind handled fun reply => ?_
  refine walk.bind (walk.reading (reading_ask _)) fun arrives => ?_
  split
  · exact walk.done rfl
  · exact walk.refuse _ _

theorem gatewayAttachVolume (walk : Attaches (input.instanceID.getD "") (input.volumeID.getD "")
      (input.device.getD "") account) :
    walk.holds .idle (Gateway.attachVolume input account) .answered := by
  unfold Gateway.attachVolume
  dsimp only
  split
  · exact walk.refuse _ _
  refine walk.bind (walk.reading (reading_call trivial)) fun stopped => ?_
  split
  · exact walk.natsRequest walk.attachVolumeToStopped
  refine walk.bind walk.route (Option.forall.2 ⟨?_, fun node => ?_⟩)
  · refine walk.bind (walk.reading (reading_call trivial)) fun stopped => ?_
    split <;> exact walk.refuse _ _
  · exact walk.natsRequest walk.handleAttachVolume

end Attaches

end Spinifex.Ebs
