import Spinifex.Ebs.Hotplug
import Spinifex.Ebs.Stopped

/-!
# Terminating an instance

A terminate releases or deletes every volume the instance's record lists, one
after the other, and goes on when one of them fails.  The stopped and the
running path are written separately and differ in which failures they report.

What a terminate does with addresses, interfaces, firmware stores and tags
changes no volume and is left out.  A terminate of a running instance answers
its caller first; its work is taken to be part of the request.
-/

namespace Spinifex.Ebs

open Aws Concurrency Go

/-- The error says that the volume is gone. -/
def TeardownError.absent : TeardownError → Bool
  | .failure cause =>
    cause.is .noSuchKey || contains ".NotFound".toList cause.text.toList
  | .code answered => answered.isNotFound

/-- Nothing is owed. -/
def OwedUnpublish.none : OwedUnpublish := ⟨"", ""⟩

/-- `owedFor`: what clearing a volume that is still exported leaves behind. -/
def owedFor (node id : String) (leftPublished : List String) (volumeID : String) : OwedUnpublish :=
  if volumeID ∈ leftPublished then ⟨node, id⟩ else .none

/-! ## Stopped instances -/

/-- `owedFor` of the stopped path: a record without a node owes nothing. -/
def stoppedOwedFor (id : String) (vm : VM) (volumeID : String) : OwedUnpublish :=
  if vm.lastNode = "" then .none else owedFor vm.lastNode id vm.unpublishOwed volumeID

/-- `deleteInstanceVolumes`: the requests that are left, and the last error. -/
def deleteInstanceVolumes (id : String) (vm : VM) (lastErr : Option TeardownError) :
    List EBSRequest → Session (Option TeardownError)
  | [] => return lastErr
  | request :: requests => do
      if request.efi then
        let _ ← ask (.deleteInternal request.name)
        deleteInstanceVolumes id vm lastErr requests
      else if request.deleteOnTermination then
        match ←
          deleteVolumeOnTerminate request.name vm.accountID (stoppedOwedFor id vm request.name) with
        | .error error => deleteInstanceVolumes id vm (some error) requests
        | .ok () => deleteInstanceVolumes id vm lastErr requests
      else
        match ←
          detachVolumeOnTerminate request.name vm.accountID (stoppedOwedFor id vm request.name) with
        | .error error =>
          deleteInstanceVolumes id vm (if error.absent then lastErr else some error) requests
        | .ok () => deleteInstanceVolumes id vm lastErr requests

/-- Remove the record of a terminated instance, with one retry. -/
def dropStopped (id : String) : Session (Except ErrorCode Unit) := do
  match ← call (.deleteStopped id) with
  | .ok () => return .ok ()
  | .error _ =>
    let _ ← call (.deleteStopped id)
    return .ok ()

/-- `TerminateStoppedInstance`. -/
def terminateStoppedInstance (id account : String) : Session (Except ErrorCode Unit) := do
  if id = "" then
    return .error .missingParameter
  else
    match ← call (.loadStopped id) with
    | .error _ => return .error .serverInternal
    | .ok none => return .error .invalidInstanceIDNotFound
    | .ok (some vm) =>
      if vm.status ≠ .stopped then
        return .error .incorrectInstanceState
      else if isInstanceVisible account vm.accountID = false then
        return .error .invalidInstanceIDNotFound
      else if vm.terminationProtected then
        return .error .operationNotPermitted
      else
        let _ ← deleteInstanceVolumes id vm none vm.ebsRequests
        match ← ask (.writeTerminated id) with
        | .error _ => return .error .serverInternal
        | .ok () => dropStopped id

/-! ## Running instances -/

namespace Manager

/-- `Unmount`: the volumes that are left exported. -/
def unmountVolumes (node : String) :
    List EBSRequest → Session (List String)
  | [] => return []
  | request :: requests => do
      match ← unmountOne node request with
      | .error _ => return request.name :: (← unmountVolumes node requests)
      | .ok () => unmountVolumes node requests

/-- Delete a volume, or only detach it, as its request says. -/
def releaseOnTerminate (request : EBSRequest) (account : String)
    (owed : OwedUnpublish) : Session (Except TeardownError Unit) :=
  if request.deleteOnTermination then
    deleteVolumeOnTerminate request.name account owed
  else
    detachVolumeOnTerminate request.name account owed

/-- `DeleteVolumes`: the requests that are left, and the first error. -/
def deleteVolumes (node id account : String) (leftPublished : List String)
    (firstErr : Option TeardownError) :
    List EBSRequest → Session (Option TeardownError)
  | [] => return firstErr
  | request :: requests => do
      let owed := owedFor node id leftPublished request.name
      if request.efi then
        match ← ask (.deleteInternal request.name) with
        | .error failure =>
          deleteVolumes node id account leftPublished
            (firstErr <|> some (.failure failure)) requests
        | .ok () =>
          deleteVolumes node id account leftPublished firstErr requests
      else
        match ← releaseOnTerminate request account owed with
        | .error error =>
          deleteVolumes node id account leftPublished (if error.absent then
              firstErr
            else
              firstErr <|> some error)
            requests
        | .ok () =>
          deleteVolumes node id account leftPublished firstErr requests

/-- Record which volumes a terminate left exported. -/
def recordOwed (owed : List String) (vm : VM) : VM :=
  { vm with unpublishOwed := owed }

def recordShuttingDown (vm : VM) : VM :=
  { vm with status := .shuttingDown }

/-- `terminateCleanup`: stop the guest, unmount, release the volumes. -/
def terminateCleanup (node id : String) : Session (Option TeardownError) := do
  call (.shutdown id)
  match ← call (.get id) with
  | none => return none
  | some vm =>
    let owed ← unmountVolumes node vm.ebsRequests
    call (.updateState id (recordOwed owed))
    deleteVolumes node id vm.accountID owed none vm.ebsRequests

/-- `finalizeTerminated`: write the record elsewhere and drop it here. -/
def finalizeTerminated (id : String) : Session (Except Failure Unit) := do
  match ← ask (.writeTerminated id) with
  | .error failure => return .error failure
  | .ok () =>
    call (.forget id)
    return .ok ()

/-- `Manager.Terminate`. -/
def terminate (node id : String) : Session (Except Failure Unit) := do
  match ← call (.get id) with
  | none => return .ok ()
  | some vm =>
    if vm.status = .shuttingDown ∨ vm.status = .terminated then
      return .ok ()
    else
      match ← ask (.transition id .shuttingDown) with
      | .error failure => return .error failure
      | .ok () =>
        call (.updateState id recordShuttingDown)
        let _ ← terminateCleanup node id
        finalizeTerminated id

end Manager

/-- `StopOrTerminateInstance` for a terminate, and its goroutine. -/
def Daemon.handleTerminateInstance
    (node id account : String) : Session (Except ErrorCode Unit) := do
  match ← call (.get id) with
  | none => return .error .invalidInstanceIDNotFound
  | some vm =>
    if isInstanceVisible account vm.accountID = false then
      return .error .invalidInstanceIDNotFound
    else if vm.terminationProtected then
      return .error .operationNotPermitted
    else
      match ← Manager.terminate node id with
      | .error _ => return .error .incorrectInstanceState
      | .ok () => return .ok ()

/-- A terminate, sent to the node that runs the instance. -/
def Gateway.terminateInstance (id account : String) : Session (Except ErrorCode Unit) := do
  match ← call (.route id) with
  | some node => Daemon.handleTerminateInstance node id account
  | none => terminateStoppedInstance id account

end Spinifex.Ebs
