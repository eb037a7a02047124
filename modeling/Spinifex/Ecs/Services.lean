import Spinifex.Concurrency.Program
import Spinifex.Concurrency.Shelf
import Spinifex.Ecs.Deployments

/-!
# The service operations

`reconcileService` launches tasks of the PRIMARY deployment within the ceiling,
stops superseded and surplus tasks above the floor, advances the rollout and
writes the record back if the pass changed it.  `UpdateService`, `DeleteService`
and the accounting of failed tasks read the record, change it and write it back.

All of them are programs over the store: reading and writing the record of the
one service, and asking for everything else, which is launches, stop requests,
the tasks of the cluster, task definitions, the clock and random identifiers.
-/

namespace Spinifex.Ecs

open Go Concurrency

/-! ## Calls -/

/-- The clock reading and the random identifiers an operation may use. -/
structure Draws where
  now : Time
  placementEventID : String
  rolloutEventID : String
  deploymentID : String
deriving DecidableEq, Repr

/-- What a launch asks `RunTask` for. -/
structure RunTaskInput where
  cluster : String
  taskDefinition : String
  count : Nat
  group : String
  startedBy : String
  settings : LaunchSettings
deriving DecidableEq, Repr

/-- The calls of the service operations. -/
inductive Call where
  | getService
  | putService (record : ServiceRecord)
  | listTasks
  | runTask (input : RunTaskInput)
  | requestStop (task : TaskRecord) (reason : String)
  | resolveTaskDef (ref : String)
  | draws

/-- The replies; a launch and a stop request only log their failures. -/
def Call.Reply : Call → Type
  | .getService => Except String (Option ServiceRecord)
  | .putService _ => WriteReply String
  | .listTasks => Except String (List TaskRecord)
  | .runTask _ => Unit
  | .requestStop _ _ => Unit
  | .resolveTaskDef _ => Except String TaskDefinition
  | .draws => Draws

/-- A program of the service operations. -/
abbrev Action : Type → Type := Program Call Call.Reply

/-- Read the record. -/
def getService : Action (Except String (Option ServiceRecord)) :=
  .request Call.getService

/-- Write the record. -/
def putService (record : ServiceRecord) : Action (Except String Unit) := do
  let reply : WriteReply String ← .request (Call.putService record)
  return reply.result

/-- `listTaskRecords`. -/
def listTaskRecords : Action (Except String (List TaskRecord)) :=
  .request Call.listTasks

/-- `RunTask`, whose failures are only logged. -/
def runTask (input : RunTaskInput) : Action Unit :=
  .request (Call.runTask input)

/-- `requestStopTask`, whose failures are only logged. -/
def requestStopTask (task : TaskRecord) (reason : String) : Action Unit :=
  .request (Call.requestStop task reason)

/-- `resolveTaskDef`. -/
def resolveTaskDef (ref : String) : Action (Except String TaskDefinition) :=
  .request (Call.resolveTaskDef ref)

/-- The clock and the random identifiers. -/
def takeDraws : Action Draws :=
  .request Call.draws

/-! ## A reconcile pass -/

/-- A task that the service counts: neither stopped nor asked to stop. -/
def TaskRecord.counts (name : String) (task : TaskRecord) : Bool :=
  task.group = serviceTaskGroup name && task.lastStatus ≠ .stopped && task.desiredStatus ≠ .stopped

/-- `listServiceTasks`. -/
def listServiceTasks (name : String) : Action (Except String (List TaskRecord)) := do
  let all ← listTaskRecords
  return all.map (List.filter (TaskRecord.counts name))

/-- `deploymentSupersededReason`. -/
def deploymentSupersededReason : String := "Superseded by new deployment"

def scaledInReason : String := "Service scaled in"

/-- The tasks of the PRIMARY deployment, or the others, with a status. -/
def classOf (primaryID : String) (isPrimary : Bool) (status : TaskStatus)
    (tasks : List TaskRecord) : List TaskRecord :=
  tasks.filter fun task => decide (task.deployment = primaryID) = isPrimary &&
    task.lastStatus = status

/-- The stop requests of `stopSurplusTasks`, in their order. -/
def surplusStops (tasks : List TaskRecord) (primaryID : String)
    (desired runningTotal minCount : Int) : List (TaskRecord × String) :=
  let oldPending := classOf primaryID false .pending tasks
  let oldRunning := classOf primaryID false .running tasks
  let primaryPending := classOf primaryID true .pending tasks
  let primaryRunning := classOf primaryID true .running tasks
  let primarySurplus := (primaryPending.length + primaryRunning.length - desired).toNat
  let runBudget := (runningTotal - minCount).toNat
  let pendingIn := primaryPending.take primarySurplus
  let runningOut := oldRunning.take runBudget
  let runningIn := primaryRunning.take
    (min (primarySurplus - pendingIn.length) (runBudget - runningOut.length))
  oldPending.map (·, deploymentSupersededReason) ++ pendingIn.map (·, scaledInReason) ++
    runningOut.map (·, deploymentSupersededReason) ++ runningIn.map (·, scaledInReason)

/-- `stopSurplusTasks`. -/
def stopSurplusTasks : List (TaskRecord × String) → Action Unit
  | [] => pure ()
  | (task, reason) :: rest => do
      requestStopTask task reason
      stopSurplusTasks rest

/-- The ceiling a pass launches under. -/
def maxCount (record : ServiceRecord) : Int :=
  (int64 (record.desiredCount * record.maximumPercent)).tdiv 100

/-- The floor a pass stops above. -/
def minCount (record : ServiceRecord) : Int :=
  ceilPercent record.desiredCount record.minimumHealthyPercent

/-- The PRIMARY deployment wants more tasks and may launch now. -/
def wantsLaunch (record : ServiceRecord) (primary : Deployment) (now : Time) : Bool :=
  primary.runningCount + primary.pendingCount < record.desiredCount &&
    primary.rolloutState ≠ .failed && primary.nextLaunchAt ≤ now

/-- How many tasks a pass launches if it may. -/
def launchCount (record : ServiceRecord) (primary : Deployment) (running pending : Nat) : Nat :=
  (min (record.desiredCount - (primary.runningCount + primary.pendingCount))
    (max (maxCount record - (running + pending)) 0)).toNat

/-- What `launchDeploymentTasks` asks for. -/
def launchInput (record : ServiceRecord) (primary : Deployment) (count : Nat) : RunTaskInput where
  cluster := record.cluster
  taskDefinition := primary.taskDefARN
  count := count
  group := serviceTaskGroup record.name
  startedBy := deploymentStartedBy primary.id
  settings := record.settings

def launch (record : ServiceRecord) (primary : Deployment)
    (running pending : Nat) (draws : Draws) : Action ServiceRecord :=
  if wantsLaunch record primary draws.now then
    let count := launchCount record primary running pending
    if 0 < count then do
      runTask (launchInput record primary count)
      let backoff := launchBackoff primary.failedTasks
      return if 0 < backoff then
        { record with
          deployments := modifyPrimary (fun primary =>
              { primary with nextLaunchAt := draws.now + backoff })
            record.deployments }
      else
        record
    else
      let message := "(service " ++ record.name ++ ") was unable to place a task."
      return if record.events.head?.map ServiceEvent.message = some message then
        record
      else
        record.appendServiceEvent draws.now draws.placementEventID message
  else
    return record

/-- `persistServiceIfChanged`, with the counts of the pass. -/
def persistServiceIfChanged (before record : ServiceRecord) (running pending : Nat) :
    Action (ServiceRecord × Except String Unit) := do
  let record := { record with runningCount := running, pendingCount := pending }
  if before = record then
    return (record, .ok ())
  else
    let written ← putService record
    return (record, written)

/-- The part of a pass after the breaker. -/
def advance (before record : ServiceRecord) (primary : Deployment)
    (tasks : List TaskRecord) (draws : Draws) : Action (ServiceRecord × Except String Unit) := do
  let running := countOf .running tasks
  let pending := countOf .pending tasks
  let launched ← launch record primary running pending draws
  stopSurplusTasks (surplusStops tasks primary.id record.desiredCount running (minCount record))
  let fresh ← listServiceTasks record.name
  match fresh with
  | .error _ =>
    persistServiceIfChanged before
      (updateRolloutState launched record.desiredCount draws.now draws.rolloutEventID)
      running pending
  | .ok fresh =>
    persistServiceIfChanged before (updateRolloutState (launched.tallyDeployments fresh)
        record.desiredCount draws.now draws.rolloutEventID)
      (countOf .running fresh) (countOf .pending fresh)

/-- The record a pass works on. -/
def prepared (record : ServiceRecord) (tasks : List TaskRecord) (now : Time) : ServiceRecord :=
  (record.normalizeDeploymentConfig.ensurePrimaryDeployment now)
    |>.tallyDeployments tasks

/-- `reconcileService`: the record as the pass leaves it, and its error. -/
def reconcileService (record : ServiceRecord) : Action (ServiceRecord × Except String Unit) :=
  if record.status ≠ .active then
    return (record, .ok ())
  else do
    let draws ← takeDraws
    let listed ← listServiceTasks record.name
    match listed with
    | .error failure =>
      return (record.normalizeDeploymentConfig.ensurePrimaryDeployment draws.now, .error failure)
    | .ok tasks =>
      let current := prepared record tasks draws.now
      match current.primaryDeployment with
      | none =>
        persistServiceIfChanged record current (countOf .running tasks) (countOf .pending tasks)
      | some primary =>
        if trips current primary then
          persistServiceIfChanged record
            (tripCircuitBreaker current primary draws.now draws.rolloutEventID draws.deploymentID)
            (countOf .running tasks) (countOf .pending tasks)
        else
          advance record current primary tasks draws

/-! ## The requests -/

inductive RequestError where
  | serviceNotFound
  | store (text : String)
deriving DecidableEq, Repr

/-- What an `UpdateService` request may change. -/
structure UpdateServiceInput where
  desiredCount : Option Int := none
  taskDefinition : String := ""
  deploymentConfiguration : Option DeploymentConfiguration := none
  network : Option (List String × List String × String) := none
  enableECSManagedTags : Option Bool := none
deriving DecidableEq, Repr

/-- The changes of an update other than that of the task definition. -/
def applyUpdate
    (input : UpdateServiceInput) (record : ServiceRecord) (now : Time) : ServiceRecord :=
  let record := record.ensurePrimaryDeployment now
  let record := match input.deploymentConfiguration with
    | none => record
    | some config => record.applyDeploymentConfig (some config)
  let record := match input.network with
    | none => record
    | some (subnets, securityGroups, assignPublicIP) =>
      { record with
        settings :=
          { record.settings with
            subnets, securityGroups, assignPublicIP } }
  { record with
    enableECSManagedTags := input.enableECSManagedTags.getD record.enableECSManagedTags
    desiredCount := input.desiredCount.getD record.desiredCount }

/-- A new task definition starts a deployment if it is not the PRIMARY's. -/
def applyTaskDefinition (record : ServiceRecord) (definition : TaskDefinition)
    (draws : Draws) : ServiceRecord :=
  if record.primaryDeployment.map Deployment.taskDefARN = some definition.arn then
    record
  else
    record.startDeployment draws.now draws.deploymentID definition

/-- The record with the task definition of an update. -/
def resolveUpdate (input : UpdateServiceInput) (record : ServiceRecord)
    (draws : Draws) : Action (Except String ServiceRecord) :=
  if input.taskDefinition = "" then
    return .ok record
  else do
    let resolved ← resolveTaskDef input.taskDefinition
    return resolved.map fun definition => applyTaskDefinition record definition draws

/-- The record an update stores, and then the pass it runs. -/
def storeUpdate (record : ServiceRecord) : Action (Except RequestError ServiceRecord) := do
  let written ← putService record
  match written with
  | .error failure => return .error (.store failure)
  | .ok () =>
    let pass ← reconcileService record
    return .ok pass.1

/-- `UpdateService`. -/
def updateService (input : UpdateServiceInput) : Action (Except RequestError ServiceRecord) := do
  let stored ← getService
  match stored with
  | .error failure => return .error (.store failure)
  | .ok none => return .error .serviceNotFound
  | .ok (some record) =>
    if record.status = .inactive then
      return .error .serviceNotFound
    else
      let draws ← takeDraws
      let resolved ← resolveUpdate input (applyUpdate input record draws.now) draws
      match resolved with
      | .error failure => return .error (.store failure)
      | .ok record => storeUpdate { record with updatedAt := draws.now }

/-- `DeleteService`. -/
def deleteService : Action (Except RequestError ServiceRecord) := do
  let stored ← getService
  match stored with
  | .error failure => return .error (.store failure)
  | .ok none => return .error .serviceNotFound
  | .ok (some record) =>
    let draws ← takeDraws
    let listed ← listServiceTasks record.name
    match listed with
    | .error failure => return .error (.store failure)
    | .ok tasks =>
      stopSurplusTasks (tasks.map (·, "Service deleted"))
      let deleted :=
        { record with
          desiredCount := 0
          status := .inactive
          runningCount := 0
          pendingCount := 0
          updatedAt := draws.now }
      let written ← putService deleted
      return (written.mapError RequestError.store).map fun _ => deleted

/-- Count a failed task on the first deployment with an identifier. -/
def countFailure (now : Time) (id : String) :
    List Deployment → List Deployment
  | [] => []
  | deployment :: rest =>
    if deployment.id = id then
      { deployment with failedTasks := deployment.failedTasks + 1, updatedAt := now } :: rest
    else
      deployment :: countFailure now id rest

/-- `recordDeploymentFailure`, for a task of the service. -/
def recordDeploymentFailure (task : TaskRecord) : Action Unit :=
  if task.deployment = "" then
    return ()
  else do
    let stored ← getService
    match stored with
    | .error _ => return ()
    | .ok none => return ()
    | .ok (some record) =>
      if record.deployments.any fun deployment => deployment.id = task.deployment then do
        let draws ← takeDraws
        let _ ← putService
          { record with deployments := countFailure draws.now task.deployment record.deployments }
        return ()
      else
        return ()

end Spinifex.Ecs
