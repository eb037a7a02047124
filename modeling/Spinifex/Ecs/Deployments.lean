import Mathlib.Algebra.Ring.Int.Defs
import Spinifex.Go.Strings

/-!
# Services and their deployments

A service record names a desired count and keeps its deployments: one PRIMARY
and the superseded ones that are still draining.  A task names the deployment
that launched it, so the counts of a deployment are tallied from the tasks.

The functions here only compute on records.  A clock reading and the random
identifiers they use are arguments.
-/

namespace Spinifex.Ecs

open Go

/-! ## Records -/

/-- The status of a task; a report is taken over whatever it says. -/
inductive TaskStatus where
  | pending
  | running
  | stopped
  | other (text : String)
deriving DecidableEq, Repr

inductive ServiceStatus where
  | active
  | draining
  | inactive
deriving DecidableEq, Repr

inductive DeploymentStatus where
  | primary
  | active
deriving DecidableEq, Repr

/-- How far a deployment has been rolled out. -/
inductive RolloutState where
  | inProgress
  | completed
  | failed
deriving DecidableEq, Repr

/-- A point in time in nanoseconds; the zero time is zero. -/
abbrev Time : Type := Nat

/-- A task definition, as far as services use it. -/
structure TaskDefinition where
  arn : String
  family : String
  revision : Int
  networkMode : String
deriving DecidableEq, Repr

/-- A rollout of a task definition. -/
structure Deployment where
  id : String
  status : DeploymentStatus
  taskDefARN : String
  taskDefFamily : String
  taskDefRevision : Int
  desiredCount : Int
  runningCount : Int := 0
  pendingCount : Int := 0
  failedTasks : Int := 0
  rolloutState : RolloutState
  rolloutReason : String := ""
  nextLaunchAt : Time := 0
  createdAt : Time
  updatedAt : Time
deriving DecidableEq, Repr

structure ServiceEvent where
  id : String
  createdAt : Time
  message : String
deriving DecidableEq, Repr

/-- What a service tells every launch about networks and placement. -/
structure LaunchSettings where
  networkMode : String
  subnets : List String := []
  securityGroups : List String := []
  assignPublicIP : String := ""
  placementStrategy : String := ""
deriving DecidableEq, Repr

/-- The persisted state of a service. -/
structure ServiceRecord where
  name : String
  cluster : String
  taskDefFamily : String
  taskDefRevision : Int
  taskDefARN : String
  desiredCount : Int
  status : ServiceStatus
  settings : LaunchSettings
  enableECSManagedTags : Bool := false
  deploymentID : String
  runningCount : Int := 0
  pendingCount : Int := 0
  minimumHealthyPercent : Int := 0
  maximumPercent : Int := 0
  circuitBreakerEnable : Bool := false
  circuitBreakerRollback : Bool := false
  lastGoodTaskDefARN : String := ""
  deployments : List Deployment := []
  events : List ServiceEvent := []
  createdAt : Time
  updatedAt : Time
deriving DecidableEq, Repr

/-- `ContainerState`, and what a report says of a container. -/
structure ContainerState where
  name : String
  status : String
  containerID : String
  exitCode : Option Int := none
  gpuIDs : List String := []
deriving DecidableEq, Repr

/-- The persisted state of a task. -/
structure TaskRecord where
  taskID : String
  group : String := ""
  startedBy : String := ""
  containerInstanceID : String := ""
  desiredStatus : TaskStatus
  lastStatus : TaskStatus
  stoppedReason : String := ""
  reservedCPU : Int := 0
  reservedMemoryMiB : Int := 0
  gpu : Int := 0
  containers : List ContainerState := []
  networkMode : String := ""
  eniID : String := ""
  eniReleased : Bool := false
  eniPublicIP : String := ""
  eniEIPAllocationID : String := ""
  startedAt : Time := 0
  stoppedAt : Time := 0
deriving DecidableEq, Repr

/-! ## Names -/

/-- `deploymentStartedByPrefix`. -/
def deploymentStartedByPrefix : String := "ecs-svc/"

/-- `deploymentStartedBy`. -/
def deploymentStartedBy (id : String) : String :=
  deploymentStartedByPrefix ++ id

/-- `strings.CutPrefix`: the rest of a text, and whether it had the start. -/
def cutPrefix (text start : String) : String × Bool :=
  if start.toList.isPrefixOf text.toList then
    (String.ofList (text.toList.drop start.toList.length), true)
  else
    (text, false)

/-- `deploymentIDFromStartedBy`. -/
def deploymentIDFromStartedBy (startedBy : String) : String :=
  (cutPrefix startedBy deploymentStartedByPrefix).1

/-- `serviceTaskGroup`. -/
def serviceTaskGroup (name : String) : String :=
  "service:" ++ name

/-- The text after the last occurrence of a part. -/
def afterLast (part : List Char) : List Char → Option (List Char)
  | [] => none
  | rune :: text =>
    match afterLast part text with
    | some rest => some rest
    | none =>
      if part.isPrefixOf (rune :: text) then some ((rune :: text).drop part.length) else none

/-- `taskdefinition.ParseRef`. -/
def parseRef (ref : String) : String × Int :=
  let ref := (trimSpace ref).toList
  let ref := (afterLast "task-definition/".toList ref).getD ref
  match afterLast [':'] ref with
  | none => (String.ofList ref, 0)
  | some revision =>
    (String.ofList (ref.take (ref.length - revision.length - 1)),
      (parseInt (String.ofList revision)).getD 0)

/-- The deployment that launched a task. -/
def TaskRecord.deployment (task : TaskRecord) : String :=
  deploymentIDFromStartedBy task.startedBy

theorem deploymentIDFromStartedBy_startedBy (id : String) :
    deploymentIDFromStartedBy (deploymentStartedBy id) = id := by
  unfold deploymentIDFromStartedBy cutPrefix
  simp [deploymentStartedBy, deploymentStartedByPrefix]

/-! ## The deployment configuration -/

/-- `defaultMinimumHealthyPercent`. -/
def defaultMinimumHealthyPercent : Int := 100

/-- `defaultMaximumPercent`. -/
def defaultMaximumPercent : Int := 200

/-- `ceilPercent`. -/
def ceilPercent (count percent : Int) : Int :=
  if count ≤ 0 then 0 else (int64 (int64 (count * percent) + 99)).tdiv 100

/-- A deployment configuration as a request gives it. -/
structure DeploymentConfiguration where
  minimumHealthyPercent : Option Int := none
  maximumPercent : Option Int := none
  circuitBreaker : Option (Bool × Bool) := none
deriving DecidableEq, Repr

namespace ServiceRecord

variable (record : ServiceRecord)

/-- `applyDeploymentConfig`. -/
def applyDeploymentConfig (config : Option DeploymentConfiguration) : ServiceRecord :=
  match config with
  | none =>
    { record with
      minimumHealthyPercent := defaultMinimumHealthyPercent
      maximumPercent := defaultMaximumPercent }
  | some config =>
    let record :=
      { record with
        minimumHealthyPercent := config.minimumHealthyPercent.getD defaultMinimumHealthyPercent
        maximumPercent := config.maximumPercent.getD defaultMaximumPercent }
    match config.circuitBreaker with
    | none => record
    | some (enable, rollback) =>
      { record with circuitBreakerEnable := enable, circuitBreakerRollback := rollback }

/-- `normalizeDeploymentConfig`: a percentage of zero counts as not set. -/
def normalizeDeploymentConfig : ServiceRecord :=
  { record with
    minimumHealthyPercent := if record.minimumHealthyPercent = 0 then
        defaultMinimumHealthyPercent
      else
        record.minimumHealthyPercent
    maximumPercent := if record.maximumPercent = 0 then
        defaultMaximumPercent
      else
        record.maximumPercent }

/-! ## Deployments -/

/-- `primaryDeployment`: the first of the deployments that is PRIMARY. -/
def primaryDeployment : Option Deployment :=
  record.deployments.find? fun deployment => deployment.status = .primary

end ServiceRecord

/-- Change the first of the deployments that is PRIMARY. -/
def modifyPrimary (change : Deployment → Deployment) :
    List Deployment → List Deployment
  | [] => []
  | deployment :: rest =>
    if deployment.status = .primary then
      change deployment :: rest
    else
      deployment :: modifyPrimary change rest

/-- `newPrimaryDeployment`. -/
def newPrimaryDeployment (now : Time) (id : String) (definition : TaskDefinition)
    (desired : Int) : Deployment where
  id := id
  status := .primary
  taskDefARN := definition.arn
  taskDefFamily := definition.family
  taskDefRevision := definition.revision
  desiredCount := desired
  rolloutState := .inProgress
  createdAt := now
  updatedAt := now

namespace ServiceRecord

variable (record : ServiceRecord)

/-- `ensurePrimaryDeployment`. -/
def ensurePrimaryDeployment (now : Time) : ServiceRecord :=
  match record.primaryDeployment with
  | some _ => record
  | none =>
    { record with
      deployments := record.deployments ++
        [{ id := record.deploymentID
           status := .primary
           taskDefARN := record.taskDefARN
           taskDefFamily := record.taskDefFamily
           taskDefRevision := record.taskDefRevision
           desiredCount := record.desiredCount
           rolloutState := .inProgress
           createdAt := record.createdAt
           updatedAt := now }]
      lastGoodTaskDefARN := if record.lastGoodTaskDefARN = "" then
          record.taskDefARN
        else
          record.lastGoodTaskDefARN }

/-- `demotePrimary`. -/
def demotePrimary (now : Time) : ServiceRecord :=
  { record with
    deployments := record.deployments.map fun deployment => if deployment.status = .primary then
        { deployment with status := .active, updatedAt := now }
      else
        deployment }

/-- `startDeployment`. -/
def startDeployment (now : Time) (id : String) (definition : TaskDefinition) : ServiceRecord :=
  let record := record.demotePrimary now
  { record with
    deploymentID := id
    taskDefFamily := definition.family
    taskDefRevision := definition.revision
    taskDefARN := definition.arn
    settings := { record.settings with networkMode := definition.networkMode }
    deployments := record.deployments ++
      [newPrimaryDeployment now id definition record.desiredCount] }

/-- `pruneCompletedDeployments`. -/
def pruneCompletedDeployments : ServiceRecord :=
  { record with
    deployments := record.deployments.filter fun deployment => deployment.status = .primary }

/-- `serviceEventRingCap`. -/
def eventRingCap : Nat := 100

/-- `appendServiceEvent`. -/
def appendServiceEvent (now : Time) (id message : String) : ServiceRecord :=
  { record with events := (⟨id, now, message⟩ :: record.events).take eventRingCap }

/-- `rollbackToLastGood`. -/
def rollbackToLastGood (now : Time) (id : String) : ServiceRecord :=
  let (family, revision) := parseRef record.lastGoodTaskDefARN
  let record := record.demotePrimary now
  { record with
    deploymentID := id
    deployments := record.deployments ++
      [{ id := id
         status := .primary
         taskDefARN := record.lastGoodTaskDefARN
         taskDefFamily := family
         taskDefRevision := revision
         desiredCount := record.desiredCount
         rolloutState := .inProgress
         rolloutReason := "ECS deployment rolled back to last good task definition."
         createdAt := now
         updatedAt := now }]
    taskDefARN := record.lastGoodTaskDefARN
    taskDefFamily := family
    taskDefRevision := revision }

end ServiceRecord

/-! ## Tallies -/

/-- How many tasks of a deployment have a status. -/
def tallied (tasks : List TaskRecord) (id : String) (status : TaskStatus) : Nat :=
  tasks.countP fun task => task.deployment = id && task.lastStatus = status

/-- A tally is kept by the last of the deployments with an identifier. -/
def tallyList (tasks : List TaskRecord) : List Deployment → List Deployment
  | [] => []
  | deployment :: rest =>
    let shadowed := rest.any fun other => other.id = deployment.id
    { deployment with
      runningCount := if shadowed then 0 else tallied tasks deployment.id .running
      pendingCount := if shadowed then 0 else tallied tasks deployment.id .pending } ::
      tallyList tasks rest

/-- A tally changes the two counts only. -/
theorem map_tallyList {read : Deployment → Value} (kept : ∀ deployment running pending,
      read { deployment with runningCount := running, pendingCount := pending } = read deployment) :
    (tallyList tasks deployments).map read = deployments.map read := by
  induction deployments with
  | nil => rfl
  | cons deployment rest induction =>
    simp only [tallyList, List.map_cons, kept, induction]

/-- `tallyDeployments`, for the deployments. -/
def ServiceRecord.tallyDeployments
    (record : ServiceRecord) (tasks : List TaskRecord) : ServiceRecord :=
  { record with deployments := tallyList tasks record.deployments }

/-- How many tasks have a status, as `tallyDeployments` returns it. -/
def countOf (status : TaskStatus) (tasks : List TaskRecord) : Nat :=
  tasks.countP fun task => task.lastStatus = status

/-! ## Rollout -/

/-- The tasks left of the deployments that are not PRIMARY. -/
def remainingOld (deployments : List Deployment) : Int :=
  ((deployments.filter fun deployment => deployment.status ≠ .primary).map
    fun deployment => deployment.runningCount + deployment.pendingCount).sum

/-- `updateRolloutState`, for a record that has a PRIMARY deployment. -/
def updateRolloutState (record : ServiceRecord) (desired : Int) (now : Time)
    (eventID : String) : ServiceRecord :=
  let record :=
    { record with
      deployments := modifyPrimary (fun primary => { primary with desiredCount := desired })
        record.deployments }
  match record.primaryDeployment with
  | none => record
  | some primary =>
    if primary.rolloutState = .failed then
      record
    else if desired ≤ primary.runningCount ∧ remainingOld record.deployments = 0 then
      let record := if primary.rolloutState = .completed then
          record
        else
          { record with
            deployments := modifyPrimary (fun primary =>
                { primary with
                  rolloutState := .completed
                  rolloutReason := "ECS deployment completed."
                  updatedAt := now })
              record.deployments }
            |>.appendServiceEvent now eventID
              ("(service " ++ record.name ++ ") has reached a steady state.")
      { record with lastGoodTaskDefARN := primary.taskDefARN }
        |>.pruneCompletedDeployments
    else
      { record with
        deployments := modifyPrimary (fun primary => { primary with rolloutState := .inProgress })
          record.deployments }

/-- `circuitBreakerFailureThreshold`. -/
def circuitBreakerFailureThreshold : Int := 3

/-- `launchBackoff`. -/
def launchBackoff (failures : Int) : Nat :=
  if failures < circuitBreakerFailureThreshold then
    0
  else
    let shift := min (failures - circuitBreakerFailureThreshold).toNat 16
    min (15000000000 * 2 ^ shift) 300000000000

/-- The breaker is to fail the deployment. -/
def trips (record : ServiceRecord) (primary : Deployment) : Bool :=
  record.circuitBreakerEnable && primary.rolloutState ≠ .failed &&
    circuitBreakerFailureThreshold ≤ primary.failedTasks

/-- What `tripCircuitBreaker` does if it acts. -/
def tripCircuitBreaker (record : ServiceRecord) (primary : Deployment) (now : Time)
    (eventID deploymentID : String) : ServiceRecord :=
  let reason := "ECS deployment circuit breaker: tasks failed to start."
  let record :=
    { record with
      deployments := modifyPrimary (fun primary =>
          { primary with rolloutState := .failed, rolloutReason := reason, updatedAt := now })
        record.deployments }
      |>.appendServiceEvent now eventID
        ("(service " ++ record.name ++ ") deployment failed: " ++ reason)
  if !record.circuitBreakerRollback || record.lastGoodTaskDefARN = "" ||
      record.lastGoodTaskDefARN = primary.taskDefARN then
    record
  else
    record.rollbackToLastGood now deploymentID

end Spinifex.Ecs
