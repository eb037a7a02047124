import Spinifex.Concurrency.Records
import Spinifex.Ecs.Services

/-!
# Acknowledged service changes

Requests, reconcile passes and the accounting of failed tasks read the record of
a service and write it back as a whole, in any interleaving.  A pass that read
the record before a request and writes it after undoes the request.

As long as every operation writes only what is still as it saw it, and no write
is stored that is reported as failed, each of them changes the record in its own
way only: a pass and the accounting keep the
desired count, the status and the task definition of the PRIMARY deployment,
except that a pass whose circuit breaker acts goes back to the last good one.
-/

namespace Spinifex.Ecs

open Go Concurrency Records ServiceRecord List

/-! ## What is kept of a record -/

/-- The task definition of the PRIMARY deployment. -/
def ServiceRecord.target (record : ServiceRecord) : Option String :=
  record.primaryDeployment.map Deployment.taskDefARN

/-- The circuit breaker took a record back to its last good deployment. -/
structure RolledBack (before after : ServiceRecord) : Prop where
  enabled : before.circuitBreakerEnable = true
  rollback : before.circuitBreakerRollback = true
  failed : ∃ primary, before.primaryDeployment = some primary ∧
    circuitBreakerFailureThreshold ≤ primary.failedTasks
  target : after.target = some before.lastGoodTaskDefARN

/-- What no operation but a request changes. -/
structure Keeps (before after : ServiceRecord) : Prop where
  desiredCount : after.desiredCount = before.desiredCount
  status : after.status = before.status
  target : before.target.isSome → after.target = before.target ∨ RolledBack before after

variable (record : ServiceRecord)

theorem Keeps.refl : Keeps record record :=
  ⟨rfl, rfl, fun _ => .inl rfl⟩

/-! ## Deployments by status and task definition -/

/-- What the target depends on. -/
def outline (deployments : List Deployment) : List (DeploymentStatus × String) :=
  deployments.map fun deployment => (deployment.status, deployment.taskDefARN)

/-- The first PRIMARY of an outline. -/
def outlineTarget (outline : List (DeploymentStatus × String)) : Option String :=
  (outline.find? fun entry => entry.1 = .primary).map Prod.snd

theorem target_eq : record.target = outlineTarget (outline record.deployments) := by
  unfold target primaryDeployment outlineTarget outline
  rw [find?_map, Option.map_map]
  rfl

/-- A change that leaves the outline of a deployment alone. -/
structure Inner (change : Deployment → Deployment) : Prop where
  status : ∀ deployment, (change deployment).status = deployment.status
  taskDefARN : ∀ deployment, (change deployment).taskDefARN = deployment.taskDefARN

theorem outline_modifyPrimary (inner : Inner change) (deployments : List Deployment) :
    outline (modifyPrimary change deployments) = outline deployments := by
  unfold outline
  induction deployments with
  | nil => rfl
  | cons deployment rest induction =>
    unfold modifyPrimary
    split
    · simp only [map_cons, inner.status, inner.taskDefARN]
    · simp only [map_cons, induction]

theorem outline_countFailure (now : Time) (id : String) (deployments : List Deployment) :
    outline (countFailure now id deployments) = outline deployments := by
  unfold outline
  induction deployments with
  | nil => rfl
  | cons deployment rest induction =>
    unfold countFailure
    split
    · rfl
    · simp only [map_cons, induction]

/-! ## The record functions -/

/-- Two records agree on what is kept. -/
structure Alike (before after : ServiceRecord) : Prop where
  desiredCount : after.desiredCount = before.desiredCount
  status : after.status = before.status
  target : after.target = before.target

section

variable {before record after : ServiceRecord} {primary : Deployment}
    {desired : Int} {now : Time} {eventID deploymentID : String}

theorem Alike.trans
    (first : Alike before record) (second : Alike record after) : Alike before after :=
  ⟨second.desiredCount.trans first.desiredCount,
    second.status.trans first.status, second.target.trans first.target⟩

theorem Keeps.alike
    (keeps : Keeps before record) (alike : Alike record after) : Keeps before after := by
  refine ⟨alike.desiredCount.trans keeps.desiredCount, alike.status.trans keeps.status, ?_⟩
  intro present
  rw [alike.target]
  rcases keeps.target present with same | rolledBack
  · exact .inl same
  · exact .inr { rolledBack with target := alike.target.trans rolledBack.target }

variable {deployments : List Deployment}

theorem alike_deployments (same : outline deployments = outline record.deployments) :
    Alike record { record with deployments := deployments } := by
  refine ⟨rfl, rfl, ?_⟩
  rw [target_eq, target_eq]
  exact congrArg outlineTarget same

variable (tasks : List TaskRecord)

theorem alike_tallyDeployments : Alike record (record.tallyDeployments tasks) :=
  alike_deployments (map_tallyList fun _ _ _ => rfl)

variable {change : Deployment → Deployment}

theorem alike_modifyPrimary (inner : Inner change) :
    Alike record
      { record with deployments := modifyPrimary change record.deployments } :=
  alike_deployments (outline_modifyPrimary inner record.deployments)

theorem alike_modifyPrimary_event {id message : String} (inner : Inner change) :
    Alike record (ServiceRecord.appendServiceEvent
        { record with deployments := modifyPrimary change record.deployments }
        now id message) := by
  have changed := @alike_modifyPrimary record change inner
  exact ⟨rfl, rfl, changed.target⟩

theorem alike_updateRolloutState :
    Alike record (updateRolloutState record desired now eventID) := by
  have wanted := @alike_modifyPrimary record
      (fun primary => { primary with desiredCount := desired })
      ⟨fun _ => rfl, fun _ => rfl⟩
  unfold updateRolloutState
  dsimp only
  split
  · exact wanted
  · split
    · exact wanted
    · split
      · have pruned (record : ServiceRecord) (arn : String) :
            Alike record (pruneCompletedDeployments { record with lastGoodTaskDefARN := arn }) :=
          ⟨rfl, rfl, by simp [target, primaryDeployment, pruneCompletedDeployments]⟩
        split
        · exact wanted.trans (pruned _ _)
        · refine Alike.trans (wanted.trans ?_) (pruned _ _)
          exact alike_modifyPrimary_event ⟨fun _ => rfl, fun _ => rfl⟩
      · exact wanted.trans (alike_modifyPrimary ⟨fun _ => rfl, fun _ => rfl⟩)

/-- Preparing a record adds no more than a missing PRIMARY deployment. -/
theorem prepared_cases :
    (Alike record (prepared record tasks now) ∧
        (prepared record tasks now).lastGoodTaskDefARN = record.lastGoodTaskDefARN) ∨
      (record.target = none ∧ (prepared record tasks now).desiredCount = record.desiredCount ∧
        (prepared record tasks now).status = record.status) := by
  unfold prepared
  unfold ensurePrimaryDeployment
  split
  · have normalized : Alike record record.normalizeDeploymentConfig := ⟨rfl, rfl, rfl⟩
    exact .inl ⟨normalized.trans (alike_tallyDeployments tasks), rfl⟩
  next missing =>
    refine .inr ⟨?_, rfl, rfl⟩
    unfold target
    rw [show record.primaryDeployment = none from missing]
    rfl

theorem keeps_prepared : Keeps record (prepared record tasks now) := by
  rcases @prepared_cases record now tasks with ⟨alike, -⟩ | ⟨none, same⟩
  · exact (Keeps.refl record).alike alike
  · refine ⟨same.1, same.2, ?_⟩
    intro present
    simp [none] at present

theorem keeps_ensured :
    Keeps record (record.normalizeDeploymentConfig.ensurePrimaryDeployment now) := by
  unfold ensurePrimaryDeployment
  split
  · exact ⟨rfl, rfl, fun _ => .inl rfl⟩
  next missing =>
    refine ⟨rfl, rfl, fun present => ?_⟩
    have none : record.primaryDeployment = none := missing
    simp [target, none] at present

theorem prepared_breaker :
    (prepared record tasks now).circuitBreakerEnable = record.circuitBreakerEnable ∧
      (prepared record tasks now).circuitBreakerRollback = record.circuitBreakerRollback := by
  unfold prepared ensurePrimaryDeployment
  split
  · exact ⟨rfl, rfl⟩
  · exact ⟨rfl, rfl⟩

variable {tasks : List TaskRecord}

theorem find_tallyList (found : (tallyList tasks deployments).find?
      (fun deployment => deployment.status = .primary) = some primary) :
    ∃ original, deployments.find? (fun deployment => deployment.status = .primary) =
      some original ∧ original.failedTasks = primary.failedTasks := by
  induction deployments with
  | nil => cases found
  | cons deployment rest induction =>
    rw [tallyList] at found
    by_cases isPrimary : deployment.status = .primary
    · rw [find?_cons_of_pos (by simpa using isPrimary)] at found
      cases found
      exact ⟨deployment, find?_cons_of_pos (by simpa using isPrimary), rfl⟩
    · rw [find?_cons_of_neg (by simpa using isPrimary)] at found
      obtain ⟨original, within, same⟩ := induction found
      refine ⟨original, ?_, same⟩
      rwa [find?_cons_of_neg (by simpa using isPrimary)]

/-- The PRIMARY deployment a pass works on is that of the record. -/
theorem exists_primary_of_prepared (present : record.target.isSome)
    (found : (prepared record tasks now).primaryDeployment = some primary) :
    ∃ original, record.primaryDeployment = some original ∧
      original.failedTasks = primary.failedTasks := by
  obtain ⟨original, within, same⟩ := find_tallyList found
  refine ⟨original, ?_, same⟩
  unfold ensurePrimaryDeployment at within
  split at within
  · exact within
  next missing =>
    unfold target at present
    rw [show record.primaryDeployment = none from missing] at present
    cases present

theorem target_demotePrimary_append (fresh : Deployment) (isPrimary : fresh.status = .primary) :
    outlineTarget (outline ((record.demotePrimary now).deployments ++ [fresh])) =
      some fresh.taskDefARN := by
  unfold outlineTarget outline demotePrimary
  rw [map_append, map_map, find?_append, find?_eq_none.2]
  · simp [isPrimary]
  · intro entry member
    obtain ⟨deployment, -, rfl⟩ := mem_map.1 member
    by_cases wasPrimary : deployment.status = .primary
    · simp [wasPrimary]
    · simp [wasPrimary]

/-- Going back starts a deployment of the last good task definition. -/
theorem rollbackToLastGood_facts (id : String) :
    (record.rollbackToLastGood now id).desiredCount = record.desiredCount ∧
      (record.rollbackToLastGood now id).status = record.status ∧
      (record.rollbackToLastGood now id).target = some record.lastGoodTaskDefARN := by
  rw [target_eq]
  unfold rollbackToLastGood
  exact ⟨rfl, rfl, target_demotePrimary_append _ rfl⟩

/-- A breaker that acts fails the deployment, and may take it back. -/
theorem keeps_tripCircuitBreaker
    (found : (prepared record tasks now).primaryDeployment = some primary)
    (tripped : trips (prepared record tasks now) primary = true) :
    Keeps record
      (tripCircuitBreaker (prepared record tasks now) primary now eventID deploymentID) := by
  have kept := @keeps_prepared record now tasks
  have failed : Alike (prepared record tasks now) (appendServiceEvent
      { prepared record tasks now with
            deployments := modifyPrimary (fun primary =>
                { primary with
                  rolloutState := .failed
                  rolloutReason := "ECS deployment circuit breaker: tasks failed to start."
                  updatedAt := now })
              (prepared record tasks now).deployments }
          now eventID
          ("(service " ++ (prepared record tasks now).name ++ ") deployment failed: " ++
            "ECS deployment circuit breaker: tasks failed to start.")) := by
    exact alike_modifyPrimary_event ⟨fun _ => rfl, fun _ => rfl⟩
  unfold tripCircuitBreaker
  dsimp only
  split
  · exact kept.alike failed
  next goesBack =>
    have back (record : ServiceRecord) := @rollbackToLastGood_facts record now deploymentID
    refine ⟨(back _).1.trans (failed.desiredCount.trans kept.desiredCount),
      (back _).2.1.trans (failed.status.trans kept.status), ?_⟩
    intro present
    obtain lastGood :
        (prepared record tasks now).lastGoodTaskDefARN = record.lastGoodTaskDefARN := by
      rcases @prepared_cases record now tasks with ⟨-, lastGood⟩ | ⟨none, -⟩
      · exact lastGood
      · simp [none] at present
    have breaker := @prepared_breaker record now tasks
    simp only [trips, Bool.and_eq_true, decide_eq_true_eq] at tripped
    refine .inr ⟨breaker.1.symm.trans tripped.1.1, ?_, ?_, ?_⟩
    · cases rollback : record.circuitBreakerRollback with
      | true => rfl
      | false =>
        refine absurd ?_ goesBack
        rw [show circuitBreakerRollback _ = record.circuitBreakerRollback from breaker.2, rollback]
        rfl
    · obtain ⟨original, within, same⟩ := exists_primary_of_prepared present found
      exact ⟨original, within, same ▸ tripped.2⟩
    · rw [← lastGood]
      exact (back _).2.2

end

/-! ## The operations on one service -/

/-- What runs against a service. -/
inductive Job where
  | updateService (input : UpdateServiceInput)
  | deleteService
  | pass
  | recordDeploymentFailure (task : TaskRecord)

def Job.isRequest : Job → Bool
  | .updateService _ => true
  | .deleteService => true
  | .pass => false
  | .recordDeploymentFailure _ => false

/-- What a job returns. -/
inductive Outcome where
  | request (result : Except RequestError ServiceRecord)
  | background

/-- A pass on a record that was listed before. -/
def reconcileListed : Action Unit := do
  let stored ← getService
  match stored with
  | .error _ => return ()
  | .ok none => return ()
  | .ok (some record) =>
    let _ ← reconcileService record
    return ()

def Job.program : Job → Action Outcome
  | .updateService input => do
      let result ← Ecs.updateService input
      return .request result
  | .deleteService => do
      let result ← Ecs.deleteService
      return .request result
  | .pass => do
      reconcileListed
      return .background
  | .recordDeploymentFailure task => do
      Ecs.recordDeploymentFailure task
      return .background

/-- What a reply shows of the record. -/
def shownBy : (call : Call) → call.Reply → Option (Option ServiceRecord)
  | .getService, .ok stored => some stored
  | _, _ => none

/-- What a call stores. -/
def storedBy : (call : Call) → call.Reply → Option ServiceRecord
  | .putService record, reply => if WriteReply.stored reply then some record else none
  | _, _ => none

/-- What a job is told to be stored. -/
def acknowledgedBy : (call : Call) → call.Reply → Option ServiceRecord
  | .putService record, .acknowledged => some record
  | _, _ => none

/-- The task definition a reference was resolved to. -/
structure Resolved where
  ref : String
  arn : String
deriving DecidableEq, Repr

/-- What is noted of a call. -/
def noteOf : (call : Call) → call.Reply → Option Resolved
  | .resolveTaskDef ref, .ok definition => some ⟨ref, definition.arn⟩
  | _, _ => none

/-- The calls on the one record. -/
def serviceAccess : Records.Access Call Call.Reply Unit ServiceRecord Resolved where
  shown call reply _ := shownBy call reply
  stored call reply := (storedBy call reply).map fun record => ((), some record)
  remark := noteOf

/-- The calls, as a job that takes every reply for granted sees them. -/
abbrev trusting : Records.Access Call Call.Reply Unit ServiceRecord Resolved :=
  serviceAccess.storing fun call reply =>
    (acknowledgedBy call reply).map fun record => ((), some record)

abbrev Deeds : Type :=
  List (Records.Deed Unit ServiceRecord Resolved Outcome)

def isWrite : Records.Deed Unit ServiceRecord Resolved Outcome → Bool
  | .wrote _ _ => true
  | .noted _ => false
  | .returned _ => false

/-- What an update stores: the count asked for, and the definition it resolved. -/
structure Updated (input : UpdateServiceInput) (deeds : Deeds) (record : ServiceRecord) :
    Prop where
  target : record.target.isSome
  desiredCount : ∀ count, input.desiredCount = some count → record.desiredCount = count
  definition : input.taskDefinition ≠ "" →
    ∃ arn, .noted ⟨input.taskDefinition, arn⟩ ∈ deeds ∧ record.target = some arn

/-- The first write of a request is the change it asks for. -/
structure Requests (job : Job) (deeds : Deeds) (stored : ServiceRecord) : Prop where
  request : job.isRequest = true
  first : deeds.any isWrite = false
  deleted : job = .deleteService → stored.status = .inactive
  updated : ∀ input, job = .updateService input → Updated input deeds stored

/-- What a result of a job stands for. -/
def Answers (job : Job) (deeds : Deeds) : Outcome → Prop
  | .request (.ok result) =>
    ∃ stored newer earlier, deeds = newer ++ .wrote () (some stored) :: earlier ∧
      Keeps stored result ∧ Requests job earlier stored
  | .request (.error _) => True
  | .background => True

/-- What a job does to the record it has seen. -/
def JobLaw (job : Job) (deeds : Deeds) (seen : Unit → Option (Option ServiceRecord)) :
    Records.Deed Unit ServiceRecord Resolved Outcome → Prop
  | .wrote _ value =>
    ∃ before after, seen () = some (some before) ∧ value = some after ∧
      (Requests job deeds after ∨ Keeps before after)
  | .noted _ => True
  | .returned outcome => Answers job deeds outcome

section

variable {job : Job} {First : Type}

/-- The silent calls. -/
theorem silent_of_not_record (notGet : call ≠ .getService)
    (notPut : ∀ record, call ≠ .putService record)
    (notResolve : ∀ ref, call ≠ .resolveTaskDef ref) : Silent trusting call := by
  constructor
  · intro reply key
    cases call
    case getService => exact absurd rfl notGet
    all_goals rfl
  · intro reply
    cases call
    case putService record => exact absurd rfl (notPut record)
    all_goals rfl
  · intro reply
    cases call
    case resolveTaskDef ref => exact absurd rfl (notResolve ref)
    all_goals rfl

/-- The view of a thread that has seen, or written, the record. -/
def saw (stored : Option ServiceRecord) : View Unit ServiceRecord where
  value _ := some stored
  revision _ := none

variable {deeds : Deeds}

theorem obeys_getService {next : Except String (Option ServiceRecord) → Action First}
    (found : ∀ stored, Obeys trusting (JobLaw job) post (next (.ok stored)) (saw stored) deeds)
    (failed : ∀ failure, Obeys trusting (JobLaw job) post (next (.error failure)) view deeds) :
    Obeys trusting (JobLaw job) post (getService >>= next) view deeds := by
  intro reply
  refine ⟨?_, ?_, ?_⟩
  · intro key value stored
    cases stored
  · intro note noted
    cases noted
  · cases reply with
    | ok stored => exact found stored
    | error failure => exact failed failure

variable {record : ServiceRecord}

theorem obeys_putService {next : Except String Unit → Action First}
    (lawful : JobLaw job deeds view.value (.wrote () (some record)))
    (stored : Obeys trusting (JobLaw job) post (next (.ok ()))
      (saw (some record)) (.wrote () (some record) :: deeds))
    (failed : ∀ failure, Obeys trusting (JobLaw job) post (next (.error failure)) view deeds) :
    Obeys trusting (JobLaw job) post (putService record >>= next) view deeds := by
  intro reply
  cases reply with
  | acknowledged =>
    refine ⟨?_, nofun, stored⟩
    rintro key value ⟨⟩
    exact ⟨lawful, nofun⟩
  | failed failure unreported =>
    refine ⟨?_, nofun, failed failure⟩
    intro key value wrong
    cases wrong

/-- Every call of a program leaves the record alone. -/
abbrev Aside (program : Action First) : Prop :=
  program.Only (Silent trusting)

theorem aside_takeDraws : Aside takeDraws :=
  ⟨silent_of_not_record (by simp) (by simp) (by simp), fun _ => trivial⟩

theorem aside_listServiceTasks (name : String) : Aside (listServiceTasks name) :=
  ⟨silent_of_not_record (by simp) (by simp) (by simp), fun _ => trivial⟩

theorem aside_stopSurplusTasks (stops : List (TaskRecord × String)) :
    Aside (stopSurplusTasks stops) := by
  induction stops with
  | nil => trivial
  | cons stop rest induction =>
    exact ⟨silent_of_not_record (by simp) (by simp) (by simp), fun _ => induction⟩

theorem aside_launch (record : ServiceRecord) (primary : Deployment)
    (running pending : Nat) (draws : Draws) :
    Aside (launch record primary running pending draws) := by
  unfold launch
  split
  · dsimp only
    split
    · exact ⟨silent_of_not_record (by simp) (by simp) (by simp), fun _ => trivial⟩
    · trivial
  · trivial

/-- What a launch returns agrees with the record. -/
theorem yields_launch (record : ServiceRecord) (primary : Deployment)
    (running pending : Nat) (draws : Draws) :
    (launch record primary running pending draws).Yields (Alike record) := by
  unfold launch
  split
  · dsimp only
    split
    · intro _
      split
      · exact alike_modifyPrimary ⟨fun _ => rfl, fun _ => rfl⟩
      · exact ⟨rfl, rfl, rfl⟩
    · split <;> exact ⟨rfl, rfl, rfl⟩
  · exact ⟨rfl, rfl, rfl⟩

/-- What a pass on a record has done when it returns. -/
def Passed (before : ServiceRecord) (deeds : Deeds) (result : ServiceRecord × Except String Unit)
    (_ : View Unit ServiceRecord) (after : Deeds) : Prop :=
  Keeps before result.1 ∧ ∃ newer, after = newer ++ deeds

variable {before record : ServiceRecord}

theorem obeys_persistServiceIfChanged (running pending : Nat) (keeps : Keeps before record) :
    Obeys trusting (JobLaw job) (Passed before deeds)
      (persistServiceIfChanged before record running pending) (saw (some before)) deeds := by
  have counted : Keeps before { record with runningCount := running, pendingCount := pending } :=
    keeps.alike ⟨rfl, rfl, rfl⟩
  unfold persistServiceIfChanged
  dsimp only
  split
  · exact ⟨counted, [], rfl⟩
  · refine obeys_putService ?_ ?_ ?_
    · exact ⟨before, _, rfl, rfl, .inr counted⟩
    · exact ⟨counted, [_], rfl⟩
    · exact fun _ => ⟨counted, [], rfl⟩

theorem obeys_advance (keeps : Keeps before record) :
    Obeys trusting (JobLaw job) (Passed before deeds)
      (advance before record primary tasks draws) (saw (some before)) deeds := by
  unfold advance
  rw [obeys_bind]
  apply obeys_of_yields (aside_launch ..) (yields_launch ..)
  intro launched alike
  refine obeys_only_bind (aside_stopSurplusTasks _) fun _ => ?_
  refine obeys_only_bind (aside_listServiceTasks _) (either (fun _ => ?_) fun fresh => ?_)
  · exact obeys_persistServiceIfChanged _ _ (keeps.alike (alike.trans alike_updateRolloutState))
  exact obeys_persistServiceIfChanged _ _
    (keeps.alike ((alike.trans (alike_tallyDeployments fresh)).trans alike_updateRolloutState))

/-- A pass writes no more than what keeps the record. -/
theorem obeys_reconcileService (before : ServiceRecord) :
    Obeys trusting (JobLaw job) (Passed before deeds)
      (reconcileService before) (saw (some before)) deeds := by
  unfold reconcileService
  split
  · exact ⟨Keeps.refl before, [], rfl⟩
  · refine obeys_only_bind aside_takeDraws fun draws => ?_
    refine obeys_only_bind (aside_listServiceTasks _)
      (either (fun _ => ⟨keeps_ensured, [], rfl⟩) fun tasks => ?_)
    have keeps := @keeps_prepared before draws.now tasks
    dsimp only
    split
    · exact obeys_persistServiceIfChanged _ _ keeps
    next primary found =>
      split
      next tripped =>
        exact obeys_persistServiceIfChanged _ _ (keeps_tripCircuitBreaker found tripped)
      · exact obeys_advance keeps

/-- A pass on a listed record. -/
theorem obeys_reconcileListed :
    Obeys trusting (JobLaw job) (fun _ _ _ => True) reconcileListed View.blank [] := by
  refine obeys_getService ?_ fun _ => trivial
  intro stored
  cases stored with
  | none => trivial
  | some record =>
    rw [obeys_bind]
    exact (obeys_reconcileService record).mono fun _ _ _ _ => trivial

/-- The accounting of a failed task changes only counters. -/
theorem obeys_recordDeploymentFailure (task : TaskRecord) :
    Obeys trusting (JobLaw job) (fun _ _ _ => True)
      (Ecs.recordDeploymentFailure task) View.blank [] := by
  unfold Ecs.recordDeploymentFailure
  split
  · trivial
  · refine obeys_getService ?_ fun _ => trivial
    intro stored
    cases stored with
    | none => trivial
    | some record =>
      dsimp only
      split
      · refine obeys_only_bind aside_takeDraws fun draws => ?_
        refine obeys_putService ?_ trivial fun _ => trivial
        refine ⟨record, _, rfl, rfl, .inr ?_⟩
        exact (Keeps.refl record).alike (alike_deployments (outline_countFailure _ _ _))
      · trivial

theorem isSome_target_ensurePrimaryDeployment
    (record : ServiceRecord) (now : Time) : (record.ensurePrimaryDeployment now).target.isSome := by
  unfold ensurePrimaryDeployment
  split
  next primary found =>
    unfold target
    rw [found]
    rfl
  · simp [target_eq, outlineTarget, outline]

theorem deployments_applyDeploymentConfig
    (record : ServiceRecord) (config : Option DeploymentConfiguration) :
    (record.applyDeploymentConfig config).deployments = record.deployments := by
  unfold applyDeploymentConfig
  split
  · rfl
  · split
    · rfl
    · rfl

theorem deployments_applyUpdate (input : UpdateServiceInput) (record : ServiceRecord) (now : Time) :
    (applyUpdate input record now).deployments =
      (record.ensurePrimaryDeployment now).deployments := by
  unfold applyUpdate
  cases input.network with
  | none | some network =>
    cases input.deploymentConfiguration with
    | none => rfl
    | some config => exact deployments_applyDeploymentConfig _ _

theorem isSome_target_applyUpdate (input : UpdateServiceInput) (record : ServiceRecord)
    (now : Time) : (applyUpdate input record now).target.isSome := by
  rw [target_eq, deployments_applyUpdate, ← target_eq]
  exact isSome_target_ensurePrimaryDeployment record now

theorem desiredCount_applyUpdate {count : Int} (asked : input.desiredCount = some count)
    (record : ServiceRecord) (now : Time) :
    (applyUpdate input record now).desiredCount = count := by
  unfold applyUpdate
  rw [asked]
  rfl

/-- The PRIMARY deployment has the definition that was resolved. -/
theorem target_applyTaskDefinition (record : ServiceRecord) (definition : TaskDefinition)
    (draws : Draws) :
    (applyTaskDefinition record definition draws).target = some definition.arn := by
  unfold applyTaskDefinition
  split
  next same =>
    exact same
  · rw [target_eq]
    exact target_demotePrimary_append _ rfl

theorem desiredCount_applyTaskDefinition (record : ServiceRecord) (definition : TaskDefinition)
    (draws : Draws) :
    (applyTaskDefinition record definition draws).desiredCount = record.desiredCount := by
  unfold applyTaskDefinition
  split <;> rfl

/-- A resolved definition is noted, and is that of the record then. -/
theorem obeys_resolveUpdate {next : Except String ServiceRecord → Action First}
    (target : record.target.isSome)
    (counts : ∀ count, input.desiredCount = some count → record.desiredCount = count)
    (changed : ∀ changed deeds, deeds.any isWrite = false → Updated input deeds changed →
      Obeys trusting (JobLaw job) post (next (.ok changed)) view deeds)
    (failed : ∀ failure, Obeys trusting (JobLaw job) post (next (.error failure)) view []) :
    Obeys trusting (JobLaw job) post (resolveUpdate input record draws >>= next) view [] := by
  unfold resolveUpdate
  split
  next kept =>
    exact changed record [] rfl ⟨target, counts, fun given => absurd kept given⟩
  · intro reply
    refine ⟨(fun key value wrong => by cases wrong), fun _ _ => trivial, ?_⟩
    cases reply with
    | error failure => exact failed failure
    | ok definition =>
      have resolved := target_applyTaskDefinition record definition draws
      refine changed _ [.noted ⟨input.taskDefinition, definition.arn⟩] rfl ⟨?_, ?_, ?_⟩
      · rw [resolved]
        rfl
      · intro count asked
        rw [desiredCount_applyTaskDefinition, counts count asked]
      · exact fun _ => ⟨definition.arn, mem_cons_self .., resolved⟩

/-- A request answers for what it has done. -/
abbrev Replies (job : Job) (result : Except RequestError ServiceRecord)
    (_ : View Unit ServiceRecord) (deeds : Deeds) : Prop :=
  Answers job deeds (.request result)

theorem obeys_storeUpdate (requests : Requests job deeds record) :
    Obeys trusting (JobLaw job) (Replies job) (storeUpdate record) (saw (some before)) deeds := by
  refine obeys_putService ?_ ?_ ?_
  · exact ⟨before, record, rfl, rfl, .inl requests⟩
  · rw [obeys_bind]
    apply (obeys_reconcileService record).mono
    rintro result view after ⟨keeps, newer, same⟩
    exact ⟨record, newer, deeds, same, keeps, requests⟩
  · exact fun _ => trivial

theorem obeys_updateService (input : UpdateServiceInput) :
    Obeys trusting (JobLaw (.updateService input))
      (Replies (.updateService input)) (Ecs.updateService input) View.blank [] := by
  refine obeys_getService ?_ fun _ => trivial
  intro stored
  cases stored with
  | none => trivial
  | some record =>
    dsimp only
    split
    · trivial
    · refine obeys_only_bind aside_takeDraws fun draws => ?_
      refine obeys_resolveUpdate (isSome_target_applyUpdate ..)
        (fun _ asked => desiredCount_applyUpdate asked _ _) ?_ fun _ => trivial
      intro changed deeds unwritten updated
      refine obeys_storeUpdate ⟨rfl, unwritten, (nofun), ?_⟩
      rintro _ ⟨⟩
      exact { updated with }

theorem obeys_deleteService :
    Obeys trusting (JobLaw .deleteService) (Replies .deleteService) Ecs.deleteService
      View.blank [] := by
  refine obeys_getService ?_ fun _ => trivial
  intro stored
  cases stored with
  | none => trivial
  | some record =>
    refine obeys_only_bind aside_takeDraws fun draws => ?_
    refine obeys_only_bind (aside_listServiceTasks _) fun listed => ?_
    cases listed with
    | error failure => trivial
    | ok tasks =>
      refine obeys_only_bind (aside_stopSurplusTasks _) fun _ => ?_
      have requests (changed : ServiceRecord) (inactive : changed.status = .inactive) :
          Requests .deleteService [] changed :=
        ⟨rfl, rfl, fun _ => inactive, fun _ wrong => by cases wrong⟩
      refine obeys_putService ?_ ?_ ?_
      · exact ⟨record, _, rfl, rfl, .inl (requests _ rfl)⟩
      · exact ⟨_, [], [], rfl, Keeps.refl _, requests _ rfl⟩
      · exact fun _ => trivial

/-- Every job obeys its law. -/
theorem obeys_program (job : Job) :
    Obeys trusting (JobLaw job)
      (fun result view deeds => JobLaw job deeds view.value (.returned result))
      job.program View.blank [] := by
  cases job with
  | updateService input =>
    exact obeys_bind.2 (obeys_updateService input)
  | deleteService => exact obeys_bind.2 obeys_deleteService
  | pass => exact obeys_bind.2 obeys_reconcileListed
  | recordDeploymentFailure task =>
    exact obeys_bind.2 (obeys_recordDeploymentFailure task)

end

/-! ## Runs -/

section

variable {Index : Type} [DecidableEq Index]

/-- The writes and returns of the jobs on a service. -/
abbrev ServiceLog (Index : Type) : Type :=
  List (Records.Entry Index Unit ServiceRecord Resolved Outcome)

/-- Jobs on one service in some interleaving. -/
abbrev ServicePool (Index : Type) : Type :=
  Pool Index Call Call.Reply (Records.State Index Unit ServiceRecord Resolved Outcome) Outcome

/-- The jobs before their first call. -/
def start (jobs : Index → Job) (shelf : Shelf Unit ServiceRecord) : ServicePool Index :=
  Pool.start (Records.State.initial shelf) fun index => (jobs index).program

/-- The system of the jobs on one service. -/
def services (Index : Type) [DecidableEq Index] :
    System Index Call Call.Reply
      (Records.State Index Unit ServiceRecord Resolved Outcome) Outcome :=
  Records.system serviceAccess

/-- A job writes only what is as it last saw it, and is told what is stored. -/
@[mk_iff]
structure Sincere (index : Index) (call : Call)
    (before : Records.State Index Unit ServiceRecord Resolved Outcome) (reply : call.Reply) :
    Prop where
  undisturbed : Undisturbed serviceAccess index call before reply
  told : acknowledgedBy call reply = storedBy call reply

/-- The runs in which every call is sincere. -/
def undisturbed (Index : Type) [DecidableEq Index] :
    System Index Call Call.Reply
      (Records.State Index Unit ServiceRecord Resolved Outcome) Outcome :=
  (services Index).restrict Sincere

/-- The first write of a request. -/
structure IsChange (jobs : Index → Job) (older : ServiceLog Index)
    (entry : Records.Entry Index Unit ServiceRecord Resolved Outcome) : Prop where
  request : (jobs entry.index).isRequest = true
  first : (own entry.index older).any isWrite = false
  wrote : ∃ value, entry.deed = .wrote () value

/-- No request changed the service in the entries between. -/
def Unchanged (jobs : Index → Job) (older : ServiceLog Index) : ServiceLog Index → Prop
  | [] => True
  | entry :: between =>
    ¬ IsChange jobs (between ++ older) entry ∧ Unchanged jobs older between

/-- A record keeps a change that the circuit breaker has not taken back. -/
structure Stands (stored : ServiceRecord) (between : ServiceLog Index)
    (record : ServiceRecord) : Prop where
  desiredCount : record.desiredCount = stored.desiredCount
  status : record.status = stored.status
  target : stored.target.isSome → record.target = stored.target ∨ ∃ entry ∈ between, ∃ before after,
    entry.replaced = some before ∧ entry.deed = .wrote () (some after) ∧
      before.target = stored.target ∧ RolledBack before after

/--
What a request acknowledged was stored by it, and every record stored after
keeps it until the next request stores its own change.
-/
def ChangesStand (jobs : Index → Job) (base : Unit → Option ServiceRecord)
    (pool : ServicePool Index) : Prop :=
  ∀ index result, pool.thread index = .returned (.request (.ok result)) →
    ∃ newer stored replaced older, pool.shared.log =
        newer ++ ⟨index, .wrote () (some stored), replaced⟩ :: older ∧
      Requests (jobs index) (own index older) stored ∧
      Keeps stored result ∧
      ∀ later between, newer = later ++ between → Unchanged jobs
          (⟨index, .wrote () (some stored), replaced⟩ :: older)
          between →
        ∃ record, content base
            (between ++ ⟨index, .wrote () (some stored), replaced⟩ :: older) () =
          some record ∧ Stands stored between record

/-- The law of every job. -/
abbrev jobLaw (jobs : Index → Job) (index : Index) :=
  JobLaw (jobs index)

variable {stored : ServiceRecord} {between : ServiceLog Index}

omit [DecidableEq Index] in
theorem Stands.mono {record : ServiceRecord} (stands : Stands stored between record)
    (entry : Records.Entry Index Unit ServiceRecord Resolved Outcome) :
    Stands stored (entry :: between) record := by
  refine ⟨stands.desiredCount, stands.status, ?_⟩
  intro present
  rcases stands.target present with same | ⟨other, member, back⟩
  · exact .inl same
  · exact .inr ⟨other, mem_cons_of_mem _ member, back⟩

omit [DecidableEq Index] in
/-- A write that keeps the record leaves a change standing. -/
theorem Stands.keeps {before after : ServiceRecord}
    (stands : Stands stored between before) (replaced : entry.replaced = some before)
    (wrote : entry.deed = .wrote () (some after)) (keeps : Keeps before after) :
    Stands stored (entry :: between) after := by
  refine ⟨keeps.desiredCount.trans stands.desiredCount, keeps.status.trans stands.status, ?_⟩
  intro present
  rcases stands.target present with same | ⟨other, member, back⟩
  · rw [← same] at present
    rcases keeps.target present with kept | rolledBack
    · exact .inl (kept.trans same)
    · exact .inr ⟨entry, mem_cons_self .., before, after, replaced, wrote, same, rolledBack⟩
  · exact .inr ⟨other, mem_cons_of_mem _ member, back⟩

/-- Along a lawful log a change stands until the next one. -/
theorem stands_of_sound {jobs : Index → Job}
    (sound : Records.Sound (jobLaw jobs) allows base
      (between ++ ⟨index, .wrote () (some stored), replaced⟩ :: older))
    (unchanged : Unchanged jobs (⟨index, .wrote () (some stored), replaced⟩ :: older) between) :
    ∃ record, content base (between ++ ⟨index, .wrote () (some stored), replaced⟩ :: older) () =
      some record ∧ Stands stored between record := by
  induction between with
  | nil =>
    exact ⟨stored, by simp [content], rfl, rfl, fun _ => .inl rfl⟩
  | cons entry between induction =>
    obtain ⟨lawful, sound⟩ := sound
    obtain ⟨before, held, stands⟩ := induction sound unchanged.2
    rcases entry with ⟨writer, deed, overwritten⟩
    cases deed with
    | noted note | returned result => exact ⟨before, held, stands.mono _⟩
    | wrote key value =>
      obtain ⟨view, ⟨read, after, seen, rfl, change⟩, known⟩ := lawful.law
      have same := lawful.replaced () _ rfl
      rw [append_eq, held] at same
      obtain rfl : read = before := by
        rcases known () _ rfl with blank | known
        · simp [seen] at blank
        · rw [seen, same] at known
          exact Option.some.inj (Option.some.inj known)
      rcases change with requests | keeps
      · exact absurd ⟨requests.request, requests.first, _, rfl⟩ unchanged.1
      · exact ⟨after, by simp [content], stands.keeps same rfl keeps⟩

/--
In every interleaving in which each job writes only what is as it last saw it
and is told what is stored, the change of a successful request stands until the
next request's.
-/
theorem acknowledged_changes_stand
    (jobs : Index → Job) (shelf : Shelf Unit ServiceRecord) (pool : ServicePool Index)
    (reached : (undisturbed Index).Reachable (start jobs shelf) pool) :
    pool.shared.shelf.value () = content shelf.value pool.shared.log () ∧
      ChangesStand jobs shelf.value pool := by
  have same : undisturbed Index = (Records.system trusting).restrict Sincere :=
    restrict_storing fun _ _ _ _ sincere => congrArg (Option.map _) sincere.told
  rw [same] at reached
  have orderly : Orderly (jobLaw jobs) (fun _ _ _ => True) shelf.value
      pool.shared :=
    reachable ⟨fun sincere => sincere.undisturbed.storing (congrArg (Option.map _) sincere.told),
        fun _ _ => trivial, fun _ _ => trivial⟩
      (fun index => obeys_program (jobs index)) reached
  refine ⟨orderly.records (), ?_⟩
  intro index result returned
  have logged := mem_of_returned reached returned
  obtain ⟨newest, before, split⟩ := append_of_mem logged
  have sound := orderly.sound
  rw [split] at sound
  obtain ⟨view, answered, -⟩ := sound.of_append.1.law
  obtain ⟨stored, deeds, earlier, did, keeps, requests⟩ := answered
  obtain ⟨newer, replaced, older, rfl, first⟩ := exists_of_own_eq_append did
  refine ⟨newest ++ ⟨index, .returned (.request (.ok result)), none⟩ ::
    newer, stored, replaced, older, ?_, first ▸ requests, keeps, ?_⟩
  · rw [split, append_assoc, cons_append]
  · intro later between same unchanged
    have whole : newest ++ ⟨index, .returned (.request (.ok result)), none⟩ ::
        (newer ++ ⟨index, .wrote () (some stored), replaced⟩ :: older) = later ++
        (between ++ ⟨index, .wrote () (some stored), replaced⟩ :: older) := by
      rw [← cons_append, ← append_assoc, same, append_assoc]
    rw [whole] at sound
    exact stands_of_sound sound.of_append unchanged

end

/-! ## A run that undoes a change -/

/-- A service on which nothing else fails and no tasks run. -/
def idle (Index : Type) : Server serviceAccess Index Unit where
  answer
    | _, .getService, shelf, _ => some (.ok (shelf.value ()))
    | _, .putService _, _, _ => some .acknowledged
    | _, .listTasks, _, _ => some (.ok [])
    | _, .runTask _, _, _ => some ()
    | _, .requestStop _ _, _, _ => some ()
    | _, .resolveTaskDef ref, _, _ =>
      some (.ok ⟨"arn:aws:ecs:::task-definition/" ++ ref, "billing", 2, "awsvpc"⟩)
    | _, .draws, _, _ => some ⟨10, "placement", "rollout", "deployment"⟩
  shown := by
    intro index op shelf choice reply answered key value shown
    cases op with
    | getService =>
      cases answered
      cases shown
      rfl
    | _ => cases shown
  told := nofun
  expected := by
    intro index op shelf choice reply answered key value revision _ wrong
    cases wrong

/-- A service of two tasks. -/
def billing : ServiceRecord where
  name := "billing"
  cluster := "default"
  taskDefFamily := "billing"
  taskDefRevision := 1
  taskDefARN := "arn:aws:ecs:::task-definition/billing:1"
  desiredCount := 2
  status := .active
  settings := { networkMode := "awsvpc" }
  deploymentID := "ecs-svc-1"
  minimumHealthyPercent := 100
  maximumPercent := 200
  createdAt := 1
  updatedAt := 1

/-- An update to five tasks, and a pass. -/
def scaling : Bool → Job
  | true => .updateService { desiredCount := some 5 }
  | false => .pass

/-- The record of the service in its bucket. -/
def stocked : Shelf Unit ServiceRecord :=
  Shelf.empty.put () (some billing)

/-- The count an update has acknowledged. -/
def Outcome.count : Outcome → Option Int
  | .request (.ok record) => some record.desiredCount
  | .request (.error _) => none
  | .background => none

theorem exists_of_count {thread : Thread Call Call.Reply Outcome} {count : Int}
    (counted : thread.result.bind Outcome.count = some count) :
    ∃ result, thread = .returned (.request (.ok result)) ∧ result.desiredCount = count := by
  obtain ⟨outcome, finished, counted⟩ := Option.bind_eq_some_iff.1 counted
  rw [Thread.result_eq_some] at finished
  cases outcome with
  | background => cases counted
  | request result =>
    cases result with
    | error failure => cases counted
    | ok record => exact ⟨record, finished, Option.some.inj counted⟩

/-- With one request alone nothing after its change is a change. -/
theorem unchanged_of_sole [DecidableEq Index]
    (wrote : isWrite first.deed = true)
    (sole : ∀ index, (jobs index).isRequest = true → index = first.index)
    (older between : ServiceLog Index) : Unchanged jobs (first :: older) between := by
  induction between with
  | nil => trivial
  | cons entry between induction =>
    refine ⟨?_, induction⟩
    intro change
    have none := change.first
    rw [sole _ change.request] at none
    simp [own, wrote] at none

/-- A schedule of jobs. -/
def moves {Index : Type} (schedule : List Index) : List (System.Move Index Unit) :=
  schedule.map fun index => .thread index ()

/-- A pass that read the record before an update writes it after. -/
theorem stale_pass_undoes_update :
    ∃ pool, (services Bool).Reachable (start scaling stocked) pool ∧
      (pool.thread true).result.bind Outcome.count = some 5 ∧
      (pool.shared.shelf.value ()).map ServiceRecord.desiredCount = some 2 ∧
      ¬ ChangesStand scaling stocked.value pool := by
  have played : ((idle Bool).resolver.play (start scaling stocked)
        (moves (false :: replicate 9 true ++ replicate 6 false))).map
      (fun pool => ((pool.thread true).result.bind Outcome.count,
        (pool.shared.shelf.value ()).map desiredCount,
        (content stocked.value pool.shared.log ()).map desiredCount)) =
      some (some 5, some 2, some 2) := by
    decide +kernel
  obtain ⟨pool, reached, seen⟩ := (idle Bool).resolver.exists_of_play played
  obtain ⟨counted, seen⟩ := Prod.mk.inj seen
  obtain ⟨shelved, logged⟩ := Prod.mk.inj seen
  refine ⟨pool, reached, counted, shelved, ?_⟩
  intro stand
  obtain ⟨result, returned, five⟩ := exists_of_count counted
  obtain ⟨newer, stored, replaced, older, split, -, keeps, holds⟩ := stand true result returned
  have sole : ∀ index, (scaling index).isRequest = true → index = true := by
    decide
  obtain ⟨record, held, stands⟩ := holds [] newer rfl (unchanged_of_sole rfl sole older newer)
  rw [split, held] at logged
  have two : record.desiredCount = 2 := Option.some.inj logged
  rw [stands.desiredCount, ← keeps.desiredCount, five] at two
  exact absurd two (by decide)

instance decidableSincere [DecidableEq Index] (index : Index) (call : Call)
    (before : Records.State Index Unit ServiceRecord Resolved Outcome) (reply : call.Reply) :
    Decidable (Sincere index call before reply) :=
  decidable_of_iff _ (sincere_iff index call before reply).symm

/-- The undisturbed runs in which a server answers. -/
def undisturbedIdle (Index : Type) [DecidableEq Index] : (undisturbed Index).Resolver Unit :=
  (idle Index).resolver.restrict _

/-- A change of the task definition, a failed task of it, a deletion and a pass. -/
def replacing : Fin 4 → Job
  | 0 => .updateService { desiredCount := some 5, taskDefinition := "billing:2" }
  | 1 => .recordDeploymentFailure
      { taskID := "a"
        startedBy := deploymentStartedBy "deployment"
        desiredStatus := .running
        lastStatus := .stopped }
  | 2 => .deleteService
  | 3 => .pass

/-- Others write the record after the update and read it after the deletion. -/
theorem acknowledged_changes_stand_in_turn :
    ∃ pool, (undisturbed (Fin 4)).Reachable (start replacing stocked) pool ∧
      (pool.thread 0).result.bind Outcome.count = some 5 ∧
      (pool.thread 2).result.bind Outcome.count = some 0 ∧
      (pool.shared.shelf.value ()).map (fun record => (record.status, record.target)) =
        some (.inactive, some "arn:aws:ecs:::task-definition/billing:2") ∧
      pool.shared.shelf.value () = content stocked.value pool.shared.log () ∧
      ChangesStand replacing stocked.value pool := by
  have played : ((undisturbedIdle (Fin 4)).play (start replacing stocked)
        (moves (replicate 9 0 ++ replicate 4 1 ++ replicate 5 2 ++ replicate 2 3))).map
      (fun pool => ((pool.thread 0).result.bind Outcome.count,
        (pool.thread 2).result.bind Outcome.count,
        (pool.shared.shelf.value ()).map fun record => (record.status, record.target))) =
      some (some 5, some 0,
        some (.inactive, some "arn:aws:ecs:::task-definition/billing:2")) := by
    decide +kernel
  obtain ⟨pool, reached, seen⟩ := (undisturbedIdle (Fin 4)).exists_of_play played
  obtain ⟨updated, seen⟩ := Prod.mk.inj seen
  obtain ⟨deleted, shelved⟩ := Prod.mk.inj seen
  exact ⟨pool, reached, updated, deleted, shelved,
    acknowledged_changes_stand replacing stocked pool reached⟩

end Spinifex.Ecs
