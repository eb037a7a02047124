import Mathlib.Algebra.BigOperators.Group.List.Basic
import Mathlib.Data.List.Nodup
import Mathlib.Data.List.Perm.Basic
import Spinifex.Ecs.Counts

/-!
# Rollouts over many passes

A round is a pass run alone, after which every launched task is RUNNING and
every stop request has completed.  The counts of a service after a round are
those of a round on its counts, and the tasks that no tally counts stay as they
are, so a rollout ends exactly if there are none of these and its counts reach
the goal.
-/

namespace Spinifex.Ecs

open Go Concurrency List TaskRecord Census ServiceRecord Ecs Function

/-! ## The PRIMARY deployment -/

/-- A deployment is the one that is PRIMARY, and no other has its identifier. -/
def Sole (deployments : List Deployment) (primary : Deployment) : Prop :=
  ∃ before after, deployments = before ++ primary :: after ∧ primary.status = .primary ∧
    ∀ other ∈ before ++ after, other.status ≠ .primary ∧ other.id ≠ primary.id

namespace Sole

variable {deployments : List Deployment} {primary : Deployment}
    {record : ServiceRecord}

theorem isPrimary (sole : Sole deployments primary) : primary.status = .primary := by
  obtain ⟨_, _, _, isPrimary, _⟩ := sole
  exact isPrimary

theorem primaryDeployment_eq
    (sole : Sole record.deployments primary) : record.primaryDeployment = some primary := by
  obtain ⟨before, after, split, isPrimary, others⟩ := sole
  unfold primaryDeployment
  rw [split, find?_append, find?_eq_none.2, Option.none_or,
    find?_cons_of_pos (by simpa using isPrimary)]
  intro other member
  simpa using (others other (mem_append_left _ member)).1

theorem modify (sole : Sole deployments primary) {change : Deployment → Deployment}
    (status : (change primary).status = primary.status) (id : (change primary).id = primary.id) :
    Sole (modifyPrimary change deployments) (change primary) := by
  obtain ⟨before, after, rfl, isPrimary, others⟩ := sole
  refine ⟨before, after, ?_, status.trans isPrimary, by rwa [id]⟩
  induction before with
  | nil => simp [modifyPrimary, isPrimary]
  | cons other before induction =>
    have different := (others other (by simp)).1
    rw [cons_append, modifyPrimary, if_neg different, induction]
    · rfl
    · intro other member
      exact others other (mem_cons_of_mem _ member)

theorem prune (sole : Sole record.deployments primary) :
    record.pruneCompletedDeployments.deployments = [primary] := by
  obtain ⟨before, after, split, isPrimary, others⟩ := sole
  have none (part : List Deployment) (within : part ⊆ before ++ after) :
      part.filter (fun other => other.status = .primary) = [] := by
    rw [filter_eq_nil_iff]
    intro other member
    simpa using (others other (within member)).1
  unfold pruneCompletedDeployments
  rw [split]
  rw [filter_append, filter_cons_of_pos (by simpa using isPrimary),
    none before (subset_append_left ..), none after (subset_append_right ..)]
  rfl

theorem singleton (isPrimary : primary.status = .primary) : Sole [primary] primary :=
  ⟨[], [], rfl, isPrimary, by simp⟩

end Sole

/-! ## Tallies of the deployments -/

/-- A deployment with the tallies of some tasks. -/
def Deployment.tally (tasks : List TaskRecord) (deployment : Deployment) : Deployment :=
  { deployment with
    runningCount := tallied tasks deployment.id .running
    pendingCount := tallied tasks deployment.id .pending }

/-- A deployment stands for another, with at most the tallies of its tasks. -/
structure Tallies (tasks : List TaskRecord) (original counted : Deployment) : Prop where
  status : counted.status = original.status
  id : counted.id = original.id
  running : counted.runningCount = 0 ∨ counted.runningCount = tallied tasks original.id .running
  pending : counted.pendingCount = 0 ∨ counted.pendingCount = tallied tasks original.id .pending

section

variable {tasks : List TaskRecord}

theorem tallyList_append (before after : List Deployment) :
    ∃ counted : List Deployment, tallyList tasks (before ++ after) =
        counted ++ tallyList tasks after ∧
      ∀ other ∈ counted, ∃ original ∈ before,
        Tallies tasks original other := by
  induction before with
  | nil => exact ⟨[], rfl, by simp⟩
  | cons deployment before induction =>
    obtain ⟨counted, split, members⟩ := induction
    rw [cons_append, tallyList, split]
    refine ⟨_ :: counted, rfl, ?_⟩
    intro other member
    rcases mem_cons.1 member with rfl | member
    · refine ⟨deployment, mem_cons_self .., rfl, rfl, ?_, ?_⟩ <;>
        exact ite_eq_or_eq ..
    · obtain ⟨original, within, tallies⟩ := members other member
      exact ⟨original, mem_cons_of_mem _ within, tallies⟩

variable {deployments : List Deployment} {primary : Deployment}

/-- The PRIMARY deployment is tallied exactly. -/
theorem Sole.tally (sole : Sole deployments primary) :
    Sole (tallyList tasks deployments) (primary.tally tasks) ∧
      ∀ other ∈ tallyList tasks deployments, other.status ≠ .primary →
        ∃ original ∈ deployments, original.id ≠ primary.id ∧ Tallies tasks original other := by
  obtain ⟨before, after, rfl, isPrimary, others⟩ := sole
  obtain ⟨first, firstSplit, firstMembers⟩ := @tallyList_append tasks before (primary :: after)
  obtain ⟨second, secondSplit, secondMembers⟩ := @tallyList_append tasks after []
  have unshadowed : (after.any fun other => other.id = primary.id) = false := by
    rw [any_eq_false]
    intro other member
    simpa using (others other (mem_append_right _ member)).2
  have exactly : tallyList tasks (primary :: after) = primary.tally tasks :: second := by
    rw [append_nil] at secondSplit
    simp only [tallyList, unshadowed, Bool.false_eq_true, if_false, secondSplit, append_nil]
    rfl
  have members : ∀ other ∈ first ++ second, ∃ original ∈ before ++ after,
      Tallies tasks original other := by
    refine forall_mem_append.2 ⟨fun other member => ?_, fun other member => ?_⟩
    · exact (firstMembers other member).imp fun _ => .imp_left (mem_append_left _)
    · exact (secondMembers other member).imp fun _ => .imp_left (mem_append_right _)
  rw [firstSplit, exactly]
  refine ⟨⟨first, second, rfl, isPrimary, ?_⟩, ?_⟩
  · intro other member
    obtain ⟨original, within, tallies⟩ := members other member
    rw [tallies.status, tallies.id]
    exact others original within
  · intro other member notPrimary
    have inside : other ∈ first ++ second := by
      rw [mem_append, mem_cons] at member
      refine mem_append.2 (member.imp_right (Or.resolve_left · ?_))
      rintro rfl
      exact notPrimary isPrimary
    obtain ⟨original, within, tallies⟩ := members other inside
    refine ⟨original, ?_, (others original within).2, tallies⟩
    rw [mem_append] at within ⊢
    exact within.imp_right (mem_cons_of_mem _)

variable {change : Deployment → Deployment}

theorem mem_modifyPrimary (member : other ∈ modifyPrimary change deployments) :
    other ∈ deployments ∨ ∃ primary ∈ deployments,
      primary.status = .primary ∧ other = change primary := by
  induction deployments with
  | nil => simp [modifyPrimary] at member
  | cons deployment rest induction =>
    rw [modifyPrimary] at member
    split at member
    next isPrimary =>
      rcases mem_cons.1 member with rfl | member
      · exact .inr ⟨deployment, .head _, isPrimary, rfl⟩
      · exact .inl (.tail _ member)
    · rcases mem_cons.1 member with rfl | member
      · exact .inl (.head _)
      · exact (induction member).imp (.tail _)
          fun changed => changed.imp fun _ => .imp_left (.tail _)

theorem remainingOld_eq_zero (empty : ∀ other ∈ deployments, other.status ≠ .primary →
      other.runningCount + other.pendingCount = 0) :
    remainingOld deployments = 0 := by
  apply sum_eq_zero
  intro count member
  obtain ⟨other, within, rfl⟩ := mem_map.1 member
  obtain ⟨inside, notPrimary⟩ := mem_filter.1 within
  exact empty other inside (by simpa using notPrimary)

/-- Without tasks of other deployments there are none left to drain. -/
theorem Sole.remainingOld_eq_zero (sole : Sole deployments primary)
    (own : ∀ task ∈ tasks, task.deployment = primary.id)
    (status : ∀ deployment, (change deployment).status = deployment.status) :
    remainingOld (modifyPrimary change (tallyList tasks deployments)) = 0 := by
  have none {id : String} (different : id ≠ primary.id) (kind : TaskStatus) :
      tallied tasks id kind = 0 := by
    unfold tallied
    rw [countP_eq_zero]
    intro task member
    simp [own task member, different.symm]
  apply Ecs.remainingOld_eq_zero
  intro other member notPrimary
  rcases mem_modifyPrimary member with member | ⟨deployment, -, isPrimary, rfl⟩
  · obtain ⟨original, -, different, tallies⟩ := sole.tally.2 other member notPrimary
    have running := tallies.running
    have pending := tallies.pending
    rw [none different] at running pending
    omega
  · exact absurd ((status deployment).trans isPrimary) notPrimary

end

/-! ## The record of a rollout -/

/-- A deployment none of whose tasks has failed. -/
structure Healthy (deployment : Deployment) : Prop where
  failedTasks : deployment.failedTasks = 0
  rolloutState : deployment.rolloutState ≠ .failed
  nextLaunchAt : deployment.nextLaunchAt = 0

/-- An active service with one healthy PRIMARY deployment, or none yet. -/
structure Rolling (record : ServiceRecord) (id : String) : Prop where
  active : record.status = .active
  primary : (record.deployments = [] ∧ record.deploymentID = id) ∨ ∃ primary,
    Sole record.deployments primary ∧ primary.id = id ∧ Healthy primary

/-- What a pass does not change, apart from the defaults. -/
structure Continues (before after : ServiceRecord) : Prop where
  name : after.name = before.name
  status : after.status = before.status
  desiredCount : after.desiredCount = before.desiredCount
  minimum : after.minimumHealthyPercent = before.normalizeDeploymentConfig.minimumHealthyPercent
  maximum : after.maximumPercent = before.normalizeDeploymentConfig.maximumPercent

section

variable {record : ServiceRecord} {id : String}

theorem continues_prepared (tasks : List TaskRecord) (now : Time) :
    Continues record (prepared record tasks now) := by
  unfold prepared tallyDeployments ensurePrimaryDeployment
  split <;> exact ⟨rfl, rfl, rfl, rfl, rfl⟩

/-- The PRIMARY deployment a pass works on. -/
theorem Rolling.prepared (rolling : Rolling record id) (tasks : List TaskRecord) (now : Time) :
    ∃ primary, Sole (prepared record tasks now).deployments (primary.tally tasks) ∧
      primary.id = id ∧ Healthy primary := by
  rcases rolling.primary with ⟨empty, same⟩ | ⟨primary, sole, same, healthy⟩
  · have missing : record.normalizeDeploymentConfig.primaryDeployment = none := by
      unfold primaryDeployment
      rw [show record.normalizeDeploymentConfig.deployments = [] from empty]
      rfl
    unfold Ecs.prepared ensurePrimaryDeployment
    rw [missing]
    rw [show record.normalizeDeploymentConfig.deployments = [] from empty]
    exact ⟨_, (Sole.singleton rfl).tally.1, same, rfl, by simp, rfl⟩
  · have found : record.normalizeDeploymentConfig.primaryDeployment = some primary :=
      Sole.primaryDeployment_eq sole
    unfold Ecs.prepared ensurePrimaryDeployment
    rw [found]
    exact ⟨primary, Sole.tally sole |>.1, same, healthy⟩

variable {primary : Deployment} {desired : Int} {now : Time}
    {eventID : String} {before : ServiceRecord}

section

variable (continues : Continues before record)

include continues

theorem Continues.updateRolloutState :
    Continues before (updateRolloutState record desired now eventID) := by
  obtain ⟨name, status, wanted, minimum, maximum⟩ := continues
  unfold Ecs.updateRolloutState
  dsimp only
  split
  · exact ⟨name, status, wanted, minimum, maximum⟩
  · split
    · exact ⟨name, status, wanted, minimum, maximum⟩
    · split
      · split <;> exact ⟨name, status, wanted, minimum, maximum⟩
      · exact ⟨name, status, wanted, minimum, maximum⟩

theorem Continues.tallyDeployments (events : List ServiceEvent) (tasks : List TaskRecord) :
    Continues before (ServiceRecord.tallyDeployments { record with events := events } tasks) :=
  { continues with }

theorem Continues.withCounts (running pending : Nat) :
    Continues before (withCounts record running pending) :=
  { continues with }

end

/-- A rollout goes on, or is completed and its other deployments go. -/
theorem Sole.updateRolloutState
    (sole : Sole record.deployments primary) (healthy : Healthy primary) :
    ∃ updated, Sole (updateRolloutState record desired now eventID).deployments updated ∧
      updated.id = primary.id ∧ Healthy updated ∧
      (desired ≤ primary.runningCount → remainingOld (modifyPrimary
              (fun primary => { primary with desiredCount := desired })
              record.deployments) = 0 →
        (updateRolloutState record desired now eventID).deployments = [updated] ∧
          updated.rolloutState = .completed) := by
  have wanted : Sole (modifyPrimary (fun primary => { primary with desiredCount := desired })
        record.deployments)
      { primary with desiredCount := desired } :=
    sole.modify rfl rfl
  have found := @Sole.primaryDeployment_eq _
    { record with
      deployments := modifyPrimary (fun primary => { primary with desiredCount := desired })
        record.deployments } wanted
  unfold Ecs.updateRolloutState
  dsimp only
  rw [found]
  dsimp only
  rw [if_neg healthy.rolloutState]
  split
  · split
    next completed =>
      refine ⟨{ primary with desiredCount := desired }, ?_, rfl, { healthy with }, ?_⟩
      · rw [Sole.prune wanted]
        exact Sole.singleton wanted.isPrimary
      · intro _ _
        exact ⟨Sole.prune wanted, completed⟩
    · have finished := @Sole.modify _ _ wanted (fun primary =>
            { primary with
              rolloutState := .completed
              rolloutReason := "ECS deployment completed."
              updatedAt := now }) rfl rfl
      refine ⟨{ primary with
            desiredCount := desired
            rolloutState := .completed
            rolloutReason := "ECS deployment completed."
            updatedAt := now }, ?_, rfl,
          ⟨healthy.failedTasks, by simp, healthy.nextLaunchAt⟩, ?_⟩
      · rw [Sole.prune finished]
        exact Sole.singleton finished.isPrimary
      · intro _ _
        exact ⟨Sole.prune finished, rfl⟩
  next unfinished =>
    refine ⟨{ primary with desiredCount := desired, rolloutState := .inProgress },
        Sole.modify wanted rfl rfl, rfl, ⟨healthy.failedTasks, by simp, healthy.nextLaunchAt⟩, ?_⟩
    intro enough drained
    exact absurd ⟨enough, drained⟩ unfinished

end

/-! ## Stop requests and completed work -/

/-- The tasks with stop requests noted on some of them. -/
def markAll (targets : List TaskRecord) (task : TaskRecord) : TaskRecord :=
  if task.taskID ∈ targets.map TaskRecord.taskID then
    { task with desiredStatus := .stopped }
  else
    task

/-- A launched task is RUNNING and a stop request has completed. -/
def settleTask (task : TaskRecord) : TaskRecord :=
  if task.desiredStatus = .stopped then
    { task with lastStatus := .stopped }
  else if task.lastStatus = .pending then { task with lastStatus := .running } else task

section

theorem markAll_nil : markAll [] = id := by
  funext task
  exact if_neg not_mem_nil

theorem markAll_cons (target : TaskRecord) (targets : List TaskRecord) (task : TaskRecord) :
    markAll (target :: targets) task = markAll targets (markStopped target task) := by
  unfold markAll markStopped
  rw [map_cons]
  by_cases hit : task.taskID = target.taskID
  · rw [if_pos (hit ▸ mem_cons_self ..), if_pos hit]
    split <;> rfl
  · rw [if_neg hit]
    simp only [mem_cons, hit, false_or]

theorem foldl_markStopped (stops : List (TaskRecord × String)) (tasks : List TaskRecord) :
    stops.foldl (fun tasks stop => tasks.map (markStopped stop.1)) tasks =
      tasks.map (markAll (stops.map Prod.fst)) := by
  induction stops generalizing tasks with
  | nil => simp [markAll_nil]
  | cons stop rest induction =>
    rw [foldl_cons, induction, map_map]
    refine map_congr_left fun task _ => ?_
    exact (markAll_cons stop.1 (rest.map Prod.fst) task).symm

variable {name : String} {targets : List TaskRecord} (task : TaskRecord)

theorem taskID_settleTask : (settleTask task).taskID = task.taskID := by
  unfold settleTask
  split
  · rfl
  · split <;> rfl

theorem taskID_markAll : (markAll targets task).taskID = task.taskID := by
  unfold markAll
  split <;> rfl

theorem counts_markAll :
    (markAll targets task).counts name = (task.counts name &&
      decide (task.taskID ∉ targets.map taskID)) := by
  unfold markAll counts
  split
  next hit =>
    simp [hit]
  next missed =>
    simp [missed]

theorem counts_settleTask : (settleTask task).counts name = task.counts name := by
  unfold settleTask counts
  split
  next stopped =>
    simp [stopped]
  · split
    next pending =>
      simp [pending]
    · rfl

/-- No counted task is PENDING once everything has settled. -/
theorem lastStatus_settleTask {task : TaskRecord} (counts : task.counts name = true) :
    (settleTask task).lastStatus ≠ .pending := by
  simp only [TaskRecord.counts, Bool.and_eq_true, decide_eq_true_eq] at counts
  unfold settleTask
  rw [if_neg counts.2]
  split
  · simp
  next live =>
    exact live

/-- A tally counts a task as before, unless it was asked to stop. -/
theorem isTallied_settleTask {task : TaskRecord} (counts : task.counts name = true) :
    (settleTask task).lastStatus.isTallied = task.lastStatus.isTallied := by
  simp only [TaskRecord.counts, Bool.and_eq_true, decide_eq_true_eq] at counts
  unfold settleTask
  rw [if_neg counts.2]
  split
  next pending =>
    rw [pending]
    rfl
  · rfl

theorem deployment_settleTask : (settleTask task).deployment = task.deployment := by
  unfold settleTask deployment
  split
  · rfl
  · split <;> rfl

end

/-! ## Counting after a round -/

section

variable {primaryID : String} {live : List TaskRecord}

/-- No task is of a kind. -/
theorem length_classOf_eq_zero {status : TaskStatus} :
    (classOf primaryID isPrimary status live).length = 0 ↔ ∀ task ∈ live,
      decide (task.deployment = primaryID) = isPrimary → task.lastStatus ≠ status := by
  simp [classOf, length_eq_zero_iff]

/-- Different kinds have no task in common. -/
theorem ne_of_classOf {first second : List TaskRecord} {status otherStatus : TaskStatus}
    (firstWithin : first ⊆ classOf primaryID isPrimary status live)
    (secondWithin : second ⊆ classOf primaryID other otherStatus live)
    (different : isPrimary ≠ other ∨ status ≠ otherStatus) :
    ∀ left ∈ first, ∀ right ∈ second, left ≠ right := by
  rintro left leftMember _ rightMember rfl
  have leftKind := (mem_filter.1 (firstWithin leftMember)).2
  have rightKind := (mem_filter.1 (secondWithin rightMember)).2
  simp only [Bool.and_eq_true, decide_eq_true_eq] at leftKind rightKind
  rcases different with different | different
  · exact different (leftKind.1.symm.trans rightKind.1)
  · exact different (leftKind.2.symm.trans rightKind.2)

/-- A pass asks each task at most once to stop. -/
theorem nodup_surplusStops (distinct : live.Nodup) (desired running floor : Int) :
    ((surplusStops live primaryID desired running floor).map Prod.fst).Nodup := by
  have kinds (isPrimary : Bool) (status : TaskStatus) :
      (classOf primaryID isPrimary status live).Nodup :=
    distinct.filter _
  have parts (isPrimary : Bool) (status : TaskStatus) (count : Nat) :
      ((classOf primaryID isPrimary status live).take count).Nodup :=
    (kinds isPrimary status).sublist (take_sublist ..)
  simp only [surplusStops, map_append, map_map, comp_def, map_id']
  rw [nodup_append, nodup_append, nodup_append]
  refine ⟨⟨⟨kinds .., parts .., ?_⟩, parts .., ?_⟩, parts .., ?_⟩
  · exact ne_of_classOf (List.Subset.refl _) (take_subset ..) (.inl (by decide))
  · refine forall_mem_append.2 ⟨?_, ?_⟩
    · exact ne_of_classOf (List.Subset.refl _) (take_subset ..) (.inr (by decide))
    · exact ne_of_classOf (take_subset ..) (take_subset ..) (.inr (by decide))
  · refine forall_mem_append.2 ⟨forall_mem_append.2 ⟨?_, ?_⟩, ?_⟩
    · exact ne_of_classOf (List.Subset.refl _) (take_subset ..) (.inr (by decide))
    · exact ne_of_classOf (take_subset ..) (take_subset ..) (.inr (by decide))
    · exact ne_of_classOf (take_subset ..) (take_subset ..) (.inl (by decide))

/-- The tasks that are left, counted by what was taken away. -/
theorem countP_filter_notMem [DecidableEq Item] {items taken : List Item}
    (distinct : items.Nodup) (once : taken.Nodup) (within : taken ⊆ items) (test : Item → Bool) :
    taken.countP test + (items.filter fun item => item ∉ taken).countP test =
      items.countP test := by
  have same : (items.filter fun item => item ∈ taken).Perm taken := by
    rw [perm_ext_iff_of_nodup (distinct.filter _) once]
    intro item
    simp only [mem_filter, decide_eq_true_eq]
    exact ⟨fun both => both.2, fun member => ⟨within member, member⟩⟩
  have whole := (filter_append_perm (fun item => decide (item ∈ taken)) items).countP_eq test
  rw [countP_append, same.countP_eq] at whole
  rw [← whole]
  congr 2
  refine filter_congr fun item _ => ?_
  simp

end

/-! ## Rounds -/

/-- A pass, after which all that it asked for is done. -/
def round (surroundings : Surroundings)
    (service : ServiceRecord × List TaskRecord) : ServiceRecord × List TaskRecord :=
  let world := runPass surroundings service.1 service.2
  (world.stored, world.tasks.map settleTask)

/-- The service after some rounds. -/
def rounds (surroundings : Nat → Surroundings) (service : ServiceRecord × List TaskRecord) :
    Nat → ServiceRecord × List TaskRecord
  | 0 => service
  | count + 1 => round (surroundings count) (rounds surroundings service count)

/-- The rollout is over. -/
structure Converged (service : ServiceRecord × List TaskRecord) (primary : Deployment) : Prop where
  isPrimary : primary.status = .primary
  only : service.1.deployments = [primary]
  completed : primary.rolloutState = .completed
  count : ((counted service.1 service.2).length : Int) = service.1.desiredCount
  tasks : ∀ task ∈ counted service.1 service.2,
    task.lastStatus = .running ∧ task.deployment = primary.id

section

variable {surroundings : Surroundings} {record : ServiceRecord}
    {tasks : List TaskRecord} {id : String}

theorem not_trips {current : ServiceRecord} {primary : Deployment}
    (healthy : Healthy primary) : trips current primary = false := by
  unfold trips
  rw [healthy.failedTasks]
  simp [circuitBreakerFailureThreshold]

/-- A launch of a healthy deployment changes no more than the events. -/
theorem launch_record {current : ServiceRecord} {primary : Deployment} {world : World}
    (healthy : Healthy primary) (running pending : Nat) :
    ∃ events, ((launch current primary running pending surroundings.draws).run
        (perform surroundings) world).1 =
      { current with events := events } := by
  have noBackoff : launchBackoff primary.failedTasks = 0 := by
    rw [healthy.failedTasks]
    rfl
  unfold launch
  split
  · dsimp only
    split
    · refine ⟨current.events, ?_⟩
      rw [noBackoff]
      rfl
    · split
      · exact ⟨current.events, rfl⟩
      · exact ⟨_, rfl⟩
  · exact ⟨current.events, rfl⟩

/-- The tasks of a healthy service after a pass. -/
def passTasks (surroundings : Surroundings) (record : ServiceRecord)
    (tasks : List TaskRecord) (primary : Deployment) : List TaskRecord :=
  (tasks ++ newTasks surroundings.taskID 0 (launchInput (current surroundings record tasks) primary
          (launches surroundings record tasks primary))).map
    (markAll ((surplusStops (counted record tasks) primary.id record.desiredCount
      (countOf .running (counted record tasks))
      (minCount (current surroundings record tasks))).map Prod.fst))

/-- The tasks the service counts after a pass. -/
abbrev freshTasks (surroundings : Surroundings) (record : ServiceRecord)
    (tasks : List TaskRecord) (primary : Deployment) : List TaskRecord :=
  counted record (passTasks surroundings record tasks primary)

/-- A healthy PRIMARY deployment with its tallies. -/
structure Tallied (record : ServiceRecord) (tasks : List TaskRecord) (id : String)
    (primary : Deployment) : Prop where
  same : primary.id = id
  healthy : Healthy primary
  running : primary.runningCount = tallied (counted record tasks) id .running
  pending : primary.pendingCount = tallied (counted record tasks) id .pending

variable (surroundings record tasks) in
/-- What a pass has done when it counts the tasks again. -/
abbrev afterRequests (primary : Deployment) : World :=
  (World.afterLaunch surroundings { stored := record, tasks := tasks }
      (current surroundings record tasks) primary (countOf .running (counted record tasks))
      (countOf .pending (counted record tasks))).afterStops
    (surplusStops (counted record tasks) primary.id (current surroundings record tasks).desiredCount
      (countOf .running (counted record tasks)) (minCount (current surroundings record tasks)))

theorem tasks_afterRequests (primary : Deployment) :
    (afterRequests surroundings record tasks primary).tasks =
      passTasks surroundings record tasks primary := by
  unfold afterRequests World.afterStops passTasks
  rw [foldl_markStopped, prepared_desiredCount]
  unfold World.afterLaunch launches
  split
  · rfl
  · simp [newTasks, launchInput]

/-- What a pass leaves of a service in a rollout. -/
theorem runPass_rolling (rolling : Rolling record id) :
    ∃ primary, Tallied record tasks id primary ∧
      (runPass surroundings record tasks).tasks = passTasks surroundings record tasks primary ∧
      Continues record (runPass surroundings record tasks).stored ∧
      ∃ updated, Sole (runPass surroundings record tasks).stored.deployments updated ∧
        updated.id = id ∧ Healthy updated ∧
        (record.desiredCount ≤ tallied (freshTasks surroundings record tasks primary) id .running →
          (∀ task ∈ freshTasks surroundings record tasks primary, task.deployment = id) →
          (runPass surroundings record tasks).stored.deployments = [updated] ∧
            updated.rolloutState = .completed) := by
  obtain ⟨original, sole, same, healthy⟩ :=
    rolling.prepared (counted record tasks) surroundings.draws.now
  have tally : Tallied record tasks id (original.tally (counted record tasks)) :=
    ⟨same, { healthy with }, same ▸ rfl, same ▸ rfl⟩
  generalize original.tally (counted record tasks) = primary at sole tally
  obtain ⟨launched, launchRan, ran⟩ :=
    @run_advance surroundings { stored := record, tasks := tasks } record
      (current surroundings record tasks) primary (counted record tasks) rfl
  obtain ⟨events, launchedEq⟩ := @launch_record surroundings (current surroundings record tasks)
      primary { stored := record, tasks := tasks } tally.healthy
      (countOf .running (counted record tasks)) (countOf .pending (counted record tasks))
  have passed := run_reconcileService sole.primaryDeployment_eq rolling.active
  rw [not_trips tally.healthy] at passed
  simp only [Bool.false_eq_true, if_false] at passed
  rw [ran] at passed
  subst launchRan
  rw [launchedEq] at passed
  have after := @tasks_afterRequests surroundings record tasks primary
  have fresh : World.live (afterRequests surroundings record tasks primary)
        (current surroundings record tasks).name =
      freshTasks surroundings record tasks primary := by
    unfold World.live
    rw [after, prepared_name]
  rw [fresh] at passed
  obtain rfl := tally.same
  have again := (@Sole.tally (freshTasks surroundings record tasks primary) _ _ sole).1
  obtain ⟨updated, soleUpdated, sameUpdated, healthyUpdated, completes⟩ :=
    @Sole.updateRolloutState (tallyDeployments
        { current surroundings record tasks with events := events }
        (freshTasks surroundings record tasks primary)) _
      (current surroundings record tasks).desiredCount surroundings.draws.now
      surroundings.draws.rolloutEventID again { tally.healthy with }
  have kept := @continues_prepared record (counted record tasks) surroundings.draws.now
  refine ⟨primary, tally, ?_, ?_, updated, ?_, sameUpdated, healthyUpdated, ?_⟩
  · rwa [passed]
  · rw [passed]
    exact (kept.tallyDeployments events _).updateRolloutState.withCounts _ _
  · rwa [passed]
  · intro enough own
    rw [passed]
    rw [← prepared_desiredCount record (counted record tasks) surroundings.draws.now] at enough
    exact completes enough (sole.remainingOld_eq_zero own fun _ => rfl)

theorem tallied_eq (live : List TaskRecord) (status : TaskStatus) :
    tallied live id status = (classOf id true status live).length := by
  unfold tallied classOf
  rw [countP_eq_length_filter]
  simp

/-- A healthy deployment launches as the counts say. -/
theorem launches_eq_census {primary : Deployment} (tally : Tallied record tasks id primary) :
    launches surroundings record tasks primary =
      (census id (counted record tasks)).launches record.desiredCount
        (maxCount (current surroundings record tasks)) := by
  have count : primary.runningCount + primary.pendingCount =
      (census id (counted record tasks)).primary := by
    rw [tally.running, tally.pending, tallied_eq, tallied_eq]
    unfold Census.primary census
    push_cast
    omega
  have all : ((countOf .running (counted record tasks) : Int) +
      countOf .pending (counted record tasks)) = (census id (counted record tasks)).total := by
    rw [@countOf_eq id, @countOf_eq id]
    unfold Census.total Census.primary Census.old census
    push_cast
    omega
  have free : wantsLaunch (current surroundings record tasks) primary surroundings.draws.now =
      decide ((census id (counted record tasks)).primary < record.desiredCount) := by
    unfold wantsLaunch
    rw [count, prepared_desiredCount, tally.healthy.nextLaunchAt]
    simp [tally.healthy.rolloutState]
  unfold launches Census.launches launchCount
  rw [free, count, all, prepared_desiredCount]
  simp only [decide_eq_true_eq]

/-- A task stays in the counts of the service unless it was asked to stop. -/
def stays (name : String) (targets : List TaskRecord) (task : TaskRecord) : Bool :=
  task.counts name && decide (task.taskID ∉ targets.map TaskRecord.taskID)

/-- A test that settling does not change for a task that stays. -/
def Steady (test : TaskRecord → Bool) : Prop :=
  ∀ name targets task, stays name targets task = true →
    test (settleTask (markAll targets task)) = test task

variable {targets : List TaskRecord} {name : String}

/-- A task that stays was not asked to stop. -/
theorem markAll_of_stays (stays : stays name targets task = true) :
    markAll targets task = task ∧ task.counts name = true := by
  simp only [Ecs.stays, Bool.and_eq_true, decide_eq_true_eq] at stays
  exact ⟨if_neg stays.2, stays.1⟩

theorem steady_kind (id : String) (isPrimary : Bool) : Steady fun task =>
    decide (task.deployment = id) = isPrimary && task.lastStatus.isTallied := by
  intro name targets task stays
  obtain ⟨same, counts⟩ := markAll_of_stays stays
  dsimp only
  rw [same, deployment_settleTask, isTallied_settleTask counts]

theorem steady_untallied : Steady fun task => !task.lastStatus.isTallied := by
  intro name targets task stays
  obtain ⟨same, counts⟩ := markAll_of_stays stays
  dsimp only
  rw [same, isTallied_settleTask counts]

theorem countP_map_settleTask {test : TaskRecord → Bool} (steady : Steady test)
    (name : String) (targets items : List TaskRecord) :
    (((items.map (markAll targets)).map settleTask).filter (counts name)).countP test =
      (items.filter (stays name targets)).countP test := by
  rw [countP_filter, countP_map, countP_map, countP_filter]
  refine countP_congr fun task _ => ?_
  have kept : (settleTask (markAll targets task)).counts name = stays name targets task := by
    rw [counts_settleTask, counts_markAll]
    rfl
  simp only [comp_apply, kept, Bool.and_eq_true]
  refine and_congr_left fun staying => ?_
  rw [steady name targets task staying]

section

variable {current : ServiceRecord} {primary : Deployment} {count : Nat}
    (named : current.name = name)

include named

/-- A launched task is a PENDING one of the PRIMARY deployment and stays. -/
theorem stays_of_mem_newTasks
    (fresh : ∀ index < count, surroundings.taskID index ∉ targets.map taskID)
    (member : task ∈ newTasks surroundings.taskID 0 (launchInput current primary count)) :
    stays name targets task = true := by
  obtain ⟨index, within, rfl⟩ := mem_map.1 member
  subst named
  have unused := fresh (0 + index) (by simpa [launchInput] using within)
  simp only [stays, counts, launchInput, Bool.and_eq_true, decide_eq_true_eq]
  exact ⟨⟨⟨trivial, by decide⟩, by decide⟩, unused⟩

end

theorem kindCount_newTasks (current : ServiceRecord) (primary : Deployment) (count : Nat)
    (isPrimary : Bool) :
    kindCount primary.id isPrimary (newTasks surroundings.taskID 0
        (launchInput current primary count)) =
      if isPrimary then count else 0 := by
  have own := deploymentIDFromStartedBy_startedBy primary.id
  unfold kindCount newTasks
  rw [countP_map]
  cases isPrimary with
  | true =>
    rw [countP_eq_length.2]
    · simp [launchInput]
    · intro index _
      simp [launchInput, deployment, own, TaskStatus.isTallied]
  | false =>
    rw [countP_eq_zero.2, if_neg Bool.false_ne_true]
    intro index _
    simp [launchInput, deployment, own]

theorem untallied_newTasks (current : ServiceRecord) (primary : Deployment) (count : Nat) :
    untallied (newTasks surroundings.taskID 0 (launchInput current primary count)) = 0 := by
  refine countP_eq_zero.2 fun task member => ?_
  obtain ⟨index, -, rfl⟩ := mem_map.1 member
  simp [TaskStatus.isTallied]

/-- Of the tasks there were, those stay that were not asked to stop. -/
theorem filter_stays (distinct : (tasks.map taskID).Nodup) (within : targets ⊆ tasks) :
    tasks.filter (stays name targets) =
      (tasks.filter (counts name)).filter fun task => task ∉ targets := by
  rw [filter_filter]
  refine filter_congr fun task member => ?_
  have same : task.taskID ∈ targets.map taskID ↔ task ∈ targets := by
    constructor
    · intro named
      obtain ⟨target, asked, sameID⟩ := mem_map.1 named
      rwa [← inj_on_of_nodup_map distinct (within asked) member sameID]
    · exact mem_map_of_mem
  simp only [stays, same, Bool.and_comm]

/-- What a steady test counts after a round. -/
theorem countP_settled {test : TaskRecord → Bool} (steady : Steady test)
    {current : ServiceRecord} {primary : Deployment} {count : Nat} (named : current.name = name)
    (distinct : (tasks.map taskID).Nodup)
    (fresh : ∀ index < count, surroundings.taskID index ∉ tasks.map taskID)
    (asked : targets ⊆ tasks.filter (counts name)) (once : targets.Nodup) :
    targets.countP test + ((((tasks ++ newTasks surroundings.taskID 0
              (launchInput current primary count)).map
            (markAll targets)).map settleTask).filter (counts name)).countP test =
      (tasks.filter (counts name)).countP test +
        (newTasks surroundings.taskID 0 (launchInput current primary count)).countP test := by
  have within : targets ⊆ tasks := fun task member => mem_of_mem_filter (asked member)
  have unused : ∀ index < count, surroundings.taskID index ∉ targets.map taskID := by
    intro index below member
    obtain ⟨task, inside, same⟩ := mem_map.1 member
    exact fresh index below (mem_map.2 ⟨task, within inside, same⟩)
  have left := countP_filter_notMem (List.Nodup.filter _ (List.Nodup.of_map _ distinct)) once asked
    test
  have all : (newTasks surroundings.taskID 0
        (launchInput current primary count)).filter (stays name targets) =
      newTasks surroundings.taskID 0 (launchInput current primary count) :=
    filter_eq_self.2 fun task member => stays_of_mem_newTasks named unused member
  rw [countP_map_settleTask steady, filter_append, countP_append, filter_stays distinct within,
    ← Nat.add_assoc, left, all]

/-- No counted task is PENDING once everything has settled. -/
theorem lastStatus_of_mem_settled {task : TaskRecord}
    (member : task ∈ (tasks.map settleTask).filter (counts name)) :
    task.lastStatus ≠ .pending := by
  obtain ⟨inside, counts⟩ := mem_filter.1 member
  obtain ⟨original, -, rfl⟩ := mem_map.1 inside
  rw [counts_settleTask] at counts
  exact lastStatus_settleTask counts

/-- The counts of tasks none of which is PENDING. -/
theorem census_of_settled {live : List TaskRecord}
    (settled : ∀ task ∈ live, task.lastStatus ≠ .pending) :
    census id live = ⟨0, kindCount id false live, 0, kindCount id true live⟩ := by
  have none (isPrimary : Bool) : (classOf id isPrimary .pending live).length = 0 :=
    length_classOf_eq_zero.2 fun task member _ => settled task member
  have counts (isPrimary : Bool) :
      (classOf id isPrimary .running live).length = kindCount id isPrimary live := by
    rw [kindCount_eq, none, Nat.zero_add]
  ext
  · exact none false
  · exact counts false
  · exact none true
  · exact counts true

/--
The counts after a round are those of a round on the counts, and the tasks that
no tally counts are as many as before.
-/
theorem census_round {primary : Deployment} (tally : Tallied record tasks id primary)
    (distinct : (tasks.map taskID).Nodup)
    (fresh : ∀ index < launches surroundings record tasks primary,
      surroundings.taskID index ∉ tasks.map taskID) :
    census id (((passTasks surroundings record tasks primary).map
          settleTask).filter (counts record.name)) =
        (census id (counted record tasks)).round record.desiredCount
          (minCount (current surroundings record tasks))
          (maxCount (current surroundings record tasks)) ∧
      untallied (((passTasks surroundings record tasks primary).map
          settleTask).filter (counts record.name)) = untallied (counted record tasks) := by
  obtain rfl := tally.same
  have launched := @launches_eq_census surroundings record tasks _ primary tally
  unfold passTasks
  generalize minCount (current surroundings record tasks) = floor
  have asked : (surplusStops (counted record tasks) primary.id record.desiredCount
      (countOf .running (counted record tasks)) floor).map Prod.fst ⊆ counted record tasks :=
    fun task member => (mem_surplusStops member).1
  have once := @nodup_surplusStops primary.id (counted record tasks)
      (List.Nodup.filter _ (List.Nodup.of_map _ distinct)) record.desiredCount
      (countOf .running (counted record tasks)) floor
  have stops := @census_surplusStops primary.id (counted record tasks) record.desiredCount floor
  have seen : untallied ((surplusStops (counted record tasks) primary.id record.desiredCount
      (countOf .running (counted record tasks)) floor).map Prod.fst) = 0 :=
    countP_eq_zero.2 fun task member => by simp [(mem_surplusStops member).2]
  generalize (surplusStops (counted record tasks) primary.id record.desiredCount
      (countOf .running (counted record tasks)) floor).map Prod.fst = targets at *
  have settled {test : TaskRecord → Bool} (steady : Steady test) :=
    @countP_settled surroundings tasks targets record.name test steady
      (current surroundings record tasks) primary _ (prepared_name ..) distinct fresh asked once
  have kinds (isPrimary : Bool) : kindCount _ isPrimary _ + kindCount _ isPrimary _ =
      kindCount _ isPrimary _ + kindCount _ isPrimary _ :=
    settled (steady_kind primary.id isPrimary)
  have unseen : untallied _ + untallied _ = untallied _ + untallied _ := settled steady_untallied
  rw [untallied_newTasks, seen, Nat.zero_add] at unseen
  have primaries := kinds true
  have others := kinds false
  rw [@kindCount_primary _ targets, @kindCount_primary _ (counted record tasks), stops,
    kindCount_newTasks, if_pos rfl] at primaries
  rw [@kindCount_old _ targets, @kindCount_old _ (counted record tasks), stops,
    kindCount_newTasks, if_neg Bool.false_ne_true] at others
  rw [launched] at primaries others unseen ⊢
  refine ⟨?_, unseen⟩
  rw [census_of_settled fun task => lastStatus_of_mem_settled]
  generalize census primary.id (counted record tasks) = counts at *
  have kept : (counts.stops record.desiredCount floor).old =
      counts.oldPending + (counts.stops record.desiredCount floor).oldRunning :=
    rfl
  have old : counts.old = counts.oldPending + counts.oldRunning := rfl
  have most := counts.primary_stops_le record.desiredCount floor
  unfold Census.round
  ext
  · rfl
  · dsimp only
    omega
  · rfl
  · dsimp only
    omega

end

/-! ## Runs of rounds -/

/-- The floor of a service, with the defaults. -/
def floorOf (record : ServiceRecord) : Int :=
  minCount record.normalizeDeploymentConfig

section

variable {surroundings : Nat → Surroundings}
    {record after : ServiceRecord} {tasks : List TaskRecord} {id : String}

/-- A percentage that has its default keeps it. -/
theorem Continues.normalize (continues : Continues record after) :
    after.normalizeDeploymentConfig.minimumHealthyPercent =
        record.normalizeDeploymentConfig.minimumHealthyPercent ∧
      after.normalizeDeploymentConfig.maximumPercent =
        record.normalizeDeploymentConfig.maximumPercent := by
  have minimum := continues.minimum
  have maximum := continues.maximum
  unfold normalizeDeploymentConfig at minimum maximum ⊢
  dsimp only at minimum maximum ⊢
  rw [minimum, maximum]
  constructor
  · split <;> simp_all
  · split <;> simp_all

theorem Continues.bounds (continues : Continues record after) :
    floorOf after = floorOf record ∧ ceilingOf after = ceilingOf record := by
  obtain ⟨minimum, maximum⟩ := continues.normalize
  have desired : after.normalizeDeploymentConfig.desiredCount =
      record.normalizeDeploymentConfig.desiredCount :=
    continues.desiredCount
  constructor
  · unfold floorOf minCount
    rw [minimum, desired]
  · unfold ceilingOf maxCount
    rw [maximum, desired]

theorem bounds_current (surroundings : Surroundings) :
    minCount (current surroundings record tasks) = floorOf record ∧
      maxCount (current surroundings record tasks) = ceilingOf record := by
  have kept := @continues_prepared record (counted record tasks) surroundings.draws.now
  constructor
  · unfold floorOf minCount
    rw [kept.minimum, kept.desiredCount]
    rfl
  · exact maxCount_current ..

/-- The tasks are those of the goal if their counts are and a tally counts all. -/
theorem census_eq_goal_iff {desired : Int} (wanted : 0 ≤ desired) :
    census id live = goal desired ∧ untallied live = 0 ↔ (live.length : Int) = desired ∧
      ∀ task ∈ live, task.lastStatus = .running ∧ task.deployment = id := by
  have whole (facts : ∀ task ∈ live, task.lastStatus = .running ∧ task.deployment = id) :
      classOf id true .running live = live := by
    refine filter_eq_self.2 fun task member => ?_
    simp [facts task member]
  constructor
  · rintro ⟨reached, all⟩
    have facts : ∀ task ∈ live, task.lastStatus = .running ∧ task.deployment = id := by
      intro task member
      have isTallied := countP_eq_zero.1 all task member
      have notOldPending := length_classOf_eq_zero.1 (congrArg oldPending reached) task member
      have notOldRunning := length_classOf_eq_zero.1 (congrArg oldRunning reached) task member
      have notPending := length_classOf_eq_zero.1 (congrArg primaryPending reached) task member
      by_cases own : task.deployment = id
      · refine ⟨?_, own⟩
        cases status : task.lastStatus with
        | pending => exact absurd status (notPending (decide_eq_true own))
        | running => rfl
        | stopped | other text => simp [status, TaskStatus.isTallied] at isTallied
      · cases status : task.lastStatus with
        | pending => exact absurd status (notOldPending (decide_eq_false own))
        | running => exact absurd status (notOldRunning (decide_eq_false own))
        | stopped | other text => simp [status, TaskStatus.isTallied] at isTallied
    refine ⟨?_, facts⟩
    have count : (classOf id true .running live).length = desired.toNat :=
      congrArg primaryRunning reached
    rw [whole facts] at count
    omega
  · rintro ⟨length, facts⟩
    have none {isPrimary : Bool} {status : TaskStatus} (different : isPrimary = false ∨
        status ≠ .running) : (classOf id isPrimary status live).length = 0 := by
      refine length_classOf_eq_zero.2 fun task member => ?_
      rcases different with rfl | different
      · simp [facts task member]
      · simp [facts task member, different.symm]
    refine ⟨?_, countP_eq_zero.2 fun task member => ?_⟩
    · ext
      · exact none (.inl rfl)
      · exact none (.inl rfl)
      · exact none (.inr (by decide))
      · change (classOf id true .running live).length = desired.toNat
        rw [whole facts]
        omega
    · simp [facts task member, TaskStatus.isTallied]

theorem map_taskID_passTasks (surroundings : Surroundings) (primary : Deployment) :
    (passTasks surroundings record tasks primary).map taskID =
      tasks.map taskID ++ (List.range (launches surroundings record tasks primary)).map
        surroundings.taskID := by
  unfold passTasks newTasks
  rw [map_map, map_append, map_map]
  congr 1
  · refine map_congr_left fun task _ => taskID_markAll task
  · refine map_congr_left fun index _ => ?_
    rw [comp_apply, comp_apply, taskID_markAll, Nat.zero_add]

variable {primary : Deployment}

/-- At the goal a pass asks for nothing. -/
theorem passTasks_of_goal {surroundings : Surroundings} (wanted : 0 ≤ record.desiredCount)
    (tally : Tallied record tasks id primary)
    (reached : census id (counted record tasks) = goal record.desiredCount) :
    passTasks surroundings record tasks primary = tasks := by
  have count := primary_goal wanted
  have noLaunch : launches surroundings record tasks primary = 0 := by
    rw [launches_eq_census tally, reached]
    exact launches_of_enough (by omega)
  have empty {isPrimary : Bool} {status : TaskStatus} (none :
        (classOf id isPrimary status (counted record tasks)).length = 0) :
      classOf id isPrimary status (counted record tasks) = [] :=
    length_eq_zero_iff.1 none
  have noStop : surplusStops (counted record tasks) primary.id record.desiredCount
      (countOf .running (counted record tasks))
      (minCount (current surroundings record tasks)) = [] := by
    have running :
        (classOf id true .running (counted record tasks)).length = record.desiredCount.toNat :=
      congrArg primaryRunning reached
    rw [tally.same]
    unfold surplusStops
    dsimp only
    rw [empty (congrArg oldPending reached), empty (congrArg oldRunning reached),
      empty (congrArg primaryPending reached), running, Int.toNat_of_nonneg wanted]
    simp
  unfold passTasks
  rw [noLaunch, noStop]
  simp [newTasks, launchInput, markAll_nil]

variable {service : ServiceRecord × List TaskRecord}

/-- A service that has converged has the counts of the goal. -/
theorem Converged.census_eq (converged : Converged service primary)
    (rolling : Rolling service.1 id) (wanted : 0 ≤ service.1.desiredCount) :
    census id (counted service.1 service.2) = goal service.1.desiredCount ∧
      untallied (counted service.1 service.2) = 0 := by
  have same : primary.id = id := by
    rcases rolling.primary with ⟨empty, -⟩ | ⟨other, sole, same, -⟩
    · simp [converged.only] at empty
    · have found : service.1.primaryDeployment = some primary := by
        apply Sole.primaryDeployment_eq
        rw [converged.only]
        exact Sole.singleton converged.isPrimary
      have equal := found.symm.trans sole.primaryDeployment_eq
      rwa [Option.some.inj equal]
  subst same
  exact (census_eq_goal_iff wanted).2 ⟨converged.count, converged.tasks⟩

/-- A round launches tasks with the identifiers it draws. -/
theorem Rolling.round (rolling : Rolling service.1 id) (surroundings : Surroundings) :
    Rolling (round surroundings service).1 id ∧ ∃ launched,
      (round surroundings service).2.map taskID =
        service.2.map taskID ++ (range launched).map surroundings.taskID := by
  obtain ⟨primary, -, tasksAfter, continues, updated, sole, same, healthy, -⟩ :=
    @runPass_rolling surroundings service.1 service.2 id rolling
  refine ⟨⟨continues.status.trans rolling.active, .inr ⟨updated, sole, same, healthy⟩⟩,
    launches surroundings service.1 service.2 primary, ?_⟩
  unfold Ecs.round
  dsimp only
  rw [tasksAfter, map_map, show taskID ∘ settleTask = taskID from funext taskID_settleTask]
  exact map_taskID_passTasks ..

/-- A round leaves the counts of a round. -/
theorem Rolling.census_round {surroundings : Surroundings} (rolling : Rolling service.1 id)
    (numbered : ((Ecs.round surroundings service).2.map taskID).Nodup)
    (wanted : 0 ≤ service.1.desiredCount) :
    Continues service.1 (Ecs.round surroundings service).1 ∧
      census id (counted (Ecs.round surroundings service).1 (Ecs.round surroundings service).2) =
        (census id (counted service.1 service.2)).round service.1.desiredCount (floorOf service.1)
          (ceilingOf service.1) ∧
      untallied (counted (Ecs.round surroundings service).1 (Ecs.round surroundings service).2) =
        untallied (counted service.1 service.2) ∧
      (census id (counted service.1 service.2) = goal service.1.desiredCount →
        untallied (counted service.1 service.2) = 0 →
        ∃ primary, (Ecs.round surroundings service).1.deployments = [primary] ∧
          primary.status = .primary ∧ primary.id = id ∧
          primary.rolloutState = .completed) := by
  obtain ⟨primary, tally, tasksAfter, continues, updated, sole, same, -, completes⟩ :=
    @runPass_rolling surroundings service.1 service.2 id rolling
  unfold Ecs.round at numbered ⊢
  dsimp only at numbered ⊢
  rw [tasksAfter] at numbered ⊢
  have ids := @map_taskID_passTasks service.1 service.2 surroundings primary
  rw [map_map, show taskID ∘ settleTask = taskID from funext taskID_settleTask, ids,
    nodup_append] at numbered
  have counts := Ecs.census_round tally numbered.1 fun index below used =>
    numbered.2.2 _ used _ (mem_map.2 ⟨index, mem_range.2 below, rfl⟩) rfl
  have bounds := @bounds_current service.1 service.2 surroundings
  rw [bounds.1, bounds.2] at counts
  refine ⟨continues, ?_, ?_, ?_⟩
  · unfold counted
    rw [continues.name]
    exact counts.1
  · unfold counted
    rw [continues.name]
    exact counts.2
  · intro reached all
    have kept := @passTasks_of_goal service.1 service.2 id primary surroundings wanted tally reached
    obtain ⟨length, facts⟩ := (census_eq_goal_iff wanted).1 ⟨reached, all⟩
    unfold freshTasks at completes
    rw [kept] at completes
    have enough : service.1.desiredCount ≤ tallied (counted service.1 service.2) id .running := by
      rw [tallied_eq]
      have count : (classOf id true .running (counted service.1 service.2)).length =
          service.1.desiredCount.toNat :=
        congrArg primaryRunning reached
      omega
    obtain ⟨only, completed⟩ := completes enough fun task member => (facts task member).2
    exact ⟨updated, only, sole.isPrimary, same, completed⟩

section

variable (rolling : Rolling service.1 id)
    (numbered : ∀ count, ((rounds surroundings service count).2.map taskID).Nodup)

include rolling numbered

/-- What holds of a service after any number of rounds. -/
theorem rolling_rounds (wanted : 0 ≤ service.1.desiredCount) (count : Nat) :
    let later := rounds surroundings service count
    Rolling later.1 id ∧ later.1.desiredCount = service.1.desiredCount ∧
      floorOf later.1 = floorOf service.1 ∧ ceilingOf later.1 = ceilingOf service.1 ∧
      untallied (counted later.1 later.2) = untallied (counted service.1 service.2) ∧
      census id (counted later.1 later.2) = (fun census : Census =>
            census.round service.1.desiredCount (floorOf service.1) (ceilingOf service.1))^[count]
          (census id (counted service.1 service.2)) := by
  induction count with
  | zero => exact ⟨rolling, rfl, rfl, rfl, rfl, rfl⟩
  | succ count induction =>
    obtain ⟨before, desired, floor, ceiling, unseen, counts⟩ := induction
    obtain ⟨continues, stepped, kept, -⟩ :=
      before.census_round (numbered (count + 1)) (desired ▸ wanted)
    refine ⟨(before.round _).1, continues.desiredCount.trans desired,
      continues.bounds.1.trans floor, continues.bounds.2.trans ceiling, kept.trans unseen, ?_⟩
    rwa [iterate_succ_apply', ← counts, ← desired, ← floor, ← ceiling]

/-- A rollout that converges had counts that progress. -/
theorem progresses_of_converged {count : Nat} (wanted : 0 < service.1.desiredCount)
    (converged : Converged (rounds surroundings service count) primary) :
    untallied (counted service.1 service.2) = 0 ∧
      (census id (counted service.1 service.2)).Progresses
        service.1.desiredCount (floorOf service.1) (ceilingOf service.1) := by
  obtain ⟨later, desired, -, -, unseen, counts⟩ :=
    rolling_rounds rolling numbered (by omega) count
  obtain ⟨reached, all⟩ := converged.census_eq later (by omega)
  rw [← reaches_goal_iff wanted]
  refine ⟨unseen.symm.trans all, count, counts.symm.trans ?_⟩
  rwa [← desired]

/-- A rollout converges if its counts progress. -/
theorem converges_of_progresses (wanted : 0 < service.1.desiredCount)
    (all : untallied (counted service.1 service.2) = 0)
    (progresses : (census id (counted service.1 service.2)).Progresses
      service.1.desiredCount (floorOf service.1)
      (ceilingOf service.1)) :
    ∃ count primary, Converged (rounds surroundings service count) primary := by
  obtain ⟨count, reached⟩ := (reaches_goal_iff wanted).2 progresses
  obtain ⟨later, desired, floor, ceiling, unseen, counts⟩ :=
    rolling_rounds rolling numbered (by omega) count
  have atGoal := counts.trans reached
  rw [← desired] at atGoal
  obtain ⟨continues, stepped, kept, completes⟩ :=
    later.census_round (numbered (count + 1)) (by omega)
  obtain ⟨primary, only, isPrimary, same, completed⟩ := completes atGoal (unseen.trans all)
  -- One more round keeps the counts and completes the record.
  rw [atGoal, round_goal (by omega), ← continues.desiredCount] at stepped
  obtain ⟨length, facts⟩ := (census_eq_goal_iff (by rw [continues.desiredCount]; omega)).1
    ⟨stepped, (kept.trans unseen).trans all⟩
  subst same
  exact ⟨count + 1, primary, isPrimary, only, completed, length, facts⟩

end

/--
The rollout of a service without failed tasks converges exactly if every task is
PENDING or RUNNING, the PRIMARY deployment has its tasks or may get them below
the ceiling, and the floor lets go of the tasks of the other deployments.
-/
theorem rollout_converges_iff (surroundings : Nat → Surroundings) (record : ServiceRecord)
    (tasks : List TaskRecord) (id : String)
    (numbered : ∀ count, ((rounds surroundings (record, tasks) count).2.map taskID).Nodup)
    (rolling : Rolling record id) (wanted : 1 ≤ record.desiredCount) :
    (∃ count primary, Converged (rounds surroundings (record, tasks) count) primary) ↔
      untallied (counted record tasks) = 0 ∧
        (census id (counted record tasks)).Progresses record.desiredCount
          (floorOf record) (ceilingOf record) := by
  have positive : 0 < (record, tasks).1.desiredCount := by
    dsimp only
    omega
  constructor
  · rintro ⟨count, primary, converged⟩
    exact @progresses_of_converged _ _ primary (record, tasks) rolling numbered _ positive converged
  · rintro ⟨all, progresses⟩
    exact @converges_of_progresses _ _ (record, tasks) rolling numbered positive all progresses

/-- Identifiers to come are not in use. -/
def Unused (surroundings : Nat → Surroundings) (start : Nat) (tasks : List TaskRecord) : Prop :=
  ∀ count ≥ start, ∀ index, (surroundings count).taskID index ∉ tasks.map taskID

/-- Supplies that never repeat an identifier number the tasks apart. -/
theorem nodup_rounds
    (injective : Function.Injective fun place : Nat × Nat => (surroundings place.1).taskID place.2)
    (distinct : (service.2.map taskID).Nodup) (unused : Unused surroundings 0 service.2)
    (rolling : Rolling service.1 id) (count : Nat) :
    Rolling (rounds surroundings service count).1 id ∧
      ((rounds surroundings service count).2.map taskID).Nodup ∧
      Unused surroundings count (rounds surroundings service count).2 := by
  induction count with
  | zero => exact ⟨rolling, distinct, unused⟩
  | succ count induction =>
    obtain ⟨rolling, distinct, unused⟩ := induction
    obtain ⟨after, launched, ids⟩ := rolling.round (surroundings count)
    refine ⟨after, ?_, ?_⟩
    · rw [rounds, ids, nodup_append]
      refine ⟨distinct, nodup_range.map ?_, ?_⟩
      · intro first second same
        exact (Prod.ext_iff.1 (@injective (count, first) (count, second) same)).2
      · rintro _ old _ new rfl
        obtain ⟨index, -, same⟩ := mem_map.1 new
        exact unused count (Nat.le_refl _) index (same ▸ old)
    · intro round later index member
      rw [rounds, ids] at member
      rcases mem_append.1 member with old | new
      · exact unused round (Nat.le_of_succ_le later) index old
      · obtain ⟨other, -, same⟩ := mem_map.1 new
        have place := (Prod.ext_iff.1 (@injective (count, other) (round, index) same)).1
        omega

end

variable (minimum maximum : Int)

/-- The two RUNNING tasks of the superseded deployment. -/
def supersededTasks : List TaskRecord :=
  runningTasks "ecs-svc-0" ["a", "b"]

/-- Identifiers by round and place. -/
def sampleSupply (round : Nat) : Surroundings where
  draws := ⟨10, "placement", "rollout", "deployment"⟩
  taskID := fun index => String.ofList (List.replicate round 'r' ++ List.replicate index 't')

theorem sampleSupply_injective :
    Function.Injective fun place : Nat × Nat => (sampleSupply place.1).taskID place.2 := by
  rintro ⟨round, index⟩ ⟨otherRound, otherIndex⟩ same
  have lists := congrArg String.toList same
  simp only [sampleSupply, String.toList_ofList] at lists
  have rounds := congrArg (count 'r') lists
  have indices := congrArg (count 't') lists
  simp [count_replicate] at rounds indices
  rw [rounds, indices]

theorem unused_supersededTasks : Unused sampleSupply 0 supersededTasks := by
  intro round _ index member
  have letters : ∀ letter ∈ ((sampleSupply round).taskID index).toList,
      letter = 'r' ∨ letter = 't' := by
    intro letter inside
    simp only [sampleSupply, String.toList_ofList, mem_append, mem_replicate] at inside
    exact inside.imp And.right And.right
  have names : (sampleSupply round).taskID index = "a" ∨
      (sampleSupply round).taskID index = "b" := by
    simpa [supersededTasks, runningTasks] using member
  rcases names with name | name
  · rw [name] at letters
    exact absurd (letters 'a' (by simp)) (by decide)
  · rw [name] at letters
    exact absurd (letters 'b' (by simp)) (by decide)

theorem rolling_supersededService : Rolling (supersededService minimum maximum) "ecs-svc-1" :=
  ⟨rfl, .inr ⟨_, ⟨[_], [], rfl, rfl, by simp⟩, rfl, rfl, by simp, rfl⟩⟩

theorem numbered_supersededTasks (count : Nat) :
    ((rounds sampleSupply (supersededService minimum maximum, supersededTasks) count).2.map
      taskID).Nodup :=
  (nodup_rounds sampleSupply_injective
    (show (supersededTasks.map taskID).Nodup by decide) unused_supersededTasks
    (rolling_supersededService minimum maximum) count).2.1

/-- With the defaults the new deployment replaces the old one. -/
theorem rollout_converges_default :
    (∀ count, ((rounds sampleSupply
        (supersededService 100 200, supersededTasks) count).2.map taskID).Nodup) ∧
      Rolling (supersededService 100 200) "ecs-svc-1" ∧
      1 ≤ (supersededService 100 200).desiredCount ∧
      ∃ count primary, Converged (rounds sampleSupply
          (supersededService 100 200, supersededTasks) count)
        primary := by
  refine ⟨numbered_supersededTasks 100 200, rolling_supersededService 100 200, by decide, ?_⟩
  rw [rollout_converges_iff sampleSupply (supersededService 100 200) supersededTasks "ecs-svc-1"
    (numbered_supersededTasks 100 200) (rolling_supersededService 100 200) (by decide)]
  exact ⟨by decide, .inr (by decide), .inl ⟨by decide, .inr (.inl (by decide))⟩⟩

/--
With a minimum of 0 and a maximum of 100 percent the old tasks are never
stopped and no new one is ever launched.
-/
theorem minimum_zero_never_converges :
    ¬ ∃ count primary, Converged
      (rounds sampleSupply (supersededService 0 100, supersededTasks) count) primary := by
  rintro ⟨count, primary, converged⟩
  obtain ⟨-, -, drain⟩ := progresses_of_converged (rolling_supersededService 0 100)
    (numbered_supersededTasks 0 100) (by decide) converged
  have bounds : floorOf (supersededService 0 100) = 2 ∧
      ceilingOf (supersededService 0 100) = 2 := by
    decide +kernel
  have counts :
      census "ecs-svc-1" (counted (supersededService 0 100) supersededTasks) = ⟨0, 2, 0, 0⟩ := by
    decide +kernel
  rw [counts, bounds.1, bounds.2] at drain
  exact absurd drain (by decide)

end Spinifex.Ecs
