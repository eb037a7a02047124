import Mathlib.Data.List.Count
import Spinifex.Ecs.Services
import Spinifex.Ecs.TaskStates

/-!
# One reconcile pass in isolation

A pass is run alone against the stored record and the tasks of the cluster, and
what it asks for is noted: how many tasks to launch and which tasks to stop.

The number of tasks of a kind that are stopped is computed from how many there
are of each kind.  From it follow the bounds a pass keeps, and exactly when it
does not: a maximum of zero percent counts as not set and is replaced by the
default, live tasks that are neither PENDING nor RUNNING are in no tally, and
the product of a count and a percentage may wrap around.
-/

namespace Spinifex.Ecs

open Go Concurrency List ServiceRecord

/-! ## Running alone -/

/-- The store, and what has been asked for. -/
structure World where
  stored : ServiceRecord
  tasks : List TaskRecord
  issued : Nat := 0
  launched : Nat := 0
  stopped : List TaskRecord := []

/-- The surroundings of a pass: its draws and the identifiers of new tasks. -/
structure Surroundings where
  draws : Draws
  taskID : Nat → String

/-- The tasks a launch creates. -/
def newTasks (taskID : Nat → String) (issued : Nat) (input : RunTaskInput) : List TaskRecord :=
  (List.range input.count).map fun index =>
    { taskID := taskID (issued + index)
      group := input.group
      startedBy := input.startedBy
      desiredStatus := .running
      lastStatus := .pending }

/-- A task after it was asked to stop. -/
def markStopped (target : TaskRecord) (task : TaskRecord) : TaskRecord :=
  if task.taskID = target.taskID then { task with desiredStatus := .stopped } else task

/-- A task asked to stop is out of the count, whatever else its record says. -/
theorem counts_requestStopTask (now : Time) (name reason : String) (task : TaskRecord) :
    ((TaskStates.requestStopTask task reason).run (TaskStates.perform now) (some task)).2.map
        (TaskRecord.counts name) =
      some ((markStopped task task).counts name) := by
  obtain ⟨stored, ran, stopped⟩ := TaskStates.run_requestStopTask now task reason
  rw [ran]
  rcases stopped with stopped | stopped <;> simp [markStopped, TaskRecord.counts, stopped]

/-- What a call does if nothing fails. -/
def perform (surroundings : Surroundings) :
    (call : Call) → World → call.Reply × World
  | .getService, world => (.ok (some world.stored), world)
  | .putService record, world => (.acknowledged, { world with stored := record })
  | .listTasks, world => (.ok world.tasks, world)
  | .runTask input, world =>
    ((),
      { world with
        tasks := world.tasks ++ newTasks surroundings.taskID world.issued input
        issued := world.issued + input.count
        launched := world.launched + input.count })
  | .requestStop task _, world =>
    ((),
      { world with
        tasks := world.tasks.map (markStopped task)
        stopped := world.stopped ++ [task] })
  | .resolveTaskDef _, world => (.error "", world)
  | .draws, world => (surroundings.draws, world)

/-- The tasks the service counts. -/
def World.live (world : World) (name : String) : List TaskRecord :=
  world.tasks.filter (TaskRecord.counts name)

section

variable (surroundings : Surroundings) (world : World) (stops : List (TaskRecord × String))

/-- The world after some stop requests. -/
def World.afterStops : World :=
  { world with
    tasks := stops.foldl (fun tasks stop => tasks.map (markStopped stop.1)) world.tasks
    stopped := world.stopped ++ stops.map Prod.fst }

theorem run_stopSurplusTasks :
    ((stopSurplusTasks stops).run (perform surroundings) world).2 = world.afterStops stops := by
  induction stops generalizing world with
  | nil => simp [stopSurplusTasks, World.afterStops]
  | cons stop rest induction =>
    obtain ⟨task, reason⟩ := stop
    change ((stopSurplusTasks rest).run (perform surroundings)
        { world with
          tasks := world.tasks.map (markStopped task)
          stopped := world.stopped ++ [task] }).2 = _
    rw [induction]
    simp [World.afterStops]

theorem run_takeDraws : takeDraws.run (perform surroundings) world = (surroundings.draws, world) :=
  rfl

theorem run_listServiceTasks (name : String) :
    (listServiceTasks name).run (perform surroundings) world = (.ok (world.live name), world) :=
  rfl

def World.afterLaunch (record : ServiceRecord) (primary : Deployment)
    (running pending : Nat) : World :=
  if wantsLaunch record primary surroundings.draws.now then
    let count := launchCount record primary running pending
    { world with
      tasks := world.tasks ++ newTasks surroundings.taskID world.issued
        (launchInput record primary count)
      issued := world.issued + count
      launched := world.launched + count }
  else
    world

theorem run_launch (record : ServiceRecord) (primary : Deployment) (running pending : Nat) :
    ((launch record primary running pending surroundings.draws).run
        (perform surroundings) world).2 =
      world.afterLaunch surroundings record primary running pending := by
  unfold launch World.afterLaunch
  split
  · dsimp only
    split
    · rfl
    · obtain count : launchCount record primary running pending = 0 := by
        omega
      simp [count, newTasks, launchInput]
  · rfl

/-- The record a pass writes, with its counts. -/
def withCounts (record : ServiceRecord) (running pending : Nat) : ServiceRecord :=
  { record with runningCount := running, pendingCount := pending }

theorem run_persistServiceIfChanged (record : ServiceRecord) (running pending : Nat)
    (same : world.stored = before) :
    ((persistServiceIfChanged before record running pending).run (perform surroundings) world).2 =
      { world with stored := withCounts record running pending } := by
  unfold persistServiceIfChanged
  dsimp only
  split
  next unchanged =>
    rw [unchanged] at same
    cases world
    cases same
    rfl
  · rfl

/-- The record and the world a pass leaves if the breaker leaves it alone. -/
theorem run_advance (record : ServiceRecord) (primary : Deployment) (tasks : List TaskRecord)
    (same : world.stored = before) :
    ∃ launched : ServiceRecord,
      let after := (world.afterLaunch surroundings record primary
          (countOf .running tasks) (countOf .pending tasks)).afterStops
        (surplusStops tasks primary.id record.desiredCount
          (countOf .running tasks) (minCount record))
      let fresh := after.live record.name
      ((launch record primary (countOf .running tasks)
          (countOf .pending tasks) surroundings.draws).run
            (perform surroundings) world).1 = launched ∧
        ((advance before record primary tasks surroundings.draws).run
            (perform surroundings) world).2 =
          { after with
            stored := withCounts (updateRolloutState (launched.tallyDeployments fresh)
                record.desiredCount surroundings.draws.now
                surroundings.draws.rolloutEventID)
              (countOf .running fresh) (countOf .pending fresh) } := by
  refine ⟨_, rfl, ?_⟩
  unfold advance
  rw [Program.run_bind, Program.run_bind, Program.run_bind,
    run_launch, run_stopSurplusTasks, run_listServiceTasks]
  apply run_persistServiceIfChanged surroundings _ _ _ _
  unfold World.afterStops World.afterLaunch
  split
  · exact same
  · exact same

end

/-! ## Counting by kind -/

/-- How many tasks there are of each kind. -/
@[ext]
structure Census where
  oldPending : Nat
  oldRunning : Nat
  primaryPending : Nat
  primaryRunning : Nat
deriving DecidableEq, Repr

/-- The census of some tasks. -/
def census (primaryID : String) (tasks : List TaskRecord) : Census where
  oldPending := (classOf primaryID false .pending tasks).length
  oldRunning := (classOf primaryID false .running tasks).length
  primaryPending := (classOf primaryID true .pending tasks).length
  primaryRunning := (classOf primaryID true .running tasks).length

/-- A tally counts the tasks with the status. -/
def TaskStatus.isTallied : TaskStatus → Bool
  | .pending => true
  | .running => true
  | .stopped => false
  | .other _ => false

/-- How many tasks no tally counts. -/
def untallied (tasks : List TaskRecord) : Nat :=
  tasks.countP fun task => !task.lastStatus.isTallied

/-- How many tasks a deployment has, whatever their status. -/
def ofDeployment (id : String) (tasks : List TaskRecord) : Nat :=
  tasks.countP fun task => task.deployment = id

/-- How many tallied tasks belong to the PRIMARY deployment, or do not. -/
def kindCount (primaryID : String) (isPrimary : Bool) (tasks : List TaskRecord) : Nat :=
  tasks.countP fun task =>
    decide (task.deployment = primaryID) = isPrimary && task.lastStatus.isTallied

namespace Census

variable (census : Census)

def running : Nat :=
  census.primaryRunning + census.oldRunning

/-- The tasks of the PRIMARY deployment. -/
def primary : Nat :=
  census.primaryPending + census.primaryRunning

/-- The tasks of the other deployments. -/
def old : Nat :=
  census.oldPending + census.oldRunning

def total : Nat :=
  census.primary + census.old

/-- The tasks of the PRIMARY deployment beyond the desired count. -/
def surplus (desired : Int) : Nat :=
  (census.primary - desired).toNat

/-- The RUNNING tasks beyond the floor. -/
def budget (floor : Int) : Nat :=
  (census.running - floor).toNat

/-- How many tasks of each kind a pass stops. -/
def stops (desired floor : Int) : Census where
  oldPending := census.oldPending
  oldRunning := min census.oldRunning (census.budget floor)
  primaryPending := min census.primaryPending (census.surplus desired)
  primaryRunning := min census.primaryRunning (min (census.surplus desired -
      min census.primaryPending (census.surplus desired))
    (census.budget floor - min census.oldRunning (census.budget floor)))

end Census

section

variable {primaryID : String} {tasks : List TaskRecord}

theorem classOf_append (isPrimary : Bool) (status : TaskStatus) (first second : List TaskRecord) :
    classOf primaryID isPrimary status (first ++ second) =
      classOf primaryID isPrimary status first ++ classOf primaryID isPrimary status second :=
  filter_append ..

/-- A part of a kind is of that kind and of no other. -/
theorem length_classOf_part {status : TaskStatus}
    (within : part ⊆ classOf primaryID isPrimary status tasks)
    (other : Bool) (otherStatus : TaskStatus) :
    (classOf primaryID other otherStatus part).length =
      if isPrimary = other ∧ status = otherStatus then
        part.length
      else
        0 := by
  have kind : ∀ task ∈ part, decide (task.deployment = primaryID) = isPrimary ∧
      task.lastStatus = status := by
    intro task member
    simpa [classOf] using (mem_filter.1 (within member)).2
  split
  next same =>
    obtain ⟨rfl, rfl⟩ := same
    refine congrArg length (filter_eq_self.2 ?_)
    intro task member
    simpa using kind task member
  next different =>
    refine length_eq_zero_iff.2 (filter_eq_nil_iff.2 ?_)
    intro task member satisfied
    obtain ⟨left, right⟩ := kind task member
    simp only [Bool.and_eq_true, decide_eq_true_eq] at satisfied
    exact different ⟨left.symm.trans satisfied.1, right.symm.trans satisfied.2⟩

theorem countOf_eq (status : TaskStatus) :
    countOf status tasks = (classOf primaryID true status tasks).length +
      (classOf primaryID false status tasks).length := by
  unfold countOf classOf
  induction tasks with
  | nil => rfl
  | cons task rest induction =>
    rw [countP_cons, induction, filter_cons, filter_cons]
    by_cases isPrimary : task.deployment = primaryID <;>
      by_cases same : task.lastStatus = status <;>
      simp [isPrimary, same] <;> omega

theorem countOf_running : countOf .running tasks = (census primaryID tasks).running :=
  countOf_eq .running

/-- Four parts, one of each kind, are counted by their lengths. -/
theorem census_parts {oldPending primaryPending oldRunning primaryRunning : List TaskRecord}
    (first : oldPending ⊆ classOf primaryID false .pending tasks)
    (second : primaryPending ⊆ classOf primaryID true .pending tasks)
    (third : oldRunning ⊆ classOf primaryID false .running tasks)
    (fourth : primaryRunning ⊆ classOf primaryID true .running tasks) :
    census primaryID (oldPending ++ primaryPending ++ oldRunning ++ primaryRunning) =
      ⟨oldPending.length, oldRunning.length, primaryPending.length, primaryRunning.length⟩ := by
  ext
  all_goals
    simp only [census, classOf_append, length_append, length_classOf_part first,
      length_classOf_part second, length_classOf_part third, length_classOf_part fourth]
    simp

variable (tasks) in
/-- The tasks of a kind are PENDING or RUNNING. -/
theorem kindCount_eq (isPrimary : Bool) :
    kindCount primaryID isPrimary tasks = (classOf primaryID isPrimary .pending tasks).length +
      (classOf primaryID isPrimary .running tasks).length := by
  unfold kindCount classOf
  induction tasks with
  | nil => rfl
  | cons task rest induction =>
    rw [countP_cons, induction, filter_cons, filter_cons]
    by_cases kind : decide (task.deployment = primaryID) = isPrimary
    · cases status : task.lastStatus
      all_goals simp [kind, TaskStatus.isTallied]
      all_goals omega
    · simp [kind]

theorem kindCount_primary : kindCount primaryID true tasks = (census primaryID tasks).primary :=
  kindCount_eq tasks true

theorem kindCount_old : kindCount primaryID false tasks = (census primaryID tasks).old :=
  kindCount_eq tasks false

theorem primary_le_ofDeployment :
    (census primaryID tasks).primary ≤ ofDeployment primaryID tasks := by
  rw [← kindCount_primary]
  refine countP_mono_left fun task _ counted => ?_
  simp only [Bool.and_eq_true, decide_eq_true_eq] at counted ⊢
  exact counted.1

theorem ofDeployment_of_tallied (all : ∀ task ∈ tasks, task.lastStatus.isTallied = true) :
    ofDeployment primaryID tasks = (census primaryID tasks).primary := by
  rw [← kindCount_primary]
  refine countP_congr fun task member => ?_
  simp [all task member]

variable (tasks) in
/-- A task is RUNNING, PENDING or in no tally. -/
theorem length_eq_tallies :
    tasks.length = countOf .running tasks + countOf .pending tasks + untallied tasks := by
  unfold countOf untallied
  induction tasks with
  | nil => rfl
  | cons task rest induction =>
    rw [countP_cons, countP_cons, countP_cons, length_cons, induction]
    cases task.lastStatus
    all_goals simp [TaskStatus.isTallied]
    all_goals omega

/-- A pass asks only tasks of the service to stop that a tally counts. -/
theorem mem_surplusStops {desired running floor : Int}
    (member : task ∈ (surplusStops tasks primaryID desired running floor).map Prod.fst) :
    task ∈ tasks ∧ task.lastStatus.isTallied = true := by
  have ofClass {isPrimary : Bool} {status : TaskStatus} (isTallied : status.isTallied = true)
      (within : task ∈ classOf primaryID isPrimary status tasks) :
      task ∈ tasks ∧ task.lastStatus.isTallied = true := by
    obtain ⟨inside, kind⟩ := mem_filter.1 within
    simp only [Bool.and_eq_true, decide_eq_true_eq] at kind
    exact ⟨inside, kind.2 ▸ isTallied⟩
  simp only [surplusStops, map_append, map_map, Function.comp_def, map_id', mem_append] at member
  rcases member with ((member | member) | member) | member
  · exact ofClass rfl member
  all_goals exact ofClass rfl (take_subset _ _ member)

/-- The stop requests of a pass by kind. -/
theorem census_surplusStops (desired floor : Int) :
    census primaryID ((surplusStops tasks primaryID desired
          (countOf .running tasks) floor).map Prod.fst) =
      (census primaryID tasks).stops desired floor := by
  rw [@countOf_running primaryID tasks]
  unfold surplusStops
  simp only [map_append, map_map, Function.comp_def, map_id']
  rw [census_parts (List.Subset.refl _) (take_subset ..) (take_subset ..) (take_subset ..)]
  simp only [length_take, Census.stops, Census.surplus, Census.budget, Census.primary, census,
    Nat.min_comm, Int.natCast_add]

end

/-! ## Percentages -/

variable {value : Int}

/-- A wrapped number that is not negative has not grown. -/
theorem int64_le (nonnegative : 0 ≤ value) : int64 value ≤ value := by
  unfold int64
  rw [Int.bmod_def]
  split <;> omega

theorem int64_add_int64 (first second : Int) :
    int64 (int64 first + second) = int64 (first + second) :=
  Int.bmod_add_bmod

/-- A wrapped number is a full turn below. -/
theorem int64_lt (large : maxInt64 < value) : int64 value + 9223372036854775808 ≤ value := by
  unfold maxInt64 at large
  unfold int64
  rw [Int.bmod_def]
  split <;> omega

/-- Division towards zero, below a bound that is not negative. -/
theorem tdiv_hundred_le (below : value ≤ bound) (nonnegative : 0 ≤ bound) :
    value.tdiv 100 ≤ bound / 100 := by
  rw [Int.tdiv_eq_ediv]
  split
  · omega
  · rw [show Int.sign 100 = 1 from rfl]
    omega

variable {count percent : Int}

theorem ceilPercent_of_fits (counted : 0 ≤ count) (share : 0 ≤ percent)
    (fits : count * percent + 99 ≤ maxInt64) :
    ceilPercent count percent = (count * percent + 99) / 100 := by
  have product : 0 ≤ count * percent := Int.mul_nonneg counted share
  unfold ceilPercent
  split
  · obtain rfl : count = 0 := by omega
    simp
  · rw [int64_add_int64, int64_of_fits (by unfold minInt64; omega) fits,
      Int.tdiv_eq_ediv_of_nonneg (by omega)]

theorem ceilPercent_of_wraps (counted : 0 ≤ count) (wraps : maxInt64 < count * percent + 99) :
    ceilPercent count percent < (count * percent + 99) / 100 := by
  have large : 9223372036854775807 < count * percent + 99 := wraps
  unfold ceilPercent
  split
  · obtain rfl : count = 0 := by omega
    simp at large
  · have turned := int64_lt wraps
    rw [int64_add_int64]
    have quotient := tdiv_hundred_le (show int64 (count * percent + 99) ≤ count * percent +
        99 - 9223372036854775808 by omega) (by omega)
    omega

/-! ## The bounds of a pass -/

/-- A pass run alone on a record and the tasks of the cluster. -/
def runPass (surroundings : Surroundings) (record : ServiceRecord)
    (tasks : List TaskRecord) : World :=
  ((reconcileService record).run (perform surroundings) { stored := record, tasks := tasks }).2

/-- What a deployment configuration promises of one pass. -/
structure Bounded
    (record : ServiceRecord) (primaryID : String) (live : List TaskRecord) (launched : Nat)
    (stopped : List TaskRecord) : Prop where
  floor : countOf .running stopped = 0 ∨ (record.desiredCount * record.minimumHealthyPercent +
    99) / 100 + countOf .running stopped ≤ countOf .running live
  ceiling : (live.length + launched : Int) ≤ max (live.length : Int)
    (record.desiredCount * record.maximumPercent / 100)
  surplusOnly : (∃ task ∈ stopped, task.deployment = primaryID) →
    record.desiredCount < ofDeployment primaryID live
  kept : min (ofDeployment primaryID live : Int) record.desiredCount ≤
    ofDeployment primaryID live - ofDeployment primaryID stopped

/-- The ceiling of a service, with the defaults. -/
def ceilingOf (record : ServiceRecord) : Int :=
  maxCount record.normalizeDeploymentConfig

/-- The RUNNING tasks a pass would stop if the floor left it room. -/
def Census.movable (census : Census) (desired : Int) : Nat :=
  census.oldRunning + min census.primaryRunning (census.surplus desired - census.primaryPending)

/--
When the bounds hold: the maximum is set and every task is in a tally, or
nothing is launched, or the tasks in no tally find room under the maximum too;
and the product behind the floor either fits or makes no difference.
-/
structure Respects (record : ServiceRecord) (primary : Deployment)
    (live : List TaskRecord) (now : Time) : Prop where
  ceiling : (record.maximumPercent ≠ 0 ∧ untallied live = 0) ∨
    wantsLaunch (prepared record live now) primary now = false ∨
    ceilingOf record ≤ countOf .running live + countOf .pending live ∨
    live.length + (record.desiredCount - (primary.runningCount + primary.pendingCount)) ≤
      record.desiredCount * record.maximumPercent / 100 ∨
    untallied live + ceilingOf record ≤ record.desiredCount * record.maximumPercent / 100
  floor : record.minimumHealthyPercent = 0 ∨
    record.desiredCount * record.minimumHealthyPercent + 99 ≤ maxInt64 ∨
    (census primary.id live).movable record.desiredCount = 0 ∨
    (census primary.id live).running ≤
      ceilPercent record.desiredCount record.minimumHealthyPercent ∨
    (record.desiredCount * record.minimumHealthyPercent + 99) / 100 +
        (census primary.id live).movable record.desiredCount ≤
      (census primary.id live).running

section

variable (surroundings : Surroundings) (record : ServiceRecord)
    (tasks : List TaskRecord) (now : Time)

@[simp]
theorem prepared_desiredCount : (prepared record tasks now).desiredCount = record.desiredCount := by
  unfold prepared tallyDeployments ensurePrimaryDeployment
  split <;> rfl

@[simp]
theorem prepared_name : (prepared record tasks now).name = record.name := by
  unfold prepared tallyDeployments ensurePrimaryDeployment
  split <;> rfl

theorem prepared_percentages :
    (prepared record tasks now).minimumHealthyPercent =
        record.normalizeDeploymentConfig.minimumHealthyPercent ∧
      (prepared record tasks now).maximumPercent =
        record.normalizeDeploymentConfig.maximumPercent := by
  unfold prepared tallyDeployments ensurePrimaryDeployment
  split <;> exact ⟨rfl, rfl⟩

/-- The tasks of the service. -/
abbrev counted : List TaskRecord :=
  tasks.filter (TaskRecord.counts record.name)

/-- The record a pass works on if it is run alone. -/
abbrev current : ServiceRecord :=
  prepared record (counted record tasks) surroundings.draws.now

theorem maxCount_current :
    maxCount (current surroundings record tasks) = ceilingOf record := by
  unfold ceilingOf maxCount
  rw [prepared_desiredCount, (prepared_percentages ..).2]
  rfl

/-- How many tasks a pass asks for. -/
def launches (primary : Deployment) : Nat :=
  if wantsLaunch (current surroundings record tasks) primary surroundings.draws.now then
    launchCount (current surroundings record tasks) primary
      (countOf .running (counted record tasks))
      (countOf .pending (counted record tasks))
  else
    0

variable {surroundings record tasks} {primary : Deployment}

section

variable (found : (current surroundings record tasks).primaryDeployment = some primary)

include found

/-- A pass past its reads. -/
theorem run_reconcileService (active : record.status = .active) :
    runPass surroundings record tasks = ((if trips (current surroundings record tasks) primary then
          persistServiceIfChanged record
            (tripCircuitBreaker (current surroundings record tasks) primary
              surroundings.draws.now surroundings.draws.rolloutEventID
              surroundings.draws.deploymentID)
            (countOf .running (counted record tasks)) (countOf .pending (counted record tasks)) else
          advance record (current surroundings record tasks) primary
            (counted record tasks) surroundings.draws).run
        (perform surroundings) { stored := record, tasks := tasks }).2 := by
  unfold runPass reconcileService
  rw [if_neg (not_not_intro active)]
  simp only [Program.run_bind, run_takeDraws, run_listServiceTasks, World.live, found]
  rfl

/-- A pass asks for nothing if the service is gone or the breaker acts. -/
theorem runPass_idle
    (idle : record.status ≠ .active ∨ trips (current surroundings record tasks) primary = true) :
    (runPass surroundings record tasks).launched = 0 ∧
      (runPass surroundings record tasks).stopped = [] := by
  by_cases active : record.status = .active
  · have tripped := idle.resolve_left (not_not_intro active)
    have persisted := @run_persistServiceIfChanged surroundings
        { stored := record, tasks := tasks } record
    rw [run_reconcileService found active, if_pos tripped, persisted _ _ _ rfl]
    exact ⟨rfl, rfl⟩
  · unfold runPass reconcileService
    rw [if_pos active]
    exact ⟨rfl, rfl⟩

/-- What a pass asks for otherwise. -/
theorem runPass_asks (active : record.status = .active)
    (calm : trips (current surroundings record tasks) primary = false) :
    (runPass surroundings record tasks).launched = launches surroundings record tasks primary ∧
      (runPass surroundings record tasks).stopped = (surplusStops (counted record tasks) primary.id
        record.desiredCount (countOf .running (counted record tasks))
        (minCount (current surroundings record tasks))).map Prod.fst := by
  obtain ⟨launched, -, ran⟩ := @run_advance surroundings { stored := record, tasks := tasks } record
      (current surroundings record tasks) primary (counted record tasks) rfl
  rw [run_reconcileService found active, calm]
  simp only [Bool.false_eq_true, if_false]
  rw [ran]
  unfold launches World.afterStops World.afterLaunch
  split
  · simp
  · simp

end

variable (surroundings record tasks)

theorem primaryDeployment_isSome (record : ServiceRecord) :
    record.primaryDeployment.isSome ↔
      DeploymentStatus.primary ∈ record.deployments.map Deployment.status := by
  unfold primaryDeployment
  rw [find?_isSome]
  simp [eq_comm]

/-- A pass always works on a PRIMARY deployment. -/
theorem exists_primary :
    ∃ primary, (current surroundings record tasks).primaryDeployment = some primary := by
  rw [← Option.isSome_iff_exists, primaryDeployment_isSome]
  unfold current prepared tallyDeployments
  rw [map_tallyList fun _ _ _ => rfl]
  unfold ensurePrimaryDeployment
  split
  next found =>
    rw [← primaryDeployment_isSome, found]
    rfl
  · simp

/-- The stop requests of a pass by kind. -/
theorem stopped_primary
    (stopped : task ∈ (surplusStops live primaryID desired running floor).map Prod.fst)
    (member : task.deployment = primaryID) : desired < (census primaryID live).primary := by
  have outside {status : TaskStatus} {part : List TaskRecord}
      (within : part ⊆ classOf primaryID false status live) :
      task ∉ part := by
    intro inside
    have kind := (mem_filter.1 (within inside)).2
    simp [member] at kind
  have positive {part : List TaskRecord} {count : Nat}
      (inside : task ∈ part.take count) : 0 < count := by
    cases count with
    | zero => simp at inside
    | succ count => omega
  simp only [surplusStops, map_append, map_map, Function.comp_def, map_id', mem_append] at stopped
  rcases stopped with ((stopped | stopped) | stopped) | stopped
  case inl.inl.inl => exact absurd stopped (outside (List.Subset.refl _))
  case inl.inr => exact absurd stopped (outside (take_subset ..))
  all_goals
    have surplus := positive stopped
    unfold Census.primary census
    dsimp only
    omega

end

namespace Census

variable (census : Census)

theorem running_stops (desired floor : Int) :
    (census.stops desired floor).running = min (census.movable desired) (census.budget floor) := by
  unfold running stops movable
  dsimp only
  omega

theorem movable_le (desired : Int) : census.movable desired ≤ census.running := by
  unfold movable running
  omega

theorem primary_stops (floor : Int) (wanted : 0 ≤ desired) :
    min (census.primary : Int) desired ≤ census.primary - (census.stops desired floor).primary := by
  unfold stops surplus primary
  dsimp only
  omega

end Census

section

variable {surroundings : Surroundings} {record : ServiceRecord}
    {tasks : List TaskRecord} {primary : Deployment}

/-- The floor holds exactly if its condition does. -/
theorem floor_iff {desired minimum : Int}
    (census : Census) (wanted : 0 ≤ desired) (share : 0 ≤ minimum) :
    (let floor := ceilPercent desired
          (if minimum = 0 then defaultMinimumHealthyPercent else minimum)
      let stopped := (census.stops desired floor).running
      stopped = 0 ∨ (desired * minimum + 99) / 100 + stopped ≤ census.running) ↔
      (minimum = 0 ∨ desired * minimum + 99 ≤ maxInt64 ∨ census.movable desired = 0 ∨
        census.running ≤ ceilPercent desired minimum ∨
        (desired * minimum + 99) / 100 + census.movable desired ≤ census.running) := by
  have some := census.movable_le desired
  dsimp only
  rw [Census.running_stops]
  unfold Census.budget
  by_cases unset : minimum = 0
  · subst unset
    omega
  · rw [if_neg unset]
    by_cases fits : desired * minimum + 99 ≤ maxInt64
    · rw [ceilPercent_of_fits wanted share fits]
      omega
    · have lower := ceilPercent_of_wraps wanted (Int.not_le.1 fits)
      omega

/-- A maximum that is set is not exceeded by the ceiling. -/
theorem ceilingOf_le (wanted : 0 ≤ record.desiredCount) (share : 0 ≤ record.maximumPercent)
    (set : record.maximumPercent ≠ 0) :
    ceilingOf record ≤ record.desiredCount * record.maximumPercent / 100 := by
  have nonnegative := Int.mul_nonneg wanted share
  have most := tdiv_hundred_le (int64_le nonnegative) nonnegative
  unfold ceilingOf maxCount normalizeDeploymentConfig
  dsimp only
  rwa [if_neg set]

/-- The ceiling holds exactly if its condition does. -/
theorem ceiling_iff (wanted : 0 ≤ record.desiredCount) (share : 0 ≤ record.maximumPercent) :
    ((counted record tasks).length + launches surroundings record tasks primary : Int) ≤
        max ((counted record tasks).length : Int)
          (record.desiredCount * record.maximumPercent / 100) ↔
      (record.maximumPercent ≠ 0 ∧ untallied (counted record tasks) = 0) ∨
        wantsLaunch (current surroundings record tasks) primary surroundings.draws.now = false ∨
        ceilingOf record ≤ countOf .running (counted record tasks) +
          countOf .pending (counted record tasks) ∨
        (counted record tasks).length + (record.desiredCount -
            (primary.runningCount + primary.pendingCount)) ≤
          record.desiredCount * record.maximumPercent / 100 ∨
        untallied (counted record tasks) + ceilingOf record ≤
          record.desiredCount * record.maximumPercent / 100 := by
  have length := length_eq_tallies (counted record tasks)
  have most := @ceilingOf_le record wanted share
  unfold launches launchCount
  rw [maxCount_current, prepared_desiredCount]
  cases wants : wantsLaunch (current surroundings record tasks) primary surroundings.draws.now with
  | false =>
    rw [if_neg Bool.false_ne_true]
    refine iff_of_true ?_ (.inr (.inl rfl))
    omega
  | true =>
    have room : primary.runningCount + primary.pendingCount < record.desiredCount := by
      simp only [wantsLaunch, Bool.and_eq_true, decide_eq_true_eq, prepared_desiredCount] at wants
      exact wants.1.1
    rw [if_pos rfl]
    simp only [Bool.true_eq_false, false_or]
    omega

/--
One pass keeps the bounds of the deployment configuration exactly if it asks
for nothing, or neither a maximum of zero percent nor a task in no tally lets it
launch too many and the floor does not suffer from a product that wraps around.
-/
theorem rolling_update_bounds_iff (surroundings : Surroundings) (record : ServiceRecord)
    (tasks : List TaskRecord) (wanted : 0 ≤ record.desiredCount)
    (minimum : 0 ≤ record.minimumHealthyPercent) (maximum : 0 ≤ record.maximumPercent) :
    ∃ primary, (current surroundings record tasks).primaryDeployment = some primary ∧
      (Bounded record primary.id (counted record tasks)
          (runPass surroundings record tasks).launched
          (runPass surroundings record tasks).stopped ↔
        record.status ≠ .active ∨ trips (current surroundings record tasks) primary = true ∨
          Respects record primary (counted record tasks) surroundings.draws.now) := by
  obtain ⟨primary, found⟩ := exists_primary surroundings record tasks
  refine ⟨primary, found, ?_⟩
  by_cases idle : record.status ≠ .active ∨ trips (current surroundings record tasks) primary = true
  · obtain ⟨launched, stopped⟩ := runPass_idle found idle
    rw [launched, stopped]
    refine iff_of_true ⟨?_, ?_, ?_, ?_⟩ (idle.imp_right .inl)
    · exact .inl rfl
    · omega
    · simp
    · have none : ofDeployment primary.id [] = 0 := rfl
      omega
  · obtain ⟨active, calm⟩ := not_or.1 idle
    obtain ⟨launched, stopped⟩ := runPass_asks found (not_not.1 active) (Bool.not_eq_true _ ▸ calm)
    have floor :
        minCount (current surroundings record tasks) =
          ceilPercent record.desiredCount (if record.minimumHealthyPercent = 0 then
              defaultMinimumHealthyPercent
            else
              record.minimumHealthyPercent) := by
      unfold minCount
      rw [prepared_desiredCount, (prepared_percentages ..).1]
      rfl
    have counts := @census_surplusStops primary.id (counted record tasks)
        record.desiredCount (minCount (current surroundings record tasks))
    have more := @primary_le_ofDeployment primary.id (counted record tasks)
    have below := floor_iff (census primary.id (counted record tasks)) wanted minimum
    have above := @ceiling_iff surroundings record tasks primary wanted maximum
    dsimp only at below
    rw [← floor, ← counts, ← countOf_running, ← stopped] at below
    rw [← launched] at above
    constructor
    · intro bounded
      refine .inr (.inr ⟨above.1 bounded.ceiling, below.1 ?_⟩)
      rw [← countOf_running]
      exact bounded.floor
    · intro condition
      have respects := (condition.resolve_left active).resolve_left calm
      refine ⟨?_, above.2 respects.ceiling, ?_, ?_⟩
      · have bound := below.2 respects.floor
        rwa [← countOf_running] at bound
      · rintro ⟨task, asked, member⟩
        rw [stopped] at asked
        have surplus := stopped_primary asked member
        omega
      · have kept := (census primary.id (counted record tasks)).primary_stops
          (minCount (current surroundings record tasks)) wanted
        rw [stopped, ofDeployment_of_tallied fun task asked => (mem_surplusStops asked).2, counts]
        omega

/-- A service of two tasks without deployments. -/
def sampleService (minimum maximum : Int) : ServiceRecord where
  name := "web"
  cluster := "default"
  taskDefFamily := "web"
  taskDefRevision := 1
  taskDefARN := "arn:aws:ecs:::task-definition/web:1"
  desiredCount := 2
  status := .active
  settings := { networkMode := "awsvpc" }
  deploymentID := "ecs-svc-1"
  minimumHealthyPercent := minimum
  maximumPercent := maximum
  createdAt := 1
  updatedAt := 1

/-- Draws at a fixed time. -/
def sampleSurroundings : Surroundings where
  draws := ⟨10, "placement", "rollout", "deployment"⟩
  taskID := fun index => String.ofList (List.replicate index 't')

/-- A service of two tasks that is being given a new deployment. -/
def supersededService (minimum maximum : Int) : ServiceRecord :=
  { sampleService minimum maximum with
    deployments :=
      [{ id := "ecs-svc-0"
         status := .active
         taskDefARN := "arn:aws:ecs:::task-definition/web:0"
         taskDefFamily := "web"
         taskDefRevision := 0
         desiredCount := 2
         rolloutState := .completed
         createdAt := 1
         updatedAt := 1 },
       { id := "ecs-svc-1"
         status := .primary
         taskDefARN := "arn:aws:ecs:::task-definition/web:1"
         taskDefFamily := "web"
         taskDefRevision := 1
         desiredCount := 2
         rolloutState := .inProgress
         createdAt := 1
         updatedAt := 1 }] }

/-- RUNNING tasks of the service, by the deployment that launched them. -/
def runningTasks (deployment : String) (taskIDs : List String) : List TaskRecord :=
  taskIDs.map fun taskID =>
    { taskID := taskID
      group := "service:web"
      startedBy := deploymentStartedBy deployment
      desiredStatus := .running
      lastStatus := .running }

/-- Two tasks of the superseded deployment and one of the new one. -/
def halfway : List TaskRecord :=
  runningTasks "ecs-svc-0" ["a", "b"] ++ runningTasks "ecs-svc-1" ["c"]

/-- Halfway through a rollout two old tasks go and a new one is launched. -/
theorem rolling_update_bounds_default :
    0 ≤ (supersededService 50 200).desiredCount ∧
      0 ≤ (supersededService 50 200).minimumHealthyPercent ∧
      0 ≤ (supersededService 50 200).maximumPercent ∧
      (runPass sampleSurroundings (supersededService 50 200) halfway).launched = 1 ∧
      (runPass sampleSurroundings (supersededService 50 200) halfway).stopped.map
        TaskRecord.taskID = ["a", "b"] ∧
      ∃ primary, (current sampleSurroundings
          (supersededService 50 200) halfway).primaryDeployment = some primary ∧
        (Bounded (supersededService 50 200) primary.id (counted (supersededService 50 200) halfway)
            (runPass sampleSurroundings (supersededService 50 200) halfway).launched
            (runPass sampleSurroundings (supersededService 50 200) halfway).stopped ↔
          (supersededService 50 200).status ≠ .active ∨
            trips (current sampleSurroundings (supersededService 50 200) halfway) primary = true ∨
            Respects (supersededService 50 200) primary
              (counted (supersededService 50 200) halfway)
              sampleSurroundings.draws.now) :=
  ⟨by decide, by decide, by decide, by decide +kernel, by decide +kernel,
    rolling_update_bounds_iff sampleSurroundings (supersededService 50 200) halfway
      (by decide) (by decide) (by decide)⟩

/-- A service that may run no task at all is given two. -/
theorem maximum_zero_launches :
    (runPass sampleSurroundings (sampleService 100 0) []).launched = 2 ∧
      ∀ primaryID, ¬ Bounded (sampleService 100 0) primaryID (counted (sampleService 100 0) [])
        (runPass sampleSurroundings (sampleService 100 0) []).launched
        (runPass sampleSurroundings (sampleService 100 0) []).stopped := by
  have launched : (runPass sampleSurroundings (sampleService 100 0) []).launched = 2 := by
    decide +kernel
  refine ⟨launched, ?_⟩
  intro primaryID bounded
  have ceiling := bounded.ceiling
  rw [launched] at ceiling
  exact absurd ceiling (by decide)

end

end Spinifex.Ecs
