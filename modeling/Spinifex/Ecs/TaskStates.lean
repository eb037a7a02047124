import Mathlib.Data.List.Basic
import Spinifex.Concurrency.Records
import Spinifex.Ecs.Deployments

/-!
# The last status of a task

Agents report the status of a task, in any order and more than once; requests
and passes ask for a stop; a forced stop records one itself.  All of them read
the task record, change some fields and put it back.  Whoever moves a task to
STOPPED cleans up after it: targets, public address, interface and capacity.

A late report brings a stopped task back, and two stops that overlap both clean
up.  If puts replace what their operation has seen and are not stored when they
are reported as failed, reports of another status find no stopped record, and
nobody interferes with a forced stop that has begun to release, then a stopped
task stays stopped and one transition cleans up.
-/

namespace Spinifex.Ecs

open Go Concurrency Records List

/-! ## Records and reports -/

/-- A `TaskState` report of an agent. -/
structure TaskState where
  lastStatus : TaskStatus
  reason : String := ""
  containers : List ContainerState := []
deriving DecidableEq, Repr

/-- The GPUs the record had for a container; the last entry counts. -/
def prevGPUIDs (containers : List ContainerState) (name : String) : List String :=
  (containers.reverse.find? fun container =>
    container.name = name && !container.gpuIDs.isEmpty).elim [] ContainerState.gpuIDs

def reportedContainers (before reported : List ContainerState) : List ContainerState :=
  if reported.isEmpty then
    before
  else
    reported.map fun container => if container.gpuIDs.isEmpty then
        { container with gpuIDs := prevGPUIDs before container.name }
      else
        container

namespace TaskRecord

variable (task : TaskRecord)

/-- The record a report leads to. -/
def reported (msg : TaskState) (now : Time) : TaskRecord :=
  let task :=
    { task with
      lastStatus := msg.lastStatus
      containers := reportedContainers task.containers msg.containers
      startedAt := if msg.lastStatus = .running ∧ task.startedAt = 0 then now else task.startedAt }
  if msg.lastStatus = .stopped then
    { task with
      stoppedAt := now
      stoppedReason := if msg.reason = "" then task.stoppedReason else msg.reason
      desiredStatus := .stopped }
  else
    task

/-- The record a forced stop leads to. -/
def forceStopped (reason : String) (now : Time) : TaskRecord :=
  { task with
    lastStatus := .stopped
    desiredStatus := .stopped
    stoppedReason := reason
    stoppedAt := now }

/-- What `releaseTaskPublicIP` leaves of the record. -/
def withoutPublicIP : TaskRecord :=
  if task.eniEIPAllocationID = "" then
    task
  else
    { task with eniPublicIP := "", eniEIPAllocationID := "" }

/-- What `reclaimTaskENI` leaves of the record. -/
def withENI (released : Except String Unit) : TaskRecord :=
  if task.networkMode ≠ "awsvpc" ∨ task.eniID = "" ∨ task.eniReleased then
    task
  else
    { task with eniReleased := released.toBool }

@[simp]
theorem lastStatus_reported (msg : TaskState) (now : Time) :
    (task.reported msg now).lastStatus = msg.lastStatus := by
  by_cases stopped : msg.lastStatus = .stopped <;> simp [reported, stopped]

/-- Releasing resources leaves the status as it is. -/
theorem status_released (released : Except String Unit) :
    (task.withoutPublicIP.withENI released).lastStatus = task.lastStatus ∧
      (task.withoutPublicIP.withENI released).desiredStatus = task.desiredStatus := by
  unfold withENI withoutPublicIP
  split <;> split <;> exact ⟨rfl, rfl⟩

end TaskRecord

namespace TaskStates

/-! ## The programs -/

/-- The steps of the cleanup after a stop. -/
inductive Cleanup where
  | targets
  | publicIP
  | eni
  | capacity
deriving DecidableEq, Repr

/-- Calls that touch neither the record nor what is cleaned up. -/
inductive Aside where
  | recordDeploymentFailure
  | registerServiceTargets
  | reclaimAssignInbox
  | reclaimStopInbox
  | postStopDirective (reason : String)
deriving DecidableEq, Repr

/-- The calls of the operations on one task. -/
inductive Call where
  | getTask
  | putTask (task : TaskRecord)
  | clock
  | aside (what : Aside) (task : TaskRecord)
  | allocatePublicIP (task : TaskRecord)
  | cleanup (step : Cleanup) (task : TaskRecord)

/-- The replies; no public address is allocated where none is wanted. -/
def Call.Reply : Call → Type
  | .getTask => Except String (Option TaskRecord)
  | .putTask _ => WriteReply String
  | .clock => Time
  | .aside _ _ => Unit
  | .allocatePublicIP _ => Option (String × String)
  | .cleanup _ _ => Except String Unit

/-- A program on one task. -/
abbrev Action : Type → Type := Program Call Call.Reply

/-- Read the record. -/
def getTask : Action (Except String (Option TaskRecord)) :=
  .request Call.getTask

/-- Write the record. -/
def putTask (task : TaskRecord) : Action (Except String Unit) := do
  let reply : WriteReply String ← .request (Call.putTask task)
  return reply.result

def clock : Action Time :=
  .request Call.clock

/-- Something on the side. -/
def aside (what : Aside) (task : TaskRecord) : Action Unit :=
  .request (Call.aside what task)

def cleanup (step : Cleanup) (task : TaskRecord) : Action (Except String Unit) :=
  .request (Call.cleanup step task)

/-- `assignTaskPublicIP`. -/
def assignTaskPublicIP (task : TaskRecord) : Action Unit :=
  if task.eniID = "" ∨ task.eniPublicIP ≠ "" then
    return ()
  else do
    let assigned : Option (String × String) ← .request (Call.allocatePublicIP task)
    match assigned with
    | none => return ()
    | some (publicIP, allocation) =>
      let _ ← putTask
        { task with eniPublicIP := publicIP, eniEIPAllocationID := allocation }
      return ()

/-- What a report does after the transition into RUNNING. -/
def afterRunning (task : TaskRecord) : Action (Except String Unit) := do
  aside .registerServiceTargets task
  assignTaskPublicIP task
  return .ok ()

/-- What a report does after the transition into STOPPED. -/
def afterStopped (task : TaskRecord) : Action (Except String Unit) := do
  if task.startedAt = 0 then
    aside .recordDeploymentFailure task
  let _ ← cleanup .targets task
  let _ ← cleanup .publicIP task
  aside .reclaimAssignInbox task
  aside .reclaimStopInbox task
  let released ← cleanup .eni task.withoutPublicIP
  let task := task.withoutPublicIP.withENI released
  let _ ← putTask task
  cleanup .capacity task

/-- `recordTaskState`. -/
def recordTaskState (msg : TaskState) : Action (Except String Unit) := do
  let stored ← getTask
  match stored with
  | .error failure => return .error failure
  | .ok none => return .ok ()
  | .ok (some task) =>
    let now ← clock
    let written ← putTask (task.reported msg now)
    match written with
    | .error failure => return .error failure
    | .ok () =>
      if msg.lastStatus = .running ∧ task.lastStatus ≠ .running then
        afterRunning (task.reported msg now)
      else if msg.lastStatus = .stopped ∧ task.lastStatus ≠ .stopped then
        afterStopped (task.reported msg now)
      else
        return .ok ()

/-- `forceStopTask`: the address and the interface go before the put. -/
def forceStopTask (task : TaskRecord) (reason : String) : Action Unit :=
  if task.lastStatus = .stopped then
    return ()
  else do
    let now ← clock
    let task := task.forceStopped reason now
    let _ ← cleanup .publicIP task
    let released ← cleanup .eni task.withoutPublicIP
    let task := task.withoutPublicIP.withENI released
    let written ← putTask task
    match written with
    | .error _ => return ()
    | .ok () =>
      let _ ← cleanup .targets task
      aside .reclaimAssignInbox task
      aside .reclaimStopInbox task
      let _ ← cleanup .capacity task
      return ()

/-- `requestStopTask`. -/
def requestStopTask (task : TaskRecord) (reason : String) : Action Unit :=
  if task.lastStatus = .stopped then
    return ()
  else if task.containerInstanceID = "" then
    forceStopTask task reason
  else do
    let task := { task with desiredStatus := .stopped }
    let written ← putTask task
    match written with
    | .error _ => return ()
    | .ok () => aside (.postStopDirective reason) task

/-- What a call does to the record if nothing fails and nobody else is at work. -/
def perform (now : Time) : (call : Call) → Option TaskRecord → call.Reply × Option TaskRecord
  | .getTask, stored => (.ok stored, stored)
  | .putTask task, _ => (.acknowledged, some task)
  | .clock, stored => (now, stored)
  | .aside _ _, stored => ((), stored)
  | .allocatePublicIP _, stored => (none, stored)
  | .cleanup _ _, stored => (.ok (), stored)

/-- The record after a stop request says that the task is to stop. -/
theorem run_requestStopTask (now : Time) (task : TaskRecord) (reason : String) :
    ∃ stored, ((requestStopTask task reason).run (perform now) (some task)).2 = some stored ∧
      (stored.lastStatus = .stopped ∨ stored.desiredStatus = .stopped) := by
  unfold requestStopTask
  split
  next stopped =>
    exact ⟨task, rfl, .inl stopped⟩
  next live =>
    split
    · unfold forceStopTask
      rw [if_neg live]
      have same := (task.forceStopped reason now).status_released (.ok ())
      exact ⟨_, rfl, .inl same.1⟩
    · exact ⟨_, rfl, .inr rfl⟩

/-- What happens to a task; a stop works on a record read before. -/
inductive Job where
  | report (msg : TaskState)
  | requestStop (reason : String)
  | forceStop (reason : String)
  | reap (instanceID reason : String)

/-- What a stop does with the record it has read. -/
def Job.onTask : Job → TaskRecord → Action Unit
  | .report _, _ => return ()
  | .requestStop reason, task => requestStopTask task reason
  | .forceStop reason, task => forceStopTask task reason
  | .reap instanceID reason, task =>
    if task.containerInstanceID ≠ instanceID then
      return ()
    else
      forceStopTask task reason

/-- A stop of any kind. -/
def stop (job : Job) : Action Unit := do
  let stored ← getTask
  match stored with
  | .error _ => return ()
  | .ok none => return ()
  | .ok (some task) => job.onTask task

def Job.program : Job → Action Unit
  | .report msg => do
      let _ ← recordTaskState msg
      return ()
  | .requestStop reason => stop (.requestStop reason)
  | .forceStop reason => stop (.forceStop reason)
  | .reap instanceID reason => stop (.reap instanceID reason)

/-! ## What the log keeps -/

/-- A read that found a status, or a step of the cleanup. -/
inductive Note where
  | saw (status : TaskStatus)
  | ran (step : Cleanup)
deriving DecidableEq, Repr

/-- What a reply shows of the record. -/
def shownBy : (call : Call) → call.Reply → Option (Option TaskRecord)
  | .getTask, .ok stored => some stored
  | _, _ => none

/-- What a call stores. -/
def storedBy : (call : Call) → call.Reply → Option TaskRecord
  | .putTask task, reply => if WriteReply.stored reply then some task else none
  | _, _ => none

/-- What an operation is told to be stored. -/
def acknowledgedBy : (call : Call) → call.Reply → Option TaskRecord
  | .putTask task, .acknowledged => some task
  | _, _ => none

/-- What is noted of a call. -/
def noteOf : (call : Call) → call.Reply → Option Note
  | .getTask, .ok (some task) => some (.saw task.lastStatus)
  | .cleanup step _, _ => some (.ran step)
  | _, _ => none

/-- The calls on the one record. -/
def access : Records.Access Call Call.Reply Unit TaskRecord Note where
  shown call reply _ := shownBy call reply
  stored call reply := (storedBy call reply).map fun task => ((), some task)
  remark := noteOf

/-- The calls, as an operation that takes every reply for granted sees them. -/
abbrev trusting : Records.Access Call Call.Reply Unit TaskRecord Note :=
  access.storing fun call reply => (acknowledgedBy call reply).map fun task => ((), some task)

/-- What a thread did. -/
abbrev Deed : Type := Records.Deed Unit TaskRecord Note Unit

def isPut : Deed → Bool
  | .wrote _ _ => true
  | .noted _ => false
  | .returned _ => false

/-- The deed is a step of the cleanup. -/
def isCleanup : Deed → Bool
  | .wrote _ _ => false
  | .noted (.saw _) => false
  | .noted (.ran _) => true
  | .returned _ => false

/-- The thread read a record that was not stopped. -/
def SawLive (deeds : List Deed) : Prop :=
  ∃ status, status ≠ .stopped ∧ .noted (.saw status) ∈ deeds

/-- The thread put a stopped record. -/
def PutStopped (deeds : List Deed) : Prop :=
  ∃ task : TaskRecord, task.lastStatus = .stopped ∧ .wrote () (some task) ∈ deeds

/-- A thread that has moved the task to STOPPED has cleaned up. -/
def Finishes (deeds : List Deed) : Prop :=
  SawLive deeds → PutStopped deeds → ∀ step, deeds.count (.noted (.ran step)) = 1

/-- The puts of a job that has done so much. -/
inductive Puts (job : Job) (deeds : List Deed) (before after : TaskRecord) : Prop where
  | stop
    (first : deeds.any isPut = false)
    (saw : ∀ status, .noted (.saw status) ∈ deeds ↔ status = before.lastStatus)
    (lastStatus : after.lastStatus = .stopped)
    (desiredStatus : after.desiredStatus = .stopped)
  | again
    (earlier : .wrote () (some before) ∈ deeds)
    (lastStatus : after.lastStatus = before.lastStatus)
    (desiredStatus : after.desiredStatus = before.desiredStatus)
  | live
    (unclean : deeds.any isCleanup = false)
    (lastStatus : after.lastStatus ≠ .stopped)
    (cause : before.lastStatus = .stopped → ∃ msg, job = .report msg ∧ msg.lastStatus ≠ .stopped)

/-- What a job does. -/
def JobLaw (job : Job) (deeds : List Deed) (seen : Unit → Option (Option TaskRecord)) : Deed → Prop
  | .wrote _ value =>
    ∃ before after, seen () = some (some before) ∧ value = some after ∧ Puts job deeds before after
  | .noted (.saw _) => deeds = []
  | .noted (.ran _) =>
    SawLive deeds ∧ (deeds.any isPut = true → PutStopped deeds)
  | .returned _ => Finishes deeds

section

variable {First : Type}

/-- The view of a thread that has seen, or put, the record. -/
def saw (stored : Option TaskRecord) : View Unit TaskRecord where
  value _ := some stored
  revision _ := none

variable {deeds : List Deed}

theorem obeys_getTask {next : Except String (Option TaskRecord) → Action First}
    (found : ∀ task, Obeys trusting (JobLaw job) post (next (.ok (some task)))
      (saw (some task)) [.noted (.saw task.lastStatus)])
    (absent : ∀ view, Obeys trusting (JobLaw job) post (next (.ok none)) view [])
    (failed : ∀ failure view, Obeys trusting (JobLaw job) post (next (.error failure)) view []) :
    Obeys trusting (JobLaw job) post (getTask >>= next) view [] := by
  intro reply
  refine ⟨(fun _ _ stored => by cases stored), ?_, ?_⟩
  · intro note noted
    cases note with
    | saw status => exact rfl
    | ran step => rcases reply with failure | _ | task <;> cases noted
  · rcases reply with failure | _ | task
    · exact failed failure _
    · exact absent _
    · exact found task

variable {next : Except String Unit → Action First}

theorem obeys_putTask (lawful : JobLaw job deeds view.value (.wrote () (some task)))
    (stored : Obeys trusting (JobLaw job) post (next (.ok ()))
      (saw (some task)) (.wrote () (some task) :: deeds))
    (failed : ∀ failure, Obeys trusting (JobLaw job) post (next (.error failure)) view deeds) :
    Obeys trusting (JobLaw job) post (putTask task >>= next) view
      deeds := by
  intro reply
  rcases reply with _ | ⟨failure, _⟩
  · refine ⟨?_, nofun, stored⟩
    rintro key value ⟨⟩
    exact ⟨lawful, nofun⟩
  · exact ⟨(fun _ _ stored => by cases stored), nofun, failed failure⟩

theorem obeys_cleanup (lawful : JobLaw job deeds view.value (.noted (.ran step)))
    (done : ∀ reply, Obeys trusting (JobLaw job) post (next reply) view
      (.noted (.ran step) :: deeds)) :
    Obeys trusting (JobLaw job) post (cleanup step task >>= next) view deeds := by
  intro reply
  refine ⟨(fun _ _ stored => by cases stored), ?_, done reply⟩
  rintro note ⟨⟩
  exact lawful

theorem obeys_clock {next : Time → Action First}
    (read : ∀ now, Obeys trusting (JobLaw job) post (next now) view deeds) :
    Obeys trusting (JobLaw job) post (clock >>= next) view deeds := by
  change Obeys _ _ _ (.call _ _) _ _
  rwa [obeys_silent ⟨fun _ _ => rfl, fun _ => rfl, fun _ => rfl⟩]

theorem obeys_aside {next : Unit → Action First}
    (done : Obeys trusting (JobLaw job) post (next ()) view deeds) :
    Obeys trusting (JobLaw job) post (aside what task >>= next) view
      deeds := by
  change Obeys _ _ _ (.call _ _) _ _
  rw [obeys_silent ⟨fun _ _ => rfl, fun _ => rfl, fun _ => rfl⟩]
  exact fun _ => done

/-- The thread may return, whatever it returns. -/
abbrev Ends (_ : First) (_ : View Unit TaskRecord) (deeds : List Deed) : Prop :=
  Finishes deeds

/-- A thread that has put no stopped record may return at any time. -/
theorem finishes_of_live
    (live : ∀ task : TaskRecord, .wrote () (some task) ∈ deeds → task.lastStatus ≠ .stopped) :
    Finishes deeds := by
  rintro - ⟨task, stopped, put⟩
  exact absurd stopped (live task put)

variable {prev : TaskStatus}

/-- A thread that has put a stopped record of a live one may clean up. -/
theorem entitled (stopped : task.lastStatus = .stopped) (wasLive : prev ≠ .stopped)
    (deeds : List Deed) (did : .wrote () (some task) ∈ deeds ∧ .noted (.saw prev) ∈ deeds) :
    SawLive deeds ∧ (deeds.any isPut = true → PutStopped deeds) :=
  ⟨⟨prev, wasLive, did.2⟩, fun _ => ⟨task, stopped, did.1⟩⟩

theorem obeys_afterStopped (stopped : task.lastStatus = .stopped) (wasLive : prev ≠ .stopped) :
    Obeys trusting (JobLaw job) Ends (afterStopped task) (saw (some task))
      [.wrote () (some task), .noted (.saw prev)] := by
  have entitled := entitled stopped wasLive
  unfold afterStopped
  split
  on_goal 1 => apply obeys_aside
  all_goals
    refine obeys_cleanup (entitled _ (by simp)) fun _ => ?_
    refine obeys_cleanup (entitled _ (by simp)) fun _ => ?_
    refine obeys_aside (obeys_aside ?_)
    refine obeys_cleanup (entitled _ (by simp)) fun released => ?_
    have same := task.status_released released
    refine obeys_putTask ?_ ?_ fun _ => ?_
    · exact ⟨task, _, rfl, rfl, .again (by simp) same.1 same.2⟩
    all_goals
      refine obeys_cleanup (entitled _ (by simp)) fun _ => ?_
      intro _ _ step
      cases step <;> simp

theorem obeys_afterRunning (running : task.lastStatus = .running) :
    Obeys trusting (JobLaw job) Ends (afterRunning task) (saw (some task))
      [.wrote () (some task), .noted (.saw prev)] := by
  have alone : Finishes [.wrote () (some task), .noted (.saw prev)] :=
    finishes_of_live (by simp [running])
  apply obeys_aside
  unfold assignTaskPublicIP
  split
  · exact alone
  · change Obeys _ _ _ (.call _ _) _ _
    rw [obeys_silent ⟨fun _ _ => rfl, fun _ => rfl, fun _ => rfl⟩]
    rintro (_ | ⟨publicIP, allocation⟩)
    · exact alone
    · change Obeys _ _ _ (putTask _ >>= fun _ => pure (Except.ok ())) _ _
      refine obeys_putTask ?_ ?_ fun _ => ?_
      · exact ⟨task, _, rfl, rfl, .again (by simp) rfl rfl⟩
      · exact finishes_of_live (by simp [running])
      · exact alone

theorem obeys_recordTaskState (msg : TaskState) :
    Obeys trusting (JobLaw (.report msg)) Ends (recordTaskState msg) View.blank [] := by
  refine obeys_getTask ?_ ?_ ?_
  · intro task
    refine obeys_clock fun now => ?_
    refine obeys_putTask ?_ ?_ ?_
    · refine ⟨task, _, rfl, rfl, ?_⟩
      by_cases stopped : msg.lastStatus = .stopped
      · exact .stop (by simp [isPut]) (by simp) (by simp [stopped])
          (by simp [TaskRecord.reported, stopped])
      · exact .live (by simp [isCleanup]) (by simpa using stopped) fun _ => ⟨msg, rfl, stopped⟩
    · dsimp only
      split
      next started =>
        exact obeys_afterRunning (by simp [started.1])
      · split
        next turned =>
          exact obeys_afterStopped (by simp [turned.1]) turned.2
        next same =>
          rintro ⟨status, wasLive, seen⟩ ⟨put, stopped, written⟩
          simp only [mem_cons, reduceCtorEq, not_mem_nil, or_false, false_or] at seen written
          cases seen
          cases written
          rw [TaskRecord.lastStatus_reported] at stopped
          exact absurd ⟨stopped, wasLive⟩ same
    · exact fun _ => finishes_of_live (by simp)
  · exact fun view => finishes_of_live (by simp)
  · exact fun failure view => finishes_of_live (by simp)

theorem obeys_forceStopTask (task : TaskRecord) (reason : String) :
    Obeys trusting (JobLaw job) Ends (forceStopTask task reason)
      (saw (some task)) [.noted (.saw task.lastStatus)] := by
  unfold forceStopTask
  split
  · exact finishes_of_live (by simp)
  next wasLive =>
    refine obeys_clock fun now => ?_
    refine obeys_cleanup ⟨⟨_, wasLive, by simp⟩, by simp [isPut]⟩ fun _ => ?_
    refine obeys_cleanup ⟨⟨_, wasLive, by simp⟩, by simp [isPut]⟩ fun released => ?_
    have same := (task.forceStopped reason now).status_released released
    refine obeys_putTask ?_ ?_ fun _ => finishes_of_live (by simp)
    · exact ⟨task, _, rfl, rfl, .stop (by simp [isPut]) (by simp) same.1 same.2⟩
    · have entitled := entitled same.1 wasLive
      refine obeys_cleanup (entitled _ (by simp)) fun _ => ?_
      refine obeys_aside (obeys_aside ?_)
      refine obeys_cleanup (entitled _ (by simp)) fun _ => ?_
      intro _ _ step
      cases step <;> simp

theorem obeys_requestStopTask (task : TaskRecord) (reason : String) :
    Obeys trusting (JobLaw job) Ends (requestStopTask task reason)
      (saw (some task)) [.noted (.saw task.lastStatus)] := by
  unfold requestStopTask
  split
  · exact finishes_of_live (by simp)
  next wasLive =>
    split
    · exact obeys_forceStopTask task reason
    · refine obeys_putTask ?_ ?_ fun _ => finishes_of_live (by simp)
      · exact ⟨task, _, rfl, rfl, .live (by simp [isCleanup]) wasLive
          fun stopped => absurd stopped wasLive⟩
      · exact obeys_aside (finishes_of_live (by simp [wasLive]))

theorem obeys_onTask (stopping : Job) (task : TaskRecord) :
    Obeys trusting (JobLaw job) Ends (Job.onTask stopping task)
      (saw (some task)) [.noted (.saw task.lastStatus)] := by
  cases stopping with
  | report msg => exact finishes_of_live (by simp)
  | requestStop reason => exact obeys_requestStopTask task reason
  | forceStop reason => exact obeys_forceStopTask task reason
  | reap instanceID reason =>
    change Obeys _ _ _ (if _ then _ else _) _ _
    split
    · exact finishes_of_live (by simp)
    · exact obeys_forceStopTask task reason

/-- Every job obeys its law. -/
theorem obeys_program (job : Job) :
    Obeys trusting (JobLaw job)
      (fun result view deeds => JobLaw job deeds view.value (.returned result))
      job.program View.blank [] := by
  have stops (stopping : Job) : Obeys trusting (JobLaw job) Ends (stop stopping) View.blank [] :=
    obeys_getTask (obeys_onTask stopping) (fun _ => finishes_of_live (by simp))
      (fun _ _ => finishes_of_live (by simp))
  cases job with
  | report msg => exact obeys_bind.2 (obeys_recordTaskState msg)
  | requestStop reason | forceStop reason | reap instanceID reason =>
    exact stops _

end

/-! ## Runs -/

section

variable {Index : Type} [DecidableEq Index]

abbrev Entry (Index : Type) : Type :=
  Records.Entry Index Unit TaskRecord Note Unit

/-- The record, what each thread has seen, and the log. -/
abbrev Shared (Index : Type) : Type :=
  Records.State Index Unit TaskRecord Note Unit

def isStopped (stored : Option TaskRecord) : Bool :=
  stored.any fun task => task.lastStatus = .stopped

/-- A job reports another status than STOPPED. -/
def Job.reportsLive : Job → Bool
  | .report msg => msg.lastStatus ≠ .stopped
  | .requestStop _ => false
  | .forceStop _ => false
  | .reap _ _ => false

/-- A forced stop has begun to release and has not put the record yet. -/
def holds (log : List (Entry Index)) (index : Index) : Bool :=
  (own index log).any isCleanup && !(own index log).any isPut

/--
A report that is late finds no stopped record, nothing is released before its
put of a record that is stopped, and nobody interferes with a forced stop.
-/
@[mk_iff]
structure Allowed (jobs : Index → Job) (entry : Entry Index)
    (record : Unit → Option TaskRecord) (older : List (Entry Index)) : Prop where
  late : isPut entry.deed = true → (jobs entry.index).reportsLive = true →
    isStopped (record ()) = false
  early : isCleanup entry.deed = true →
    (own entry.index older).any isPut = false → isStopped (record ()) = false
  alone : (isPut entry.deed || isCleanup entry.deed) = true →
    ∀ other, other ≠ entry.index → holds older other = false

/-- The entry a call makes. -/
def entryOf (index : Index) (call : Call) (before : Shared Index)
    (reply : call.Reply) : Option (Entry Index) :=
  ((storedBy call reply).map fun task => ⟨index, .wrote () (some task), before.shelf.value ()⟩).or
    ((noteOf call reply).map fun note => ⟨index, .noted note, none⟩)

/-- A call puts what it has seen, is told what is stored and does what is allowed. -/
@[mk_iff]
structure Fair (jobs : Index → Job) (index : Index) (call : Call)
    (before : Shared Index) (reply : call.Reply) : Prop where
  undisturbed : Undisturbed access index call before reply
  told : acknowledgedBy call reply = storedBy call reply
  allowed : ∀ entry, entryOf index call before reply = some entry →
    Allowed jobs entry before.shelf.value before.log

theorem admits_fair (jobs : Index → Job) : Admits trusting (Allowed jobs) (Fair jobs) := by
  refine ⟨fun fair => fair.undisturbed.storing (congrArg (Option.map _) fair.told), ?_, ?_⟩
  · intro index call before reply key value fair stored
    rcases Option.map_eq_some_iff.1 stored with ⟨task, put, same⟩
    cases same
    apply fair.allowed
    simp [entryOf, ← fair.told, put]
  · intro index call before reply note fair noted
    have unstored : storedBy call reply = none := by
      cases call with
      | putTask task => cases noted
      | getTask | clock | aside what task | allocatePublicIP task
      | cleanup step task => rfl
    have same : trusting.stored call reply = none := by
      simp [fair.told, unstored]
    rw [same]
    apply fair.allowed
    simp [entryOf, unstored, show noteOf call reply = some note from noted]

def tasks (Index : Type) [DecidableEq Index] : System Index Call Call.Reply (Shared Index) Unit :=
  Records.system access

/-- The operations before their first call. -/
def start (jobs : Index → Job) (shelf : Shelf Unit TaskRecord) :
    Pool Index Call Call.Reply (Shared Index) Unit :=
  Pool.start (Records.State.initial shelf) fun index => (jobs index).program

/-! ## Who cleans up -/

/-- A thread moved the task to STOPPED. -/
def Turned (log : List (Entry Index)) (index : Index) : Prop :=
  ∃ task replaced, ⟨index, .wrote () (some task), replaced⟩ ∈ log ∧
    isStopped (some task) = true ∧ isStopped replaced = false

/-- A thread cleans up. -/
def Cleans (log : List (Entry Index)) (index : Index) : Prop :=
  (own index log).any isCleanup = true

/-- A thread that read a live record has put a stopped one. -/
def Ended (log : List (Entry Index)) (index : Index) : Prop :=
  SawLive (own index log) ∧ PutStopped (own index log)

variable {base : Unit → Option TaskRecord} {jobs : Index → Job}
    {older : List (Entry Index)} {entry : Entry Index}

/-- Who cleans up holds the task, which is live, or has ended it. -/
structure Tidy (base : Unit → Option TaskRecord) (log : List (Entry Index)) : Prop where
  cleans : ∀ index, Cleans log index → holds log index = true ∨ Ended log index
  held : ∀ index, holds log index = true → isStopped (content base log ()) = false ∧
    ∀ other, Cleans log other → other = index
  ended :
    ∀ index, Ended log index → isStopped (content base log ()) = true ∧
      ∀ other, Ended log other → other = index

theorem any_own_cons (entry : Entry Index) (older : List (Entry Index)) (index : Index)
    (kind : Deed → Bool) :
    (own index (entry :: older)).any kind =
      (decide (entry.index = index) && kind entry.deed || (own index older).any kind) := by
  by_cases mine : entry.index = index
  · subst mine
    simp
  · simp [own_cons_of_ne mine, mine]

variable {index : Index}

theorem mem_own_cons :
    deed ∈ own index (entry :: older) ↔
      entry.index = index ∧ deed = entry.deed ∨ deed ∈ own index older := by
  by_cases mine : entry.index = index
  · subst mine
    simp
  · simp [own_cons_of_ne mine, mine]

theorem Ended.cons (ended : Ended older index) (entry : Entry Index) :
    Ended (entry :: older) index := by
  rcases ended with ⟨⟨status, live, saw⟩, task, stopped, put⟩
  exact ⟨⟨status, live, mem_own_cons.2 (.inr saw)⟩, task, stopped, mem_own_cons.2 (.inr put)⟩

/-- What ended a task was its read, or its put, or came before. -/
theorem ended_cons (ended : Ended (entry :: older) index) :
    Ended older index ∨ entry.index = index ∧ ((∃ task,
        entry.deed = .wrote () (some task) ∧ task.lastStatus = .stopped ∧
          SawLive (own index older)) ∨
      (∃ status, entry.deed = .noted (.saw status)) ∧ PutStopped (own index older)) := by
  rcases ended with ⟨⟨status, live, saw⟩, task, stopped, put⟩
  rcases mem_own_cons.1 put with ⟨mine, now⟩ | earlier
  · rcases mem_own_cons.1 saw with ⟨-, wrong⟩ | saw
    · cases now.trans wrong.symm
    · exact .inr ⟨mine, .inl ⟨task, now.symm, stopped, status, live, saw⟩⟩
  · rcases mem_own_cons.1 saw with ⟨mine, now⟩ | saw
    · exact .inr ⟨mine, .inr ⟨⟨status, now.symm⟩, task, stopped, earlier⟩⟩
    · exact .inl ⟨⟨status, live, saw⟩, task, stopped, earlier⟩

theorem tidy_nil : Tidy base ([] : List (Entry Index)) := by
  constructor
  · intro index wrong
    simp [Cleans, own] at wrong
  · intro index wrong
    simp [holds, own] at wrong
  · rintro index ⟨⟨status, -, wrong⟩, -⟩
    simp [own] at wrong

/-- A read or a return changes nothing. -/
theorem Tidy.quiet (tidy : Tidy base older)
    (record : content base (entry :: older) = content base older)
    (unclean : isCleanup entry.deed = false) (unput : isPut entry.deed = false)
    (first : ∀ status, entry.deed = .noted (.saw status) → own entry.index older = []) :
    Tidy base (entry :: older) := by
  have cleans (index : Index) : Cleans (entry :: older) index ↔ Cleans older index := by
    simp [Cleans, any_own_cons, unclean]
  have held (index : Index) : holds (entry :: older) index = holds older index := by
    simp [holds, any_own_cons, unclean, unput]
  have ended (index : Index) (now : Ended (entry :: older) index) :
      Ended older index := by
    rcases ended_cons now with
      ended | ⟨rfl, ⟨task, put, -⟩ | ⟨⟨status, saw⟩, task, -, put⟩⟩
    · exact ended
    · rw [put] at unput
      cases unput
    · simp [first status saw] at put
  constructor
  · intro index cleaned
    rw [held]
    exact (tidy.cleans index ((cleans index).1 cleaned)).imp_right fun ended => ended.cons entry
  · intro index holding
    rw [held] at holding
    rw [record]
    have alone := tidy.held index holding
    exact ⟨alone.1, fun other cleaned => alone.2 other ((cleans other).1 cleaned)⟩
  · intro index now
    rw [record]
    have alone := tidy.ended index (ended index now)
    exact ⟨alone.1, fun other also => alone.2 other (ended other also)⟩

/-- Who cleans up without having put holds the task; others do neither. -/
theorem Tidy.clean (tidy : Tidy base older) (ran : entry.deed = .noted (.ran step))
    (allowed : Allowed jobs entry (content base older) older)
    (saw : SawLive (own entry.index older))
    (put : (own entry.index older).any isPut = true → PutStopped (own entry.index older)) :
    Tidy base (entry :: older) := by
  have record : content base (entry :: older) = content base older := by simp [content, ran]
  have free := allowed.alone (by simp [ran, isCleanup])
  have earlier (other : Index) (different : other ≠ entry.index)
      (cleaned : Cleans (entry :: older) other) : Ended older other := by
    have before : Cleans older other := by
      simpa [Cleans, any_own_cons, Ne.symm different] using cleaned
    apply (tidy.cleans other before).resolve_left
    simp [free other different]
  have ended (other : Index) (now : Ended (entry :: older) other) : Ended older other := by
    rcases ended_cons now with
      ended | ⟨-, ⟨task, wrong, -⟩ | ⟨⟨status, wrong⟩, -⟩⟩
    · exact ended
    · cases ran.symm.trans wrong
    · cases ran.symm.trans wrong
  constructor
  · intro other cleaned
    by_cases mine : other = entry.index
    · subst other
      cases puts : (own entry.index older).any isPut with
      | true => exact .inr (Ended.cons ⟨saw, put puts⟩ _)
      | false => simp [holds, ran, isCleanup, isPut, puts]
    · exact .inr ((earlier other mine cleaned).cons _)
  · intro other holding
    by_cases mine : other = entry.index
    · subst other
      simp only [holds, any_own_cons, ran, isPut, Bool.and_eq_true,
        Bool.and_false, Bool.false_or, Bool.not_eq_true'] at holding
      have live := allowed.early (by simp [ran, isCleanup]) holding.2
      refine ⟨record ▸ live, ?_⟩
      intro another cleaned
      by_contra different
      have stopped := (tidy.ended another (earlier another different cleaned)).1
      simp [live] at stopped
    · have before := free other mine
      simp only [holds, any_own_cons, Ne.symm mine,
        decide_false, Bool.false_and, Bool.false_or] at holding before
      simp [holding] at before
  · intro other now
    have alone := tidy.ended other (ended other now)
    exact ⟨record ▸ alone.1, fun another also => alone.2 another (ended another also)⟩

/-- A put leaves a stopped record stopped, ends the task, or leaves it live. -/
inductive Moves (index : Index) (before after : TaskRecord)
    (older : List (Entry Index)) : Prop where
  | past
    (was : before.lastStatus = .stopped)
    (still : after.lastStatus = .stopped)
    (own : SawLive (own index older) → Ended older index)
  | ends
    (was : before.lastStatus ≠ .stopped)
    (now : after.lastStatus = .stopped)
    (saw : SawLive (own index older))
  | live
    (was : before.lastStatus ≠ .stopped)
    (still : after.lastStatus ≠ .stopped)
    (free : holds older index = false)

variable {after : TaskRecord}

theorem moves_of_puts (record : content base older () = some before)
    (allowed : Allowed jobs ⟨index, .wrote () (some after), replaced⟩ (content base older) older)
    (puts : Puts (jobs index) (own index older) before after) : Moves index before after older := by
  by_cases was : before.lastStatus = .stopped
  · cases puts with
    | stop first saw lastStatus desiredStatus =>
      refine .past was lastStatus ?_
      rintro ⟨status, live, read⟩
      exact absurd (((saw status).1 read).trans was) live
    | again earlier lastStatus desiredStatus =>
      exact .past was (lastStatus.trans was) fun saw => ⟨saw, before, was, earlier⟩
    | live unclean lastStatus cause =>
      rcases cause was with ⟨msg, isReport, live⟩
      have late := allowed.late rfl (by simp [isReport, Job.reportsLive, live])
      simp [record, isStopped, was] at late
  · cases puts with
    | stop first saw lastStatus desiredStatus =>
      exact .ends was lastStatus ⟨_, was, (saw _).2 rfl⟩
    | again earlier lastStatus desiredStatus =>
      refine .live was (lastStatus ▸ was) ?_
      have hasPut : (own index older).any isPut = true := any_eq_true.2 ⟨_, earlier, rfl⟩
      simp [holds, hasPut]
    | live unclean lastStatus cause =>
      exact .live was lastStatus (by simp [holds, unclean])

theorem Tidy.put (tidy : Tidy base older) (record : content base older () = some before)
    (wrote : entry.deed = .wrote () (some after))
    (alone : ∀ other, other ≠ entry.index → holds older other = false)
    (moves : Moves entry.index before after older) : Tidy base (entry :: older) := by
  have cleans (other : Index) : Cleans (entry :: older) other ↔ Cleans older other := by
    simp [Cleans, any_own_cons, wrote, isCleanup]
  have ended (other : Index) (now : Ended (entry :: older) other) :
      Ended older other ∨ other = entry.index ∧ after.lastStatus = .stopped ∧
        SawLive (own entry.index older) := by
    rcases ended_cons now with
      ended | ⟨rfl, ⟨task, put, stopped, saw⟩ | ⟨⟨status, wrong⟩, -⟩⟩
    · exact .inl ended
    · cases wrote.symm.trans put
      exact .inr ⟨rfl, stopped, saw⟩
    · cases wrote.symm.trans wrong
  have unended (was : before.lastStatus ≠ .stopped) (other : Index) : ¬ Ended older other := by
    intro now
    have stopped := (tidy.ended other now).1
    simp [record, isStopped, was] at stopped
  have unheld (other : Index) : holds (entry :: older) other = false := by
    by_cases mine : other = entry.index
    · simp [holds, mine, wrote, isPut]
    · simpa [holds, any_own_cons, Ne.symm mine] using alone other mine
  constructor
  · intro other cleaned
    right
    rcases tidy.cleans other ((cleans other).1 cleaned) with held | now
    · obtain rfl : other = entry.index := by
        by_contra different
        simp [alone other different] at held
      cases moves with
      | past was still own =>
        have live := (tidy.held _ held).1
        simp [record, isStopped, was] at live
      | ends was now saw =>
        rcases saw with ⟨status, live, saw⟩
        exact ⟨⟨status, live, mem_own_cons.2 (.inr saw)⟩,
          after, now, mem_own_cons.2 (.inl ⟨rfl, wrote.symm⟩)⟩
      | live was still free =>
        simp [free] at held
    · exact now.cons _
  · intro other held
    simp [unheld] at held
  · intro other now
    have stored : content base (entry :: older) () = some after := by
      simp [content, wrote]
    rw [stored]
    cases moves with
    | past was still own =>
      have settled (another : Index) (now : Ended (entry :: older) another) :
          Ended older another := by
        rcases ended another now with earlier | ⟨rfl, -, saw⟩
        · exact earlier
        · exact own saw
      exact ⟨by simp [isStopped, still], fun another also =>
        (tidy.ended other (settled other now)).2 another (settled another also)⟩
    | ends was isOver saw =>
      have mine (another : Index) (now : Ended (entry :: older) another) :
          another = entry.index :=
        ((ended another now).resolve_left (unended was another)).1
      exact ⟨by simp [isStopped, isOver], fun another also =>
        (mine another also).trans (mine other now).symm⟩
    | live was still free =>
      rcases ended other now with earlier | ⟨-, stopped, -⟩
      · exact absurd earlier (unended was other)
      · exact absurd stopped still

/-- The log is sound by the law of the jobs and what is allowed. -/
abbrev SoundLog (jobs : Index → Job) (base : Unit → Option TaskRecord)
    (log : List (Entry Index)) : Prop :=
  Records.Sound (fun index => JobLaw (jobs index)) (Allowed jobs) base log

/-- A put replaces the record its thread has seen. -/
theorem exists_puts (lawful :
      Lawful (fun index => JobLaw (jobs index)) (Allowed jobs) base
        ⟨index, .wrote key value, replaced⟩ older) :
    ∃ before after, value = some after ∧ replaced = some before ∧
      content base older () = some before ∧ Puts (jobs index) (own index older) before after := by
  obtain ⟨view, ⟨before, after, seen, rfl, puts⟩, known⟩ := lawful.law
  have record : replaced = _ := lawful.replaced () _ rfl
  have same : replaced = some before := by
    rcases known () _ rfl with blank | known
    · simp [seen] at blank
    · rw [seen] at known
      exact (Option.some.inj known).symm
  exact ⟨before, after, rfl, same, record.symm.trans same, puts⟩

/-- Every sound log is tidy. -/
theorem tidy_of_sound (sound : SoundLog jobs base older) : Tidy base older := by
  induction older with
  | nil => exact tidy_nil
  | cons entry older induction =>
    obtain ⟨lawful, sound⟩ := sound
    have tidy := induction sound
    obtain ⟨view, law, -⟩ := lawful.law
    rcases entry with ⟨index, deed, replaced⟩
    cases deed with
    | returned result =>
      exact tidy.quiet rfl rfl rfl nofun
    | noted note =>
      cases note with
      | saw status => exact tidy.quiet rfl rfl rfl fun _ _ => law
      | ran step => exact tidy.clean rfl (lawful.allowed (by simp)) law.1 law.2
    | wrote key value =>
      obtain ⟨before, after, rfl, rfl, record, puts⟩ := exists_puts lawful
      have allowed := lawful.allowed (by simp)
      exact tidy.put record rfl (allowed.alone rfl) (moves_of_puts record allowed puts)

/-- A stopped record is put with the desire that it is stopped. -/
theorem desired_of_sound (sound : SoundLog jobs base older) (member : entry ∈ older)
    (put : entry.deed = .wrote () (some task))
    (stopped : task.lastStatus = .stopped) : task.desiredStatus = .stopped := by
  induction older generalizing entry task with
  | nil => cases member
  | cons first older induction =>
    obtain ⟨lawful, sound⟩ := sound
    rcases mem_cons.1 member with rfl | earlier
    · rcases entry with ⟨index, deed, replaced⟩
      cases put
      obtain ⟨before, after, same, rfl, record, puts⟩ := exists_puts lawful
      cases same
      cases puts with
      | stop first saw lastStatus desiredStatus => exact desiredStatus
      | again earlier lastStatus desiredStatus =>
        obtain ⟨other, within, same⟩ := mem_filterMap.1 earlier
        split at same
        · rw [desiredStatus]
          exact induction sound within (Option.some.inj same) (lastStatus.symm.trans stopped)
        · cases same
      | live unclean lastStatus cause => exact absurd stopped lastStatus
    · exact induction sound earlier put stopped

/-- Over a stopped record only stopped records are put. -/
theorem stopped_stays (sound : SoundLog jobs base (newer ++ older))
    (stopped : isStopped (content base older ()) = true) :
    isStopped (content base (newer ++ older) ()) = true ∧
      ∀ entry ∈ newer, ∀ value, entry.deed = .wrote () value → ∃ task,
        value = some task ∧ task.lastStatus = .stopped ∧ task.desiredStatus = .stopped := by
  induction newer with
  | nil => exact ⟨stopped, by simp⟩
  | cons entry newer induction =>
    have ⟨still, puts⟩ := induction sound.2
    rcases entry with ⟨index, deed, replaced⟩
    cases deed with
    | noted note | returned result => exact ⟨still, by simpa using puts⟩
    | wrote key value =>
      obtain ⟨before, after, rfl, rfl, record, lawful⟩ := exists_puts sound.1
      have last : after.lastStatus = .stopped := by
        have was : before.lastStatus = .stopped := by
          rw [append_eq] at record
          simpa [record, isStopped] using still
        cases moves_of_puts record (sound.1.allowed (by simp)) lawful with
        | past _ still own => exact still
        | ends wasLive now saw => exact now
        | live wasLive still free => exact absurd was wasLive
      refine ⟨?_, ?_⟩
      · simp [content, isStopped, last]
      · intro entry member value put
        rcases mem_cons.1 member with rfl | earlier
        · cases put
          exact ⟨after, rfl, last, desired_of_sound sound (mem_cons_self ..) rfl last⟩
        · exact puts entry earlier value put

/--
Once the record is stopped only stopped records are stored, one thread alone
moves the task there, nobody else cleans up, and that thread has run every step
of the cleanup once when it returns.
-/
structure EndsOnce (base : Unit → Option TaskRecord) (log : List (Entry Index)) : Prop where
  stays : ∀ newer older, log = newer ++ older → isStopped (content base older ()) = true →
    ∀ entry ∈ newer, ∀ value, entry.deed = .wrote () value →
      ∃ task, value = some task ∧ task.lastStatus = .stopped ∧ task.desiredStatus = .stopped
  once : ∀ first second, Turned log first → Turned log second → first = second
  cleaner : ∀ first second,
    Cleans log first → Cleans log second ∨ Turned log second → first = second
  complete : ∀ newer index older, log = newer ++ ⟨index, .returned (), none⟩ :: older →
    Turned older index → ∀ step, (own index older).count (.noted (.ran step)) = 1

theorem Turned.deeds (sound : SoundLog jobs base older)
    (turned : Turned older index) : Ended older index := by
  rcases turned with ⟨task, replaced, member, stopped, was⟩
  obtain ⟨newer, earlier, rfl⟩ := append_of_mem member
  have last : task.lastStatus = .stopped := by
    simpa [isStopped] using stopped
  obtain ⟨before, after, same, rfl, -, puts⟩ := exists_puts sound.of_append.1
  cases same
  have live : before.lastStatus ≠ .stopped := by
    simpa [isStopped] using was
  have own (deed : Deed) (within : deed = .wrote () (some task) ∨ deed ∈ own index earlier) :
      deed ∈ own index (newer ++ ⟨index, .wrote () (some task), some before⟩ :: earlier) := by
    unfold own at within ⊢
    rw [filterMap_append]
    apply mem_append_right
    simpa using within
  refine ⟨⟨before.lastStatus, live, own _ ?_⟩, task, last, own _ ?_⟩
  · cases puts with
    | stop first saw lastStatus desiredStatus => exact .inr ((saw _).2 rfl)
    | again put lastStatus desiredStatus =>
      exact absurd (lastStatus.symm.trans last) live
    | live unclean lastStatus cause => exact absurd last lastStatus
  · exact .inl rfl

/-- A sound log ends a task at most once. -/
theorem endsOnce_of_sound (sound : SoundLog jobs base log) : EndsOnce base log := by
  have tidy := tidy_of_sound sound
  have ended {index : Index} (turned : Turned log index) :
      Ended log index :=
    turned.deeds sound
  have alike {first second : Index} (cleans : Cleans log first) (ended : Ended log second) :
      first = second := by
    rcases tidy.cleans first cleans with held | also
    · have live := (tidy.held first held).1
      simp [(tidy.ended second ended).1] at live
    · exact (tidy.ended second ended).2 first also
  constructor
  · rintro newer older rfl stopped
    exact (stopped_stays sound stopped).2
  · intro first second left right
    exact (tidy.ended second (ended right)).2 first (ended left)
  · intro first second cleans also
    rcases also with also | turned
    · rcases tidy.cleans second also with held | now
      · exact (tidy.held second held).2 first cleans
      · exact alike cleans now
    · exact alike cleans (ended turned)
  · rintro newer index older rfl turned
    obtain ⟨view, finishes, -⟩ := sound.of_append.1.law
    have deeds := turned.deeds sound.of_append.2
    exact finishes deeds.1 deeds.2

/--
In every interleaving of operations that put what they have seen, are told what
is stored and do only what is allowed, a stopped task stays stopped and is
cleaned up once.
-/
theorem stopped_task_stays_stopped (jobs : Index → Job) (shelf : Shelf Unit TaskRecord)
    (pool : Pool Index Call Call.Reply (Shared Index) Unit)
    (reached : ((tasks Index).restrict (Fair jobs)).Reachable (start jobs shelf) pool) :
    pool.shared.shelf.value () = content shelf.value pool.shared.log () ∧
      EndsOnce shelf.value pool.shared.log := by
  have same : (tasks Index).restrict (Fair jobs) =
      (Records.system trusting).restrict (Fair jobs) :=
    restrict_storing fun _ _ _ _ fair => congrArg (Option.map _) fair.told
  rw [same] at reached
  have orderly :
      Orderly (fun index => JobLaw (jobs index)) (Allowed jobs) shelf.value pool.shared :=
    reachable (admits_fair jobs) (fun index => obeys_program (jobs index)) reached
  exact ⟨orderly.records (), endsOnce_of_sound orderly.sound⟩

end

/-! ## Runs on fixed tasks -/

/-- Calls that all succeed. -/
def healthy (Index : Type) : Server access Index Unit where
  answer
    | _, .getTask, shelf, _ => some (.ok (shelf.value ()))
    | _, .putTask _, _, _ => some .acknowledged
    | _, .clock, _, _ => some (10 : Nat)
    | _, .aside _ _, _, _ => some ()
    | _, .allocatePublicIP _, _, _ => some none
    | _, .cleanup _ _, _, _ => some (.ok ())
  shown := by
    intro index call shelf choice reply answered key value shown
    cases call with
    | getTask =>
      cases answered
      cases shown
      rfl
    | putTask | clock | aside | allocatePublicIP | cleanup => cases shown
  told := nofun
  expected := by
    intro index call shelf choice reply answered key value revision _ wrong
    cases wrong

/-- A running task in its bucket. -/
def stocked : Shelf Unit TaskRecord :=
  Shelf.empty.put () (some
    { taskID := "t-1"
      containerInstanceID := "i-1"
      desiredStatus := .running
      lastStatus := .running
      startedAt := 1 })

def reports (second : TaskStatus) : Bool → Job
  | true => .report { lastStatus := .stopped }
  | false => .report { lastStatus := second }

def moves (schedule : List Bool) : List (System.Move Bool Unit) :=
  schedule.map fun index => .thread index ()

/-- The statuses of the stored record. -/
def statuses (stored : Option TaskRecord) : Option (TaskStatus × TaskStatus) :=
  stored.map fun task => (task.lastStatus, task.desiredStatus)

/-- A report that arrives late brings a stopped task back. -/
theorem late_report_revives :
    ∃ pool, (tasks Bool).Reachable (start (reports .running) stocked) pool ∧
      statuses (pool.shared.shelf.value ()) = some (.running, .stopped) ∧
      ¬ EndsOnce stocked.value pool.shared.log := by
  have played : ((healthy Bool).resolver.play (start (reports .running) stocked)
        (moves (replicate 11 true ++ replicate 5 false))).map
      (fun pool => (statuses (pool.shared.shelf.value ()),
        isStopped (content stocked.value (pool.shared.log.drop 3) ()),
        (pool.shared.log.take 3).map fun entry => entry.deed)) =
      some (some (.running, .stopped), true, [.returned (), .wrote () (some
          { taskID := "t-1"
            containerInstanceID := "i-1"
            desiredStatus := .stopped
            lastStatus := .running
            startedAt := 1
            stoppedAt := 10 }),
        .noted (.saw .stopped)]) := by
    decide +kernel
  obtain ⟨pool, reached, seen⟩ := (healthy Bool).resolver.exists_of_play played
  obtain ⟨revived, seen⟩ := Prod.mk.inj seen
  obtain ⟨stopped, newest⟩ := Prod.mk.inj seen
  refine ⟨pool, reached, revived, ?_⟩
  intro ends
  have written : Records.Deed.wrote () (some
        { taskID := "t-1"
          containerInstanceID := "i-1"
          desiredStatus := .stopped
          lastStatus := .running
          startedAt := 1
          stoppedAt := 10 }) ∈
      (pool.shared.log.take 3).map fun entry => entry.deed := by
    simp [newest]
  obtain ⟨entry, member, put⟩ := mem_map.1 written
  obtain ⟨task, same, last, -⟩ :=
    ends.stays _ _ (take_append_drop 3 _).symm stopped entry member _ put
  cases same
  cases last

instance decidableAllowed (jobs : Bool → Job) (entry : Entry Bool)
    (record : Unit → Option TaskRecord) (older : List (Entry Bool)) :
    Decidable (Allowed jobs entry record older) :=
  decidable_of_iff _ (allowed_iff jobs entry record older).symm

instance decidableFair (jobs : Bool → Job) (index : Bool) (call : Call)
    (before : Shared Bool) (reply : call.Reply) : Decidable (Fair jobs index call before reply) :=
  decidable_of_iff (Undisturbed access index call before reply ∧
      acknowledgedBy call reply = storedBy call reply ∧
      (entryOf index call before reply).all
        (fun entry => Allowed jobs entry before.shelf.value before.log) = true)
    (by simp only [fair_iff, Option.all_eq_true, decide_eq_true_eq])

/-- A report of the stop that comes twice ends the task once. -/
theorem stopped_task_stays_stopped_repeated :
    ∃ pool, ((tasks Bool).restrict (Fair (reports .stopped))).Reachable
        (start (reports .stopped) stocked) pool ∧
      statuses (pool.shared.shelf.value ()) = some (.stopped, .stopped) ∧
      pool.shared.shelf.value () = content stocked.value pool.shared.log () ∧
      EndsOnce stocked.value pool.shared.log := by
  have played : (((healthy Bool).resolver.restrict (Fair (reports .stopped))).play
        (start (reports .stopped) stocked)
        (moves (replicate 11 true ++ replicate 4 false))).map
      (fun pool => statuses (pool.shared.shelf.value ())) =
      some (some (.stopped, .stopped)) := by
    decide +kernel
  obtain ⟨pool, reached, stopped⟩ := ((healthy Bool).resolver.restrict
      (Fair (reports .stopped))).exists_of_play played
  exact ⟨pool, reached, stopped, stopped_task_stays_stopped (reports .stopped) stocked pool reached⟩

end TaskStates

end Spinifex.Ecs
