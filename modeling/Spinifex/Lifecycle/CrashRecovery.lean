import Mathlib.Data.List.Basic
import Spinifex.Go.Basic

/-!
# Automatic restarts of a crashed instance

A crash spends one restart of a budget, which is renewed when the first crash
it counts is older than the window.  The count then starts anew, so restarts at
the end of one budget and at the start of the next one share a window.  If a
budget is renewed only after a window without restarts, no window has too many.
-/

namespace Spinifex.CrashRecovery

open Go List

/-- `MaxRestartsInWindow`. -/
def maxRestartsInWindow : Nat := 3

/-- `RestartWindow`. -/
def restartWindow : Duration := 600 * second

/-- `restartBackoffMax`. -/
def restartBackoffMax : Duration := 120 * second

/-- The loop of `RestartBackoff`. -/
def backoffFrom (delay : Duration) : Nat → Duration
  | 0 => delay
  | count + 1 =>
    if restartBackoffMax < delay * 2 then restartBackoffMax else backoffFrom (delay * 2) count

/-- `RestartBackoff`, from `restartBackoffBase`. -/
def restartBackoff : Nat → Duration :=
  backoffFrom (5 * second)

/-- The crash fields of `InstanceHealthState`; a zero time is none. -/
structure Health where
  crashCount : Nat := 0
  restartCount : Nat := 0
  firstCrashTime : Option Int := none

/-- `recordCrash`. -/
def recordCrash (health : Health) (now : Int) : Health :=
  { health with
    crashCount := health.crashCount + 1
    firstCrashTime := some (health.firstCrashTime.getD now) }

/-- `rollRestartWindow`, and if there is budget left. -/
def rollRestartWindow (health : Health) (now : Int) : Health × Bool :=
  let rolled := if health.firstCrashTime.any fun first => restartWindow < now - first then
      ⟨1, 0, some now⟩
    else
      health
  (rolled, rolled.crashCount ≤ maxRestartsInWindow)

/-- The states of an instance that matter to its restarts. -/
inductive InstanceState where
  | pending
  | running
  | error
  | other
deriving DecidableEq

/-- An instance, its restart timers, and when its crashes and restarts were. -/
structure VM where
  clock : Int
  status : InstanceState := .running
  health : Health := {}
  timers : List Int := []
  crashes : List Int := []
  starts : List Int := []

/--
A crash: `moved` says if the change to the error state succeeds; from `later` on
it is what `MaybeRestart` finds.
-/
structure Crash where
  now : Int
  shutdown : Bool := false
  moved : Bool := true
  later : Int
  shutdownLater : Bool := false
  known : Bool := true
  canAllocate : Int := 1

/-- `MaybeRestart`. -/
def maybeRestart (vm : VM) (crash : Crash) : VM :=
  if crash.shutdownLater then
    vm
  else
    let (health, budget) := rollRestartWindow vm.health crash.later
    let vm := { vm with health := health }
    if !budget || !crash.known || crash.canAllocate < 1 then
      vm
    else
      { vm with timers := (crash.later + restartBackoff health.restartCount) :: vm.timers }

/-- `HandleCrash`. -/
def handleCrash (vm : VM) (crash : Crash) : VM :=
  if vm.status ≠ .running ∨ crash.shutdown then
    vm
  else
    maybeRestart
      { vm with
        status := if crash.moved then .error else vm.status
        health := recordCrash vm.health crash.now
        crashes := crash.later :: vm.crashes }
      crash

/-- `RestartCrashedInstance`, with the state that the relaunch or its failure leaves. -/
def restartCrashedInstance (vm : VM) (shutdown : Bool) (now : Int) (left : InstanceState) : VM :=
  if vm.status ≠ .error ∨ shutdown then
    vm
  else
    { vm with
      status := left
      health := { vm.health with restartCount := vm.health.restartCount + 1 }
      starts := now :: vm.starts }

/-- A crash, a timer that fires, or a change of state for another reason. -/
inductive Event where
  | crash (found : Crash)
  | fire (due : Int) (shutdown : Bool) (now : Int) (left : InstanceState)
  | moves (status : InstanceState)

/-- One event; none if it is not its time. -/
def step (vm : VM) : Event → Option VM
  | .crash found =>
    if vm.clock ≤ found.now ∧ found.now ≤ found.later then
      some (handleCrash { vm with clock := found.later } found)
    else
      none
  | .fire due shutdown now left =>
    if due ∈ vm.timers ∧ due ≤ now ∧ vm.clock ≤ now then
      some (restartCrashedInstance { vm with clock := now, timers := vm.timers.erase due }
        shutdown now left)
    else
      none
  | .moves status => some { vm with status := status }

/-- A budget is renewed only if no restart is due and the last one is a window ago. -/
def Event.Apart (vm : VM) : Event → Prop
  | .crash found =>
    restartWindow < found.later - vm.health.firstCrashTime.getD found.now →
      vm.timers = [] ∧ ∀ start ∈ vm.starts, start + restartWindow < found.later
  | _ => True

/-- Every event of a history is apart. -/
def Apart : VM → List Event → Prop
  | _, [] => True
  | vm, event :: rest => event.Apart vm ∧ ∀ after ∈ step vm event, Apart after rest

/-- The times in an interval as long as the window. -/
def inWindow (times : List Int) (start : Int) : Nat :=
  times.countP fun time => start ≤ time ∧ time ≤ start + restartWindow

/-- Every interval as long as the window has at most so many restarts. -/
def Bounded (starts : List Int) : Prop :=
  ∀ start, inWindow starts start ≤ maxRestartsInWindow

/-- A crash within the bound, without a shutdown, of an instance that can be restarted. -/
structure Crash.Restartable (vm : VM) (crash : Crash) : Prop where
  forward : vm.clock ≤ crash.now
  passed : crash.now ≤ crash.later
  running : vm.status = .running
  shutdown : crash.shutdown = false
  shutdownLater : crash.shutdownLater = false
  known : crash.known = true
  canAllocate : 1 ≤ crash.canAllocate
  within : ((crash.later :: vm.crashes).countP fun time => crash.later - restartWindow ≤ time) ≤
    maxRestartsInWindow

/--
The restarts of the current budget and those before it; the budget was renewed
more than a window after the last of those.
-/
structure Budget (vm : VM) (recent old : List Int) (renewed : Int) : Prop where
  starts : vm.starts = recent ++ old
  spent : recent.length + vm.timers.length ≤ min vm.health.crashCount maxRestartsInWindow
  renewed_le : renewed ≤ vm.clock
  le_recent : ∀ start ∈ recent, renewed ≤ start
  old_lt : ∀ start ∈ old, start + restartWindow < renewed
  bounded : Bounded old
  first_le : ∀ first ∈ vm.health.firstCrashTime, first ≤ vm.clock
  counted : ∀ start, (∀ first ∈ vm.health.firstCrashTime, start ≤ first) →
    vm.health.crashCount ≤ vm.crashes.countP fun crash => start ≤ crash

/-- The restarts fit into budgets that are apart. -/
def Sound (vm : VM) : Prop :=
  ∃ recent old renewed, Budget vm recent old renewed

variable {vm after : VM} {recent old : List Int} {renewed : Int} {crash : Crash}

theorem Budget.bounded_starts (budget : Budget vm recent old renewed) : Bounded vm.starts := by
  intro start
  have both : inWindow vm.starts start = inWindow recent start + inWindow old start := by
    rw [budget.starts]
    exact countP_append
  have few : inWindow recent start ≤ recent.length := countP_le_length
  have spent := budget.spent
  have bounded := budget.bounded start
  by_cases meets : ∃ time ∈ recent, time ≤ start + restartWindow
  · rcases meets with ⟨time, member, inside⟩
    have none : inWindow old start = 0 := by
      refine countP_eq_zero.2 fun other earlier => ?_
      have apart := budget.old_lt other earlier
      have after := budget.le_recent time member
      simp only [decide_eq_true_eq]
      omega
    omega
  · have none : inWindow recent start = 0 := by
      refine countP_eq_zero.2 fun time member => ?_
      simp only [decide_eq_true_eq]
      exact fun inside => meets ⟨time, member, inside.2⟩
    omega

theorem Budget.tick (budget : Budget vm recent old renewed) (forward : vm.clock ≤ now) :
    Budget { vm with clock := now } recent old renewed :=
  { budget with
    renewed_le := Int.le_trans budget.renewed_le forward
    first_le := fun first known => Int.le_trans (budget.first_le first known) forward }

/-- A crash is counted before its budget is looked at. -/
theorem Budget.recorded (budget : Budget vm recent old renewed) (status : InstanceState)
    (passed : now ≤ vm.clock) :
    Budget
      { vm with
        status := status
        health := recordCrash vm.health now
        crashes := vm.clock :: vm.crashes }
      recent old renewed := by
  have spent := budget.spent
  have first : vm.health.firstCrashTime.getD now ≤ vm.clock := by
    cases known : vm.health.firstCrashTime with
    | none => exact passed
    | some time => exact budget.first_le time known
  refine { budget with spent := ?_, first_le := ?_, counted := ?_ }
  · simp only [recordCrash]
    omega
  · rintro _ ⟨⟩
    exact first
  · intro start before
    have early : start ≤ vm.health.firstCrashTime.getD now := before _ rfl
    rw [countP_cons_of_pos (by simpa using Int.le_trans early first)]
    refine Nat.succ_le_succ (budget.counted start fun time known => ?_)
    simpa [Option.mem_def.1 known] using early

/-- Nothing of a renewed budget is spent. -/
theorem Budget.rolled (budget : Budget vm recent old renewed)
    (room : recent.length + vm.timers.length < vm.health.crashCount)
    (newest : vm.clock ∈ vm.crashes)
    (apart : ∀ first ∈ vm.health.firstCrashTime, restartWindow < vm.clock - first →
      vm.timers = [] ∧ ∀ start ∈ vm.starts, start + restartWindow < vm.clock) :
    ∃ recent old renewed,
      Budget { vm with health := (rollRestartWindow vm.health vm.clock).1 } recent old renewed ∧
        recent.length + vm.timers.length < (rollRestartWindow vm.health vm.clock).1.crashCount := by
  unfold rollRestartWindow
  dsimp only
  split
  next expired =>
    obtain ⟨first, known, late⟩ := (Option.any_eq_true ..).1 expired
    obtain ⟨idle, ago⟩ := apart first known (of_decide_eq_true late)
    refine ⟨[], vm.starts, vm.clock, ⟨rfl, by simp [idle], Int.le_refl _, nofun, ago,
      budget.bounded_starts, by simp, fun start before => ?_⟩, by simp [idle]⟩
    exact countP_pos_iff.2 ⟨_, newest, by simpa using before⟩
  · exact ⟨recent, old, renewed, budget, room⟩

theorem Budget.handleCrash (budget : Budget vm recent old renewed)
    (passed : crash.now ≤ crash.later)
    (current : crash.later = vm.clock) (apart : (Event.crash crash).Apart vm) :
    Sound (handleCrash vm crash) := by
  unfold CrashRecovery.handleCrash
  split
  · exact ⟨_, _, _, budget⟩
  have recorded := budget.recorded (if crash.moved then .error else vm.status) (current ▸ passed)
  have room : recent.length + vm.timers.length < vm.health.crashCount + 1 :=
    Nat.lt_succ_of_le (Nat.le_trans budget.spent (Nat.min_le_left ..))
  unfold maybeRestart
  rw [current]
  split
  · exact ⟨_, _, _, recorded⟩
  obtain ⟨recent, old, renewed, rolled, room⟩ := recorded.rolled room (by simp) (by
    rintro _ ⟨⟩ late
    exact current ▸ apart (current ▸ late))
  dsimp only
  split
  · exact ⟨recent, old, renewed, rolled⟩
  next left =>
    simp only [Bool.or_eq_true, Bool.not_eq_true', not_or, Bool.not_eq_false] at left
    exact ⟨recent, old, renewed, { rolled with
      spent := Nat.le_min.2 ⟨room, Nat.le_trans room (of_decide_eq_true left.1.1)⟩ }⟩

theorem Sound.step (sound : Sound vm) (apart : event.Apart vm)
    (stepped : step vm event = some after) : Sound after := by
  rcases sound with ⟨recent, old, renewed, budget⟩
  cases event with
  | crash found =>
    obtain ⟨⟨forward, passed⟩, rfl⟩ := Option.ite_some_none_eq_some.1 stepped
    exact (budget.tick (Int.le_trans forward passed)).handleCrash passed rfl apart
  | fire _ shutdown now left =>
    obtain ⟨⟨member, -, forward⟩, rfl⟩ := Option.ite_some_none_eq_some.1 stepped
    have ticked := budget.tick forward
    have spent := budget.spent
    have fewer := length_erase_of_mem member
    have due := length_pos_of_mem member
    unfold restartCrashedInstance
    split
    · refine ⟨recent, old, renewed, { ticked with spent := ?_ }⟩
      simp only
      omega
    · refine ⟨now :: recent, old, renewed,
        { ticked with starts := ?_, spent := ?_, le_recent := ?_ }⟩
      · exact congrArg (now :: ·) budget.starts
      · simp only [length_cons]
        omega
      · exact forall_mem_cons.2 ⟨ticked.renewed_le, budget.le_recent⟩
  | moves status =>
    cases stepped
    exact ⟨recent, old, renewed, { budget with }⟩

theorem Sound.run (sound : Sound vm) (apart : Apart vm events)
    (ran : events.foldlM CrashRecovery.step vm = some after) : Sound after := by
  induction events generalizing vm with
  | nil =>
    cases ran
    exact sound
  | cons event rest induction =>
    obtain ⟨middle, stepped, ran⟩ := Option.bind_eq_some_iff.1 ran
    exact induction (sound.step apart.1 stepped) (apart.2 middle stepped) ran

theorem Budget.schedules (budget : Budget vm recent old renewed) (able : crash.Restartable vm) :
    ∃ due, (CrashRecovery.handleCrash vm crash).timers = due :: vm.timers := by
  have recorded := (budget.tick (Int.le_trans able.forward able.passed)).recorded .error able.passed
  have room : (rollRestartWindow (recordCrash vm.health crash.now) crash.later).2 = true := by
    simp only [rollRestartWindow, decide_eq_true_eq]
    split
    · exact Nat.le_add_left 1 2
    next current =>
      refine Nat.le_trans (recorded.counted _ ?_) able.within
      rintro _ ⟨⟩
      simp only [recordCrash, Option.any_some, decide_eq_true_eq] at current ⊢
      exact Int.sub_le_of_sub_le (Int.not_lt.1 current)
  unfold CrashRecovery.handleCrash maybeRestart
  rw [if_neg (by simp [able.running, able.shutdown]), if_neg (by simp [able.shutdownLater])]
  dsimp only
  rw [if_neg (by simp [room, able.known, able.canAllocate])]
  exact ⟨_, rfl⟩

/--
In every history that renews a budget only after a window without restarts, no
window has too many restarts, and a crash within the bound is followed by one.
-/
theorem crash_restarts_bounded (start : Int) (events : List Event) (vm : VM)
    (ran : events.foldlM step { clock := start } = some vm)
    (apart : Apart { clock := start } events) :
    Bounded vm.starts ∧ ∀ crash : Crash, crash.Restartable vm →
      ∃ due, (handleCrash vm crash).timers = due :: vm.timers := by
  have fresh : Budget { clock := start } [] [] start := by
    constructor <;> simp [Bounded, inWindow]
  obtain ⟨recent, old, renewed, budget⟩ := Sound.run ⟨_, _, _, fresh⟩ apart ran
  exact ⟨budget.bounded_starts, fun crash => budget.schedules⟩

/-- A crash and its restart, at full seconds. -/
def crashed (time delay : Int) : List Event :=
  [.crash { now := time * second, later := time * second },
    .fire ((time + delay) * second) false ((time + delay) * second) .running]

/-- Two budgets spent side by side. -/
theorem crash_restarts_share_window :
    ∃ vm, (crashed 0 5 ++ crashed 580 10 ++ crashed 591 20 ++ crashed 612 5 ++ crashed 618 10 ++
        crashed 629 20).foldlM step { clock := 0 } = some vm ∧ ¬ Bounded vm.starts :=
  ⟨_, rfl, fun bounded => absurd (bounded (590 * second)) (by decide)⟩

theorem crash_restarts_bounded_twice :
    ∃ vm, (crashed 0 5 ++ crashed 700 5).foldlM step { clock := 0 } = some vm ∧
      Bounded vm.starts := by
  refine ⟨_, rfl, (crash_restarts_bounded 0 (crashed 0 5 ++ crashed 700 5) _ rfl ?_).1⟩
  simp [crashed, Apart, Event.Apart, step]
  decide

end Spinifex.CrashRecovery
