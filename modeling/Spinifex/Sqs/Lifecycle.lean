import Spinifex.Sqs.Claim

/-!
# Deletes, visibility changes and sweeps

A delete and a visibility change act through a receipt handle: they resolve the
queue, open the handle for it and rewrite the record of the message it names,
as long as that record still has the handle's generation.  A sweep walks a
message shard and removes what a delete has left: the body first, then the
record.
-/

namespace Spinifex.Sqs

open Concurrency Go

/-! ## Resolving a handle -/

/-- `ReceiptKeys.Check`, as every owner core begins. -/
def requireKeys {Result : Type} (continuation : Core (Except Failure Result)) :
    Core (Except Failure Result) := do
  match ← Core.checkKeys with
  | .error failure => return .error (Sentinel.unavailable.failure.wrap failure)
  | .ok () => continuation

/-- Resolve the queue and open the handle for it. -/
def openHandle (account region queue handle : String) :
    Core (Except Failure (Namespace × Receipt)) := do
  match ← Core.receiveTarget account region queue with
  | .error failure => return .error failure
  | .ok target =>
    if target.account ≠ account then
      return .error (Sentinel.unavailable.because "resolved queue belongs to another account")
    else
      match target.ns.validate with
      | .error failure =>
        return .error (Sentinel.unavailable.failure.wrap failure)
      | .ok () =>
        match ← Core.decodeReceipt handle target.ns.queue with
        | .error failure => return .error failure
        | .ok receipt => return .ok (target.ns, receipt)

/-! ## Delete -/

structure DeleteInput where
  account : String
  region : String
  queue : String
  receiptHandle : String
deriving DecidableEq, Repr

/-- The bound on retries after a definite revision conflict. -/
def deleteAttempts : Nat := 5

/-- What a delete finds: an outcome that needs no write, or a live record. -/
inductive Found where
  | done (outcome : Except Failure Unit)
  | live (current : State) (record : StateRecord)

/-- The outcome of reading a record under a handle's generation. -/
def Found.ofRecord (receipt : Receipt) (current : State) (record : StateRecord) : Found :=
  if record.s.isTerminal then
    .done (.ok ())
  else if record.g > receipt.generation then
    .done (.ok ())
  else if record.g < receipt.generation then
    .done (.error (Sentinel.unavailable.because "state is older than the handle"))
  else if record.s = .moving then
    .done (.error (Sentinel.unavailable.because "message is being moved"))
  else
    .live current record

variable {receipt : Receipt}

/-- Which records a handle may tombstone. -/
theorem Found.ofRecord_eq_live {read record : StateRecord}
    (found : Found.ofRecord receipt state read = .live current record) :
    current = state ∧ record = read ∧ record.s = .inflight ∧ record.g = receipt.generation := by
  unfold Found.ofRecord at found
  split_ifs at found with terminal newer older moving
  cases found
  refine ⟨rfl, rfl, ?_, by omega⟩
  exact Status.inflight_of_not_terminal (by simpa using terminal) moving

/-- Which records let a delete succeed without a write. -/
theorem Found.ofRecord_eq_done_ok (found : Found.ofRecord receipt state record = .done (.ok ())) :
    record.s.isTerminal = true ∨ receipt.generation < record.g := by
  unfold Found.ofRecord at found
  split_ifs at found with terminal newer older moving
  · exact .inl terminal
  · exact .inr newer
  · cases found
  · cases found

/-- `Deleter.current`: read the state a handle names. -/
def currentState (ns : Namespace) (receipt : Receipt) : Core Found := do
  match ← Core.getState (receipt.key ns) with
  | .error failure =>
    if failure.is .notFound then
      return .done (.ok ())
    else
      return .done (.error ((Sentinel.unavailable.because "read state").wrap failure))
  | .ok current =>
    match decodeState current.value with
    | .error failure => return .done (.error failure)
    | .ok record => return .ofRecord receipt current record

/-- `Deleter.settle`: decide a tombstone write whose reply was lost. -/
def settleDelete (ns : Namespace) (receipt : Receipt) (cause : Failure) :
    Core (Except Failure Unit) := do
  match ← currentState ns receipt with
  | .done (.ok ()) => return .ok ()
  | _ =>
    return .error ((Sentinel.unavailable.because "delete outcome unknown").wrap cause)

def deleteLoop (ns : Namespace) (receipt : Receipt) :
    Nat → Core (Except Failure Unit)
  | 0 => return .error (Sentinel.unavailable.because "delete kept conflicting")
  | attempts + 1 => do
      match ← currentState ns receipt with
      | .done outcome => return outcome
      | .live current record =>
        match ←
          Core.putState (receipt.key ns) { record with s := .deleted }.encode current.revision with
        | .ok _ => return .ok ()
        | .error failure =>
          if failure.is .revisionMismatch then
            deleteLoop ns receipt attempts
          else
            settleDelete ns receipt failure

/-- `Deleter.Delete`: tombstone the message a current handle names. -/
def deleteMessage (input : DeleteInput) : Core (Except Failure Unit) :=
  requireKeys do
    match ← openHandle input.account input.region input.queue input.receiptHandle with
    | .error failure => return .error failure
    | .ok (ns, receipt) => deleteLoop ns receipt deleteAttempts

/-! ## Change of visibility -/

/-- One visibility request; the timeout is whole seconds from now. -/
structure ChangeVisibilityInput where
  account : String
  region : String
  queue : String
  receiptHandle : String
  visibilityTimeout : Int
deriving DecidableEq, Repr

/-- The bound on retries after a definite revision conflict. -/
def visibilityAttempts : Nat := 5

/-- The ceiling of a visibility timeout, in seconds. -/
def maxVisibilitySeconds : Int := 43200

/-- The record a handle may still move, or why it may not. -/
def movable (receipt : Receipt) :
    Except Failure State → Except Failure (State × StateRecord)
  | .error failure =>
    if failure.is .notFound then
      .error Sentinel.notInflight.failure
    else
      .error ((Sentinel.unavailable.because "read state").wrap failure)
  | .ok current =>
    match decodeState current.value with
    | .error failure => .error failure
    | .ok record =>
      if record.s.isTerminal then
        .error Sentinel.notInflight.failure
      else if record.s = .moving then
        .error (Sentinel.unavailable.because "message is being moved")
      else if record.g > receipt.generation then
        .error Sentinel.notInflight.failure
      else if record.g < receipt.generation then
        .error (Sentinel.unavailable.because "state is older than the handle")
      else
        .ok (current, record)

/-- The fields with the deadline moved to now plus the timeout. -/
def Lifecycle.move (record : Lifecycle) (now timeout : Int) : Except Failure Lifecycle :=
  let d := int64 (now + timeout * 1000)
  if record.d ≤ now then
    .error Sentinel.notInflight.failure
  else if d > int64 (record.r + milliseconds maxVisibilityTimeout) then
    .error Sentinel.visibilityCap.failure
  else
    .ok { record with d := d }

/-- Which records a handle may move. -/
theorem movable_eq_ok (found : movable receipt reply = .ok (current, record)) :
    reply = .ok current ∧ decodeState current.value = .ok record ∧
      record.s = .inflight ∧ record.g = receipt.generation := by
  cases reply with
  | error failure =>
    simp only [movable] at found
    split_ifs at found
  | ok state =>
    simp only [movable] at found
    split at found
    · cases found
    next decoded =>
      split_ifs at found with terminal moving newer older
      cases found
      refine ⟨rfl, decoded, ?_, by omega⟩
      exact Status.inflight_of_not_terminal (by simpa using terminal) moving

theorem Lifecycle.move_eq_ok {record moved : Lifecycle}
    (moves : record.move now timeout = .ok moved) :
    now < record.d ∧ int64 (now + timeout * 1000) ≤
        int64 (record.r + milliseconds maxVisibilityTimeout) ∧
      moved = { record with d := int64 (now + timeout * 1000) } := by
  simp only [Lifecycle.move] at moves
  split_ifs at moves with passed capped
  cases moves
  exact ⟨Int.not_le.1 passed, Int.not_lt.1 capped, rfl⟩

/-- The retry loop of a visibility change. -/
def visibilityLoop (ns : Namespace) (receipt : Receipt) (timeout : Int) :
    Nat → Core (Except Failure Unit)
  | 0 =>
    return .error (Sentinel.unavailable.because "visibility change kept conflicting")
  | attempts + 1 => do
      let reply ← Core.getState (receipt.key ns)
      match movable receipt reply with
      | .error failure => return .error failure
      | .ok (current, record) =>
        let now ← Core.now
        match record.toLifecycle.move now timeout with
        | .error failure => return .error failure
        | .ok moved =>
          match ←
            Core.putState (receipt.key ns) { record with toLifecycle := moved }.encode
              current.revision with
          | .ok _ => return .ok ()
          | .error failure =>
            if failure.is .revisionMismatch then
              visibilityLoop ns receipt timeout attempts
            else
              return .error ((Sentinel.unavailable.because
                "visibility change outcome unknown").wrap failure)

/-- `VisibilityChanger.ChangeVisibility`. -/
def changeVisibility (input : ChangeVisibilityInput) : Core (Except Failure Unit) :=
  requireKeys do
    if input.visibilityTimeout < 0 ∨ input.visibilityTimeout > maxVisibilitySeconds then
      return .error (Sentinel.invalidParameter.because
        ("VisibilityTimeout must be between 0 and " ++ toString maxVisibilitySeconds))
    else
      match ← openHandle input.account input.region input.queue input.receiptHandle with
      | .error failure => return .error failure
      | .ok (ns, receipt) =>
        visibilityLoop ns receipt input.visibilityTimeout visibilityAttempts

/-! ## Sweep -/

/-- What one sweep pass counts. -/
structure SweepResult where
  scanned : Nat
  swept : Nat
deriving DecidableEq, Repr

/-- The records a sweep removes: decodable ones in a terminal state. -/
def terminalState (state : State) : Bool :=
  match decodeState state.value with
  | .ok record => record.s.isTerminal
  | .error _ => false

/-- The message a scanned change names. -/
def Change.key (change : Change) : Key :=
  ⟨change.ns, change.position⟩

/-- The text of a sweep error about one message. -/
def Change.sweepFailure (change : Change) (step : String) (cause : Failure) : Failure :=
  Failure.wrap ⟨[], "sweep " ++ change.ns.queue ++ "/" ++ toString change.position ++ ": " ++ step⟩
    cause

/-- `sweepOne`: remove one tombstoned body, then its record. -/
def sweepOne (change : Change) : Core (Except Failure Bool) := do
  match ← Core.getState change.key with
  | .error failure =>
    if failure.is .notFound then
      return .ok false
    else
      return .error (change.sweepFailure "read state" failure)
  | .ok state =>
    if !terminalState state then
      return .ok false
    else
      match ← Core.delete change.key with
      | .error failure =>
        return .error (change.sweepFailure "delete body" failure)
      | .ok () =>
        match ← Core.deleteState change.key state.revision with
        | .ok () => return .ok true
        | .error failure =>
          if failure.is .notFound then
            return .ok true
          else
            return .error (change.sweepFailure "delete state" failure)

def sweepPage : List Change → SweepResult → Core (SweepResult × Option Failure)
  | [], counted => return (counted, none)
  | change :: rest, counted => do
      let counted := { counted with scanned := counted.scanned + 1 }
      match ← sweepOne change with
      | .error failure => return (counted, some failure)
      | .ok true => sweepPage rest { counted with swept := counted.swept + 1 }
      | .ok false => sweepPage rest counted

/--
`Sweep`: page after page until the pass is done.  The loop has no bound of its
own; `pages` says how many pages of it are followed, and a pass that is not
over by then has no result yet.
-/
def sweep (shard : Shard) (pageSize : Int) :
    Nat → ScanCursor → SweepResult → Core (Option (SweepResult × Option Failure))
  | 0, _, _ => return none
  | pages + 1, start, counted => do
      match ← Core.scan shard start pageSize with
      | .error failure =>
        return some (counted, some (Failure.wrap ⟨[], "sweep shard " ++ toString shard⟩ failure))
      | .ok page =>
        match ← sweepPage page.changes counted with
        | (counted, some failure) => return some (counted, some failure)
        | (counted, none) =>
          if page.done then
            return some (counted, none)
          else
            sweep shard pageSize pages page.next counted

end Spinifex.Sqs
