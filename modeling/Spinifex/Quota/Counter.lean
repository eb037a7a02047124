import Spinifex.Aws.Basic
import Spinifex.State.KeyValue

/-!
# The vCPU counter of an account

`Service.AddVCPU` charges a launch to its account's counter; a reconcile pass
recomputes counters from a scan of the instances.  A pass with a complete scan
overwrites a counter only if it has not moved since its revision was read
before the scan; a pass whose scan failed somewhere may only raise one.

Counters are Go integers, so additions wrap around.
-/

namespace Spinifex.Quota

open Aws (globalAccountID)
open Concurrency Go State

/-- The package's own error values. -/
inductive Sentinel where
  | overridesSealed
  | overridesContended
deriving DecidableEq, Repr

/-- An error of the package. -/
abbrev Failure := State.Failure Sentinel

/-- The configured limits that decide who is charged. -/
structure Service where
  enabled : Bool
deriving DecidableEq, Repr

/-- `Service.Exempt`. -/
def Service.exempt (service : Service) (account : String) : Bool :=
  !service.enabled || account == globalAccountID

namespace Counter

/-- What a pass asks for: the accounts, and the scan of the instances. -/
inductive Question where
  | accounts
  | scan
deriving DecidableEq, Repr

/-- The totals of a scan by account, and whether it was complete. -/
structure Scan where
  totals : List (String × Int64)
  complete : Bool
deriving DecidableEq, Repr

/-- The accounts, or the scan, or why there is none. -/
@[reducible]
def Answer : Question → Type
  | .accounts => Except Failure (List String)
  | .scan => Except Failure Scan

/-- A program on the bucket of counters. -/
abbrev Usage := Session Int64 Answer

/-- The accounts whose counters a pass recomputes. -/
def listAccounts : Usage (Except Failure (List String)) :=
  ask Question.accounts

def scanInstances : Usage (Except Failure Scan) :=
  ask Question.scan

def vcpuCASRetries : Nat := 25

/-- The store of the counters. -/
def usageConfig : StoreConfig Sentinel where
  attempts := vcpuCASRetries
  exhausted := some fun key attempts =>
      ⟨[], "vcpu counter CAS exhausted for " ++ key ++ " after " ++
        toString attempts ++ " attempts"⟩

/-! ## Charges -/

/-- `readVCPU`: a counter and its revision; a missing one is zero. -/
def readVCPU (account : String) : Usage (Except Failure (Int64 × Nat)) := do
  match ← Store.get account with
  | .ok (value, revision) => return .ok (value, revision)
  | .error failure =>
    if failure.is .recordNotFound then
      return .ok (0, 0)
    else
      return .error failure

/-- The mutation of `casVCPU`: a new value, or no write. -/
def mutation (next : Int64 → Int64 × Bool) (current : Int64) : Except Failure (Int64 × Bool) :=
  let (value, skip) := next current
  if skip then .ok (current, false) else .ok (value, true)

/-- `casVCPU`: apply a function to a counter under compare-and-set. -/
def casVCPU (account : String) (next : Int64 → Int64 × Bool) : Usage (Except Failure Unit) :=
  Store.upsert usageConfig account 0 (mutation next)

/-- `Service.AddVCPU`: charge vCPUs to an account. -/
def addVCPU (service : Service) (account : String) (delta : Int64) : Usage (Except Failure Unit) :=
  if service.exempt account || delta ≤ 0 then
    return .ok ()
  else
    casVCPU account fun current => (current + delta, false)

/-! ## Reconcile -/

/-- `setVCPU`: overwrite a counter that has another value. -/
def setVCPU (account : String) (value : Int64) : Usage (Except Failure Unit) :=
  casVCPU account fun current => (value, current == value)

/-- `setVCPUAt`: overwrite a counter that still is at a revision. -/
def setVCPUAt (account : String) (value : Int64) (sinceRevision : Nat) :
    Usage (Except Failure Unit) := do
  match ← readVCPU account with
  | .error failure => return .error failure
  | .ok (current, revision) =>
    if revision ≠ sinceRevision ∨ current = value then
      return .ok ()
    else
      match ←
        (if revision = 0 then
          Store.create account value
        else
          Store.compareAndSet account value revision) with
      | .ok _ => return .ok ()
      | .error failure =>
        if failure.is .recordExists || failure.is .recordConflict then
          return .ok ()
        else
          return .error failure

/-- `reconcileVCPU`: write a counter from a sweep. -/
def reconcileVCPU (account : String) (value : Int64) (complete : Bool)
    (sinceRevision : Nat) : Usage (Except Failure Unit) := do
  if complete then
    setVCPUAt account value sinceRevision
  else
    match ← readVCPU account with
    | .error failure => return .error failure
    | .ok (current, _) =>
      if value ≤ current then
        return .ok ()
      else
        setVCPU account value

/-- The revisions a pass has read, newest first. -/
abbrev Revisions := List (String × Nat)

/-- The revision a pass holds against an account; zero for none. -/
def Revisions.of (revisions : Revisions) (account : String) : Nat :=
  (revisions.lookup account).getD 0

/-- `counterRevisions`: the revision of each account's counter. -/
def counterRevisions :
    List String → Revisions → Usage Revisions
  | [], out => return out
  | account :: rest, out => do
      match ← readVCPU account with
      | .error _ => counterRevisions rest out
      | .ok (_, revision) => counterRevisions rest ((account, revision) :: out)

/-- The total a scan found for an account; zero if it found none. -/
def Scan.total (scan : Scan) (account : String) : Int64 :=
  (scan.totals.lookup account).getD 0

/-- The accounts of a pass that are left, and its first error. -/
def reconcileAll (scan : Scan) (before : Revisions) :
    List String → Option Failure → Usage (Except Failure Unit)
  | [], none => return .ok ()
  | [], some failure => return .error failure
  | account :: rest, firstErr => do
      if ← waits then
        match ← reconcileVCPU account (scan.total account) scan.complete (before.of account) with
        | .ok () => reconcileAll scan before rest firstErr
        | .error failure =>
          reconcileAll scan before rest (firstErr.or (some failure))
      else
        return .error State.Sentinel.canceled.failure

/-- `Service.Reconcile`: recompute every account's counter. -/
def reconcile (service : Service) : Usage (Except Failure Unit) := do
  if service.enabled then
    match ← listAccounts with
    | .error failure =>
      return .error (context "quota reconcile: list accounts" failure)
    | .ok ids =>
      let charged := ids.filter (· ≠ globalAccountID)
      let before ← counterRevisions charged []
      match ← scanInstances with
      | .error failure => return .error failure
      | .ok scan => reconcileAll scan before charged none
  else
    return .ok ()

/-- `Service.ReconcileAccount`: recompute one account's counter. -/
def reconcileAccount (service : Service) (account : String) : Usage (Except Failure Unit) := do
  if service.enabled = true ∧ account ≠ globalAccountID then
    let before ← counterRevisions [account] []
    match ← scanInstances with
    | .error failure =>
      return .error (context ("quota reconcile " ++ account ++ ": instance scan") failure)
    | .ok scan =>
      match ← reconcileVCPU account (scan.total account) scan.complete (before.of account) with
      | .error failure =>
        return .error (context ("quota reconcile " ++ account ++ ": counter overwrite") failure)
      | .ok () => return .ok ()
  else
    return .ok ()

/-! ## Runs -/

/-- One call on the counters. -/
inductive Request where
  | addVCPU (account : String) (delta : Int64)
  | reconcileVCPU
    (account : String) (value : Int64) (complete : Bool)
    (sinceRevision : Nat)
  | reconcile
  | reconcileAccount (account : String)
deriving DecidableEq, Repr

def Request.program (service : Service) :
    Request → Usage (Except Failure Unit)
  | .addVCPU account delta => Counter.addVCPU service account delta
  | .reconcileVCPU account value complete sinceRevision =>
    Counter.reconcileVCPU account value complete sinceRevision
  | .reconcile => Counter.reconcile service
  | .reconcileAccount account => Counter.reconcileAccount service account

abbrev Counters (Index : Type) :=
  Bucket.Store Index String (Stored Int64) Answer (Except Failure Unit)

abbrev CounterEvent (Index : Type) :=
  Bucket.Entry Index (Stored Int64) Answer (Except Failure Unit)

/-- The requests of a run, the counters at its start and who reads. -/
structure Deployment (Index : Type) where
  service : Service
  requests : Index → Request
  content : String → Option (Version (Stored Int64))
  positive : ∀ account, ∀ version ∈ content account, 0 < version.revision
  reads : Bucket.Reads

abbrev RequestPool (Index : Type) :=
  Pool Index (Bucket.Call String (Stored Int64) Question)
    (Bucket.Reply Answer) (Counters Index) (Except Failure Unit)

namespace Deployment

variable {Index : Type} (deployment : Deployment Index)

/-- Every request about to start. -/
def start : RequestPool Index :=
  Pool.start (Bucket.initial deployment.content deployment.positive)
    fun index => (deployment.requests index).program deployment.service

/-- The pools some interleaving of the requests reaches. -/
def Reaches [DecidableEq Index] (pool : RequestPool Index) : Prop :=
  (Bucket.system deployment.reads).Reachable deployment.start pool

end Deployment

end Counter

end Spinifex.Quota
