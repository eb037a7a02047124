import Mathlib.Data.List.ReduceOption
import Spinifex.Concurrency.Shelf
import Spinifex.State.KeyValue

/-!
# Spread placement groups

The record of a placement group, the four updates of a spread group and the
launch that makes three of them.  A node with an empty list of instances is
reserved for a launch; the record does not say for which one.

Instance identifiers are drawn for one launch and appear with that launch.
Counts are natural numbers.
-/

namespace Spinifex.Placement

open Concurrency Go State

/-! ## Records -/

inductive GroupState where
  | pending
  | available
  | deleting
  | deleted
deriving DecidableEq, Repr

/-- The strategies of a placement group. -/
inductive Strategy where
  | cluster
  | spread
  | partition
deriving DecidableEq, Repr

/-- An instance and the launch it was started by. -/
structure Instance (Launch : Type) where
  launch : Launch
  serial : Nat
deriving DecidableEq

/-- What a record holds for a node. -/
abbrev Entry (Launch : Type) := Option (List (Instance Launch))

/-- `PlacementGroupRecord`. -/
structure Record (Launch : Type) where
  strategy : Strategy
  state : GroupState
  nodeInstances : String → Entry Launch

/-- An entry that reserves its node. -/
def isPlaceholder {Launch : Type} : Entry Launch → Bool
  | some [] => true
  | _ => false

theorem isPlaceholder_iff : isPlaceholder entry = true ↔ entry = some [] := by
  rcases entry with _ | _ | _ <;> simp [isPlaceholder]

/-! ## Errors -/

/-- The error values of the service. -/
inductive Own where
  | absent
  | contended
deriving DecidableEq, Repr

/-- An error of the service. -/
abbrev Failure := State.Failure Own

def awsError (code : String) : Failure := ⟨[], code⟩

def errPGAbsent : Failure :=
  ⟨[.own .absent], "placementgroup: record absent"⟩

def errPGContended : Failure :=
  ⟨[.own .contended], "placementgroup: CAS retries exhausted"⟩

/-- `mapCASError`: an error of a mutation is an AWS code already. -/
def mapCASError (failure : Failure) : Failure :=
  if failure.is (.own .absent) then
    awsError "InvalidPlacementGroup.Unknown"
  else if failure.is (.own .contended) || failure.is .read ||
      failure.is .decode || failure.is .write then
    awsError "ServerInternal"
  else
    failure

/-- `casConfig`. -/
def casConfig : CASConfig Own where
  attempts := 5
  createIfAbsent := false
  notFound := some errPGAbsent
  exhausted := some fun _ _ => errPGContended

/-! ## Calls -/

/-- What a launch asks besides the calls on its group. -/
inductive Question (Launch : Type) where
  | queryNodeCapacity
  | launchOnNodes (nodes : List String)
  | terminateInstances (instances : List (Instance Launch))

/-- What came of the launch on one node; an instance may lack its name. -/
inductive NodeOutcome where
  | failed
  | launched (serials : List (Option Nat))
deriving DecidableEq, Repr

/--
What came of the launches, node by node, and the error that
`extractClientError` and `launchFailure` choose if they are too few.
-/
structure Launches where
  outcome : Nat → NodeOutcome
  shortfall : Failure

def Answer {Launch : Type} : Question Launch → Type
  | .queryNodeCapacity => Except Failure (List String)
  | .launchOnNodes _ => Launches
  | .terminateInstances _ => Unit

section

variable {Launch Output : Type}

/-- A program that works on placement groups. -/
abbrev GroupSession (Launch : Type) :=
  Session (Record Launch) (@Answer Launch)

/-- A mutation: what it leaves its caller, and the record if it changed. -/
abbrev Mutation (Launch Output : Type) :=
  Record Launch → Except Failure (Output × Option (Record Launch))

/-- One attempt of `Update`. -/
def updateAttempt (key : String) (mutate : Mutation Launch Output) :
    GroupSession Launch (Except Failure Output) := do
  match ← KeyValue.get key with
  | .ok ⟨some record, revision⟩ =>
    match mutate record with
    | .error failure => return .error failure
    | .ok (output, none) => return .ok output
    | .ok (output, some changed) =>
      match ← KeyValue.update key changed revision with
      | .error failure => return .error (Sentinel.write.failure.wrap failure)
      | .ok _ => return .ok output
  | .ok ⟨none, _⟩ => return .error Sentinel.decode.failure
  | .error failure =>
    if failure.is .keyNotFound then
      return .error errPGAbsent
    else
      return .error (Sentinel.read.failure.wrap failure)

/-- `Update` with the policy of placement groups. -/
def update (key : String) (mutate : Mutation Launch Output) :
    GroupSession Launch (Except Failure Output) :=
  retryCAS casConfig "update" key (updateAttempt key mutate)

/-- `AccountKey`. -/
def accountKey (accountID resourceID : String) : String :=
  accountID ++ "." ++ resourceID

/-- A call that mutates a group. -/
def mutateGroup (groupName accountID : String) (mutate : Mutation Launch Output) :
    GroupSession Launch (Except Failure Output) :=
  if groupName = "" then
    return .error (awsError "MissingParameter")
  else do
    match ← update (accountKey accountID groupName) mutate with
    | .error failure => return .error (mapCASError failure)
    | .ok output => return .ok output

/-- `ReserveSpreadNodesInput`. -/
structure ReserveSpreadNodesInput where
  eligibleNodes : List String
  minCount : Nat
  maxCount : Nat

/-- What `ReserveSpreadNodes` makes of a record. -/
def reserve (input : ReserveSpreadNodesInput) : Mutation Launch (List String) := fun record =>
  if record.state ≠ .available then
    .error (awsError "InvalidPlacementGroup.Unknown")
  else if record.strategy ≠ .spread then
    .error (awsError "InvalidParameterValue")
  else
    let available := input.eligibleNodes.filter fun node => (record.nodeInstances node).isNone
    if available.length < input.minCount then
      .error (awsError "InsufficientInstanceCapacity")
    else
      let selected := available.take input.maxCount
      .ok (selected, some { record with
        nodeInstances := fun node =>
          if node ∈ selected then some [] else record.nodeInstances node })

/-- What `FinalizeSpreadInstances` makes of a record. -/
def finalize (nodeInstances : String → Entry Launch) : Mutation Launch Unit := fun record =>
  .ok ((), some { record with
    nodeInstances := fun node => (nodeInstances node).or (record.nodeInstances node) })

/-- What `ReleaseSpreadNodes` makes of a record. -/
def release (nodes : List String) : Mutation Launch Unit := fun record =>
  if nodes.any fun node => isPlaceholder (record.nodeInstances node) then
    .ok ((), some { record with
      nodeInstances := fun node => if node ∈ nodes ∧ isPlaceholder (record.nodeInstances node) then
          none
        else
          record.nodeInstances node })
  else
    .ok ((), none)

/-- What `RemoveInstance` makes of a record. -/
def remove [DecidableEq Launch] (nodeName : String) (removed : Instance Launch) :
    Mutation Launch Unit := fun record =>
  match record.nodeInstances nodeName with
  | none => .ok ((), none)
  | some instances =>
    let filtered := instances.filter (· ≠ removed)
    .ok ((), some { record with
      nodeInstances := Function.update record.nodeInstances nodeName
        (if filtered = [] then none else some filtered) })

/-- `ReserveSpreadNodes`. -/
def reserveSpreadNodes (groupName accountID : String) (input : ReserveSpreadNodesInput) :
    GroupSession Launch (Except Failure (List String)) :=
  mutateGroup groupName accountID (reserve input)

/-- `FinalizeSpreadInstances`. -/
def finalizeSpreadInstances (groupName accountID : String) (nodeInstances : String → Entry Launch) :
    GroupSession Launch (Except Failure Unit) :=
  mutateGroup groupName accountID (finalize nodeInstances)

/-- `ReleaseSpreadNodes`. -/
def releaseSpreadNodes (groupName accountID : String) (nodes : List String) :
    GroupSession Launch (Except Failure Unit) :=
  mutateGroup groupName accountID (release nodes)

/--
`RemoveInstance`: a group that is gone holds nothing to remove.  An instance's
identifier is never empty.
-/
def removeInstance [DecidableEq Launch] (groupName accountID nodeName : String)
    (removed : Instance Launch) : GroupSession Launch (Except Failure Unit) :=
  if groupName = "" ∨ nodeName = "" then
    return .error (awsError "MissingParameter")
  else do
    match ← update (accountKey accountID groupName) (remove nodeName removed) with
    | .ok _ => return .ok ()
    | .error failure =>
      if failure.is (.own .absent) then
        return .ok ()
      else
        return .error (mapCASError failure)

/-! ## Launches -/

/-- How many instances a launch started on one node. -/
def NodeOutcome.count : NodeOutcome → Nat
  | .failed => 0
  | .launched serials => serials.length

/-- Those of them that have a name. -/
def NodeOutcome.named (launch : Launch) : NodeOutcome → List (Instance Launch)
  | .failed => []
  | .launched serials => serials.reduceOption.map (Instance.mk launch)

/-- The result of each reserved node. -/
def nodeResults (nodes : List String) (launches : Launches) : List (String × NodeOutcome) :=
  nodes.mapIdx fun position node => (node, launches.outcome position)

/-- The named instances per node, for nodes that have one. -/
def launchedInstances
    (launch : Launch) (results : List (String × NodeOutcome)) (node : String) : Entry Launch :=
  let instances :=
    (results.filter fun result => result.1 = node).flatMap fun result => result.2.named launch
  if instances.isEmpty then none else some instances

/-- The nodes on which the launch failed. -/
def failedNodes (results : List (String × NodeOutcome)) : List String :=
  (results.filter fun result => result.2 = .failed).map Prod.fst

/-- `rollbackInstances`. -/
def rollbackInstances
    (launch : Launch) (results : List (String × NodeOutcome)) : GroupSession Launch Unit :=
  let ids := results.flatMap fun result => result.2.named launch
  if ids.isEmpty then
    return ()
  else do
    let _ ← ask (Question.terminateInstances ids)
    return ()

/-- What a launch returns, and the failed releases it only logs. -/
structure Returned where
  reply : Except Failure (List (String × NodeOutcome))
  logged : List Failure

/-- Release nodes and return; a failure is logged. -/
def releaseAndReturn (groupName accountID : String) (nodes : List String)
    (reply : Except Failure (List (String × NodeOutcome))) : GroupSession Launch Returned := do
  match ← releaseSpreadNodes groupName accountID nodes with
  | .ok _ => return ⟨reply, []⟩
  | .error failure => return ⟨reply, [failure]⟩

/-- `distributeInstancesSpread` from the launches on. -/
def settleLaunch (launch : Launch) (groupName accountID : String) (minCount : Nat)
    (reservedNodes : List String) (launches : Launches) : GroupSession Launch Returned := do
  let results := nodeResults reservedNodes launches
  if results.foldl (fun total result => total + result.2.count) 0 < minCount
  then
    rollbackInstances launch results
    releaseAndReturn groupName accountID reservedNodes (.error launches.shortfall)
  else
    match ← finalizeSpreadInstances groupName accountID
      (launchedInstances launch results) with
    | .error failure =>
      rollbackInstances launch results
      releaseAndReturn groupName accountID reservedNodes
        (.error (context "failed to finalize placement group record" failure))
    | .ok _ =>
      if failedNodes results = [] then
        return ⟨.ok results, []⟩
      else
        releaseAndReturn groupName accountID (failedNodes results) (.ok results)

/-- `distributeInstancesSpread`. -/
def distributeInstancesSpread (launch : Launch) (groupName accountID : String)
    (minCount maxCount : Nat) : GroupSession Launch Returned := do
  match ← ask Question.queryNodeCapacity with
  | .error failure => return ⟨.error failure, []⟩
  | .ok [] => return ⟨.error (awsError "InsufficientInstanceCapacity"), []⟩
  | .ok (node :: nodes) =>
    match ← reserveSpreadNodes groupName accountID
      ⟨node :: nodes, minCount, maxCount⟩ with
    | .error failure => return ⟨.error failure, []⟩
    | .ok reservedNodes =>
      let launches ← ask (Question.launchOnNodes reservedNodes)
      settleLaunch launch groupName accountID minCount reservedNodes launches

/-- A launch into the group, or the removal of an instance from it. -/
inductive Request (Launch : Type) where
  | runInstances (minCount maxCount : Nat)
  | removeInstance (nodeName : String) (removed : Instance Launch)

/-- What a request returns. -/
inductive Reply where
  | launched (returned : Returned)
  | removed (reply : Except Failure Unit)

def Request.program [DecidableEq Launch] (groupName accountID : String) (launch : Launch) :
    Request Launch → GroupSession Launch Reply
  | .runInstances minCount maxCount => do
    let returned ← distributeInstancesSpread launch groupName accountID minCount maxCount
    return .launched returned
  | .removeInstance nodeName removed => do
    let reply ← Placement.removeInstance groupName accountID nodeName removed
    return .removed reply

end

/-! ## Shared state -/

/-- What a launch has to do with a node. -/
inductive Tenure (Launch : Type) where
  | free
  | reserved
  | ended (entry : Entry Launch)

/-- What becomes of it when the launch itself replaces the entry. -/
def Tenure.next
    {Launch : Type} (tenure : Tenure Launch) (before after : Entry Launch) : Tenure Launch :=
  match before, after, tenure with
  | none, some [], _ => .reserved
  | some _, some [], tenure => tenure
  | _, after, .reserved => .ended after
  | _, _, tenure => tenure

/-- The stored groups, and which launch reserved which node. -/
structure Group (Launch : Type) where
  records : Shelf String (Stored (Record Launch))
  tenure : Launch → String → Tenure Launch

section

variable {Launch : Type}

/-- What a stored value holds for a node. -/
def entryOf (value : Option (Stored (Record Launch))) (node : String) : Entry Launch :=
  (value.bind id).bind fun record => record.nodeInstances node

/-- What the group of a key holds for a node. -/
def Group.entry (group : Group Launch) (key node : String) : Entry Launch :=
  entryOf (group.records.value key) node

variable [DecidableEq Launch]

/-- A write that takes effect. -/
def Group.write (group : Group Launch) (launch : Launch) (key : String)
    (value : Option (Stored (Record Launch))) : Group Launch where
  records := group.records.put key value
  tenure := Function.update group.tenure launch fun node =>
      (group.tenure launch node).next (group.entry key node) (entryOf value node)

/-- What a conditional write may be answered with and leaves behind. -/
def Group.Writes (before : Group Launch) (launch : Launch) (key : String)
    (value : Option (Stored (Record Launch))) (expected : Nat)
    (reply : Except Bucket.Fault Nat) (after : Group Launch) : Prop :=
  ∃ records, before.records.Writes key value expected reply records ∧
    after = if records.last = before.records.last then before else before.write launch key value

/-- The calls on placement groups. -/
abbrev Call (Launch : Type) :=
  Bucket.Call String (Stored (Record Launch)) (Question Launch)

/-- What a call may answer and what it changes. -/
def perform (launch : Launch) :
    (call : Call Launch) → Group Launch → Bucket.Reply Answer call → Group Launch → Prop
  | .get key, before, reply, after =>
    before.records.Answers key reply ∧ after = before
  | .write key value expected, before, reply, after =>
    before.Writes launch key value expected reply after
  | .waits, before, _, after => after = before
  | .ask _, before, _, after => after = before

/-- The system of requests on placement groups. -/
def system (Launch : Type) [DecidableEq Launch] :
    System Launch (Call Launch) (Bucket.Reply Answer) (Group Launch) Reply where
  perform := perform
  drift _ _ := False
  finish _ _ group := group

end

end Spinifex.Placement
