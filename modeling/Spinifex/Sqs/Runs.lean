import Spinifex.Concurrency.Discipline
import Spinifex.Sqs.Lifecycle

/-!
# Runs of the SQS cores on one store

Any number of claims, deletes, visibility changes and sweeps run at once.  The
store keeps the bodies and one revision register per message.  A conditional
write whose reply was lost stays pending and may land at any later time;
bodies may be removed at any time without touching their records.  Every clock
reading is chosen anew, within what the deployment's clocks admit, so that
callers' clocks may disagree.

Positions are never reused, so a body once gone does not come back; the runs
start with the messages that are stored and no state record.

A handle opens only to what a returned claim was issued for: handles are signed
and the key ring is not the subject here.
-/

namespace Spinifex.Sqs

open Concurrency Go

/-! ## Requests -/

/-- One call of a core. -/
inductive Request where
  | claim (input : ClaimInput)
  | delete (input : DeleteInput)
  | changeVisibility (input : ChangeVisibilityInput)
  | sweep (shard : Shard) (pageSize : Int) (pages : Nat)
deriving DecidableEq, Repr

/-- What a core returned. -/
inductive Outcome where
  | claim (result : Except Failure Claim)
  | delete (result : Except Failure Unit)
  | changeVisibility (result : Except Failure Unit)
  | sweep (result : Option (SweepResult × Option Failure))
deriving DecidableEq

def Request.core (codec : AttributeCodec) : Request → Core Outcome
  | .claim input => do
      return .claim (← codec.claim input)
  | .delete input => do
      return .delete (← deleteMessage input)
  | .changeVisibility input => do
      return .changeVisibility (← Sqs.changeVisibility input)
  | .sweep shard pageSize pages => do
      return .sweep (← Sqs.sweep shard pageSize pages ⟨0, 0⟩ ⟨0, 0⟩)

/-! ## The shared store -/

/-- What is recorded of the moment of a write. -/
structure Stamp where
  bodyStored : Bool
  clock : Int
deriving DecidableEq, Repr

/-- A core returned, with the body of the message stored or not. -/
structure Returned (Index : Type) where
  index : Index
  outcome : Outcome
  bodyStored : Bool
deriving DecidableEq

/-- A message's state record with its history. -/
abbrev RecordRegister (Index : Type) :=
  Register Index Json.Document Stamp (Returned Index)

/-- One event in the history of a message's state record. -/
abbrev RecordEvent (Index : Type) :=
  Event Index Json.Document Stamp (Returned Index)

/-- The bodies, the records and the last clock reading anyone took. -/
structure Shared (Index : Type) where
  bodies : Key → Option Message
  records : Key → RecordRegister Index
  clock : Int

namespace Shared

variable {Index : Type}

def removeBody (shared : Shared Index) (key : Key) : Shared Index :=
  { shared with bodies := Function.update shared.bodies key none }

def setRecord (shared : Shared Index) (key : Key)
    (register : RecordRegister Index) : Shared Index :=
  { shared with records := Function.update shared.records key register }

/-- The moment of a write to one record. -/
def stamp (shared : Shared Index) (key : Key) : Stamp :=
  ⟨(shared.bodies key).isSome, shared.clock⟩

/-- Every record notes that a core returned. -/
def finish (index : Index) (outcome : Outcome) (shared : Shared Index) : Shared Index :=
  { shared with
    records := fun key => (shared.records key).addNote
      ⟨index, outcome, (shared.bodies key).isSome⟩ }

variable (shared : Shared Index) (key : Key)

@[simp]
theorem setRecord_records_self (register : RecordRegister Index) :
    (shared.setRecord key register).records key = register := by
  simp [setRecord]

@[simp]
theorem removeBody_bodies_self : (shared.removeBody key).bodies key = none := by
  simp [removeBody]

end Shared

/--
The requests of a run, the messages stored at its start, where each queue's
messages are kept, what handles open to, and which readings the callers'
clocks may give.
-/
structure Deployment (Index : Type) where
  codec : AttributeCodec
  requests : Index → Request
  bodies : Key → Option Message
  directory : QueueID → Namespace
  opens : String → Option Receipt
  readings : Index → Shared Index → Int → Prop

namespace Deployment

variable {Index : Type} (deployment : Deployment Index)

/-- The message a receipt names. -/
def receiptKey (receipt : Receipt) : Key :=
  receipt.key (deployment.directory receipt.queue)

/-- The event is a successful return of a claim on the message. -/
def ClaimReturned (key : Key) (index : Index) (claim : Claim) (shared : Shared Index) : Prop :=
  (∃ input, deployment.requests index = .claim input ∧ input.key = key) ∧
    ∃ bodyStored, .noted ⟨index, .claim (.ok claim), bodyStored⟩ ∈ (shared.records key).log

/-- Some returned claim was issued this receipt. -/
def Issued (receipt : Receipt) (shared : Shared Index) : Prop :=
  ∃ index claim, deployment.ClaimReturned (deployment.receiptKey receipt) index claim shared ∧
    claim.generation = receipt.generation

/-- A conditional write takes effect. -/
def Commits (key : Key) (write : ConditionalWrite Index Json.Document)
    (pending : List (ConditionalWrite Index Json.Document))
    (fresh : Revision) (before after : Shared Index) : Prop :=
  write.expected = (before.records key).revision ∧
    ∃ isFresh : ((before.records key).settle pending).Fresh fresh, after = before.setRecord key
      (((before.records key).settle pending).commit write fresh (before.stamp key) isFresh)

/-- A conditional write is answered. -/
def Writes
    (key : Key) (write : ConditionalWrite Index Json.Document) (reply : Except Failure Revision)
    (before after : Shared Index) : Prop :=
  match reply with
  | .ok fresh =>
    Commits key write (before.records key).pending fresh before after
  | .error failure =>
    if failure.is .revisionMismatch then
      write.expected ≠ (before.records key).revision ∧ after = before
    else
      after = before.setRecord key ((before.records key).lose write)

/-- What a call may answer and what it changes. -/
def perform (index : Index) :
    (op : Op) → Shared Index → Reply op → Shared Index → Prop
  | .get key, before, reply, after =>
    after = before ∧ match reply with
      | .ok message => before.bodies key = some message
      | .error failure => failure.is .notFound → before.bodies key = none
  | .delete key, before, reply, after =>
    after = before.removeBody key ∨ (after = before ∧ reply ≠ .ok ())
  | .getState key, before, reply, after =>
    after = before ∧ match reply with
      | .ok state => (before.records key).current = some state
      | .error failure =>
        failure.is .notFound → (before.records key).current = none
  | .putState key value expected, before, reply, after =>
    Writes key ⟨index, expected, some value⟩ reply before after
  | .deleteState key expected, before, reply, after =>
    match reply with
    | .ok () =>
      (before.records key).current ≠ none ∧
        ∃ fresh, Writes key ⟨index, expected, none⟩ (.ok fresh) before after
    | .error failure =>
      if failure.is .notFound then
        (before.records key).current = none ∧ after = before
      else
        Writes key ⟨index, expected, none⟩ (.error failure) before after
  | .now, before, reading, after =>
    (ClockReading reading ∧ deployment.readings index before reading) ∧
      after = { before with clock := reading }
  | .receiveTarget _ _ _, before, reply, after =>
    after = before ∧ ∀ target, reply = .ok target → target.ns = deployment.directory target.ns.queue
  | .decodeReceipt handle queue, before, reply, after =>
    after = before ∧ ∀ receipt, reply = .ok receipt → deployment.opens handle = some receipt ∧
      receipt.queue = queue ∧ deployment.Issued receipt before
  | .scan _ _ _, before, _, after => after = before
  | .checkKeys, before, _, after => after = before

/-- What happens without a call: a removal, or a lost write landing. -/
inductive Drift : Shared Index → Shared Index → Prop where
  | remove {shared : Shared Index} (key : Key) :
    Drift shared (shared.removeBody key)
  | land
    {before after : Shared Index} {key : Key}
    {left right : List (ConditionalWrite Index Json.Document)}
    {write : ConditionalWrite Index Json.Document}
    {fresh : Revision}
    (lost : (before.records key).pending = left ++ write :: right)
    (removes : write.value = none → (before.records key).current ≠ none)
    (commits : Commits key write (left ++ right) fresh before after) :
    Drift before after

/-- The system the requests run in. -/
def system : System Index Op Reply (Shared Index) Outcome where
  perform := deployment.perform
  drift := Drift
  finish := Shared.finish

/-- The stored messages and no record. -/
def initial : Shared Index where
  bodies := deployment.bodies
  records _ := Register.initial none (by simp)
  clock := 0

abbrev RequestPool (Index : Type) :=
  Pool Index Op Reply (Shared Index) Outcome

/-- Every request about to start. -/
def start : RequestPool Index :=
  Pool.start deployment.initial fun index => (deployment.requests index).core deployment.codec

/-- The pools some interleaving of the requests reaches. -/
def Reaches [DecidableEq Index] (pool : RequestPool Index) : Prop :=
  deployment.system.Reachable deployment.start pool

/-- All callers read one clock that never goes back. -/
def CommonClock : Prop :=
  ∀ index shared reading, deployment.readings index shared reading → shared.clock ≤ reading

end Deployment

end Spinifex.Sqs
