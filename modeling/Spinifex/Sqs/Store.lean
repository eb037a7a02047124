import Spinifex.Concurrency.Program
import Spinifex.Concurrency.Register
import Spinifex.Go.Json

/-!
# The message store as the SQS domain sees it

The types of the store interface and the calls the cores make.  A core is a
program over these calls: the store's reads and conditional writes, the clock,
the queue resolver and the receipt key ring.  What a call may answer and what
it changes is not said here; that is fixed where the cores are run.
-/

namespace Spinifex.Sqs

open Concurrency Go

/-! ## Errors -/

/-- The package's error values. -/
inductive Sentinel where
  | notFound
  | revisionMismatch
  | invalidArgument
  | invalidParameter
  | unavailable
  | notVisible
  | gone
  | claimLost
  | leaseExpired
  | notOurs
  | receiptInvalid
  | notInflight
  | visibilityCap
deriving DecidableEq, Repr

/-- An error of the package. -/
abbrev Failure := Go.Failure Sentinel

/-- The text each error value was made with. -/
def Sentinel.text : Sentinel → String
  | .notFound => "message: not found"
  | .revisionMismatch => "message: revision mismatch"
  | .invalidArgument => "message: invalid argument"
  | .invalidParameter => "message: invalid parameter value"
  | .unavailable => "message: unavailable"
  | .notVisible => "message: not visible"
  | .gone => "message: gone"
  | .claimLost => "message: claim lost to another receiver"
  | .leaseExpired => "message: claim acknowledged after its deadline"
  | .notOurs => "message: record is not this release's to act on"
  | .receiptInvalid => "message: receipt handle is invalid"
  | .notInflight => "message: not in flight"
  | .visibilityCap => "message: visibility beyond the 12-hour limit"

/-- The error value itself. -/
def Sentinel.failure (sentinel : Sentinel) : Failure :=
  ⟨[sentinel], sentinel.text⟩

/-- An error value with a text after it. -/
def Sentinel.because (sentinel : Sentinel) (text : String) : Failure :=
  sentinel.failure.detail text

/-! ## Names of queues and messages -/

/-- An allocation of a queue, never changed after its creation. -/
abbrev Shard := Nat

abbrev QueueID := String

/-- A message's place in its namespace; never zero, never reused. -/
abbrev Position := Nat

/-- A state record's version; zero for no record. -/
abbrev Revision := Nat

/-- One queue's part of the store. -/
structure Namespace where
  messageShard : Shard
  stateShard : Shard
  queue : QueueID
deriving DecidableEq, Repr

/-- The longest queue identifier, in bytes. -/
def maxQueueIDLen : Nat := 64

def isQueueIDRune (rune : Char) : Bool :=
  ('a' ≤ rune && rune ≤ 'z') || ('A' ≤ rune && rune ≤ 'Z') ||
    ('0' ≤ rune && rune ≤ '9') || rune == '_' || rune == '-'

/-- `Namespace.Validate`: reject a namespace no store could key. -/
def Namespace.validate (ns : Namespace) : Except Failure Unit :=
  let size := ns.queue.utf8ByteSize
  if ns.queue = "" ∨ size > maxQueueIDLen then
    .error (Sentinel.invalidArgument.because ("queue ID length " ++ toString size ++
      " outside 1.." ++ toString maxQueueIDLen))
  else
    match ns.queue.toList.find? (!isQueueIDRune ·) with
    | some rune =>
      .error (Sentinel.invalidArgument.because
        ("queue ID contains " ++ "\x27" ++ String.singleton rune ++ "\x27"))
    | none => .ok ()

/-- Where one message and its state record are kept. -/
structure Key where
  ns : Namespace
  position : Position
deriving DecidableEq, Repr

/-! ## Messages and state records -/

/-- The metadata stored with a body. -/
abbrev Metadata := List (String × String)

/-- A Go map read: the empty text for a missing key. -/
def Metadata.get (metadata : Metadata) (key : String) : String :=
  (metadata.lookup key).getD ""

/-- A stored message as read back. -/
structure Message where
  position : Position
  body : List UInt8
  metadata : Metadata
deriving DecidableEq, Repr

/-- A state record as read back: the stored bytes and their revision. -/
abbrev State := Version Json.Document

/-- One surviving append seen by a scan. -/
structure Change where
  ns : Namespace
  position : Position
  metadata : Metadata
  cursor : Nat
deriving DecidableEq, Repr

/-- A point in a bounded scan pass; a zero bound starts a new pass. -/
structure ScanCursor where
  after : Nat
  bound : Nat
deriving DecidableEq, Repr

structure ScanPage where
  changes : List Change
  next : ScanCursor
  done : Bool
deriving DecidableEq, Repr

/-- What a receipt handle binds. -/
structure Receipt where
  queue : QueueID
  position : Position
  generation : Nat
deriving DecidableEq, Repr

/-- The message a receipt names, in the queue's namespace. -/
def Receipt.key (receipt : Receipt) (ns : Namespace) : Key :=
  ⟨ns, receipt.position⟩

/-- An active queue resolved for a receive; the times are seconds. -/
structure ReceiveTarget where
  ns : Namespace
  account : String
  visibilityTimeout : Int
  messageRetentionPeriod : Int
  receiveWaitTime : Int
deriving DecidableEq, Repr

/-! ## Calls -/

/-- A call of a core on the store, the clock, the queues or the key ring. -/
inductive Op where
  | get (key : Key)
  | delete (key : Key)
  | getState (key : Key)
  | putState
    (key : Key) (value : Json.Document) (expected : Revision)
  | deleteState (key : Key) (expected : Revision)
  | scan (shard : Shard) (start : ScanCursor) (limit : Int)
  | now
  | checkKeys
  | receiveTarget (account region name : String)
  | decodeReceipt (handle : String) (queue : QueueID)

/-- What each call answers; the clock in Unix milliseconds. -/
@[reducible]
def Reply : Op → Type
  | .get _ => Except Failure Message
  | .delete _ => Except Failure Unit
  | .getState _ => Except Failure State
  | .putState _ _ _ => Except Failure Revision
  | .deleteState _ _ => Except Failure Unit
  | .scan _ _ _ => Except Failure ScanPage
  | .now => Int
  | .checkKeys => Except Failure Unit
  | .receiveTarget _ _ _ => Except Failure ReceiveTarget
  | .decodeReceipt _ _ => Except Failure Receipt

/-- A core of the SQS domain. -/
abbrev Core := Program Op Reply

namespace Core

/-- Read a message by position. -/
def get (key : Key) : Core (Except Failure Message) :=
  Program.request (Op.get key)

/-- Remove a message body. -/
def delete (key : Key) : Core (Except Failure Unit) :=
  Program.request (Op.delete key)

/-- Read a message's state record. -/
def getState (key : Key) : Core (Except Failure State) :=
  Program.request (Op.getState key)

/-- Write a state record at an expected revision. -/
def putState
    (key : Key) (value : Json.Document) (expected : Revision) : Core (Except Failure Revision) :=
  Program.request (Op.putState key value expected)

/-- Remove a state record at an expected revision. -/
def deleteState (key : Key) (expected : Revision) : Core (Except Failure Unit) :=
  Program.request (Op.deleteState key expected)

/-- Read one page of a scan pass. -/
def scan (shard : Shard) (start : ScanCursor) (limit : Int) : Core (Except Failure ScanPage) :=
  Program.request (Op.scan shard start limit)

/-- Read the clock. -/
def now : Core Int :=
  Program.request Op.now

/-- `ReceiptKeys.Check`. -/
def checkKeys : Core (Except Failure Unit) :=
  Program.request Op.checkKeys

/-- `ReceiveQueues.ReceiveTarget`. -/
def receiveTarget (account region name : String) : Core (Except Failure ReceiveTarget) :=
  Program.request (Op.receiveTarget account region name)

/-- `ReceiptKeys.Decode`. -/
def decodeReceipt (handle : String) (queue : QueueID) : Core (Except Failure Receipt) :=
  Program.request (Op.decodeReceipt handle queue)

end Core

end Spinifex.Sqs
