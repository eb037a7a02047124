import Spinifex.Concurrency.Bucket
import Spinifex.Go.Basic

/-!
# Key-value buckets as the services use them

The bucket handle, the optimistic-concurrency loops of `kvutil` and the typed
stores of `kvstore`.  Stored bytes appear as what decoding them gives, so that
a record that does not decode is `none`; encoding a record cannot fail.

The calls a program makes besides those on its bucket are left to each user of
a bucket, as is what an error of its own stands for.
-/

namespace Spinifex.State

open Concurrency Go

/-! ## Errors -/

/-- The error values of the key-value layers, and those of their user. -/
inductive Sentinel (Own : Type) where
  | keyNotFound
  | keyExists
  | keyRevisionMismatch
  | wrongLastSequence
  | read
  | decode
  | write
  | recordNotFound
  | recordExists
  | recordConflict
  | canceled
  | own (sentinel : Own)
deriving DecidableEq, Repr

/-- An error of a service that works on a bucket. -/
abbrev Failure (Own : Type) := Go.Failure (Sentinel Own)

variable {Own : Type}

/-- The text each error value of the key-value layers was made with. -/
def Sentinel.text : Sentinel Own → String
  | .keyNotFound => "nats: key not found"
  | .keyExists => "nats: key exists"
  | .keyRevisionMismatch => "nats: key revision mismatch"
  | .wrongLastSequence => "nats: wrong last sequence"
  | .read => "kvutil: read"
  | .decode => "kvutil: decode"
  | .write => "kvutil: write"
  | .recordNotFound => "kvstore: key not found"
  | .recordExists => "kvstore: key already exists"
  | .recordConflict => "kvstore: revision conflict"
  | .canceled => "context canceled"
  | .own _ => ""

/-- An error value of the key-value layers. -/
def Sentinel.failure (sentinel : Sentinel Own) : Failure Own :=
  ⟨[sentinel], sentinel.text⟩

/-- An error whose text only names what failed. -/
def context (text : String) (cause : Failure Own) : Failure Own :=
  ⟨cause.sentinels, text ++ ": " ++ cause.text⟩

/-- The error of a failed call on the bucket. -/
def faultFailure : Bucket.Fault → Failure Own
  | .notFound => Sentinel.keyNotFound.failure
  | .alreadyExists => Sentinel.keyExists.failure
  | .revisionMismatch => Sentinel.keyRevisionMismatch.failure
  | .wrongLastSequence => Sentinel.wrongLastSequence.failure
  | .other text => ⟨[], text⟩

/-- `isConflict`: a lost race. -/
def isConflict [DecidableEq Own] (failure : Failure Own) : Bool :=
  failure.is .keyExists || failure.is .keyRevisionMismatch

/-- `IsRevisionConflict`: a conditional write that lost its race. -/
def isRevisionConflict [DecidableEq Own] (failure : Failure Own) : Bool :=
  isConflict failure || failure.is .wrongLastSequence

/-! ## The bucket handle -/

/-- Stored bytes: the record they decode to, if they do. -/
abbrev Stored (Record : Type) := Option Record

variable {Record Question Result : Type} {Answer : Question → Type}

/-- A program that works on a bucket of records. -/
abbrev Session (Record : Type) {Question : Type} (Answer : Question → Type) :=
  Program (Bucket.Call String (Stored Record) Question) (Bucket.Reply Answer)

namespace KeyValue

/-- Read a key. -/
def get (key : String) : Session Record Answer (Except (Failure Own) (Version (Stored Record))) :=
  .call (.get key) fun reply => .done (Except.mapError faultFailure reply)

/-- Write or remove a key at an expected revision. -/
def write (key : String) (value : Option (Stored Record))
    (expected : Nat) : Session Record Answer (Except (Failure Own) Nat) :=
  .call (.write key value expected) fun reply => .done (Except.mapError faultFailure reply)

/-- Write a key only if it is absent. -/
def create (key : String) (record : Record) : Session Record Answer (Except (Failure Own) Nat) :=
  write key (some (some record)) 0

/-- Write a key only at the revision read. -/
def update (key : String) (record : Record) (revision : Nat) :
    Session Record Answer (Except (Failure Own) Nat) :=
  write key (some (some record)) revision

/-- Remove a key only at the revision read. -/
def delete (key : String) (revision : Nat) : Session Record Answer (Except (Failure Own) Nat) :=
  write key none revision

/-- Revision zero stands for an absent key. -/
theorem create_or_update (key : String) (record : Record) (revision : Nat) :
    (if revision = 0 then
      (create key record : Session Record Answer (Except (Failure Own) Nat)) else
      update key record revision) =
      write key (some (some record)) revision := by
  split_ifs with zero
  · rw [zero]
    rfl
  · rfl

end KeyValue

/-- Whether the caller still waits. -/
def waits : Session Record Answer Bool :=
  .call .waits .done

/-- Ask something that does not concern the bucket. -/
def ask (question : Question) : Session Record Answer (Answer question) :=
  .call (.ask question) .done

/-! ## Optimistic concurrency -/

/-- The default bound of an optimistic-concurrency loop. -/
def casAttempts : Nat := 5

/-- `CASConfig`. -/
structure CASConfig (Own : Type) where
  attempts : Nat
  createIfAbsent : Bool
  notFound : Option (Failure Own)
  exhausted : Option (String → Nat → Failure Own)

variable [DecidableEq Own]

/-- The attempts of `retryCAS` that are left, and the last conflict. -/
def retryLoop (attempt : Session Record Answer (Except (Failure Own) Result))
    (exhausted : Failure Own → Failure Own) :
    Nat → Failure Own → Session Record Answer (Except (Failure Own) Result)
  | 0, lastErr => return .error (exhausted lastErr)
  | attempts + 1, _ => do
      match ← attempt with
      | .ok result => return .ok result
      | .error failure =>
        if isConflict failure then
          if ← waits then
            retryLoop attempt exhausted attempts failure
          else
            return .error Sentinel.canceled.failure
        else
          return .error failure

/--
`retryCAS`: run an attempt until it succeeds, fails without a conflict, or its
budget is spent.
-/
def retryCAS (cfg : CASConfig Own) (op key : String)
    (attempt : Session Record Answer (Except (Failure Own) Result)) :
    Session Record Answer (Except (Failure Own) Result) :=
  let attempts := if cfg.attempts = 0 then casAttempts else cfg.attempts
  let exhausted := fun lastErr => match cfg.exhausted with
    | some failure => (failure key attempts).wrap lastErr
    | none =>
      context ("CAS " ++ op ++ " exhausted " ++ toString attempts ++
        " attempts for key " ++ key) lastErr
  retryLoop attempt exhausted attempts ⟨[], ""⟩

/-- Write what a mutation made of a record read at a revision. -/
def commitMutation (key : String) (record : Record) (revision : Nat)
    (mutate : Record → Except (Failure Own) (Record × Bool)) :
    Session Record Answer (Except (Failure Own) Record) := do
  match mutate record with
  | .error failure => return .error failure
  | .ok (changed, false) => return .ok changed
  | .ok (changed, true) =>
    match ←
      (if revision = 0 then
        KeyValue.create key changed
      else
        KeyValue.update key changed revision) with
    | .error failure => return .error (Sentinel.write.failure.wrap failure)
    | .ok _ => return .ok changed

/-- One attempt of `Update`. -/
def updateAttempt (key : String) (cfg : CASConfig Own) (zero : Record)
    (mutate : Record → Except (Failure Own) (Record × Bool)) :
    Session Record Answer (Except (Failure Own) Record) := do
  match ← KeyValue.get key with
  | .ok ⟨some record, revision⟩ => commitMutation key record revision mutate
  | .ok ⟨none, _⟩ => return .error Sentinel.decode.failure
  | .error failure =>
    if failure.is .keyNotFound && cfg.createIfAbsent then
      commitMutation key zero 0 mutate
    else
      match cfg.notFound with
      | some notFound =>
        if failure.is .keyNotFound then
          return .error notFound
        else
          return .error (Sentinel.read.failure.wrap failure)
      | none => return .error (Sentinel.read.failure.wrap failure)

/--
`Update`: decode the current record, apply the mutation and commit at the
observed revision.
-/
def update (key : String) (cfg : CASConfig Own) (zero : Record)
    (mutate : Record → Except (Failure Own) (Record × Bool)) :
    Session Record Answer (Except (Failure Own) Record) :=
  retryCAS cfg "update" key (updateAttempt key cfg zero mutate)

/-! ## Typed stores -/

/-- The part of `kvstore.Config` that matters to an open bucket. -/
structure StoreConfig (Own : Type) where
  attempts : Nat
  exhausted : Option (String → Nat → Failure Own)

namespace Store

/-- `Store.Get`. -/
def get (key : String) : Session Record Answer (Except (Failure Own) (Record × Nat)) := do
  match ← KeyValue.get key with
  | .ok ⟨some record, revision⟩ => return .ok (record, revision)
  | .ok ⟨none, _⟩ => return .error ⟨[], "kvstore: decode " ++ key⟩
  | .error failure =>
    if failure.is .keyNotFound then
      return .error (Sentinel.recordNotFound.failure.detail key)
    else
      return .error (context ("kvstore: get " ++ key) failure)

/-- `Store.Create`. -/
def create (key : String) (record : Record) : Session Record Answer (Except (Failure Own) Nat) := do
  match ← KeyValue.create key record with
  | .ok revision => return .ok revision
  | .error failure =>
    if failure.is .keyExists then
      return .error (Sentinel.recordExists.failure.detail key)
    else
      return .error (context ("kvstore: create " ++ key) failure)

/-- `Store.CompareAndSet`. -/
def compareAndSet (key : String) (record : Record) (revision : Nat) :
    Session Record Answer (Except (Failure Own) Nat) := do
  match ← KeyValue.update key record revision with
  | .ok next => return .ok next
  | .error failure =>
    if isConflict failure then
      return .error (Sentinel.recordConflict.failure.detail key)
    else
      return .error (context ("kvstore: update " ++ key) failure)

/-- `Store.Upsert`: an absent key starts from the zero record. -/
def upsert (cfg : StoreConfig Own) (key : String) (zero : Record)
    (mutate : Record → Except (Failure Own) (Record × Bool)) :
    Session Record Answer (Except (Failure Own) Unit) := do
  match ←
    update key
      { attempts := cfg.attempts, createIfAbsent := true
        notFound := none, exhausted := cfg.exhausted }
      zero mutate with
  | .error failure => return .error failure
  | .ok _ => return .ok ()

/--
`Store.Upsert` for a mutation that leaves its caller something: the result is
the record that the last run of the mutation left.
-/
def upsertRecord (cfg : StoreConfig Own) (key : String) (zero : Record)
    (mutate : Record → Except (Failure Own) (Record × Bool)) :
    Session Record Answer (Except (Failure Own) Record) :=
  update key
    { attempts := cfg.attempts, createIfAbsent := true
      notFound := none, exhausted := cfg.exhausted }
    zero mutate

/--
`Store.Mutate`: an absent key is an error.  The result is the record that the
last run of the mutation left.
-/
def mutate (cfg : StoreConfig Own) (key : String) (zero : Record)
    (mutation : Record → Except (Failure Own) (Record × Bool)) :
    Session Record Answer (Except (Failure Own) Record) :=
  update key
    { attempts := cfg.attempts, createIfAbsent := false
      notFound := some (Sentinel.recordNotFound.failure.detail key)
      exhausted := cfg.exhausted }
    zero mutation

/-- `Bucket.CompareAndDelete`. -/
def compareAndDelete (key : String) (revision : Nat) :
    Session Record Answer (Except (Failure Own) Unit) := do
  match ← KeyValue.delete key revision with
  | .ok _ => return .ok ()
  | .error failure =>
    if failure.is .keyRevisionMismatch then
      return .error (Sentinel.recordConflict.failure.detail key)
    else
      return .error (context ("kvstore: delete " ++ key) failure)

end Store

end Spinifex.State
