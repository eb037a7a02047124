import Spinifex.Sqs.Runs

/-!
# Schedules

Runs that can be evaluated.  The store answers every call as a healthy one
would; what the deployment leaves open, a clock reading or the queue a name
resolves to, is part of the schedule.  Whatever a schedule computes is a pool
the requests reach.
-/

namespace Spinifex.Sqs

open Concurrency Go

variable {Index : Type}

/-- What a schedule decides about one step. -/
inductive Choice where
  | answer
  | reading (time : Int)
  | target (target : ReceiveTarget)

namespace Deployment

variable (deployment : Deployment Index)

/-- A check of clock readings that only passes what the clocks admit. -/
structure ClockCheck where
  admits : Index → Shared Index → Int → Bool
  sound : ∀ index shared reading, admits index shared reading = true →
    deployment.readings index shared reading

/-- The event is the return of a claim that the receipt was issued for. -/
def issuedBy (receipt : Receipt) : RecordEvent Index → Bool
  | .noted ⟨index, .claim (.ok claim), _⟩ =>
    match deployment.requests index with
    | .claim input =>
      input.key = deployment.receiptKey receipt && claim.generation = receipt.generation
    | _ => false
  | _ => false

theorem issued_of_issuedBy (issued : (shared.records (deployment.receiptKey receipt)).log.any
      (deployment.issuedBy receipt) = true) :
    deployment.Issued receipt shared := by
  rcases List.any_eq_true.1 issued with ⟨event, member, check⟩
  unfold issuedBy at check
  split at check
  next index claim bodyStored =>
    split at check
    next input request =>
      simp only [Bool.and_eq_true, decide_eq_true_eq] at check
      exact ⟨index, claim, ⟨⟨input, request, check.1⟩, bodyStored, member⟩, check.2⟩
    · cases check
  · cases check

/-- A conditional write on a healthy store. -/
def write (key : Key) (write : ConditionalWrite Index Json.Document)
    (before : Shared Index) : Except Failure Revision × Shared Index :=
  let register := before.records key
  if write.expected = register.revision then
    (.ok register.nextRevision,
      before.setRecord key ((register.settle register.pending).commit write
        register.nextRevision (before.stamp key)
        register.fresh_nextRevision))
  else
    (.error Sentinel.revisionMismatch.failure, before)

variable {before after : Shared Index}

theorem write_sound (written : write key conditional before = (reply, after)) :
    Writes key conditional reply before after := by
  unfold write at written
  dsimp only at written
  split_ifs at written with matched
  · cases written
    exact ⟨matched, _, rfl⟩
  · cases written
    exact ⟨matched, rfl⟩

/-- The answer of a healthy store, of the clock or of a resolver. -/
def answer (check : deployment.ClockCheck) (index : Index) :
    (op : Op) → Shared Index → Choice → Option (Reply op × Shared Index)
  | .get key, before, _ =>
    match before.bodies key with
    | some message => some (.ok message, before)
    | none => some (.error Sentinel.notFound.failure, before)
  | .delete key, before, _ => some (.ok (), before.removeBody key)
  | .getState key, before, _ =>
    match (before.records key).current with
    | some state => some (.ok state, before)
    | none => some (.error Sentinel.notFound.failure, before)
  | .putState key value expected, before, _ =>
    some (write key ⟨index, expected, some value⟩ before)
  | .deleteState _ _, _, _ => none
  | .scan _ start _, before, _ => some (.ok ⟨[], start, true⟩, before)
  | .now, before, .reading time =>
    if ClockReading time ∧ check.admits index before time then
      some (time, { before with clock := time })
    else
      none
  | .now, _, _ => none
  | .checkKeys, before, _ => some (.ok (), before)
  | .receiveTarget _ _ _, before, .target target =>
    if target.ns = deployment.directory target.ns.queue then some (.ok target, before) else none
  | .receiveTarget _ _ _, _, _ => none
  | .decodeReceipt handle queue, before, _ =>
    match deployment.opens handle with
    | none => none
    | some receipt =>
      if receipt.queue = queue ∧ (before.records (deployment.receiptKey receipt)).log.any
          (deployment.issuedBy receipt) then
        some (.ok receipt, before)
      else
        none

variable {check : deployment.ClockCheck}

theorem answer_sound
    (answered : deployment.answer check index op before choice = some (reply, after)) :
    deployment.perform index op before reply after := by
  cases op with
  | get key =>
    simp only [answer] at answered
    split at answered
    next found =>
      cases answered
      exact ⟨rfl, found⟩
    next missing =>
      cases answered
      exact ⟨rfl, fun _ => missing⟩
  | delete key =>
    cases answered
    exact .inl rfl
  | getState key =>
    simp only [answer] at answered
    split at answered
    next found =>
      cases answered
      exact ⟨rfl, found⟩
    next missing =>
      cases answered
      exact ⟨rfl, fun _ => missing⟩
  | putState key value expected => exact write_sound (Option.some.inj answered)
  | deleteState key expected => cases answered
  | scan shard start limit =>
    cases answered
    rfl
  | now =>
    cases choice with
    | reading time =>
      simp only [answer] at answered
      split_ifs at answered with admitted
      cases answered
      exact ⟨⟨admitted.1, check.sound _ _ _ admitted.2⟩, rfl⟩
    | answer | target target => cases answered
  | checkKeys =>
    cases answered
    rfl
  | receiveTarget account region name =>
    cases choice with
    | target target =>
      simp only [answer] at answered
      split_ifs at answered with resolved
      cases answered
      refine ⟨rfl, ?_⟩
      rintro other ⟨⟩
      exact resolved
    | answer | reading time => cases answered
  | decodeReceipt handle queue =>
    simp only [answer] at answered
    split at answered
    · cases answered
    next receipt opened =>
      split_ifs at answered with valid
      cases answered
      refine ⟨rfl, ?_⟩
      rintro other ⟨⟩
      exact ⟨opened, valid.1, deployment.issued_of_issuedBy valid.2⟩

/-- The healthy store as a resolver of schedules. -/
def resolver (check : deployment.ClockCheck) : deployment.system.Resolver Choice where
  call := deployment.answer check
  drift _ _ := none
  call_sound := by
    intro index op before choice reply after answered
    exact deployment.answer_sound answered
  drift_sound := nofun

variable [DecidableEq Index]

/-- The pool after a schedule, if every step of it is possible. -/
def play (check : deployment.ClockCheck)
    (schedule : List (System.Move Index Choice)) : Option (RequestPool Index) :=
  (deployment.resolver check).play deployment.start schedule

theorem reaches_of_play
    (played : deployment.play check schedule = some pool) : deployment.Reaches pool :=
  (deployment.resolver check).play_sound played

theorem exists_reaches_of_play (played : (deployment.play check schedule).map feature = some seen) :
    ∃ pool, deployment.Reaches pool ∧ feature pool = seen := by
  rcases Option.map_eq_some_iff.1 played with ⟨pool, computed, rfl⟩
  exact ⟨pool, deployment.reaches_of_play computed, rfl⟩

end Deployment

/-! ## A queue with one message -/

namespace Sample

/-- Two receives and one call through a handle. -/
inductive Caller where
  | first
  | second
  | holder
deriving DecidableEq

/-- The queue's part of the store. -/
def ns : Namespace := ⟨0, 0, "queue"⟩

def key : Key := ⟨ns, 1⟩

/-- The message as it was sent at time one. -/
def message : Message :=
  ⟨1, [], [("V", "1"), ("Id", "id"), ("Enq", "1"), ("Vis", "1"), ("Sender", "sender"),
    ("Md5", "d41d8cd98f00b204e9800998ecf8427e")]⟩

/-- The message's metadata as a claim reads it. -/
def headers : Headers := ⟨1, "id", 1, 1, 0, ""⟩

/-- A receive of the message with the given visibility. -/
def receive (visibility : Duration) : Request :=
  .claim ⟨ns, 1, visibility, 60 * second⟩

/-- The queue as it is resolved. -/
def target : ReceiveTarget := ⟨ns, "account", 0, 60, 0⟩

variable {Index : Type} (requests : Index → Request)

/-- Any requests on the message, with one handle in circulation. -/
def deployment (generation : Nat) : Deployment Index where
  codec := ⟨fun body _ => .ok (body, []), fun _ => ""⟩
  requests := requests
  bodies other := if other = key then some message else none
  directory queue := ⟨0, 0, queue⟩
  opens handle :=
    if handle = "handle" then some ⟨"queue", 1, generation⟩ else none
  readings _ _ _ := True

/-- Any reading is admitted. -/
def anyClock (generation : Nat) : (deployment requests generation).ClockCheck :=
  ⟨fun _ _ _ => true, fun _ _ _ _ => trivial⟩

variable (index : Index)

/-- Let one thread take so many steps that need no choice. -/
def steps (count : Nat) : List (System.Move Index Choice) :=
  List.replicate count (.thread index .answer)

/-- Let one thread read its clock. -/
def reads (time : Int) : List (System.Move Index Choice) :=
  [.thread index (.reading time)]

/-- Let one thread resolve the queue. -/
def resolves : List (System.Move Index Choice) :=
  [.thread index (.target target)]

end Sample

end Spinifex.Sqs
