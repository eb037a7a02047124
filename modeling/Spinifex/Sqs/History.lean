import Spinifex.Sqs.Runs

/-!
# Sound histories of a state record

What the cores may do to one message's record, said once.  `Justified` lists
the four writes: a first receive, a receive over an expired lease, a moved
deadline and a tombstone, each with what it was decided on.  A history is sound
when every committed write is justified by the record it replaced, records are
removed only when the body is gone, and what a claim or a delete returned is
borne out by the history before its return.

Everything the lifecycle guarantees is read off sound histories.
-/

namespace Spinifex.Sqs

open Concurrency Go

variable {Index : Type}

/-! ## The record in place -/

/-- A stored version, or none, holds a plain record, or none. -/
inductive Holds : Option State → Option Lifecycle → Prop where
  | absent : Holds none none
  | present (record : Lifecycle) (revision : Revision) :
    Holds (some ⟨some record.written, revision⟩) (some record)

theorem Holds.unique (holdsLeft : Holds state left)
    (holdsRight : Holds state right) : left = right := by
  cases holdsLeft with
  | absent =>
    cases holdsRight
    rfl
  | present record revision =>
    generalize same : (some ⟨some record.written, revision⟩ : Option State) = state at holdsRight
    cases holdsRight with
    | absent => cases same
    | present other otherRevision =>
      cases Lifecycle.written_injective
        (Option.some.inj (congrArg Version.value (Option.some.inj same)))
      rfl

theorem Holds.eq_some (holds : Holds state (some record)) :
    ∃ revision, state = some ⟨some record.written, revision⟩ := by
  cases holds with
  | present record revision => exact ⟨revision, rfl⟩

/-! ## Justified writes -/

namespace Deployment

variable (deployment : Deployment Index) (key : Key)

/--
No clock reading of a claim is earlier than the first receive that the record
in place names.
-/
def ClocksAfterFirstReceive : Prop :=
  ∀ index shared reading input record, deployment.readings index shared reading →
    deployment.requests index = .claim input →
    Holds (shared.records input.key).current (some record) →
    record.s = .inflight → record.f ≤ reading

/-- The thread is a claim on the message. -/
def Claims (index : Index) : Prop :=
  ∃ input, deployment.requests index = .claim input ∧ input.key = key

/-- The thread acts through a handle for a generation of the message. -/
def Wields (index : Index) (generation : Nat) : Prop :=
  ∃ receipt, ((∃ input, deployment.requests index = .delete input ∧
        deployment.opens input.receiptHandle = some receipt) ∨
    ∃ input, deployment.requests index = .changeVisibility input ∧
      deployment.opens input.receiptHandle = some receipt) ∧
    deployment.receiptKey receipt = key ∧
    receipt.generation = generation

/-- The writes the cores make, and the record each was decided on. -/
inductive Justified (index : Index) : Option Lifecycle → Lifecycle → Prop where
  | first
    {input : ClaimInput} {message : Message}
    {headers : Headers} {t : Int}
    (request : deployment.requests index = .claim input)
    (named : input.key = key)
    (valid : input.validate = .ok ())
    (stored : deployment.bodies key = some message)
    (read : readHeaders message.metadata = .ok headers)
    (reading : ClockReading t)
    (countLeft : headers.rc < maxUint64) :
    Justified index none ((Lifecycle.first headers.rc).receive t input.visibility)
  | again
    {input : ClaimInput} {record : Lifecycle} {t : Int}
    (request : deployment.requests index = .claim input)
    (named : input.key = key)
    (valid : input.validate = .ok ())
    (readable : record.Readable)
    (inflight : record.s = .inflight)
    (expired : record.d ≤ t)
    (reading : ClockReading t)
    (countLeft : record.c < maxUint64)
    (generationLeft : record.g < maxUint64)
    (afterFirst : deployment.ClocksAfterFirstReceive → record.f ≤ t) :
    Justified index (some record) (record.receive t input.visibility)
  | moved
    {input : ChangeVisibilityInput} {receipt : Receipt}
    {record moved : Lifecycle} {t : Int}
    (request : deployment.requests index = .changeVisibility input)
    (opened : deployment.opens input.receiptHandle = some receipt)
    (named : deployment.receiptKey receipt = key)
    (readable : record.Readable)
    (inflight : record.s = .inflight)
    (current : record.g = receipt.generation)
    (timeout : 0 ≤ input.visibilityTimeout ∧ input.visibilityTimeout ≤ maxVisibilitySeconds)
    (reading : ClockReading t)
    (afterReceive : deployment.CommonClock → record.r ≤ t)
    (moves : record.move t input.visibilityTimeout = .ok moved) :
    Justified index (some record) moved
  | deleted
    {input : DeleteInput} {receipt : Receipt}
    {record : Lifecycle}
    (request : deployment.requests index = .delete input)
    (opened : deployment.opens input.receiptHandle = some receipt)
    (named : deployment.receiptKey receipt = key)
    (readable : record.Readable)
    (inflight : record.s = .inflight)
    (current : record.g = receipt.generation) :
    Justified index (some record) { record with s := .deleted }

variable {deployment key} {index : Index} {before after : Lifecycle}

section

variable (justified : deployment.Justified key index (some before) after)

include justified

/-- Only an in-flight record is ever written over. -/
theorem Justified.replaced_inflight : before.Readable ∧ before.s = .inflight := by
  cases justified with
  | again request named valid readable inflight
  | moved request opened named readable inflight
  | deleted request opened named readable inflight =>
    exact ⟨readable, inflight⟩

/-- A write keeps or raises the generation. -/
theorem Justified.generation_le : before.g ≤ after.g := by
  cases justified with
  | again => exact Nat.le_succ _
  | moved request opened named readable inflight current timeout
      reading afterReceive moves =>
      rw [(Lifecycle.move_eq_ok moves).2.2]
  | deleted => exact Nat.le_refl _

/-- A claim raises generation and receive count by one. -/
theorem Justified.of_claims (claims : deployment.Claims key index) :
    after.g = before.g + 1 ∧ after.c = before.c + 1 ∧ before.d ≤ after.r := by
  rcases claims with ⟨input, request, -⟩
  cases justified with
  | again _ _ _ _ _ expired => exact ⟨rfl, rfl, expired⟩
  | moved other | deleted other => rw [request] at other; cases other

end

/-- Any other write keeps generation, count and receive times. -/
theorem Justified.of_not_claims {before : Option Lifecycle}
    (justified : deployment.Justified key index before after)
    (handle : ¬ deployment.Claims key index) :
    ∃ record, before = some record ∧ deployment.Wields key index record.g ∧ after.g = record.g ∧
      after.c = record.c ∧ after.r = record.r ∧ after.f = record.f := by
  cases justified with
  | first request named | again request named =>
    exact absurd ⟨_, request, named⟩ handle
  | @moved input receipt record _ _ request opened named readable
      inflight current timeout reading afterReceive moves =>
      refine ⟨record, rfl, ⟨receipt, .inr ⟨input, request, opened⟩, named, current.symm⟩, ?_⟩
      rw [(Lifecycle.move_eq_ok moves).2.2]
      exact ⟨rfl, rfl, rfl, rfl⟩
  | @deleted input receipt record request opened named readable
      inflight current =>
      exact ⟨record, rfl, ⟨receipt, .inl ⟨input, request, opened⟩, named,
          current.symm⟩, rfl, rfl, rfl, rfl⟩

end Deployment

/-! ## Sound histories -/

/-- Whether the body was stored at the time of an event. -/
def bodyStoredAt : RecordEvent Index → Bool
  | .committed _ _ _ stamp => stamp.bodyStored
  | .noted returned => returned.bodyStored

variable (history : List (RecordEvent Index))

/-- A claim's write, made while the body was stored, is in the history. -/
def Acknowledged (index : Index) (claim : Claim) : Prop :=
  ∃ (replaced : Option State) (record : Lifecycle) (stamp : Stamp),
    .committed index replaced (some ⟨some record.written, claim.revision⟩) stamp ∈ history ∧
    stamp.bodyStored = true ∧ claim.receiveCount = record.c ∧ claim.generation = record.g ∧
    claim.deadline = record.d ∧ claim.receivedAt = record.r ∧ claim.firstReceive = record.f

/-- The record in place is a tombstone or past the generation. -/
def Outlived (generation : Nat) : Prop :=
  ∃ record, Holds (Log.current none history) (some record) ∧
    (record.s.isTerminal = true ∨ generation < record.g)

namespace Deployment

variable (deployment : Deployment Index) (key : Key)

/-- A return is borne out by the history before it. -/
structure NoteSound (older : List (RecordEvent Index)) (returned : Returned Index) : Prop where
  claimed : ∀ claim, returned.outcome = .claim (.ok claim) →
    deployment.Claims key returned.index → Acknowledged older returned.index claim
  deleted : ∀ input receipt, returned.outcome = .delete (.ok ()) →
    deployment.requests returned.index = .delete input →
    deployment.opens input.receiptHandle = some receipt →
    deployment.receiptKey receipt = key →
    returned.bodyStored = true → Outlived older receipt.generation

/-- One event fits the history before it. -/
def EventSound (older : List (RecordEvent Index)) :
    RecordEvent Index → Prop
  | .committed index replaced (some version) stamp =>
    ∃ before after, Holds replaced before ∧ version.value = some after.written ∧
      deployment.Justified key index before after ∧
      (deployment.CommonClock → after.r ≤ stamp.clock)
  | .committed _ _ none stamp => stamp.bodyStored = false
  | .noted returned => deployment.NoteSound key older returned

/-- The event is a claim's write of this record. -/
def ClaimWrite (event : RecordEvent Index) (record : Lifecycle) : Prop :=
  ∃ (index : Index) (replaced : Option State) (revision : Revision) (stamp : Stamp),
    deployment.Claims key index ∧ event =
      .committed index replaced (some ⟨some record.written, revision⟩) stamp

/-- Every event fits, and no body comes back. -/
def Sound : List (RecordEvent Index) → Prop
  | [] => True
  | event :: older =>
    deployment.EventSound key older event ∧ (bodyStoredAt event = true → ∀ earlier ∈ older,
      bodyStoredAt earlier = true) ∧ Sound older

variable {deployment key}
theorem ClaimWrite.claims
    (write : deployment.ClaimWrite key (.committed index replaced version stamp) record) :
    deployment.Claims key index := by
  rcases write with ⟨other, _, _, _, claims, same⟩
  injection same with sameIndex
  rwa [sameIndex]

theorem Sound.of_append
    (sound : deployment.Sound key (newer ++ older)) : deployment.Sound key older := by
  induction newer with
  | nil => exact sound
  | cons event newer induction => exact induction sound.2.2

theorem Sound.event {event : RecordEvent Index}
    (sound : deployment.Sound key (newer ++ event :: older)) :
    deployment.EventSound key older event :=
  sound.of_append.1

variable {history : List (RecordEvent Index)}

/-- What is in place is always a plain record. -/
theorem Sound.holds_current (sound : deployment.Sound key history) :
    ∃ record, Holds (Log.current none history) record := by
  induction history with
  | nil => exact ⟨none, .absent⟩
  | cons event older induction =>
    cases event with
    | noted returned => exact induction sound.2.2
    | committed index replaced version stamp =>
      cases version with
      | none => exact ⟨none, .absent⟩
      | some version =>
        rcases sound.1 with ⟨_, after, _, value, _⟩
        refine ⟨some after, ?_⟩
        cases version
        cases value
        exact .present _ _

/--
While the body is stored a record is only ever rewritten: what holds of the
record in place and is kept by every justified write still holds later.
-/
theorem Sound.kept (sound : deployment.Sound key (newer ++ older)) (property : Lifecycle → Prop)
    (consistent : Log.Consistent none (newer ++ older))
    (stored : ∀ event ∈ newer, bodyStoredAt event = true)
    (inPlace : Holds (Log.current none older) (some record)) (holds : property record)
    (rewritten : ∀ index replaced version stamp before after,
      .committed index replaced (some version) stamp ∈ newer →
      deployment.Justified key index (some before) after → version.value = some after.written →
      property before → property after) :
    ∃ present, Holds (Log.current none (newer ++ older)) (some present) ∧ property present := by
  induction newer with
  | nil => exact ⟨record, inPlace, holds⟩
  | cons event newer induction =>
    have storedRest : ∀ earlier ∈ newer, bodyStoredAt earlier = true :=
      fun earlier member => stored earlier (List.mem_cons_of_mem _ member)
    have rewrittenRest : ∀ index replaced version stamp before after,
        .committed index replaced (some version) stamp ∈ newer →
        deployment.Justified key index (some before) after → version.value = some after.written →
        property before → property after :=
      fun index replaced version stamp before after member =>
        rewritten index replaced version stamp before after (List.mem_cons_of_mem _ member)
    cases event with
    | noted returned =>
      exact induction sound.2.2 consistent storedRest rewrittenRest
    | committed index replaced version stamp =>
      rcases induction sound.2.2 consistent.2.2 storedRest rewrittenRest with
        ⟨present, presentHolds, presentProperty⟩
      cases version with
      | none =>
        have removed : stamp.bodyStored = false := sound.1
        have kept : stamp.bodyStored = true := stored _ (List.mem_cons_self)
        simp [removed] at kept
      | some version =>
        rcases sound.1 with ⟨before, after, replacedHolds, value, justified, _⟩
        have same : replaced = _ := consistent.1
        rw [same] at replacedHolds
        cases replacedHolds.unique presentHolds
        refine ⟨after, ?_, ?_⟩
        · cases version
          cases value
          exact .present _ _
        · exact rewritten index replaced version stamp present after (List.mem_cons_self) justified
              value presentProperty

/-- A committed write was justified by the record in place before it. -/
theorem Sound.justified (sound : deployment.Sound key
      (newer ++ .committed index replaced (some version) stamp :: older))
    (consistent : Log.Consistent none
      (newer ++ .committed index replaced (some version) stamp :: older)) :
    ∃ before after, Holds (Log.current none older) before ∧ version.value = some after.written ∧
      deployment.Justified key index before after ∧
      (deployment.CommonClock → after.r ≤ stamp.clock) := by
  rcases sound.event with ⟨before, after, replacedHolds, value, justified, clocked⟩
  have same : replaced = _ := consistent.of_append.1
  rw [same] at replacedHolds
  exact ⟨before, after, replacedHolds, value, justified, clocked⟩

/--
What every first receive establishes and every rewrite keeps holds of every
record ever written.
-/
theorem Sound.everywhere (property : Lifecycle → Prop)
    (created : ∀ index after, deployment.Justified key index none after → property after)
    (rewritten : ∀ index before after,
      deployment.Justified key index (some before) after → property before → property after)
    (sound : deployment.Sound key history) (consistent : Log.Consistent none history) :
    ∀ version ∈ Log.versions none history, ∃ record : Lifecycle,
      version.value = some record.written ∧ property record := by
  induction history with
  | nil =>
    intro version member
    cases member
  | cons event older induction =>
    cases event with
    | noted returned => exact induction sound.2.2 consistent
    | committed index replaced version stamp =>
      have earlier := induction sound.2.2 consistent.2.2
      cases version with
      | none => exact earlier
      | some version =>
        intro written member
        rcases List.mem_append.1 member with fresh | old
        · cases Option.mem_toList.1 fresh
          rcases sound.1 with ⟨before, after, holds, value, justified, -⟩
          refine ⟨after, value, ?_⟩
          cases before with
          | none => exact created index after justified
          | some before =>
            have inPlace : replaced = _ := consistent.1
            rw [inPlace] at holds
            rcases holds.eq_some with ⟨revision, current⟩
            rcases earlier _ (Log.mem_versions_of_current current) with
              ⟨record, same, holdsProperty⟩
            cases Lifecycle.written_injective (Option.some.inj same)
            exact rewritten index before after justified holdsProperty
        · exact earlier written old

/--
A write made while the body was stored was decided on a record that still had
whatever the writes since an earlier record kept.
-/
theorem Sound.decided_on (sound : deployment.Sound key (newer ++
      .committed index replaced (some version) stamp :: (middle ++ older)))
    (consistent : Log.Consistent none (newer ++
      .committed index replaced (some version) stamp :: (middle ++ older)))
    (stored : stamp.bodyStored = true) (property : Lifecycle → Prop)
    (inPlace : Holds (Log.current none older) (some record)) (holds : property record)
    (rewritten : ∀ index replaced version stamp before after,
      .committed index replaced (some version) stamp ∈ middle →
      deployment.Justified key index (some before) after → version.value = some after.written →
      property before → property after) :
    ∃ before after, property before ∧ version.value = some after.written ∧
      deployment.Justified key index (some before) after := by
  have storedBefore : ∀ event ∈ middle, bodyStoredAt event = true := by
    intro event member
    exact sound.of_append.2.1 stored _ (List.mem_append_left _ member)
  have consistentBefore : Log.Consistent none (middle ++ older) := consistent.of_append.2.2
  rcases sound.of_append.2.2.kept property consistentBefore
      storedBefore inPlace holds rewritten with
    ⟨present, presentHolds, presentProperty⟩
  rcases sound.justified consistent with ⟨before, after, beforeHolds, value, justified, -⟩
  cases beforeHolds.unique presentHolds
  exact ⟨present, after, presentProperty, value, justified⟩

end Deployment

end Spinifex.Sqs
