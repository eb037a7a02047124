import Spinifex.Sqs.Cores
import Spinifex.Sqs.Schedule

/-!
# Finality of deletes and exclusiveness of receipts

Two guarantees of the message lifecycle, read off sound histories.  After a
delete took effect no claim write is ever made while the body is stored, so a
claim that still returns success had written before.  While the body is stored
the record is never removed, so generations and receive counts go up by one
with every claim write and a handle acts only on the generation in place.
-/

namespace Spinifex.Sqs

open Concurrency Go List

variable {Index : Type}

namespace Deployment

variable {deployment : Deployment Index} {key : Key}
    {older newer history : List (RecordEvent Index)}

/-! ## Finality -/

/--
The delete took effect: its tombstone is written, or it returned success while
the record was at its handle's generation.
-/
inductive DeleteTakesEffect (deployment : Deployment Index) (key : Key)
    (older : List (RecordEvent Index)) : RecordEvent Index → Prop where
  | tombstone
    {index : Index} {input : DeleteInput}
    {replaced : Option State} {revision : Revision}
    {record : Lifecycle} {stamp : Stamp}
    (request : deployment.requests index = .delete input)
    (deleted : record.s = .deleted) :
    DeleteTakesEffect deployment key older (.committed index replaced
      (some ⟨some record.written, revision⟩) stamp)
  | returned
    {index : Index} {input : DeleteInput} {receipt : Receipt}
    {record : Lifecycle} {bodyStored : Bool}
    (request : deployment.requests index = .delete input)
    (opened : deployment.opens input.receiptHandle = some receipt)
    (named : deployment.receiptKey receipt = key)
    (inPlace : Holds (Log.current none older) (some record))
    (current : record.g = receipt.generation) :
    DeleteTakesEffect deployment key older (.noted ⟨index, .delete (.ok ()), bodyStored⟩)

variable {event : RecordEvent Index}

section

variable (effect : DeleteTakesEffect deployment key older event)

include effect

/-- From then on the record in place is terminal or the body is gone. -/
theorem DeleteTakesEffect.terminal (sound : deployment.EventSound key older event)
    (stored : bodyStoredAt event = true) :
    ∃ record, Holds (Log.current none (event :: older)) (some record) ∧
      record.s.isTerminal = true := by
  cases effect with
  | @tombstone _ _ _ _ record _ request deleted =>
    refine ⟨record, .present _ _, ?_⟩
    rw [deleted]
    rfl
  | @returned _ input receipt record _ request opened named
      inPlace current =>
      have outlived := sound.deleted input receipt rfl request opened named stored
      rcases outlived with ⟨present, holds, settled⟩
      cases holds.unique inPlace
      rcases settled with terminal | passed
      · exact ⟨record, inPlace, terminal⟩
      · omega

variable {index : Index} {replaced : Option State} {stamp : Stamp}

theorem DeleteTakesEffect.writer (same : event = .committed index replaced version stamp) :
    ∃ input, deployment.requests index = .delete input := by
  cases effect with
  | tombstone request =>
    cases same
    exact ⟨_, request⟩
  | returned => cases same

end

/-- A terminal record is not written over while the body is stored. -/
theorem Sound.no_write_after_terminal (sound : deployment.Sound key (newer ++ event :: older))
    (consistent : Log.Consistent none (newer ++ event :: older))
    (terminal : bodyStoredAt event = true → ∃ record,
      Holds (Log.current none (event :: older)) (some record) ∧ record.s.isTerminal = true)
    (written : .committed index replaced (some version) stamp ∈ newer) :
    stamp.bodyStored = false := by
  rcases append_of_mem written with ⟨newest, middle, rfl⟩
  rw [append_assoc, cons_append] at sound consistent
  cases stored : stamp.bodyStored with
  | false => rfl
  | true =>
    have eventStored : bodyStoredAt event = true :=
      sound.of_append.2.1 stored _ (mem_append_right _ mem_cons_self)
    rcases terminal eventStored with ⟨record, inPlace, isTerminal⟩
    rcases sound.decided_on consistent stored (fun record => record.s.isTerminal = true)
        inPlace isTerminal
        (by
            intro _ _ _ _ before _ _ justified _ beforeTerminal
            rw [justified.replaced_inflight.2] at beforeTerminal
            cases beforeTerminal) with
      ⟨before, _, beforeTerminal, _, justified⟩
    rw [justified.replaced_inflight.2] at beforeTerminal
    cases beforeTerminal

variable [DecidableEq Index] {pool : RequestPool Index}

/--
A claim that returns success after a delete took effect made its write before:
no claim whose write came later ever returns success.
-/
theorem claim_returned_after_delete_was_written_before
    (reached : deployment.Reaches pool) {event : RecordEvent Index}
    (history : (pool.shared.records key).log = newer ++ event :: older)
    (effect : DeleteTakesEffect deployment key older event)
    {index : Index} {claim : Claim} {bodyStored : Bool} (claims : deployment.Claims key index)
    (returned : .noted ⟨index, .claim (.ok claim), bodyStored⟩ ∈ newer) :
    Acknowledged older index claim := by
  have orderly := reached.orderly key
  have sound := orderly.sound
  have consistent := orderly.consistent
  have claimReturned : deployment.ClaimReturned key index claim pool.shared := by
    refine ⟨claims, bodyStored, ?_⟩
    rw [history]
    exact mem_append_left _ returned
  rcases orderly.acknowledged claimReturned with ⟨replaced, record, stamp, written, stored, fields⟩
  rw [history] at sound consistent written
  rcases mem_append.1 written with after | before
  · have unstored := sound.no_write_after_terminal consistent (effect.terminal sound.event) after
    simp [stored] at unstored
  · rcases mem_cons.1 before with same | earlier
    · rcases claims with ⟨input, request, -⟩
      rcases effect.writer same.symm with ⟨other, otherRequest⟩
      simp [request] at otherRequest
    · exact ⟨replaced, record, stamp, earlier, stored, fields⟩

end Deployment

/-! ### A claim overtaken between its write and its return -/

namespace Sample

/-- Two receives that hide the message for no time, and a delete. -/
def overtaken : Deployment Caller :=
  deployment (fun
      | .first | .second => receive 0
      | .holder => .delete ⟨"account", "region", "name", "handle"⟩)
    2

/--
The first receive writes and pauses; the second one writes, returns and its
handle deletes the message; then the first one returns.
-/
def overtaking : List (System.Move Caller Choice) :=
  [steps .first 2, reads .first 1000, steps .first 1, steps .second 2, reads .second 1000,
    steps .second 3, steps .holder 1, resolves .holder, steps .holder 4, steps .first 2].flatten

/-- The record after the first and after the second receive. -/
def received (count : Nat) : Lifecycle :=
  ⟨1, .inflight, count, count, 1000, 1000, 1000⟩

/-- What the receive with the given count returned. -/
def returnedClaim (count : Nat) : Claim :=
  Claim.ofRecord message [] headers (received count).stored count

/-- The history up to the second receive's return. -/
def beforeTombstone : List (RecordEvent Caller) :=
  [.noted ⟨.second, .claim (.ok (returnedClaim 2)), true⟩,
    .committed .second (some ⟨some (received 1).written, 1⟩)
      (some ⟨some (received 2).written, 2⟩) ⟨true, 1000⟩,
    .committed .first none (some ⟨some (received 1).written, 1⟩) ⟨true, 1000⟩]

/-- The tombstone the delete writes. -/
def tombstone : RecordEvent Caller :=
  .committed .holder (some ⟨some (received 2).written, 2⟩)
    (some ⟨some { received 2 with s := .deleted }.written, 3⟩)
    ⟨true, 1000⟩

/-- What happens after the tombstone is written. -/
def afterTombstone : List (RecordEvent Caller) :=
  [.noted ⟨.first, .claim (.ok (returnedClaim 1)), true⟩, .noted ⟨.holder, .delete (.ok ()), true⟩]

theorem overtaken_history :
    ∃ pool, overtaken.Reaches pool ∧ (pool.shared.records key).log =
      afterTombstone ++ tombstone :: beforeTombstone := by
  have played : (overtaken.play (anyClock _ _) overtaking).map
        (fun pool => (pool.shared.records key).log) =
      some (afterTombstone ++ tombstone :: beforeTombstone) := by
    rfl
  exact overtaken.exists_reaches_of_play played

theorem overtaken_tombstone_takes_effect :
    overtaken.DeleteTakesEffect key beforeTombstone tombstone :=
  .tombstone rfl rfl

theorem overtaken_claims : overtaken.Claims key .first :=
  ⟨_, rfl, rfl⟩

end Sample

open Sample

namespace Deployment

/-- A claim that had written but not returned may return after a delete. -/
theorem claim_returns_success_after_tombstone :
    ∃ pool newer event older claim, overtaken.Reaches pool ∧
      (pool.shared.records Sample.key).log = newer ++ event :: older ∧
      overtaken.DeleteTakesEffect Sample.key older event ∧ overtaken.Claims Sample.key .first ∧
      .noted ⟨.first, .claim (.ok claim), true⟩ ∈ newer ∧ ∀ outcome bodyStored,
      .noted ⟨.first, outcome, bodyStored⟩ ∉ older := by
  rcases overtaken_history with ⟨pool, reached, history⟩
  refine ⟨pool, afterTombstone, tombstone, beforeTombstone, returnedClaim 1, reached, history,
      overtaken_tombstone_takes_effect, overtaken_claims, ?_, ?_⟩
  · exact mem_cons_self
  · intro outcome bodyStored member
    simp [beforeTombstone] at member

/-- The overtaken claim had written before the tombstone. -/
theorem overtaken_claim_was_written_before :
    Acknowledged beforeTombstone .first (returnedClaim 1) := by
  rcases overtaken_history with ⟨pool, reached, history⟩
  exact claim_returned_after_delete_was_written_before reached history
      overtaken_tombstone_takes_effect overtaken_claims mem_cons_self

variable {deployment : Deployment Index} {key : Key}
    {older newer history : List (RecordEvent Index)}

/-! ## Receipts -/

/--
The receive count before the next claim: that of the latest claim write, or
the one the message carried.
-/
def CountBefore (deployment : Deployment Index) (key : Key)
    (history : List (RecordEvent Index)) (count : Nat) : Prop :=
  (∃ newer event older record, history = newer ++ event :: older ∧
      deployment.ClaimWrite key event record ∧
      (∀ later ∈ newer, ∀ other, ¬ deployment.ClaimWrite key later other) ∧
      count = record.c) ∨
    ((∀ event ∈ history, ∀ other, ¬ deployment.ClaimWrite key event other) ∧
      ∃ message headers, deployment.bodies key = some message ∧
        readHeaders message.metadata = .ok headers ∧
        count = headers.rc)

/-- An event that is no claim write leaves the latest one in place. -/
theorem CountBefore.cons {count : Nat} (counted : deployment.CountBefore key history count)
    (other : ∀ record, ¬ deployment.ClaimWrite key event record) :
    deployment.CountBefore key (event :: history) count := by
  rcases counted with ⟨newer, write, older, record, rfl, isWrite, latest, same⟩ | ⟨none, carried⟩
  · refine .inl ⟨event :: newer, write, older, record, rfl, isWrite, ?_, same⟩
    intro later member
    rcases mem_cons.1 member with rfl | earlier
    · exact other
    · exact latest later earlier
  · refine .inr ⟨?_, carried⟩
    intro later member
    rcases mem_cons.1 member with rfl | earlier
    · exact other
    · exact none later earlier

variable {index : Index}

/-- A record's generation is below that of any later acknowledged claim. -/
theorem Sound.generation_lt (sound : deployment.Sound key (newer ++
      .committed index replaced (some version) stamp :: (middle ++ older)))
    (consistent : Log.Consistent none (newer ++
      .committed index replaced (some version) stamp :: (middle ++ older)))
    (stored : stamp.bodyStored = true) (claims : deployment.Claims key index)
    (inPlace : Holds (Log.current none older) (some record)) :
    ∃ after : Lifecycle, version.value = some after.written ∧ record.g < after.g := by
  rcases sound.decided_on consistent stored (fun present => record.g ≤ present.g) inPlace
      (Nat.le_refl _)
      (fun _ _ _ _ _ _ _ justified _ below => Nat.le_trans below justified.generation_le) with
    ⟨before, after, below, value, justified⟩
  have raised := (justified.of_claims claims).1
  exact ⟨after, value, by omega⟩

/--
While the body is stored, the record in place counts the receives so far; no
record means none.
-/
theorem Sound.countBefore
    (sound : deployment.Sound key history) (consistent : Log.Consistent none history)
    (stored : ∀ event ∈ history, bodyStoredAt event = true) :
    (∀ record, Holds (Log.current none history) (some record) →
      deployment.CountBefore key history record.c) ∧ (Log.current none history = none →
      ∀ event ∈ history, ∀ record, ¬ deployment.ClaimWrite key event record) := by
  induction history with
  | nil =>
    refine ⟨?_, ?_⟩
    · nofun
    · intro _ event member
      cases member
  | cons event older induction =>
    have storedRest : ∀ earlier ∈ older, bodyStoredAt earlier = true :=
      fun earlier member => stored earlier (mem_cons_of_mem _ member)
    cases event with
    | noted returned =>
      have unwritten : ∀ record, ¬ deployment.ClaimWrite key (.noted returned) record := by
        rintro record ⟨_, _, _, _, _, impossible⟩
        cases impossible
      rcases induction sound.2.2 consistent storedRest with ⟨present, absent⟩
      refine ⟨?_, ?_⟩
      · intro record holds
        exact (present record holds).cons unwritten
      · intro empty event member
        rcases mem_cons.1 member with rfl | earlier
        · exact unwritten
        · exact absent empty event earlier
    | committed index replaced version stamp =>
      rcases induction sound.2.2 consistent.2.2 storedRest with ⟨present, absent⟩
      cases version with
      | none =>
        have removed : stamp.bodyStored = false := sound.1
        have kept : stamp.bodyStored = true := stored _ mem_cons_self
        simp [removed] at kept
      | some version =>
        rcases sound.1 with ⟨before, after, beforeHolds, value, justified, -⟩
        have inPlace : replaced = _ := consistent.1
        rw [inPlace] at beforeHolds
        refine ⟨?_, nofun⟩
        intro record holds
        cases version
        cases value
        cases holds.unique (.present after _)
        by_cases claims : deployment.Claims key index
        · refine .inl ⟨[], _, older, after, rfl, ⟨index, replaced, _, stamp, claims, rfl⟩, ?_, rfl⟩
          nofun
        · rcases justified.of_not_claims claims with ⟨earlier, rfl, _, _, sameCount, _⟩
          rw [sameCount]
          apply (present earlier beforeHolds).cons
          intro other write
          exact claims write.claims

/-- The event is the write a returned claim answers for. -/
def WriteOf (index : Index) (claim : Claim) (event : RecordEvent Index) : Prop :=
  ∃ (replaced : Option State) (record : Lifecycle) (stamp : Stamp),
    event = .committed index replaced (some ⟨some record.written, claim.revision⟩) stamp ∧
    record.g = claim.generation ∧ record.c = claim.receiveCount ∧ stamp.bodyStored = true

variable {shared : Shared Index} {claim : Claim}

section

variable (orderly : deployment.Orderly key shared)

include orderly

theorem Orderly.writeOf (returned : deployment.ClaimReturned key index claim shared) :
    ∃ event ∈ (shared.records key).log, WriteOf index claim event := by
  rcases orderly.acknowledged returned with
    ⟨replaced, record, stamp, member, stored, count, generation, -⟩
  exact ⟨_, member, replaced, record, stamp, rfl, generation.symm, count.symm, stored⟩

/-- Of two acknowledged claim writes the later has the higher generation. -/
theorem Orderly.generation_lt_of_precedes {first second : Index}
    (claims : deployment.Claims key second) (leftWrite : WriteOf first left earlier)
    (rightWrite : WriteOf second right later)
    (precedes : Log.Precedes (shared.records key).log earlier later) :
    left.generation < right.generation := by
  rcases precedes with ⟨newer, middle, older, split⟩
  rcases leftWrite with ⟨_, leftRecord, _, rfl, leftGeneration, -⟩
  rcases rightWrite with ⟨_, rightRecord, _, rfl, rightGeneration, -, stored⟩
  have sound := orderly.sound
  have consistent := orderly.consistent
  rw [split] at sound consistent
  rcases sound.generation_lt consistent stored claims (.present leftRecord _) with
    ⟨after, value, below⟩
  cases Lifecycle.written_injective (Option.some.inj value)
  omega

/-- A returned claim counts one more than what was counted before it. -/
theorem Orderly.receiveCount_eq (returned : deployment.ClaimReturned key index claim shared) :
    ∃ newer event older count, (shared.records key).log = newer ++ event :: older ∧
      WriteOf index claim event ∧ deployment.CountBefore key older count ∧
      claim.receiveCount = count + 1 := by
  rcases orderly.writeOf returned with
    ⟨event, member, replaced, record, stamp, rfl, generation, counted, stored⟩
  rcases append_of_mem member with ⟨newer, older, split⟩
  have sound := orderly.sound
  have consistent := orderly.consistent
  rw [split] at sound consistent
  have storedBefore : ∀ event ∈ older, bodyStoredAt event = true :=
    sound.of_append.2.1 stored
  have countBefore := sound.of_append.2.2.countBefore consistent.of_append.2.2 storedBefore
  rcases sound.justified consistent with ⟨before, after, beforeHolds, value, justified, -⟩
  cases Lifecycle.written_injective (Option.some.inj value)
  refine ⟨newer, _, older, record.c - 1, split,
      ⟨replaced, record, stamp, rfl, generation, counted, stored⟩,
      ?_⟩
  cases before with
  | some earlier =>
    have raised := (justified.of_claims returned.1).2.1
    have same : record.c - 1 = earlier.c := by omega
    rw [same]
    exact ⟨countBefore.1 earlier beforeHolds, by omega⟩
  | none =>
    have empty : Log.current none older = none := by
      generalize inPlace : Log.current none older = state at beforeHolds
      cases beforeHolds
      rfl
    cases justified with
    | first _ _ _ messageStored read =>
      exact ⟨.inr ⟨countBefore.2 empty, _, _, messageStored, read, rfl⟩, counted.symm⟩

end

variable [DecidableEq Index] {pool : RequestPool Index}

/--
Returned claims have generations that rise in the order of their writes and
receive counts that go up by one, and a delete or a visibility change writes
only over the generation its handle was issued for.
-/
theorem receipt_generations_are_exclusive (reached : deployment.Reaches pool) (key : Key) :
    (∀ first second left right, first ≠ second →
      deployment.ClaimReturned key first left pool.shared →
      deployment.ClaimReturned key second right pool.shared → ∃ earlier later,
        WriteOf first left earlier ∧ WriteOf second right later ∧
          (Log.Precedes (pool.shared.records key).log earlier later ∧
              left.generation < right.generation ∨
            Log.Precedes (pool.shared.records key).log later earlier ∧
              right.generation < left.generation)) ∧
      (∀ index claim, deployment.ClaimReturned key index claim pool.shared →
        ∃ newer event older count, (pool.shared.records key).log = newer ++ event :: older ∧
          WriteOf index claim event ∧
          deployment.CountBefore key older count ∧
          claim.receiveCount = count + 1) ∧
      ∀ newer older index replaced version stamp, (pool.shared.records key).log =
            newer ++ .committed index replaced (some version) stamp :: older →
        ¬ deployment.Claims key index → ∃ record,
          Holds (Log.current none older) (some record) ∧ record.s = .inflight ∧
            deployment.Wields key index record.g := by
  have orderly := reached.orderly key
  refine ⟨?_, ?_, ?_⟩
  · intro first second left right different leftReturned rightReturned
    rcases orderly.writeOf leftReturned with ⟨earlier, earlierMember, leftWrite⟩
    rcases orderly.writeOf rightReturned with ⟨later, laterMember, rightWrite⟩
    have distinct : earlier ≠ later := by
      rintro rfl
      rcases leftWrite with ⟨_, _, _, rfl, -⟩
      rcases rightWrite with ⟨_, _, _, same, -⟩
      injection same with sameIndex
      exact different sameIndex
    refine ⟨earlier, later, leftWrite, rightWrite, ?_⟩
    rcases Log.precedes_total earlierMember laterMember distinct with
      precedes | precedes
    · exact .inl ⟨precedes, orderly.generation_lt_of_precedes rightReturned.1
          leftWrite rightWrite precedes⟩
    · exact .inr ⟨precedes, orderly.generation_lt_of_precedes leftReturned.1
          rightWrite leftWrite precedes⟩
  · intro index claim returned
    exact orderly.receiveCount_eq returned
  · intro newer older index replaced version stamp split handle
    have sound := orderly.sound
    have consistent := orderly.consistent
    rw [split] at sound consistent
    rcases sound.justified consistent with ⟨before, after, holds, _, justified, -⟩
    rcases justified.of_not_claims handle with ⟨record, rfl, wields, -⟩
    exact ⟨record, holds, justified.replaced_inflight.2, wields⟩

/-- The two receives of the overtaken run have rising generations. -/
theorem overtaken_generations_are_exclusive :
    ∃ pool earlier later, overtaken.Reaches pool ∧ WriteOf .first (returnedClaim 1) earlier ∧
      WriteOf .second (returnedClaim 2) later ∧
      (Log.Precedes (pool.shared.records Sample.key).log earlier later ∧
          (returnedClaim 1).generation < (returnedClaim 2).generation ∨
        Log.Precedes (pool.shared.records Sample.key).log later earlier ∧
          (returnedClaim 2).generation < (returnedClaim 1).generation) := by
  rcases overtaken_history with ⟨pool, reached, history⟩
  have firstReturned : overtaken.ClaimReturned Sample.key .first (returnedClaim 1) pool.shared := by
    refine ⟨⟨_, rfl, rfl⟩, true, ?_⟩
    rw [history]
    exact mem_cons_self
  have secondReturned : overtaken.ClaimReturned Sample.key .second
      (returnedClaim 2) pool.shared := by
    refine ⟨⟨_, rfl, rfl⟩, true, ?_⟩
    rw [history]
    exact mem_append_right _ (mem_cons_of_mem _ mem_cons_self)
  rcases (receipt_generations_are_exclusive reached Sample.key).1
      .first .second _ _ (by decide) firstReturned secondReturned with
    ⟨earlier, later, leftWrite, rightWrite, ordered⟩
  exact ⟨pool, earlier, later, reached, leftWrite, rightWrite, ordered⟩

end Deployment

end Spinifex.Sqs
