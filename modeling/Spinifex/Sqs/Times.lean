import Spinifex.Sqs.Cores
import Spinifex.Sqs.Schedule

/-!
# Times in the state record

The record's times come from different callers' clocks.  As long as no claim
reads a time before the first receive of the record it finds, every record that
is written can be read back.  If all callers share one clock that never goes
back, a claim writes over an in-flight record only after its deadline, and
every record keeps its times in order, with the deadline within twelve hours
of the receive that issued the generation.
-/

namespace Spinifex.Sqs

open Concurrency Go Lifecycle

variable {Index : Type}

/-! ## Deadlines do not wrap -/

theorem milliseconds_bounds (low : 0 ≤ visibility) (high : visibility ≤ maxVisibilityTimeout) :
    0 ≤ milliseconds visibility ∧ milliseconds visibility ≤ milliseconds maxVisibilityTimeout := by
  constructor
  · exact Int.tdiv_nonneg low (by decide)
  · exact Int.tdiv_le_tdiv (by decide) high

theorem milliseconds_maxVisibilityTimeout : milliseconds maxVisibilityTimeout = 43200000 := by
  decide

/-- A receive's deadline lies within twelve hours of it. -/
theorem Lifecycle.receive_deadline (record : Lifecycle) (reading : ClockReading t)
    (low : 0 ≤ visibility) (high : visibility ≤ maxVisibilityTimeout) :
    t ≤ (record.receive t visibility).d ∧ (record.receive t visibility).d ≤
      t + milliseconds maxVisibilityTimeout := by
  have bounds := milliseconds_bounds low high
  rcases reading with ⟨positive, representable⟩
  have unwrapped : (record.receive t visibility).d = t + milliseconds visibility := by
    refine int64_of_fits ?_ ?_
    · unfold minInt64
      omega
    · omega
  omega

namespace Deployment

variable {deployment : Deployment Index} {key : Key} {index : Index}

/-- A moved deadline is exactly now plus the timeout. -/
theorem move_deadline {record moved : Lifecycle} (reading : ClockReading t)
    (low : 0 ≤ timeout) (high : timeout ≤ maxVisibilitySeconds)
    (moves : record.move t timeout = .ok moved) :
    moved = { record with d := t + timeout * 1000 } ∧ t + timeout * 1000 ≤
      int64 (record.r + milliseconds maxVisibilityTimeout) := by
  rcases reading with ⟨positive, representable⟩
  rw [milliseconds_maxVisibilityTimeout] at representable
  unfold maxVisibilitySeconds at high
  have exactly : int64 (t + timeout * 1000) = t + timeout * 1000 := by
    refine int64_of_fits ?_ ?_
    · unfold minInt64
      omega
    · omega
  rcases move_eq_ok moves with ⟨-, capped, rfl⟩
  rw [exactly] at capped ⊢
  exact ⟨rfl, capped⟩

/-! ## Records stay readable -/

private theorem fits_of_times {record : Lifecycle} (version : record.v = stateVersion)
    (count : record.c ≤ maxUint64) (generation : record.g ≤ maxUint64)
    (deadline : 0 < record.d ∧ record.d ≤ maxInt64) (receive : 0 < record.r ∧ record.r ≤ maxInt64)
    (first : 0 < record.f ∧ record.f ≤ maxInt64) : record.Fits := by
  have versionFits : minInt64 ≤ stateVersion ∧ stateVersion ≤ maxInt64 := by
    decide
  have negative : minInt64 < 0 := by decide
  refine ⟨?_, ⟨count, generation⟩, ?_, ?_, ?_⟩
  · rwa [version]
  all_goals omega

/-- The times a receive writes. -/
theorem receive_times {record : Lifecycle} {input : ClaimInput}
    (valid : input.validate = .ok ()) (reading : ClockReading t)
    (first : 0 ≤ record.f ∧ record.f ≤ t) :
    (0 < (record.receive t input.visibility).f ∧ (record.receive t input.visibility).f ≤ t) ∧
      t ≤ (record.receive t input.visibility).d ∧
      (record.receive t input.visibility).d ≤ t + milliseconds maxVisibilityTimeout := by
  rcases ClaimInput.validate_eq_ok valid with ⟨_, low, high, _⟩
  have positive := reading.1
  refine ⟨?_, record.receive_deadline reading low high⟩
  simp only [receive]
  split_ifs <;> omega

/-- A receive at a sensible time writes a readable record. -/
theorem receive_readable {record : Lifecycle} {input : ClaimInput}
    (valid : input.validate = .ok ()) (reading : ClockReading t)
    (countLeft : record.c < maxUint64) (generationLeft : record.g < maxUint64)
    (first : 0 ≤ record.f ∧ record.f ≤ t) : (record.receive t input.visibility).Readable := by
  obtain ⟨firstTime, deadline⟩ := receive_times valid reading first
  rcases reading with ⟨positive, representable⟩
  refine ⟨rfl, ?_, ?_⟩
  · refine fits_of_times rfl countLeft generationLeft ?_ ?_ ?_
    · omega
    · exact ⟨positive, by show t ≤ maxInt64; omega⟩
    · omega
  · intro _
    have receive : (record.receive t input.visibility).r = t := rfl
    simp only [incomplete, Bool.or_eq_false_iff, decide_eq_false_iff_not]
    refine ⟨⟨⟨⟨⟨?_, ?_⟩, ?_⟩, ?_⟩, ?_⟩, ?_⟩
    · exact Nat.succ_ne_zero _
    · exact Nat.succ_ne_zero _
    all_goals omega

/-- A write decided on sensible clock readings is readable. -/
theorem Justified.readable
    {before : Option Lifecycle} {after : Lifecycle} (respected : deployment.ClocksAfterFirstReceive)
    (justified : deployment.Justified key index before after) : after.Readable := by
  cases justified with
  | first _ _ valid _ _ reading countLeft =>
    exact receive_readable valid reading countLeft (by show 0 < maxUint64; decide)
        ⟨Int.le_refl _, Int.le_of_lt reading.1⟩
  | again _ _ valid readable inflight _ reading countLeft
      generationLeft afterFirst =>
      have ordered := readable.ordered inflight
      exact receive_readable valid reading countLeft generationLeft ⟨by omega, afterFirst respected⟩
  | @moved input _ record _ t _ _ _ readable inflight _ timeout
      reading _ moves =>
      have ordered := readable.ordered inflight
      have version := readable.version
      rcases readable.fits with ⟨_, ⟨count, generation⟩, _, receive, first⟩
      rcases move_deadline reading timeout.1 timeout.2 moves with ⟨rfl, -⟩
      have high := timeout.2
      rcases reading with ⟨positive, representable⟩
      rw [milliseconds_maxVisibilityTimeout] at representable
      unfold maxVisibilitySeconds at high
      refine ⟨version, ?_, ?_⟩
      · refine fits_of_times version count generation ?_ ?_ ?_
        · show 0 < t + input.visibilityTimeout * 1000 ∧
              t + input.visibilityTimeout * 1000 ≤ maxInt64
          omega
        · exact ⟨by show 0 < record.r; omega, receive.2⟩
        · exact ⟨ordered.2.2.2.1, first.2⟩
      · intro _
        simp only [incomplete, Bool.or_eq_false_iff, decide_eq_false_iff_not]
        omega
  | deleted _ _ _ readable =>
    refine ⟨readable.version, readable.fits, ?_⟩
    intro wrong
    cases wrong

/-- Claims read no time before the first receive of the record in place. -/
def afterFirstReceive (deployment : Deployment Index) : Deployment Index :=
  { deployment with
    readings := fun index shared reading => deployment.readings index shared reading ∧
      ∀ input record, deployment.requests index = .claim input →
        Holds (shared.records input.key).current (some record) →
        record.s = .inflight → record.f ≤ reading }

theorem afterFirstReceive_respected : (deployment.afterFirstReceive).ClocksAfterFirstReceive := by
  intro index shared reading input record admitted request holds
  exact admitted.2 input record request holds

/-- All callers read one clock that never goes back. -/
def commonClock (deployment : Deployment Index) : Deployment Index :=
  { deployment with
    readings := fun index shared reading =>
      deployment.readings index shared reading ∧ shared.clock ≤ reading }

theorem commonClock_common : (deployment.commonClock).CommonClock := by
  intro index shared reading admitted
  exact admitted.2

/--
If no claim reads a time before the first receive that the record in place
names, every state record ever written is read back.
-/
theorem written_records_stay_readable [DecidableEq Index] {pool : RequestPool Index}
    (reached : deployment.afterFirstReceive.Reaches pool) {version : State}
    (written : (pool.shared.records key).Seen version) :
    ∃ record, decodeState version.value = .ok record := by
  have orderly := reached.orderly key
  unfold Register.Seen at written
  rw [orderly.base] at written
  rcases orderly.sound.everywhere Lifecycle.Readable
      (fun _ _ justified => justified.readable afterFirstReceive_respected)
      (fun _ _ _ justified _ => justified.readable afterFirstReceive_respected)
      orderly.consistent version written with
    ⟨record, value, readable⟩
  rw [value]
  exact ⟨record.stored, decodeState_written readable⟩

end Deployment

/-! ### A receive by a clock behind the first one's -/

namespace Sample

/-- Two receives of half a minute and a change to visible at once. -/
def skewed : Deployment Caller :=
  deployment (fun
      | .first | .second => receive (30 * second)
      | .holder =>
        .changeVisibility ⟨"account", "region", "name", "handle", 0⟩)
    1

/--
The first receive reads time 1000; its handle makes the message visible by a
clock that reads 500; the second receive reads 600.
-/
def skewing : List (System.Move Caller Choice) :=
  [steps .first 2, reads .first 1000, steps .first 2, reads .first 1001, steps .first 1,
    steps .holder 1, resolves .holder, steps .holder 2, reads .holder 500, steps .holder 2,
    steps .second 2, reads .second 600, steps .second 1].flatten

/-- The record the second receive writes. -/
def receivedBeforeFirst : Lifecycle :=
  ⟨1, .inflight, 2, 2, 30600, 600, 1000⟩

theorem skewed_current :
    ∃ pool, skewed.Reaches pool ∧ (pool.shared.records key).current =
      some ⟨some receivedBeforeFirst.written, 3⟩ := by
  have played : (skewed.play (anyClock _ _) skewing).map
        (fun pool => (pool.shared.records key).current) =
      some (some ⟨some receivedBeforeFirst.written, 3⟩) := by
    rfl
  exact skewed.exists_reaches_of_play played

/-- Two receives of half a minute. -/
def repeated : Deployment Bool :=
  deployment (fun _ => receive (30 * second)) 1

/-- The record the first receive writes. -/
def receivedOnce : Lifecycle :=
  ⟨1, .inflight, 1, 1, 31000, 1000, 1000⟩

/-- The record the second receive writes. -/
def receivedAgain : Lifecycle :=
  ⟨1, .inflight, 2, 2, 70000, 40000, 1000⟩

/-- Readings while there is no record, or that of the first receive before them. -/
def firstReceiveClock : repeated.afterFirstReceive.ClockCheck where
  admits _ shared reading := (shared.records key).current.all fun version =>
    version.value = some receivedOnce.written && receivedOnce.f ≤ reading
  sound := by
    intro index shared reading admitted
    refine ⟨trivial, ?_⟩
    rintro input record ⟨⟩ holds -
    change Holds (shared.records key).current _ at holds
    obtain ⟨revision, inPlace⟩ := holds.eq_some
    rw [inPlace] at admitted
    simp only [Option.all_some, Bool.and_eq_true, decide_eq_true_eq] at admitted
    cases Lifecycle.written_injective (Option.some.inj admitted.1)
    exact admitted.2

/-- Readings that are not behind the last one. -/
def forwardClock : repeated.commonClock.ClockCheck where
  admits _ shared reading := decide (shared.clock ≤ reading)
  sound := by
    intro index shared reading forward
    exact ⟨trivial, of_decide_eq_true forward⟩

/-- Each receive up to its write, the second after the first one's deadline. -/
def receiving : List (System.Move Bool Choice) :=
  [steps false 2, reads false 1000, steps false 1,
    steps true 2, reads true 40000, steps true 1].flatten

/-- What the two receives leave in the log of the message. -/
def receivedLog : List (RecordEvent Bool) :=
  [.committed true (some ⟨some receivedOnce.written, 1⟩)
      (some ⟨some receivedAgain.written, 2⟩) ⟨true, 40000⟩,
    .committed false none (some ⟨some receivedOnce.written, 1⟩) ⟨true, 1000⟩]

theorem repeated_log_afterFirstReceive :
    ∃ pool, repeated.afterFirstReceive.Reaches pool ∧
      (pool.shared.records key).log = receivedLog := by
  have played : (repeated.afterFirstReceive.play firstReceiveClock receiving).map
        (fun pool => (pool.shared.records key).log) = some receivedLog := by
    rfl
  exact repeated.afterFirstReceive.exists_reaches_of_play played

theorem repeated_log_commonClock :
    ∃ pool, repeated.commonClock.Reaches pool ∧
      (pool.shared.records key).log = receivedLog := by
  have played : (repeated.commonClock.play forwardClock receiving).map
        (fun pool => (pool.shared.records key).log) = some receivedLog := by
    rfl
  exact repeated.commonClock.exists_reaches_of_play played

end Sample

open Sample

namespace Deployment

/-- With clocks that disagree, a record can be written that none can read. -/
theorem skewed_clocks_write_unreadable_record :
    ∃ pool version, skewed.Reaches pool ∧ (pool.shared.records key).current = some version ∧
      ∀ record, decodeState version.value ≠ .ok record := by
  rcases skewed_current with ⟨pool, reached, inPlace⟩
  refine ⟨pool, _, reached, inPlace, ?_⟩
  intro record decoded
  have readable := (decodeState_written_iff.1 decoded).1
  have ordered := readable.ordered rfl
  exact absurd ordered.2.2.2.2 (by decide)

/-- The records of both receives are read back. -/
theorem both_receives_are_readable :
    (∃ record, decodeState (some receivedOnce.written) = .ok record) ∧
      ∃ record, decodeState (some receivedAgain.written) = .ok record := by
  rcases repeated_log_afterFirstReceive with ⟨pool, reached, log⟩
  have seen : ∀ version ∈ [(⟨some receivedAgain.written, 2⟩ : State),
      ⟨some receivedOnce.written, 1⟩], (pool.shared.records key).Seen version := by
    intro version member
    unfold Register.Seen
    rw [log]
    change version ∈ [_, _] ++ _
    exact List.mem_append_left _ member
  exact ⟨written_records_stay_readable reached (seen ⟨some receivedOnce.written, 1⟩ (by simp)),
    written_records_stay_readable reached (seen ⟨some receivedAgain.written, 2⟩ (by simp))⟩

variable {deployment : Deployment Index} {key : Key} {index : Index}
    {older middle newer history : List (RecordEvent Index)}

/-! ## Times under one clock -/

/-- The record's times are in order and its lease is capped. -/
structure TimesOrdered (record : Lifecycle) : Prop where
  firstPositive : 0 < record.f
  receive : record.f ≤ record.r
  deadline : record.r ≤ record.d
  capped : record.d ≤ record.r + milliseconds maxVisibilityTimeout
  reading : ClockReading record.r

variable {record : Lifecycle}

/-- A receive at a time past the earlier lease keeps times in order. -/
theorem timesOrdered_receive {input : ClaimInput} {t : Int}
    (valid : input.validate = .ok ()) (reading : ClockReading t)
    (first : 0 ≤ record.f ∧ record.f ≤ t) : TimesOrdered (record.receive t input.visibility) := by
  obtain ⟨firstTime, deadline⟩ := receive_times valid reading first
  exact
    { firstPositive := firstTime.1
      receive := firstTime.2
      deadline := deadline.1
      capped := deadline.2
      reading := reading }

variable {after : Lifecycle}

variable {before : Lifecycle}

theorem timesOrdered_rewritten (common : deployment.CommonClock)
    (justified : deployment.Justified key index (some before) after)
    (ordered : TimesOrdered before) : TimesOrdered after := by
  cases justified with
  | again _ _ valid _ _ expired reading =>
    have positive := ordered.firstPositive
    have receive := ordered.receive
    have deadline := ordered.deadline
    exact timesOrdered_receive valid reading ⟨by omega, by omega⟩
  | @moved input _ _ _ t _ _ _ _ _ _ timeout reading
      afterReceive moves =>
      rcases move_deadline reading timeout.1 timeout.2 moves with ⟨rfl, capped⟩
      have received := afterReceive common
      have unwrapped : int64 (before.r + milliseconds maxVisibilityTimeout) =
          before.r + milliseconds maxVisibilityTimeout := by
        have positive := ordered.reading.1
        refine int64_of_fits ?_ ordered.reading.2
        rw [milliseconds_maxVisibilityTimeout]
        unfold minInt64
        omega
      exact
        { ordered with
          deadline := by
            show before.r ≤ t + input.visibilityTimeout * 1000
            omega
          capped := by
            rw [← unwrapped]
            exact capped }
  | deleted =>
    exact { ordered with }

variable {version : State}

/-- Every record written under one clock has its times in order. -/
theorem Orderly.timesOrdered (orderly : deployment.Orderly key shared)
    (common : deployment.CommonClock) (written : (shared.records key).Seen version)
    (value : version.value = some record.written) : TimesOrdered record := by
  unfold Register.Seen at written
  rw [orderly.base] at written
  rcases orderly.sound.everywhere TimesOrdered
      (fun | _, _, .first _ _ valid _ _ reading _ =>
              timesOrdered_receive valid reading ⟨Int.le_refl _, Int.le_of_lt reading.1⟩)
      (fun _ _ _ justified ordered => timesOrdered_rewritten common justified ordered)
      orderly.consistent version written with
    ⟨other, otherValue, ordered⟩
  rw [value] at otherValue
  cases written_injective (Option.some.inj otherValue)
  exact ordered

/-- The receive that issued a record's generation is in the history. -/
def IssuedIn (deployment : Deployment Index) (key : Key) (history : List (RecordEvent Index))
    (record : Lifecycle) : Prop :=
  ∃ event ∈ history, ∃ issuing, deployment.ClaimWrite key event issuing ∧
    issuing.g = record.g ∧ issuing.r = record.r

theorem IssuedIn.cons (issued : deployment.IssuedIn key history record) :
    deployment.IssuedIn key (event :: history) record := by
  rcases issued with ⟨write, member, rest⟩
  exact ⟨write, List.mem_cons_of_mem _ member, rest⟩

theorem Sound.issuedIn (sound : deployment.Sound key history)
    (consistent : Log.Consistent none history) (written : version ∈ Log.versions none history)
    (value : version.value = some record.written) : deployment.IssuedIn key history record := by
  induction history generalizing version record with
  | nil => cases written
  | cons event older induction =>
    cases event with
    | noted returned =>
      exact (induction sound.2.2 consistent written value).cons
    | committed index replaced newest stamp =>
      rcases List.mem_append.1 written with fresh | earlier
      · cases Option.mem_toList.1 fresh
        rcases sound.1 with ⟨before, after, holds, afterValue, justified, -⟩
        rw [value] at afterValue
        cases written_injective (Option.some.inj afterValue)
        by_cases claims : deployment.Claims key index
        · cases version
          cases value
          exact ⟨_, List.mem_cons_self, record, ⟨index, replaced, _, stamp, claims, rfl⟩, rfl, rfl⟩
        · rcases justified.of_not_claims claims with
            ⟨earlier, rfl, _, sameGeneration, _, sameReceive, _⟩
          have inPlace : replaced = _ := consistent.1
          rw [inPlace] at holds
          rcases holds.eq_some with ⟨revision, current⟩
          have issued := induction sound.2.2 consistent.2.2
              (Log.mem_versions_of_current current) rfl
          unfold IssuedIn
          rw [sameGeneration, sameReceive]
          exact issued.cons
      · exact (induction sound.2.2 consistent.2.2 earlier value).cons

/-- The thread moves the deadline through a handle for a generation. -/
def MovesDeadline (deployment : Deployment Index) (key : Key)
    (index : Index) (generation : Nat) : Prop :=
  ∃ input receipt, deployment.requests index = .changeVisibility input ∧
    deployment.opens input.receiptHandle = some receipt ∧ deployment.receiptKey receipt = key ∧
    receipt.generation = generation

/-- The lease granted to one receive is over when the next begins. -/
structure LeaseOver (granted present : Lifecycle) : Prop where
  ordered : TimesOrdered present
  ended :
    (present.g = granted.g ∧ present.d = granted.d) ∨ granted.d ≤ present.r

variable {granted : Lifecycle}

theorem LeaseOver.rewritten (common : deployment.CommonClock)
    (justified : deployment.Justified key index (some before) after)
    (unmoved : ¬ deployment.MovesDeadline key index granted.g)
    (lease : LeaseOver granted before) : LeaseOver granted after := by
  refine ⟨timesOrdered_rewritten common justified lease.ordered, ?_⟩
  have deadline := lease.ordered.deadline
  have ended := lease.ended
  cases justified with
  | again _ _ _ _ _ expired =>
    right
    simp only [Lifecycle.receive]
    omega
  | moved request opened named _ _ current _ _ _ moves =>
    have different : before.g ≠ granted.g := by
      intro same
      exact unmoved ⟨_, _, request, opened, named, current.symm.trans same⟩
    right
    rw [(Lifecycle.move_eq_ok moves).2.2]
    show granted.d ≤ before.r
    omega
  | deleted => exact ended

/--
Of two receives of a stored message the later begins after the earlier lease,
unless a handle of the earlier one moved its deadline in between.
-/
theorem Orderly.lease_over (orderly : deployment.Orderly key shared)
    (common : deployment.CommonClock) {first second : RecordEvent Index}
    (split : (shared.records key).log = newer ++ second :: (middle ++ first :: older))
    (firstWrite : deployment.ClaimWrite key first granted)
    (secondWrite : deployment.ClaimWrite key second later) (stored : bodyStoredAt second = true)
    (unmoved : ∀ index replaced version stamp, .committed index replaced version stamp ∈ middle →
      ¬ deployment.MovesDeadline key index granted.g) :
    granted.d ≤ later.r := by
  rcases firstWrite with ⟨writer, replaced, revision, stamp, -, rfl⟩
  rcases secondWrite with ⟨index, _, _, _, claims, rfl⟩
  have sound := orderly.sound
  have consistent := orderly.consistent
  have grantedSeen : (shared.records key).Seen ⟨some granted.written, revision⟩ := by
    have member :
        .committed writer replaced (some ⟨some granted.written, revision⟩) stamp ∈
          (shared.records key).log := by
      rw [split]
      exact List.mem_append_right _
          (List.mem_cons_of_mem _ (List.mem_append_right _ List.mem_cons_self))
    exact Log.mem_versions_of_committed member
  have grantedOrdered : TimesOrdered granted := orderly.timesOrdered common grantedSeen rfl
  rw [split] at sound consistent
  rcases sound.decided_on consistent stored (LeaseOver granted) (.present granted revision)
      ⟨grantedOrdered, .inl ⟨rfl, rfl⟩⟩ (by
          intro index replaced version stamp before after member justified _ lease
          exact lease.rewritten common justified (unmoved index replaced _ stamp member)) with
    ⟨before, after, lease, value, justified⟩
  cases written_injective (Option.some.inj value)
  have expired := (justified.of_claims claims).2.2
  have deadline := lease.ordered.deadline
  rcases lease.ended with same | ended <;> omega

variable [DecidableEq Index] {pool : RequestPool Index}

/--
Under one clock that never goes back, a claim writes over an in-flight record
only at or after its deadline; two receives of a stored message overlap only if
the first one's own handle moved its deadline; and every in-flight record has
its first receive, the receive that issued its generation and its deadline in
this order, the last two at most twelve hours apart.
-/
theorem visibility_is_exclusive_and_capped
    (reached : deployment.commonClock.Reaches pool) (key : Key) :
    (∀ newer older index replaced version stamp record, (pool.shared.records key).log =
          newer ++ .committed index replaced (some version) stamp :: older →
      deployment.Claims key index →
      Holds (Log.current none older) (some record) → ∃ after : Lifecycle,
        version.value = some after.written ∧ record.s = .inflight ∧
          record.d ≤ after.r ∧ after.r ≤ stamp.clock) ∧
      (∀ newer middle older first second granted later,
        (pool.shared.records key).log = newer ++ second :: (middle ++ first :: older) →
        deployment.ClaimWrite key first granted →
        deployment.ClaimWrite key second later →
        bodyStoredAt second = true → granted.d ≤ later.r ∨
          ∃ index replaced version stamp, .committed index replaced version stamp ∈ middle ∧
            deployment.MovesDeadline key index granted.g) ∧
      ∀ (version : State) (record : Lifecycle), (pool.shared.records key).Seen version →
        version.value = some record.written →
        record.s = .inflight → record.f ≤ record.r ∧ record.r ≤ record.d ∧
          record.d ≤ record.r + milliseconds maxVisibilityTimeout ∧
          deployment.IssuedIn key (pool.shared.records key).log record := by
  have orderly := reached.orderly key
  have common := deployment.commonClock_common
  refine ⟨?_, ?_, ?_⟩
  · intro newer older index replaced version stamp record split claims inPlace
    have sound := orderly.sound
    have consistent := orderly.consistent
    rw [split] at sound consistent
    rcases sound.justified consistent with ⟨before, after, holds, value, justified, clocked⟩
    cases holds.unique inPlace
    exact ⟨after, value, justified.replaced_inflight.2,
        (justified.of_claims claims).2.2, clocked common⟩
  · intro newer middle older first second granted later split firstWrite secondWrite stored
    by_cases moved :
      ∃ index replaced version stamp, .committed index replaced version stamp ∈ middle ∧
        deployment.MovesDeadline key index granted.g
    · exact .inr moved
    · refine .inl (orderly.lease_over common split firstWrite secondWrite stored ?_)
      intro index replaced version stamp member moves
      exact moved ⟨index, replaced, version, stamp, member, moves⟩
  · intro version record written value inflight
    have ordered := orderly.timesOrdered common written value
    refine ⟨ordered.receive, ordered.deadline, ordered.capped, ?_⟩
    unfold Register.Seen at written
    rw [orderly.base] at written
    exact orderly.sound.issuedIn orderly.consistent written value

/-- The second receive comes after the first one's deadline and is capped. -/
theorem second_receive_waits_and_is_capped :
    (∃ after : Lifecycle, receivedAgain.written = after.written ∧ receivedOnce.d ≤ after.r) ∧
      receivedAgain.f ≤ receivedAgain.r ∧ receivedAgain.r ≤ receivedAgain.d ∧
      receivedAgain.d ≤ receivedAgain.r + milliseconds maxVisibilityTimeout := by
  rcases repeated_log_commonClock with ⟨pool, reached, log⟩
  obtain ⟨waits, -, capped⟩ := visibility_is_exclusive_and_capped reached key
  obtain ⟨after, value, -, later, -⟩ :=
    waits [] _ true _ _ _ receivedOnce log ⟨_, rfl, rfl⟩ (.present receivedOnce 1)
  have inPlace : (pool.shared.records key).current = some ⟨some receivedAgain.written, 2⟩ := by
    unfold Register.current
    rw [log]
    rfl
  have ordered := capped _ receivedAgain (Register.seen_of_current inPlace) rfl rfl
  exact ⟨⟨after, Option.some.inj value, later⟩, ordered.1, ordered.2.1, ordered.2.2.1⟩

end Deployment

end Spinifex.Sqs
