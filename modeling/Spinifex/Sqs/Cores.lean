import Spinifex.Sqs.Conduct

/-!
# Each core keeps the conduct

One theorem per core, in the order a message meets them: claim, delete,
visibility change, sweep.  Together they give `Deployment.Reaches.orderly`: in
every pool that any interleaving of any number of requests reaches, every
message's history is sound.
-/

namespace Spinifex.Sqs

open Concurrency Go StateRecord Program Discipline List

variable {Index : Type}

namespace Deployment

variable {deployment : Deployment Index} {key : Key} {index : Index} {Result : Type}
    {post : Result → Shared Index → Prop} {seen shared : Shared Index} {record : StateRecord}
    {state : State}

/-- A record read from the message's register is one the cores wrote. -/
theorem Orderly.decoded (orderly : deployment.Orderly key shared)
    (inPlace : (shared.records key).current = some state)
    (decoded : decodeState state.value = .ok record) :
    ∃ before : Lifecycle, state.value = some before.written ∧
      before.Readable ∧ record = before.stored := by
  rcases orderly.holds with ⟨holding, holds⟩
  rw [inPlace] at holds
  cases holds with
  | present before revision =>
    rcases decodeState_written_iff.1 decoded with ⟨readable, same⟩
    exact ⟨before, rfl, readable, same⟩

/-! ## Claim -/

theorem upholds_recheckBody {next : Except Failure Unit → Core Result}
    (continues : ∀ shared reply, deployment.Evolves key seen shared →
      deployment.Orderly key shared → (reply = .ok () → shared.bodies other ≠ none) →
      deployment.Upholds key index post (next reply) shared) :
    deployment.Upholds key index post (recheckBody other revision >>= next) seen := by
  unfold recheckBody
  rw [bind_assoc]
  refine upholds_read (fun _ _ _ => And.left) fun shared reply evolved orderly answered => ?_
  cases reply with
  | ok message =>
    apply continues shared (.ok ()) evolved orderly
    intro _ gone
    cases answered.2.symm.trans gone
  | error failure =>
    by_cases absent : failure.is .notFound
    · simp only [absent, if_true]
      refine upholds_deleteState ?_ ?_
      · rintro rfl
        exact answered.2 absent
      · intro later reply evolvedLater orderlyLater
        have reached := evolved.trans evolvedLater
        cases reply <;>
          exact continues later _ reached orderlyLater fun wrong => by cases wrong
    · simp only [absent]
      exact continues shared _ evolved orderly fun wrong => by cases wrong

/-- What a claim promises when it returns. -/
def ClaimHolds (key : Key) (index : Index) (input : ClaimInput)
    (result : Except Failure Claim) (shared : Shared Index) : Prop :=
  ∀ claim, result = .ok claim → input.key = key → Acknowledged (shared.records key).log index claim

variable {input : ClaimInput} {failure : Failure}

theorem claimHolds_error : ClaimHolds key index input (.error failure) shared :=
  nofun

variable {replaced : Option State} {stamp : Stamp}

/-- A claim whose write is in the history ends well. -/
theorem upholds_acknowledge {record : Lifecycle}
    (written : input.key = key → .committed index replaced
        (some ⟨some record.written, claim.revision⟩) stamp ∈
      (seen.records key).log)
    (fields : claim.receiveCount = record.c ∧ claim.generation = record.g ∧
      claim.deadline = record.d ∧ claim.receivedAt = record.r ∧ claim.firstReceive = record.f) :
    deployment.Upholds key index (ClaimHolds key index input) (input.acknowledge claim) seen := by
  refine upholds_recheckBody fun shared reply evolved orderly found => ?_
  cases reply with
  | error failure => exact nofun
  | ok _ =>
    have acknowledged : input.key = key → Acknowledged (shared.records key).log index claim := by
      intro named
      have member := evolved.record.mem (written named)
      have present : shared.bodies key ≠ none := by
        rw [← named]
        exact found rfl
      exact ⟨replaced, record, stamp, member, orderly.stored present _ member, fields⟩
    have holds : ∀ later, deployment.Evolves key shared later →
        ClaimHolds key index input (.ok claim) later := by
      rintro later evolvedLater _ ⟨⟩ named
      rcases acknowledged named with ⟨replaced, record, stamp, member, rest⟩
      exact ⟨replaced, record, stamp, evolvedLater.record.mem member, rest⟩
    by_cases leased : input.visibility > 0
    · rw [if_pos leased]
      refine upholds_now fun later reading evolvedLater _ _ _ ticked _ => ?_
      by_cases late : reading ≥ claim.deadline
      · rw [if_pos late]
        exact nofun
      · rw [if_neg late]
        exact holds _ (evolvedLater.trans ticked)
    · rw [if_neg leased]
      exact holds shared (.refl shared)

variable {message : Message} {headers : Headers} {t : Int} {expected : Revision}

/-- The first receive of a message may be written at any later time. -/
theorem warranted_first (request : deployment.requests index = .claim input)
    (named : input.key = key) (valid : input.validate = .ok ())
    (stored : deployment.bodies key = some message)
    (read : readHeaders message.metadata = .ok headers) (reading : ClockReading t)
    (countLeft : headers.rc ≠ maxUint64) (expectsNone : expected = 0) (ticked : shared.clock = t) :
    deployment.Warranted key ⟨index, expected, some
          (StateRecord.receive ⟨Lifecycle.first headers.rc, []⟩ t input.visibility).encode⟩
      shared := by
  have bounded := carriedCount_le (readHeaders_eq_ok read).1
  refine ⟨(Lifecycle.first headers.rc).receive t input.visibility, ?_, ?_, .inl ⟨expectsNone, ?_⟩⟩
  · exact StateRecord.encode_of_plain nofun
  · intro
    rw [ticked]
    exact Int.le_refl _
  · exact .first request named valid stored read reading (lt_of_le_of_ne bounded countLeft)

/-- A receive over an expired lease may be written at any later time. -/
theorem warranted_again {before : Lifecycle}
    (request : deployment.requests index = .claim input) (named : input.key = key)
    (valid : input.validate = .ok ()) (readBefore : (shared.records key).Seen state)
    (holds : state.value = some before.written) (readable : before.Readable)
    (inflight : before.s = .inflight) (expired : before.d ≤ t) (reading : ClockReading t)
    (countLeft : before.c ≠ maxUint64) (generationLeft : before.g ≠ maxUint64)
    (expects : expected = state.revision) (admitted : deployment.readings index shared t) :
    deployment.Warranted key
      ⟨index, expected, some (before.stored.receive t input.visibility).encode⟩
      { shared with clock := t } := by
  refine ⟨before.receive t input.visibility, ?_, fun _ => Int.le_refl _,
      .inr ⟨state, before, readBefore, expects.symm, holds, ?_⟩⟩
  · exact encode_of_plain before.plain_stored
  · intro inPlace
    have fits := readable.fits.2.1
    refine .again request named valid readable inflight expired reading
        (lt_of_le_of_ne fits.1 countLeft) (lt_of_le_of_ne fits.2 generationLeft) ?_
    intro respected
    refine respected index shared t input before admitted request ?_ inflight
    have current : (shared.records key).current = some state := inPlace
    rw [named, current]
    cases state
    cases holds
    exact .present _ _

variable {second : Shared Index}

/-- What a claim decides on may be written at any later time. -/
theorem warranted_decide (request : deployment.requests index = .claim input)
    (valid : input.validate = .ok ()) (orderlyFirst : deployment.Orderly key first)
    (found : first.bodies input.key = some stored)
    (read : readHeaders stored.metadata = .ok headers)
    (orderlySecond : deployment.Orderly key second)
    (inPlace : ∀ state, current = .ok state → (second.records input.key).current = some state)
    (evolved : deployment.Evolves key second third) (reading : ClockReading t)
    (admitted : deployment.readings index third t)
    (decided : input.decide headers t current = .ok (record, expected)) (named : key = input.key) :
    record.encode = some record.written ∧ deployment.Warranted key
      ⟨index, expected, some record.encode⟩
      { third with clock := t } := by
  subst key
  rcases ClaimInput.decide_eq_ok decided with ⟨start, started, countLeft, generationLeft, rfl⟩
  rcases startRecord_eq_ok started with
    ⟨failure, _, _, rfl, rfl⟩ | ⟨state, rfl, decoded, inflight, expired, rfl⟩
  · have message : deployment.bodies input.key = some stored := by
      rcases orderlyFirst.body with gone | same
      · simp [found] at gone
      · rw [← same, found]
    exact ⟨StateRecord.encode_of_plain nofun,
        warranted_first request rfl valid message read reading countLeft rfl rfl⟩
  · have current := inPlace state rfl
    rcases orderlySecond.decoded current decoded with ⟨before, holds, readable, rfl⟩
    have readBefore := evolved.record.seen (Register.seen_of_current current)
    exact ⟨encode_of_plain before.plain_stored, warranted_again request rfl valid readBefore holds
        readable inflight expired reading countLeft
        generationLeft rfl admitted⟩

/-- The second half of a claim keeps the conduct of every message. -/
theorem upholds_take
    (request : deployment.requests index = .claim input) (valid : input.validate = .ok ())
    (orderly : deployment.Orderly key seen) (found : seen.bodies input.key = some stored)
    (read : readHeaders stored.metadata = .ok headers) :
    deployment.Upholds key index (ClaimHolds key index input)
      (input.take headers message attributes) seen := by
  refine upholds_read (fun _ _ _ => And.left) fun second current _ orderlySecond answered => ?_
  have inPlace : ∀ state, current = .ok state →
      (second.records input.key).current = some state := by
    rintro state rfl
    exact answered.2
  refine upholds_now fun third t evolved _ reading admitted _ _ => ?_
  cases decided : input.decide headers t current with
  | error failure => exact claimHolds_error
  | ok decision =>
    rcases decision with ⟨record, expected⟩
    have warranted := warranted_decide request valid orderly found read
        orderlySecond inPlace evolved reading admitted decided
    apply upholds_putState (fun named => (warranted named).2)
    intro before after reply _ _ _ acknowledges
    cases reply with
    | error failure =>
      dsimp only
      split <;> exact claimHolds_error
    | ok revision =>
      have written : input.key = key → .committed index (before.records key).current
            (some ⟨some record.written, revision⟩)
            (before.stamp key) ∈
          (after.records key).log := by
        intro named
        rw [acknowledges named.symm revision rfl, ← (warranted named.symm).1]
        exact mem_cons_self
      exact upholds_acknowledge written ⟨rfl, rfl, rfl, rfl, rfl⟩

/-- `Claimer.Claim` keeps the conduct of every message. -/
theorem upholds_claim {codec : AttributeCodec}
    (request : deployment.requests index = .claim input) :
    deployment.Upholds key index (ClaimHolds key index input) (codec.claim input) seen := by
  unfold AttributeCodec.claim
  cases valid : input.validate with
  | error failure => exact claimHolds_error
  | ok checked =>
    refine upholds_read (fun _ _ _ => And.left) fun shared reply _ orderly found => ?_
    cases reply with
    | error failure =>
      dsimp only
      split <;> exact claimHolds_error
    | ok stored =>
      dsimp only
      cases read : readHeaders stored.metadata with
      | error failure => exact claimHolds_error
      | ok headers =>
        dsimp only
        cases payload : codec.split headers stored with
        | error failure => exact claimHolds_error
        | ok opened =>
          exact upholds_take request valid orderly found.2 read

/-! ## Delete -/

/-- A claim that returned is borne out by the history. -/
theorem Orderly.acknowledged (orderly : deployment.Orderly key shared)
    (returned : deployment.ClaimReturned key index claim shared) :
    Acknowledged (shared.records key).log index claim := by
  rcases returned with ⟨claims, bodyStored, member⟩
  rcases append_of_mem member with ⟨newer, older, split⟩
  have sound := orderly.sound
  rw [split] at sound
  rcases sound.event.claimed claim rfl claims with ⟨replaced, record, stamp, earlier, rest⟩
  refine ⟨replaced, record, stamp, ?_, rest⟩
  rw [split]
  exact mem_append_right _ (mem_cons_of_mem _ earlier)

/-- While the body is stored a record once written is there. -/
theorem Orderly.present_of_written (orderly : deployment.Orderly key shared)
    (stored : shared.bodies key ≠ none)
    (written : .committed index replaced (some version) stamp ∈ (shared.records key).log) :
    (shared.records key).current ≠ none := by
  rcases append_of_mem written with ⟨newer, older, split⟩
  have sound := orderly.sound
  have consistent := orderly.consistent
  have storedAll := orderly.stored stored
  rw [orderly.current_eq]
  rw [split] at sound consistent storedAll ⊢
  rcases sound.event with ⟨_, after, _, value, _⟩
  have inPlace : Holds (Log.current none (.committed index replaced (some version) stamp :: older))
      (some after) := by
    cases version
    cases value
    exact .present _ _
  rcases sound.kept (fun _ => True) consistent
      (fun event member => storedAll event (mem_append_left _ member))
      inPlace trivial
      (fun _ _ _ _ _ _ _ _ _ _ => trivial) with
    ⟨present, holds, -⟩
  intro absent
  rw [absent] at holds
  cases holds

/-- The handle's generation is spent, or the body is gone. -/
def Spent (key : Key) (generation : Nat) (shared : Shared Index) : Prop :=
  shared.bodies key ≠ none → Outlived (shared.records key).log generation

theorem Spent.evolves {before after : Shared Index}
    (evolved : deployment.Evolves key before after) (orderly : deployment.Orderly key after)
    (spent : Spent key generation before) : Spent key generation after := by
  intro stored
  have storedBefore : before.bodies key ≠ none := fun gone => stored (evolved.body gone)
  rcases spent storedBefore with ⟨record, inPlace, outlived⟩
  rcases evolved.record with ⟨-, newer, split⟩
  have sound := orderly.sound
  have consistent := orderly.consistent
  have storedAll := orderly.stored stored
  rw [split] at sound consistent storedAll
  rw [split]
  refine sound.kept (fun record => record.s.isTerminal = true ∨ generation < record.g) consistent
      (fun event member => storedAll event (mem_append_left _ member))
      inPlace outlived ?_
  intro _ _ _ _ earlier later _ justified _ outlivedEarlier
  rcases outlivedEarlier with terminal | passed
  · rw [justified.replaced_inflight.2] at terminal
    cases terminal
  · exact .inr (lt_of_lt_of_le passed justified.generation_le)

/-- What a delete may rely on about a live record. -/
structure LiveRecord
    (key : Key) (generation : Nat) (shared : Shared Index) (current : State) (record : StateRecord)
    (before : Lifecycle) : Prop where
  seen : (shared.records key).Seen current
  holds : current.value = some before.written
  readable : before.Readable
  same : record = before.stored
  inflight : before.s = .inflight
  generation : before.g = generation

variable {receipt : Receipt} {ns : Namespace}

/-- What the lookup of a receipt's record tells about a message. -/
def Tells (key : Key) (receipt : Receipt) (ns : Namespace) (shared : Shared Index)
    (found : Found) : Prop :=
  receipt.key ns = key → match found with
    | .done (.ok ()) => Spent key receipt.generation shared
    | .done (.error _) => True
    | .live current record =>
      ∃ before, LiveRecord key receipt.generation shared current record before

theorem upholds_currentState {next : Found → Core Result}
    (resolved : receipt.key ns = deployment.receiptKey receipt)
    (issued : ∃ earlier, deployment.Evolves key earlier seen ∧ deployment.Issued receipt earlier)
    (continues : ∀ shared found, deployment.Evolves key seen shared →
      deployment.Orderly key shared → Tells key receipt ns shared found →
        deployment.Upholds key index post (next found) shared) :
    deployment.Upholds key index post (currentState ns receipt >>= next) seen := by
  unfold currentState
  rw [bind_assoc]
  refine upholds_read (fun _ _ _ => And.left) fun shared reply evolved orderly answered => ?_
  cases reply with
  | error failure =>
    by_cases absent : failure.is .notFound
    · simp only [absent, if_true]
      refine continues shared _ evolved orderly fun named stored => ?_
      rcases issued with ⟨earlier, reached, index, claim, returned, _⟩
      rw [← resolved, named] at returned
      rcases returned with ⟨claims, bodyStored, member⟩
      have stillReturned :
          deployment.ClaimReturned key index claim shared :=
        ⟨claims, bodyStored, evolved.record.mem (reached.record.mem member)⟩
      rcases orderly.acknowledged stillReturned with ⟨_, _, _, written, _⟩
      have empty := answered.2 absent
      rw [named] at empty
      exact absurd empty (orderly.present_of_written stored written)
    · simp only [absent]
      exact continues shared _ evolved orderly fun _ => trivial
  | ok state =>
    dsimp only
    cases decoded : decodeState state.value with
    | error failure =>
      exact continues shared _ evolved orderly fun _ => trivial
    | ok record =>
      refine continues shared _ evolved orderly fun named => ?_
      have read : (shared.records key).current = some state := named ▸ answered.2
      rcases orderly.decoded read decoded with ⟨before, holds, readable, same⟩
      split
      next found =>
        intro _
        cases same
        refine ⟨before, ?_, Found.ofRecord_eq_done_ok found⟩
        rw [← orderly.current_eq, read]
        cases state
        cases holds
        exact .present _ _
      · trivial
      next current live found =>
        rcases Found.ofRecord_eq_live found with ⟨rfl, rfl, inflight, generation⟩
        rw [same] at inflight generation
        exact ⟨before,
            { seen := Register.seen_of_current read
              holds := holds
              readable := readable
              same := same
              inflight := inflight
              generation := generation }⟩

/-- What a delete promises when it returns. -/
def DeleteHolds (key : Key) (named : Key) (generation : Nat)
    (result : Except Failure Unit) (shared : Shared Index) : Prop :=
  result = .ok () → named = key → Spent key generation shared

variable {input : DeleteInput}

/-- A tombstone over a live record may be written at any later time. -/
theorem warranted_deleted (request : deployment.requests index = .delete input)
    (opened : deployment.opens input.receiptHandle = some receipt)
    (named : deployment.receiptKey receipt = key) (orderly : deployment.Orderly key shared)
    (live : LiveRecord key receipt.generation shared current record before) :
    { record with s := .deleted }.encode = some { before with s := .deleted }.written ∧
      deployment.Warranted key ⟨index, current.revision, some { record with s := .deleted }.encode⟩
        shared := by
  have encoded : { record with s := .deleted }.encode =
      some { before with s := .deleted }.written := by
    rw [live.same]
    exact encode_of_plain before.plain_stored
  refine ⟨encoded, { before with s := .deleted }, encoded, ?_,
      .inr ⟨current, before, live.seen, rfl, live.holds, fun _ => ?_⟩⟩
  · intro common
    exact orderly.clocked common current before live.seen live.holds
  · exact .deleted request opened named live.readable live.inflight live.generation

theorem upholds_settleDelete (resolved : receipt.key ns = deployment.receiptKey receipt)
    (issued : ∃ earlier, deployment.Evolves key earlier seen ∧ deployment.Issued receipt earlier) :
    deployment.Upholds key index (DeleteHolds key (receipt.key ns) receipt.generation)
      (settleDelete ns receipt cause) seen := by
  refine upholds_currentState resolved issued fun shared found _ _ tells => ?_
  match found with
  | .done (.ok ()) => exact fun _ => tells
  | .done (.error failure) => exact nofun
  | .live current record => exact nofun

theorem upholds_deleteLoop (request : deployment.requests index = .delete input)
    (opened : deployment.opens input.receiptHandle = some receipt)
    (resolved : receipt.key ns = deployment.receiptKey receipt) (attempts : Nat)
    (issued : ∃ earlier, deployment.Evolves key earlier seen ∧ deployment.Issued receipt earlier) :
    deployment.Upholds key index (DeleteHolds key (receipt.key ns) receipt.generation)
      (deleteLoop ns receipt attempts) seen := by
  induction attempts generalizing seen with
  | zero => exact nofun
  | succ attempts induction =>
    rcases issued with ⟨earlier, reached, receiptIssued⟩
    refine upholds_currentState resolved ⟨earlier, reached, receiptIssued⟩
        fun shared found evolved orderly tells => ?_
    cases found with
    | done outcome =>
      rintro rfl
      exact tells
    | live current record =>
      have warranted : key = receipt.key ns →
          ∃ before : Lifecycle, { record with s := .deleted }.encode =
              some { before with s := .deleted }.written ∧
            deployment.Warranted key ⟨index, current.revision,
                some { record with s := .deleted }.encode⟩
              shared := by
        intro named
        rcases tells named.symm with ⟨before, isLive⟩
        exact ⟨before, warranted_deleted request opened
            (resolved.symm.trans named.symm) orderly isLive⟩
      refine upholds_putState (fun named => by
            rcases warranted named with ⟨_, _, isWarranted⟩
            exact isWarranted)
          ?_
      intro middle after reply evolvedMiddle evolvedAfter _ acknowledges
      have reachedAfter := ((reached.trans evolved).trans evolvedMiddle).trans evolvedAfter
      cases reply with
      | ok revision =>
        intro _ named _
        rcases warranted named.symm with ⟨before, encoded, _⟩
        refine ⟨{ before with s := .deleted }, ?_, .inl rfl⟩
        rw [acknowledges named.symm revision rfl]
        simp only [Log.current, Option.map_some, encoded]
        exact .present _ _
      | error failure =>
        by_cases lost : failure.is .revisionMismatch
        · simp only [lost, if_true]
          exact induction ⟨earlier, reachedAfter, receiptIssued⟩
        · simp only [lost]
          exact upholds_settleDelete resolved ⟨earlier, reachedAfter, receiptIssued⟩

theorem upholds_requireKeys {post : Except Failure Result → Shared Index → Prop}
    (refused : ∀ failure shared, post (.error failure) shared)
    (continues : ∀ shared, deployment.Orderly key shared →
      deployment.Upholds key index post program shared) :
    deployment.Upholds key index post (requireKeys program) seen := by
  refine upholds_read (fun _ _ _ same => same) fun shared reply _ orderly _ => ?_
  cases reply with
  | error failure => exact refused _ _
  | ok _ => exact continues shared orderly

theorem upholds_openHandle {next : Except Failure (Namespace × Receipt) → Core Result}
    (refused : ∀ failure shared, deployment.Upholds key index post (next (.error failure)) shared)
    (continues : ∀ shared ns receipt, deployment.Orderly key shared →
      deployment.opens handle = some receipt →
      receipt.key ns = deployment.receiptKey receipt →
      deployment.Issued receipt shared → deployment.Upholds key index post
        (next (.ok (ns, receipt))) shared) :
    deployment.Upholds key index post (openHandle account region queue handle >>= next) seen := by
  unfold openHandle
  rw [bind_assoc]
  refine upholds_read (fun _ _ _ => And.left) fun shared reply _ orderly resolved => ?_
  cases reply with
  | error failure => exact refused _ _
  | ok target =>
    dsimp only
    by_cases foreign : target.account ≠ account
    · rw [if_pos foreign]
      exact refused _ _
    · rw [if_neg foreign]
      cases valid : target.ns.validate with
      | error failure => exact refused _ _
      | ok checked =>
        refine upholds_read (fun _ _ _ => And.left) fun later reply _ orderlyLater decoded => ?_
        cases reply with
        | error failure => exact refused _ _
        | ok receipt =>
          rcases decoded.2 receipt rfl with ⟨opened, sameQueue, issued⟩
          refine continues later target.ns receipt orderlyLater opened ?_ issued
          unfold Deployment.receiptKey
          rw [sameQueue, ← resolved.2 target rfl]

/-- `Deleter.Delete` keeps the conduct of every message. -/
theorem upholds_deleteMessage (request : deployment.requests index = .delete input) :
    deployment.Upholds key index (fun result shared =>
        ∀ receipt, deployment.opens input.receiptHandle = some receipt →
          DeleteHolds key (deployment.receiptKey receipt) receipt.generation result shared)
      (deleteMessage input) seen := by
  refine upholds_requireKeys (fun _ _ _ _ => nofun) fun _ _ => ?_
  refine upholds_openHandle (fun _ _ _ _ => nofun)
      fun shared ns receipt orderly opened resolved issued => ?_
  refine (upholds_deleteLoop request opened resolved deleteAttempts
      ⟨shared, .refl _, issued⟩).mono ?_ orderly
  intro result later _ holds other otherOpened
  cases Option.some.inj (opened.symm.trans otherOpened)
  rwa [← resolved]

/-! ## Change of visibility -/

variable {input : ChangeVisibilityInput}

/-- A moved deadline may be written at any later time. -/
theorem warranted_moved (request : deployment.requests index = .changeVisibility input)
    (timeout : 0 ≤ input.visibilityTimeout ∧ input.visibilityTimeout ≤ maxVisibilitySeconds)
    (opened : deployment.opens input.receiptHandle = some receipt)
    (named : deployment.receiptKey receipt = key) (orderly : deployment.Orderly key second)
    (inPlace : (second.records key).current = some state)
    (decoded : decodeState state.value = .ok record) (inflight : record.s = .inflight)
    (generation : record.g = receipt.generation)
    (evolved : deployment.Evolves key second shared) (reading : ClockReading t)
    (admitted : deployment.readings index shared t)
    (moves : record.toLifecycle.move t input.visibilityTimeout = .ok moved) :
    deployment.Warranted key
      ⟨index, state.revision, some { record with toLifecycle := moved }.encode⟩
      { shared with clock := t } := by
  rcases orderly.decoded inPlace decoded with ⟨before, holds, readable, rfl⟩
  have seenFirst := Register.seen_of_current inPlace
  have received : deployment.CommonClock → before.r ≤ t := by
    intro common
    exact Int.le_trans (orderly.clocked common state before seenFirst holds)
        (Int.le_trans (evolved.clock common) (common _ _ _ admitted))
  refine ⟨moved, encode_of_plain before.plain_stored, ?_,
      .inr ⟨state, before, evolved.record.seen seenFirst, rfl, holds, fun _ => ?_⟩⟩
  · intro common
    rw [(Lifecycle.move_eq_ok moves).2.2]
    exact received common
  · exact .moved request opened named readable inflight generation timeout reading received moves

theorem upholds_visibilityLoop (request : deployment.requests index = .changeVisibility input)
    (timeout : 0 ≤ input.visibilityTimeout ∧ input.visibilityTimeout ≤ maxVisibilitySeconds)
    (opened : deployment.opens input.receiptHandle = some receipt)
    (resolved : receipt.key ns = deployment.receiptKey receipt) (attempts : Nat) :
    deployment.Upholds key index (fun _ _ => True)
      (visibilityLoop ns receipt input.visibilityTimeout attempts) seen := by
  induction attempts generalizing seen with
  | zero => trivial
  | succ attempts induction =>
    refine upholds_read (fun _ _ _ => And.left) fun second reply _ orderly inPlace => ?_
    cases found : movable receipt reply with
    | error failure => trivial
    | ok movedFrom =>
      rcases movedFrom with ⟨state, record⟩
      rcases movable_eq_ok found with ⟨rfl, decoded, inflight, generation⟩
      refine upholds_now fun third t evolved _ reading admitted _ _ => ?_
      cases moves : record.toLifecycle.move t input.visibilityTimeout with
      | error failure => trivial
      | ok moved =>
        refine upholds_putState (fun named => warranted_moved request timeout opened
                (resolved.symm.trans named.symm) orderly
                (by rw [named]; exact inPlace.2)
                decoded inflight generation evolved reading
                admitted moves)
            ?_
        intro before after reply _ _ _ _
        cases reply with
        | ok revision => trivial
        | error failure =>
          by_cases lost : failure.is .revisionMismatch
          · simp only [lost, if_true]
            exact induction
          · simp only [lost]
            trivial

/-- `VisibilityChanger.ChangeVisibility` keeps the conduct. -/
theorem upholds_changeVisibility (request : deployment.requests index = .changeVisibility input) :
    deployment.Upholds key index (fun _ _ => True) (Sqs.changeVisibility input) seen := by
  refine upholds_requireKeys (fun _ _ => trivial) fun _ _ => ?_
  by_cases outside : input.visibilityTimeout < 0 ∨ input.visibilityTimeout > maxVisibilitySeconds
  · rw [if_pos outside]
    trivial
  · rw [if_neg outside]
    refine upholds_openHandle (fun _ _ => trivial) fun _ ns receipt _ opened resolved _ => ?_
    exact upholds_visibilityLoop request (by omega) opened resolved visibilityAttempts

/-! ## Sweep -/

theorem upholds_sweepOne {next : Except Failure Bool → Core Result}
    (continues : ∀ shared reply, deployment.Orderly key shared →
      deployment.Upholds key index post (next reply) shared) :
    deployment.Upholds key index post (sweepOne change >>= next) seen := by
  unfold sweepOne
  rw [bind_assoc]
  refine upholds_read (fun _ _ _ => And.left) fun shared reply _ orderly _ => ?_
  cases reply with
  | error failure =>
    dsimp only
    split <;> exact continues shared _ orderly
  | ok state =>
    dsimp only
    by_cases live : (!terminalState state) = true
    · rw [if_pos live]
      exact continues shared _ orderly
    · rw [if_neg live, bind_assoc]
      refine upholds_delete fun middle reply _ orderly removed => ?_
      cases reply with
      | error failure => exact continues middle _ orderly
      | ok _ =>
        rw [bind_assoc]
        refine upholds_deleteState ?_ ?_
        · intro same
          rw [same]
          exact removed rfl
        · intro later reply _ orderly
          cases reply with
          | ok _ => exact continues later _ orderly
          | error failure =>
            dsimp only
            split <;> exact continues later _ orderly

theorem upholds_sweepPage {next : SweepResult × Option Failure → Core Result}
    (orderly : deployment.Orderly key seen)
    (continues : ∀ shared reply, deployment.Orderly key shared →
      deployment.Upholds key index post (next reply) shared) :
    deployment.Upholds key index post (sweepPage changes counted >>= next) seen := by
  induction changes generalizing counted seen with
  | nil => exact continues seen _ orderly
  | cons change rest induction =>
    unfold sweepPage
    rw [bind_assoc]
    refine upholds_sweepOne fun shared reply orderly => ?_
    match reply with
    | .error failure => exact continues shared _ orderly
    | .ok true | .ok false => exact induction orderly

/-- `Sweep` keeps the conduct of every message. -/
theorem upholds_sweep {start : ScanCursor} :
    deployment.Upholds key index (fun _ _ => True)
      (Sqs.sweep shard pageSize pages start counted) seen := by
  induction pages generalizing start counted seen with
  | zero => trivial
  | succ pages induction =>
    refine upholds_read (fun _ _ _ same => same) fun shared reply _ orderly _ => ?_
    cases reply with
    | error failure => trivial
    | ok page =>
      refine upholds_sweepPage orderly fun later reply _ => ?_
      match reply with
      | (counted, some failure) => trivial
      | (counted, none) =>
        dsimp only
        by_cases done : page.done
        · rw [if_pos done]
          trivial
        · rw [if_neg done]
          exact induction

/-! ## Whole runs -/

variable {outcome : Outcome}

/-- A return that the history bears out keeps the message in order. -/
theorem Orderly.finish (orderly : deployment.Orderly key shared)
    (borneOut : deployment.NoteSound key (shared.records key).log
      ⟨index, outcome, (shared.bodies key).isSome⟩) :
    deployment.Evolves key shared (Shared.finish index outcome shared) ∧
      deployment.Orderly key (Shared.finish index outcome shared) := by
  have evolved : deployment.Evolves key shared (Shared.finish index outcome shared) :=
    ⟨Register.extends_addNote _ _, id, fun _ => Int.le_refl _⟩
  refine ⟨evolved,
      { base := orderly.base
        body := orderly.body
        sound := ⟨borneOut, ?_, orderly.sound⟩
        stored := ?_
        pending := fun write member => (orderly.pending write member).evolves evolved
        clocked := orderly.clocked }⟩
  · intro stored
    exact orderly.stored (Option.isSome_iff_ne_none.1 stored)
  · intro stored event member
    rcases mem_cons.1 member with rfl | earlier
    · exact Option.isSome_iff_ne_none.2 stored
    · exact orderly.stored stored event earlier

/-- A request's outcome may be recorded at any later time. -/
theorem settles_of_noteSound (borneOut : ∀ later, deployment.Evolves key seen later →
      deployment.Orderly key later → deployment.NoteSound key (later.records key).log
        ⟨index, outcome, (later.bodies key).isSome⟩) :
    (deployment.conduct key).Settles index outcome seen := by
  intro later ⟨evolved, _⟩ orderly
  have finished := orderly.finish (borneOut later evolved orderly)
  exact ⟨finished.1, fun _ _ => trivial, finished.2⟩

/-- Every request keeps the conduct of every message. -/
theorem upholds_core (orderly : deployment.Orderly key seen) :
    deployment.Upholds key index ((deployment.conduct key).Settles index)
      ((deployment.requests index).core deployment.codec) seen := by
  cases request : deployment.requests index with
  | claim input =>
    apply upholds_bind.2
    refine (upholds_claim request).mono ?_ orderly
    intro result shared _ holds
    refine settles_of_noteSound fun later evolved _ => ⟨?_, ?_⟩
    · intro claim returned claims
      cases returned
      rcases claims with ⟨other, otherRequest, named⟩
      rw [request] at otherRequest
      cases otherRequest
      rcases holds claim rfl named with ⟨replaced, record, stamp, member, rest⟩
      exact ⟨replaced, record, stamp, evolved.record.mem member, rest⟩
    · nofun
  | delete input =>
    apply upholds_bind.2
    refine (upholds_deleteMessage request).mono ?_ orderly
    intro result shared _ holds
    refine settles_of_noteSound fun later evolved ordered => ⟨?_, ?_⟩
    · nofun
    · intro other receipt returned otherRequest opened named stored
      cases returned
      rw [request] at otherRequest
      cases otherRequest
      have spent := holds receipt opened rfl named
      exact spent.evolves evolved ordered (Option.isSome_iff_ne_none.1 stored)
  | changeVisibility input =>
    apply upholds_bind.2
    refine (upholds_changeVisibility request).mono ?_ orderly
    intro result shared _ _
    exact settles_of_noteSound fun later _ _ => ⟨nofun, nofun⟩
  | sweep shard pageSize pages =>
    apply upholds_bind.2
    refine upholds_sweep.mono ?_ orderly
    intro result shared _ _
    exact settles_of_noteSound fun later _ _ => ⟨nofun, nofun⟩

/--
In every pool that any interleaving reaches, every message's part of the store
is in order.
-/
theorem Reaches.orderly [DecidableEq Index]
    (reached : deployment.Reaches pool) (key : Key) : deployment.Orderly key pool.shared :=
  ((deployment.conduct key).reachable orderly_initial
    (fun _ => upholds_core orderly_initial) reached).invariant

end Deployment

end Spinifex.Sqs
