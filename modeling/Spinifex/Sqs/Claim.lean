import Spinifex.Sqs.StateRecord

/-!
# The receive claim

`Claimer.claim` takes one stored message in flight: it reads the body and the
state record, decides on one reading of the clock, writes the record at the
revision it read and, once that write is acknowledged, reads the body again.
A body that is gone by then withdraws the claim.
-/

namespace Spinifex.Sqs

open Concurrency Go

/-! ## Body metadata -/

/-- The newest message schema this release reads. -/
def metaVersion : Int := 2

/-- The schema of a message without attributes. -/
def metaVersionPlain : Int := 1

/-- The metadata a claim depends on. -/
structure Headers where
  v : Int
  id : String
  enq : Int
  vis : Int
  rc : Nat
  md5a : String
deriving DecidableEq, Repr

/-- Thirty-two lower-case hexadecimal digits. -/
def md5Hex (text : String) : Bool :=
  text.toList.length = 32 && text.toList.all fun digit =>
      ('0' ≤ digit && digit ≤ '9') || ('a' ≤ digit && digit ≤ 'f')

/-- The carried receive count, zero when none was carried. -/
def carriedCount (metadata : Metadata) : Except Failure Nat :=
  match metadata.lookup "Rc" with
  | none => .ok 0
  | some raw =>
    match parseUint raw with
    | some count => .ok count
    | none =>
      .error (Sentinel.unavailable.because ("carried receive count " ++ Failure.quoted raw))

/-- Fail closed unless a check holds. -/
def require (holds : Bool) (text : String) : Except Failure Unit :=
  if holds then .ok () else .error (Sentinel.unavailable.because text)

/-- A field's name and its value, for an error text. -/
def Metadata.describe (metadata : Metadata) (name key : String) : String :=
  name ++ " " ++ Failure.quoted (metadata.get key)

def schemaVersion (metadata : Metadata) : Except Failure Int :=
  match (parseInt (metadata.get "V")).filter (1 ≤ ·) with
  | none =>
    .error (Sentinel.unavailable.because (metadata.describe "message schema version" "V"))
  | some v =>
    if v > metaVersion then .error Sentinel.notOurs.failure else .ok v

/-- A time field that must not be before a bound. -/
def timeField (metadata : Metadata) (name key : String) (low : Int) : Except Failure Int :=
  match (parseInt (metadata.get key)).filter (low ≤ ·) with
  | none => .error (Sentinel.unavailable.because (metadata.describe name key))
  | some time => .ok time

variable {metadata : Metadata}

theorem timeField_eq_ok (read : timeField metadata name key low = .ok time) : low ≤ time := by
  unfold timeField at read
  split at read
  · cases read
  next parsed =>
    cases read
    simpa using (Option.filter_eq_some_iff.1 parsed).2

/-- `readHeaders`: validate the body metadata a claim depends on. -/
def readHeaders (metadata : Metadata) : Except Failure Headers := do
  let v ← schemaVersion metadata
  require (metadata.get "Id" ≠ "") "message has no ID"
  let enq ← timeField metadata "message enqueue time" "Enq" 1
  let vis ← timeField metadata "message delay-until" "Vis" enq
  require (metadata.get "Sender" ≠ "") "message has no sender"
  require (md5Hex (metadata.get "Md5")) (metadata.describe "message body MD5" "Md5")
  require (v ≤ metaVersionPlain || md5Hex (metadata.get "Md5A"))
    (metadata.describe "message attributes MD5" "Md5A")
  require (v ≠ metaVersionPlain || (metadata.lookup "Md5A").isNone)
    ("schema " ++ toString v ++ " message carries an attributes MD5")
  let rc ← carriedCount metadata
  .ok
    { v := v, id := metadata.get "Id", enq := enq, vis := vis
      rc := rc, md5a := metadata.get "Md5A" }

theorem carriedCount_le (carried : carriedCount metadata = .ok count) : count ≤ maxUint64 := by
  unfold carriedCount at carried
  split at carried
  · cases carried
    exact Nat.zero_le _
  · split at carried
    next parsed =>
      cases carried
      simpa using (Option.filter_eq_some_iff.1 parsed).2
    · cases carried

variable {headers : Headers}

/-- The count and the times of accepted metadata. -/
theorem readHeaders_eq_ok (read : readHeaders metadata = .ok headers) :
    carriedCount metadata = .ok headers.rc ∧ 0 < headers.enq ∧ headers.enq ≤ headers.vis := by
  rcases bind_eq_ok read with ⟨v, _, read⟩
  rcases bind_eq_ok read with ⟨_, _, read⟩
  rcases bind_eq_ok read with ⟨enq, enqRead, read⟩
  rcases bind_eq_ok read with ⟨vis, visRead, read⟩
  rcases bind_eq_ok read with ⟨_, _, read⟩
  rcases bind_eq_ok read with ⟨_, _, read⟩
  rcases bind_eq_ok read with ⟨_, _, read⟩
  rcases bind_eq_ok read with ⟨_, _, read⟩
  rcases bind_eq_ok read with ⟨rc, counted, read⟩
  cases read
  exact ⟨counted, timeField_eq_ok enqRead, timeField_eq_ok visRead⟩

/-! ## The claim -/

structure Attribute where
  name : String
  dataType : String
  stringValue : Option String
  binaryValue : Option (List UInt8)
deriving DecidableEq, Repr

/-- A validated attribute set, sorted by name. -/
abbrev Attributes := List Attribute

/-- The attribute encoding of the package. -/
structure AttributeCodec where
  decodePayload : List UInt8 → String → Except Failure (List UInt8 × Attributes)
  md5 : Attributes → String

/-- The message and the receive's parameters. -/
structure ClaimInput where
  ns : Namespace
  position : Position
  visibility : Duration
  retention : Duration
deriving DecidableEq, Repr

/-- The message a claim names. -/
def ClaimInput.key (input : ClaimInput) : Key :=
  ⟨input.ns, input.position⟩

/-- A message taken in flight by an acknowledged claim. -/
structure Claim where
  message : Message
  attributes : Attributes
  messageID : String
  receiveCount : Nat
  generation : Nat
  deadline : Int
  receivedAt : Int
  firstReceive : Int
  revision : Revision
deriving DecidableEq, Repr

/-- The longest visibility a receive may set. -/
def maxVisibilityTimeout : Duration := 12 * hour

/-- A positive reading whose 12-hour window is representable. -/
def ClockReading (reading : Int) : Prop :=
  0 < reading ∧ reading + milliseconds maxVisibilityTimeout ≤ maxInt64

instance (reading : Int) : Decidable (ClockReading reading) :=
  inferInstanceAs (Decidable (_ ∧ _))

/-- The checks a claim makes before it reads anything. -/
def ClaimInput.validate (input : ClaimInput) : Except Failure Unit := do
  input.ns.validate
  if input.position = 0 then
    .error (Sentinel.invalidArgument.because "position 0")
  else if input.visibility < 0 ∨ input.visibility > maxVisibilityTimeout ∨
      input.visibility.tmod second ≠ 0 then
    .error (Sentinel.invalidParameter.because
      "visibility timeout must be whole seconds from 0 to 43200")
  else if input.retention ≤ 0 then
    .error (Sentinel.unavailable.because "queue retention is not positive")
  else
    .ok ()

/-- Split the stored payload of a message that has attributes. -/
def AttributeCodec.split (codec : AttributeCodec) (headers : Headers)
    (message : Message) : Except Failure (Message × Attributes) :=
  if headers.v > metaVersionPlain then
    match codec.decodePayload message.body headers.md5a with
    | .error failure => .error (Sentinel.unavailable.failure.wrap failure)
    | .ok (body, attributes) => .ok ({ message with body := body }, attributes)
  else
    .ok (message, [])

/-- The fields of a message nobody has received yet. -/
def Lifecycle.first (carried : Nat) : Lifecycle :=
  { v := 0, s := .inflight, c := carried, g := 0, d := 0, r := 0, f := 0 }

/-- The record a claim starts from and the revision it expects. -/
def startRecord (headers : Headers) (t : Int) :
    Except Failure State → Except Failure (StateRecord × Revision)
  | .error failure =>
    if failure.is .notFound then
      if t < headers.vis then
        .error Sentinel.notVisible.failure
      else
        .ok (⟨Lifecycle.first headers.rc, []⟩, 0)
    else
      .error ((Sentinel.unavailable.because "read state").wrap failure)
  | .ok current =>
    match decodeState current.value with
    | .error failure => .error failure
    | .ok record =>
      if (record.s = .inflight ∧ record.d > t) ∨ record.s = .moving then
        .error Sentinel.notVisible.failure
      else if record.s ≠ .inflight then
        .error Sentinel.gone.failure
      else
        .ok (record, current.revision)

/-- The fields a receive at time `t` writes over earlier ones. -/
def Lifecycle.receive (record : Lifecycle) (t : Int) (visibility : Duration) : Lifecycle where
  v := stateVersion
  s := .inflight
  c := record.c + 1
  g := record.g + 1
  d := int64 (t + milliseconds visibility)
  r := t
  f := if record.f = 0 then t else record.f

/-- The record a receive at time `t` writes over an earlier one. -/
def StateRecord.receive (record : StateRecord) (t : Int) (visibility : Duration) : StateRecord :=
  { record with toLifecycle := record.toLifecycle.receive t visibility }

/-- The decision of a claim on what it read: what to write, and where. -/
def ClaimInput.decide (input : ClaimInput) (headers : Headers) (t : Int)
    (current : Except Failure State) : Except Failure (StateRecord × Revision) :=
  if t ≥ int64 (headers.enq + milliseconds input.retention) then
    .error Sentinel.gone.failure
  else
    match startRecord headers t current with
    | .error failure => .error failure
    | .ok (record, expected) =>
      if record.c = maxUint64 ∨ record.g = maxUint64 then
        .error (Sentinel.unavailable.because "receive count or generation exhausted")
      else
        .ok (record.receive t input.visibility, expected)

/--
`Claimer.recheckBody`: confirm the body after an acknowledged claim, and
withdraw the claim when it is gone.
-/
def recheckBody (key : Key) (revision : Revision) : Core (Except Failure Unit) := do
  match ← Core.get key with
  | .ok _ => return .ok ()
  | .error failure =>
    if failure.is .notFound then
      match ← Core.deleteState key revision with
      | .error withdrawn =>
        return .error ((Sentinel.gone.because "withdraw claim on removed message").wrap withdrawn)
      | .ok () => return .error Sentinel.gone.failure
    else
      return .error ((Sentinel.unavailable.because "confirm message after claim").wrap failure)

/-- What a validated claim input satisfies. -/
theorem ClaimInput.validate_eq_ok {input : ClaimInput} (valid : input.validate = .ok ()) :
    input.position ≠ 0 ∧ 0 ≤ input.visibility ∧ input.visibility ≤ maxVisibilityTimeout ∧
      0 < input.retention := by
  rcases bind_eq_ok valid with ⟨_, _, checked⟩
  split_ifs at checked with zero outside unretained
  simp only [not_or, Int.not_lt] at outside
  exact ⟨zero, outside.1, outside.2.1, Int.not_le.1 unretained⟩

variable {current : Except Failure State}

/-- What a claim's first record was decided on. -/
theorem startRecord_eq_ok (started : startRecord headers t current = .ok (record, expected)) :
    (∃ failure, current = .error failure ∧ failure.is .notFound ∧
      record = ⟨Lifecycle.first headers.rc, []⟩ ∧ expected = 0) ∨ ∃ state, current = .ok state ∧
      decodeState state.value = .ok record ∧ record.s = .inflight ∧ record.d ≤ t ∧
      expected = state.revision := by
  cases current with
  | error failure =>
    simp only [startRecord] at started
    split_ifs at started with missing early
    cases started
    exact .inl ⟨failure, rfl, missing, rfl, rfl⟩
  | ok state =>
    simp only [startRecord] at started
    split at started
    · cases started
    next decoded =>
      split_ifs at started with leased other
      cases started
      have inflight := not_not.1 other
      refine .inr ⟨state, rfl, decoded, inflight, ?_, rfl⟩
      by_contra late
      exact leased (.inl ⟨inflight, Int.not_le.1 late⟩)

/-- What a claim writes and what it was decided on. -/
theorem ClaimInput.decide_eq_ok {input : ClaimInput}
    (decided : input.decide headers t current = .ok (record, expected)) :
    ∃ start, startRecord headers t current = .ok (start, expected) ∧ start.c ≠ maxUint64 ∧
      start.g ≠ maxUint64 ∧ record = start.receive t input.visibility := by
  simp only [ClaimInput.decide] at decided
  split_ifs at decided with expired
  split at decided
  · cases decided
  next start revision started =>
    split_ifs at decided with exhausted
    cases decided
    exact ⟨start, started, fun full => exhausted (.inl full),
        fun full => exhausted (.inr full), rfl⟩

/-- What an acknowledged claim returns. -/
def Claim.ofRecord
    (message : Message) (attributes : Attributes) (headers : Headers) (record : StateRecord)
    (revision : Revision) : Claim :=
  { message := message
    attributes := attributes
    messageID := headers.id
    receiveCount := record.c
    generation := record.g
    deadline := record.d
    receivedAt := record.r
    firstReceive := record.f
    revision := revision }

/-- The end of a claim whose write was acknowledged. -/
def ClaimInput.acknowledge (input : ClaimInput) (claim : Claim) : Core (Except Failure Claim) := do
  match ← recheckBody input.key claim.revision with
  | .error failure => return .error failure
  | .ok () =>
    if input.visibility > 0 then
      let acknowledged ← Core.now
      if acknowledged ≥ claim.deadline then
        return .error Sentinel.leaseExpired.failure
      else
        return .ok claim
    else
      return .ok claim

/--
The second half of a claim: decide on the record and one clock reading taken
after it, then write at the revision read.
-/
def ClaimInput.take (input : ClaimInput) (headers : Headers)
    (message : Message) (attributes : Attributes) : Core (Except Failure Claim) := do
  let current ← Core.getState input.key
  let t ← Core.now
  match input.decide headers t current with
  | .error failure => return .error failure
  | .ok (record, expected) =>
    match ← Core.putState input.key record.encode expected with
    | .error failure =>
      if failure.is .revisionMismatch then
        return .error Sentinel.claimLost.failure
      else
        return .error ((Sentinel.unavailable.because "claim outcome unknown").wrap failure)
    | .ok revision =>
      input.acknowledge (Claim.ofRecord message attributes headers record revision)

/-- `Claimer.Claim`: take one message in flight. -/
def AttributeCodec.claim (codec : AttributeCodec) (input : ClaimInput) :
    Core (Except Failure Claim) := do
  match input.validate with
  | .error failure => return .error failure
  | .ok () =>
    match ← Core.get input.key with
    | .error failure =>
      if failure.is .notFound then
        return .error Sentinel.gone.failure
      else
        return .error ((Sentinel.unavailable.because "read message").wrap failure)
    | .ok stored =>
      match readHeaders stored.metadata with
      | .error failure => return .error failure
      | .ok headers =>
        match codec.split headers stored with
        | .error failure => return .error failure
        | .ok (message, attributes) => input.take headers message attributes

end Spinifex.Sqs
