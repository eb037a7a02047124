import Mathlib.Logic.Function.Basic
import Mathlib.Tactic.SplitIfs

/-!
# Idempotent requests

`Do` runs work under a token: the call that creates the token's record owns the
work, and the others replay its result or wait for it.  An owner settles the
record by a put or a delete that does not look at what is stored, so an owner
that outlives its claim writes over, or removes, the claim of another.
-/

namespace Spinifex.Idempotency

/-- The errors of `Do`; an unavailable record names the operation that failed. -/
inductive Failure where
  | paramMismatch
  | unavailable (operation : String)
  | waitTimeout
  | noReplay
  | work (error : String)

/-- `Status` of a record. -/
inductive Status where
  | inFlight
  | done
  deriving DecidableEq

/-- `record`, with the call that claimed it as a field that no step reads. -/
structure Record (T : Type) where
  owner : Nat
  status : Status
  paramHash : String
  payload : Option T

/-- Where a call of `Do` stands: each phase but the last two ends with one step. -/
inductive Phase (T : Type) where
  | creating
  | polling
  | recreating
  | working
  | finalizing (result : T)
  | aborting (error : String)
  | returned (outcome : Except Failure T)
  | crashed

/--
The token's record, and what no step reads: whether it expired since the last
claim, the work that succeeded and the successes returned since the first claim
after an expiry.
-/
structure Ledger (T : Type) where
  record : Option (Record T) := none
  expired : Bool := false
  successes : List (Nat × T) := []
  returns : List (Nat × T) := []

/-- The calls for one account and token. -/
structure State (T : Type) where
  ledger : Ledger T := {}
  phase : Nat → Phase T := fun _ => .creating

/-- An operation on the bucket succeeds, has its reply lost, or does nothing. -/
inductive Reply where
  | ok
  | lost
  | failed
  deriving DecidableEq

variable {T : Type}

/-- `Create` of an in-flight record: it is stored only where there is none. -/
def Ledger.create (ledger : Ledger T) (call : Nat) (paramHash : String) : Ledger T :=
  match ledger.record with
  | some _ => ledger
  | none =>
    { record := some ⟨call, .inFlight, paramHash, none⟩
      expired := false
      successes := if ledger.expired then [] else ledger.successes
      returns := if ledger.expired then [] else ledger.returns }

/-- A call that returned success is noted. -/
def Ledger.note (ledger : Ledger T) (call : Nat) : Phase T → Ledger T
  | .returned (.ok result) => { ledger with returns := (call, result) :: ledger.returns }
  | _ => ledger

/-- What `Claim` does after a `Create`, where `record` was stored before. -/
def afterCreate (operation : String) (reply : Reply) (record : Option (Record T)) : Phase T :=
  if reply ≠ .ok then .returned (.error (.unavailable operation))
  else if record.isNone then .working else .polling

/-- What `Claim` does after a `Get`; `late` is a passed deadline. -/
def afterGet (paramHash : String) (answered late : Bool) : Option (Record T) → Phase T
  | none => if answered then .recreating else .returned (.error (.unavailable "get"))
  | some record =>
    if !answered then .returned (.error (.unavailable "get"))
    else if record.paramHash ≠ paramHash then .returned (.error .paramMismatch)
    else if record.status = .done then
      match record.payload with
      | some payload => .returned (.ok payload)
      | none => .returned (.error .noReplay)
    else if late then .returned (.error .waitTimeout) else .polling

/-- One operation of a call, the end of its work, its crash, or an expiry. -/
inductive Event (T : Type) where
  | create (call : Nat) (reply : Reply)
  | get (call : Nat) (answered late : Bool)
  | work (call : Nat) (result : Except String T)
  | settle (call : Nat) (reply : Reply)
  | crash (call : Nat)
  | expire

/-- The operation by which a call would claim the token. -/
def Phase.creates : Phase T → Option String
  | .creating => some "create"
  | .recreating => some "recreate"
  | _ => none

/-- The call holds the work: `Claim` returned that it owns the token. -/
def Phase.owns : Phase T → Bool
  | .working | .finalizing _ | .aborting _ => true
  | _ => false

/-- The state after an operation on the ledger moved a call. -/
def State.move (state : State T) (ledger : Ledger T) (call : Nat) (phase : Phase T) : State T :=
  ⟨ledger.note call phase, Function.update state.phase call phase⟩

/-- One step of `Do`, where call `n` has the request hash `hash n`. -/
def step (hash : Nat → String) (state : State T) : Event T → Option (State T)
  | .create call reply =>
    (state.phase call).creates.map fun operation => state.move
      (if reply = .failed then state.ledger else state.ledger.create call (hash call)) call
      (afterCreate operation reply state.ledger.record)
  | .get call answered late =>
    match state.phase call with
    | .polling =>
      some (state.move state.ledger call (afterGet (hash call) answered late state.ledger.record))
    | _ => none
  | .work call result =>
    match state.phase call, result with
    | .working, .ok result =>
      some (state.move { state.ledger with successes := (call, result) :: state.ledger.successes }
        call (.finalizing result))
    | .working, .error error => some (state.move state.ledger call (.aborting error))
    | _, _ => none
  | .settle call reply =>
    match state.phase call with
    | .finalizing result =>
      -- a failed put is only logged
      some (state.move (if reply = .failed then state.ledger else
          { state.ledger with record := some ⟨call, .done, hash call, some result⟩ })
        call (.returned (.ok result)))
    | .aborting error =>
      some (state.move (if reply = .failed then state.ledger else
          { state.ledger with record := none })
        call (.returned (.error (.work error))))
    | _ => none
  | .crash call => some (state.move state.ledger call .crashed)
  | .expire => state.ledger.record.map fun _ =>
    { state with ledger := { state.ledger with record := none, expired := true } }

/-- What calls reach from the beginning by steps that are allowed. -/
inductive Reaches (hash : Nat → String) (allowed : State T → Event T → Prop) : State T → Prop where
  | start : Reaches hash allowed {}
  | step {state after : State T} (reached : Reaches hash allowed state) (event : Event T)
    (permitted : allowed state event) (stepped : step hash state event = some after) :
    Reaches hash allowed after

/-- A token is claimed anew only when no call still has work of its own to settle. -/
def Permits (state : State T) : Event T → Prop
  | .create _ _ => state.ledger.record = none → ∀ call, (state.phase call).owns = false
  | _ => True

/--
The work of at most one call succeeds, and every success returned is that result
for the same request; a call that works or settles finds no record but its own,
which has its request hash.
-/
structure Once (hash : Nat → String) (state : State T) : Prop where
  single : state.ledger.successes.length ≤ 1
  agreed : ∀ pair ∈ state.ledger.returns, ∃ success ∈ state.ledger.successes,
    success.2 = pair.2 ∧ hash success.1 = hash pair.1
  own : ∀ call record, (state.phase call).owns = true → state.ledger.record = some record →
    record.owner = call ∧ record.paramHash = hash call

/-! ## The ledger and the call that owns the work -/

/-- A done record is the one success, and only an expiry takes a success away. -/
structure Ledger.Sound (hash : Nat → String) (ledger : Ledger T) : Prop where
  labelled : ∀ record, ledger.record = some record → record.paramHash = hash record.owner
  replayed : ∀ record, ledger.record = some record → record.status = .done →
    ∃ result, record.payload = some result ∧ ledger.successes = [(record.owner, result)]
  lapsed : ledger.record = none → ledger.expired = false → ledger.successes = []
  single : ledger.successes.length ≤ 1
  agreed : ∀ pair ∈ ledger.returns, ∃ success ∈ ledger.successes,
    success.2 = pair.2 ∧ hash success.1 = hash pair.1

/-- The record is the call's own and in flight, or has expired. -/
def Ledger.Holds (ledger : Ledger T) (call : Nat) : Prop :=
  (∀ record, ledger.record = some record → record.owner = call ∧ record.status = .inFlight) ∧
    (ledger.record = none → ledger.expired = true)

/-- What the ledger says of a call by its phase. -/
def Ledger.Fits (ledger : Ledger T) (call : Nat) : Phase T → Prop
  | .working | .aborting _ => ledger.Holds call ∧ ledger.successes = []
  | .finalizing result => ledger.Holds call ∧ ledger.successes = [(call, result)]
  | _ => True

/-- The ledger is sound and at most one call holds the work. -/
structure State.Sound (hash : Nat → String) (state : State T) : Prop where
  ledger : state.ledger.Sound hash
  fits : ∀ call, state.ledger.Fits call (state.phase call)
  alone : ∀ call, (state.phase call).owns = true →
    ∀ other, other ≠ call → (state.phase other).owns = false

section

variable {hash : Nat → String} {state : State T} {ledger : Ledger T} {call : Nat} {phase : Phase T}

theorem Ledger.fits_idle (idle : phase.owns = false) : ledger.Fits call phase := by
  cases phase <;> trivial

theorem Ledger.Fits.holds (fits : ledger.Fits call phase) (owns : phase.owns = true) :
    ledger.Holds call := by
  cases phase <;> first | exact fits.1 | cases owns

theorem Ledger.Sound.silent (sound : ledger.Sound hash) (empty : ledger.successes = []) :
    ledger.returns = [] := by
  refine List.eq_nil_iff_forall_not_mem.2 fun pair member => ?_
  obtain ⟨success, held, -⟩ := sound.agreed pair member
  simp [empty] at held

theorem Ledger.fits_note :
    (ledger.note call phase).Fits other current ↔ ledger.Fits other current := by
  unfold Ledger.note
  split <;> cases current <;> exact Iff.rfl

/-- The phase says which success a call returns, if any. -/
@[simp]
def Ledger.Replays (hash : Nat → String) (ledger : Ledger T) (call : Nat) (phase : Phase T) :
    Prop :=
  ∀ result, phase = .returned (.ok result) →
    ∃ success ∈ ledger.successes, success.2 = result ∧ hash success.1 = hash call

/-- A call moves with the ledger, which still fits the calls that stay. -/
theorem State.Sound.move (sound : state.Sound hash)
    (stay : ∀ other, other ≠ call → ledger.Fits other (state.phase other))
    (alone : phase.owns = true → ∀ other, other ≠ call → (state.phase other).owns = false)
    (kept : ledger.Sound hash) (fits : ledger.Fits call phase)
    (replays : ledger.Replays hash call phase) : (state.move ledger call phase).Sound hash := by
  constructor
  · show (ledger.note call phase).Sound hash
    unfold Ledger.note
    split
    next result =>
      exact { kept with agreed := List.forall_mem_cons.2 ⟨replays result rfl, kept.agreed⟩ }
    · exact kept
  · intro other
    apply Ledger.fits_note.2
    by_cases same : other = call
    · subst same
      simpa [State.move] using fits
    · simpa [State.move, same] using stay other same
  · intro first owns second distinct
    by_cases one : first = call <;> by_cases two : second = call <;>
      simp_all [State.move]
    · exact Bool.eq_false_iff.2 fun holds => by simp_all
    · exact sound.alone first owns second distinct

theorem State.Sound.leave (sound : state.Sound hash) (idle : phase.owns = false)
    (replays : state.ledger.Replays hash call phase) :
    (state.move state.ledger call phase).Sound hash := by
  apply sound.move (fun other _ => sound.fits other) _ sound.ledger (Ledger.fits_idle idle) replays
  simp [idle]

/-- The only call that holds the work moves with the ledger. -/
theorem State.Sound.advance (sound : state.Sound hash)
    (idle : ∀ other, other ≠ call → (state.phase other).owns = false)
    (kept : ledger.Sound hash) (fits : ledger.Fits call phase)
    (replays : ledger.Replays hash call phase) : (state.move ledger call phase).Sound hash :=
  sound.move (fun other distinct => Ledger.fits_idle (idle other distinct)) (fun _ => idle) kept
    fits replays

/-- A new claim starts without a success, since only an expiry gave way to it. -/
theorem Ledger.Sound.create (sound : ledger.Sound hash) (absent : ledger.record = none) :
    (ledger.create call (hash call)).Sound hash ∧ (ledger.create call (hash call)).successes = [] ∧
      (ledger.create call (hash call)).Holds call := by
  have empty : (ledger.create call (hash call)).successes = [] ∧
      (ledger.create call (hash call)).returns = [] := by
    rw [Ledger.create, absent]
    cases expired : ledger.expired with
    | true => simp
    | false =>
      have empty := sound.lapsed absent expired
      simpa using ⟨empty, sound.silent empty⟩
  have stored : (ledger.create call (hash call)).record =
      some ⟨call, .inFlight, hash call, .none⟩ := by
    rw [Ledger.create, absent]
  refine ⟨⟨?_, ?_, ?_, ?_, ?_⟩, empty.1, ?_, ?_⟩ <;> simp [stored, empty]

theorem State.Sound.create (sound : state.Sound hash)
    (permitted : state.ledger.record = none → ∀ call, (state.phase call).owns = false) :
    (state.move
      (if reply = .failed then state.ledger else state.ledger.create call (hash call)) call
      (afterCreate operation reply state.ledger.record)).Sound hash := by
  cases stored : state.ledger.record with
  | some record =>
    simp only [Ledger.create, stored, ite_self]
    apply sound.leave <;> cases reply <;> simp [afterCreate, Phase.owns]
  | none =>
    obtain ⟨fresh, empty, holds⟩ := @Ledger.Sound.create _ _ _ call sound.ledger stored
    have idle := fun other (_ : other ≠ call) => permitted stored other
    cases reply with
    | ok => exact sound.advance idle fresh ⟨holds, empty⟩ (by simp [afterCreate])
    | lost => exact sound.advance idle fresh trivial (by simp [afterCreate])
    | failed => exact sound.leave rfl (by simp [afterCreate])

/-- A call that replays a record returns the one success of its own request. -/
theorem State.Sound.get (sound : state.Sound hash) :
    (state.move state.ledger call
      (afterGet (hash call) answered late state.ledger.record)).Sound hash := by
  cases stored : state.ledger.record with
  | none => apply sound.leave <;> cases answered <;> simp [afterGet, Phase.owns]
  | some record =>
    simp only [afterGet]
    split_ifs with failed differs done
    · exact sound.leave rfl (by simp)
    · exact sound.leave rfl (by simp)
    · obtain ⟨result, payload, only⟩ := sound.ledger.replayed record stored done
      rw [payload]
      apply sound.leave rfl
      rintro _ ⟨⟩
      rw [only, ← not_not.1 differs, sound.ledger.labelled record stored]
      exact ⟨_, List.mem_singleton_self _, rfl, rfl⟩
    · exact sound.leave rfl (by simp)
    · exact sound.leave rfl (by simp)

theorem State.Sound.step (sound : state.Sound hash) (permitted : Permits state event)
    (stepped : step hash state event = some after) : after.Sound hash := by
  cases event with
  | create call reply =>
    obtain ⟨operation, -, rfl⟩ := Option.map_eq_some_iff.1 stepped
    exact sound.create permitted
  | get call answered late =>
    simp only [Idempotency.step] at stepped
    split at stepped <;> cases stepped
    exact sound.get
  | crash call =>
    cases stepped
    exact sound.leave rfl (by simp)
  | expire =>
    obtain ⟨_, -, rfl⟩ := Option.map_eq_some_iff.1 stepped
    refine ⟨⟨by simp, by simp, by simp, sound.ledger.single, sound.ledger.agreed⟩, fun call => ?_,
      sound.alone⟩
    have fits := sound.fits call
    cases standing : state.phase call <;> rw [standing] at fits <;>
      first
      | trivial
      | exact ⟨⟨by simp, by simp⟩, fits.2⟩
  | work call result =>
    simp only [Idempotency.step] at stepped
    cases standing : state.phase call <;> cases result <;> rw [standing] at stepped <;>
      cases stepped
    all_goals
      have idle := sound.alone call (by rw [standing]; rfl)
      have fits := sound.fits call
      rw [standing] at fits
    · exact sound.advance idle sound.ledger fits (by simp)
    · obtain ⟨⟨own, lapsed⟩, empty⟩ := fits
      refine sound.advance idle ⟨sound.ledger.labelled, fun record stored done => ?_,
        fun absent kept => ?_, by simp [empty], by simp [sound.ledger.silent empty]⟩
        ⟨⟨own, lapsed⟩, by simp [empty]⟩ (by simp)
      · simp [(own record stored).2] at done
      · simp [lapsed absent] at kept
  | settle call reply =>
    simp only [Idempotency.step] at stepped
    split at stepped <;> cases stepped <;> next standing =>
      have fits := sound.fits call
      rw [standing] at fits
      have idle := sound.alone call (by rw [standing]; rfl)
      obtain ⟨⟨own, lapsed⟩, only⟩ := fits
      refine sound.advance idle ?_ trivial ?_
      · split_ifs
        · exact sound.ledger
        · exact ⟨by simp, by simp [only], by simp [only], sound.ledger.single, sound.ledger.agreed⟩
      · split_ifs <;> simp [only]

end

/--
In every run in which a token is claimed anew only when no call still has work
of its own to settle, requests run once.
-/
theorem requests_run_once (hash : Nat → String) (state : State T)
    (reached : Reaches hash Permits state) : Once hash state := by
  have sound : state.Sound hash := by
    induction reached with
    | start =>
      exact ⟨⟨by simp, by simp, by simp, by simp, by simp⟩, fun _ => trivial, by simp [Phase.owns]⟩
    | step reached event permitted stepped induction => exact induction.step permitted stepped
  refine ⟨sound.ledger.single, sound.ledger.agreed, fun call record owns stored => ?_⟩
  have held := ((sound.fits call).holds owns).1 record stored
  exact ⟨held.1, (sound.ledger.labelled record stored).trans (by rw [held.1])⟩

/-- A second call replays the result of the first. -/
theorem requests_run_once_replayed :
    ∃ state : State Nat, state.ledger.returns = [(1, 7), (0, 7)] ∧ Once (fun _ => "hash") state :=
  ⟨_, rfl, requests_run_once _ _ <| Reaches.start
    |>.step (.create 0 .ok) (fun _ _ => rfl) rfl
    |>.step (.work 0 (.ok 7)) trivial rfl
    |>.step (.settle 0 .ok) trivial rfl
    |>.step (.create 1 .ok) (nofun) rfl
    |>.step (.get 1 true false) trivial rfl⟩

/--
The claim of the first call expires and the second claims the token: the work of
both succeeds, and the first call replaces the claim under which the second works.
-/
theorem late_owner_overwrites_claim :
    ∃ state : State Nat, Reaches (fun _ => "hash") (fun _ _ => True) state ∧
      state.ledger.successes = [(1, 8), (0, 7)] ∧ (state.phase 1).owns = true ∧
      state.ledger.record = some ⟨0, .done, "hash", some 7⟩ :=
  ⟨_, Reaches.start
    |>.step (.create 0 .ok) trivial rfl
    |>.step .expire trivial rfl
    |>.step (.create 1 .ok) trivial rfl
    |>.step (.work 0 (.ok 7)) trivial rfl
    |>.step (.settle 0 .ok) trivial rfl
    |>.step (.work 1 (.ok 8)) trivial rfl, rfl, rfl, rfl⟩

end Spinifex.Idempotency
