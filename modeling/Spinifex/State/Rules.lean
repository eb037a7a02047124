import Spinifex.State.Retry

/-!
# Rules for programs on a bucket of records

One rule per operation of the bucket handle and of a typed store, and those of
the optimistic read-modify-write loop.  Under a law of the bucket, the loop
obeys it if each write obeys it that its mutation makes of a record once
stored, or of nothing, and a record it reports is one its mutation made, and
committed if it was to be.  And whatever the replies to its calls, a fact about
the result and what was noted on the way holds if it holds of each attempt that
is not repeated.
-/

namespace Spinifex.State

open Concurrency Go Discipline
open Bucket.Law (Lasting)

variable {Index Record Question Outcome Own : Type} {Answer : Question → Type}

section

variable {law : Bucket.Law Index String (Stored Record) Answer Outcome}
    {reads : Bucket.Reads} {index : Index} {key : String} {zero : Record}
    {pre : Bucket.Store Index String (Stored Record) Answer Outcome → Prop}

section

variable (lasting : Lasting pre)

include lasting

/-- A read, the note of it, and what is made of the reply. -/
theorem ensures_get
    {next : Except (Failure Own) (Version (Stored Record)) → Session Record Answer Result}
    (rest : ∀ reply, (law.discipline reads).Ensures index
      (fun store => pre store ∧ Bucket.Law.Fetched index key reply store)
      (next (Except.mapError faultFailure reply)) post) :
    (law.discipline reads).Ensures index pre (KeyValue.get key >>= next) post := by
  show (law.discipline reads).Ensures index pre (Program.request (.get key) >>=
      fun reply => next (Except.mapError faultFailure reply)) post
  exact ensures_bind (Bucket.Law.ensures_get lasting) rest

/-- A conditional write that obeys the law. -/
theorem ensures_write (warranted : ∀ store, pre store →
      law.Warranted reads key (store key) ⟨index, expected, value⟩) :
    (law.discipline reads).Ensures index pre
      (KeyValue.write key value expected : Session Record Answer (Except (Failure Own) Nat))
      (Achieves pre fun fresh => Bucket.Law.Committed index key value fresh) := by
  refine ensures_bind (Bucket.Law.ensures_write lasting warranted) fun reply => ?_
  cases reply with
  | ok fresh =>
    exact ensures_pure fun _ met => achieves_ok met.1 (met.2 fresh rfl)
  | error fault => exact ensures_failed

/-! ## Single writes of a typed store -/

theorem ensures_create [DecidableEq Own] (warranted : ∀ store, pre store →
      law.Warranted reads key (store key) ⟨index, 0, some (some record)⟩) :
    (law.discipline reads).Ensures index pre (Store.create key record :
        Session Record Answer (Except (Failure Own) Nat))
      fun _ => pre := by
  refine ensures_bind (ensures_write lasting warranted) fun reply => ?_
  cases reply with
  | ok revision => exact ensures_left
  | error failure =>
    dsimp only
    split_ifs
    all_goals exact ensures_left

theorem ensures_compareAndSet [DecidableEq Own]
    (warranted : ∀ store, pre store → law.Warranted reads key (store key)
      ⟨index, revision, some (some record)⟩) :
    (law.discipline reads).Ensures index pre
      (Store.compareAndSet key record revision : Session Record Answer (Except (Failure Own) Nat))
      fun _ => pre := by
  refine ensures_bind (ensures_write lasting warranted) fun reply => ?_
  cases reply with
  | ok revision => exact ensures_left
  | error failure =>
    dsimp only
    split_ifs
    all_goals exact ensures_left

end

/-! ## The read-modify-write loop -/

variable {mutate : Record → Except (Failure Own) (Record × Bool)}

/-- What a mutation may do under a law. -/
structure Mutates (law : Bucket.Law Index String (Stored Record) Answer Outcome)
    (reads : Bucket.Reads) (index : Index) (key : String)
    (zero : Record) (mutate : Record → Except (Failure Own) (Record × Bool))
    (pre : Bucket.Store Index String (Stored Record) Answer Outcome → Prop) : Prop where
  absent : ∀ store changed, pre store → mutate zero = .ok (changed, true) →
    law.Warranted reads key (store key) ⟨index, 0, some (some changed)⟩
  present : ∀ store record revision changed, pre store → (store key).Seen ⟨some record, revision⟩ →
    mutate record = .ok (changed, true) → law.Warranted reads key (store key)
      ⟨index, revision, some (some changed)⟩

/-- The record to be changed: none was found, or it was once in place. -/
def Chosen (key : String) (zero record : Record) (revision : Nat)
    (store : Bucket.Store Index String (Stored Record) Answer Outcome) : Prop :=
  revision = 0 ∧ record = zero ∨ (store key).Seen ⟨some record, revision⟩

/-- The mutation made the record, and it is committed if it was to be. -/
def Left (index : Index) (key : String)
    (mutate : Record → Except (Failure Own) (Record × Bool)) (record : Record)
    (store : Bucket.Store Index String (Stored Record) Answer Outcome) : Prop :=
  ∃ before changed, mutate before = .ok (record, changed) ∧ (changed = true → ∃ replaced fresh,
    .committed index replaced (some ⟨some record, fresh⟩) () ∈ (store key).log)

theorem achieves_commitMutation (lasting : Lasting pre)
    (mutates : Mutates law reads index key zero mutate pre) :
    (law.discipline reads).Ensures index
      (fun store => pre store ∧ Chosen key zero record revision store)
      (commitMutation key record revision mutate) (Achieves pre (Left index key mutate)) := by
  unfold commitMutation
  match mutated : mutate record with
  | .error failure => exact ensures_failed
  | .ok (changed, false) =>
    exact ensures_pure fun _ met => achieves_ok met.1 ⟨record, false, mutated, nofun⟩
  | .ok (changed, true) =>
    dsimp only
    rw [KeyValue.create_or_update]
    refine ensures_bind (ensures_write (lasting.and fun _ _ evolved chosen =>
        chosen.imp_right (evolved key).seen) ?_) fun reply => ?_
    · rintro store ⟨held, ⟨rfl, rfl⟩ | seen⟩
      · exact mutates.absent store changed held mutated
      · exact mutates.present store record revision changed held seen mutated
    cases reply with
    | error failure => exact ensures_pure fun _ met => achieves_error met.1.1
    | ok fresh =>
      refine ensures_pure fun _ met => achieves_ok met.1.1 ?_
      obtain ⟨replaced, member⟩ := met.2 fresh rfl
      exact ⟨record, true, mutated, fun _ => ⟨replaced, fresh, member⟩⟩

/-- A record the loop reports is one its mutation left. -/
theorem achieves_update [DecidableEq Own] {cfg : CASConfig Own} (lasting : Lasting pre)
    (mutates : Mutates law reads index key zero mutate pre) :
    (law.discipline reads).Ensures index pre (update key cfg zero mutate :
        Session Record Answer (Except (Failure Own) Record))
      (Achieves pre (Left index key mutate)) := by
  refine ensures_retryLoop (fun _ _ => achieves_error_iff) ?_ (Bucket.Law.ensures_waits lasting)
    _ _
  refine ensures_get lasting fun reply => ?_
  match reply with
  | .ok ⟨some record, revision⟩ =>
    exact (achieves_commitMutation lasting mutates).given fun _ met =>
        ⟨met.1, .inr (met.2.seen _ rfl)⟩
  | .ok ⟨none, _⟩ => exact ensures_failed
  | .error fault =>
    dsimp only [Except.mapError]
    split
    · exact (achieves_commitMutation lasting mutates).given fun _ met => ⟨met.1, .inl ⟨rfl, rfl⟩⟩
    · split
      · split
        all_goals exact ensures_failed
      · exact ensures_failed

end

section

variable {Result Ghost : Type} [DecidableEq Own]
    {note : (call : Bucket.Call String (Stored Record) Question) → Bucket.Reply Answer call →
      Ghost → Ghost}
    {pre : Ghost → Prop} {post : Except (Failure Own) Result → Ghost → Prop}

/-- What an attempt is to leave: a conflict is tried again from `pre`. -/
def Attempted (pre : Ghost → Prop) (post : Except (Failure Own) Result → Ghost → Prop)
    (result : Except (Failure Own) Result) (ghost : Ghost) : Prop :=
  match result with
  | .ok value => post (.ok value) ghost
  | .error failure =>
    if isConflict failure then pre ghost else post (.error failure) ghost

/-- The loop leaves what its attempts leave. -/
theorem notes_retryLoop
    (attempted : ∀ ghost, pre ghost → attempt.Notes note (Attempted pre post) ghost)
    (waiting : ∀ reply ghost, note .waits reply ghost = ghost)
    (canceled : ∀ ghost, pre ghost → post (.error Sentinel.canceled.failure) ghost)
    (spent : ∀ failure ghost, pre ghost → post (.error (exhausted failure)) ghost)
    (attempts : Nat) (lastErr : Failure Own)
    (holds : pre ghost) : (retryLoop attempt exhausted attempts lastErr).Notes note post ghost := by
  induction attempts generalizing ghost lastErr with
  | zero => exact spent lastErr ghost holds
  | succ attempts induction =>
    refine Program.notes_bind.2 ((attempted ghost holds).mono ?_)
    intro result seen left
    cases result with
    | ok value => exact left
    | error failure =>
      unfold Attempted at left
      dsimp only at left ⊢
      split at left
      next conflict =>
        rw [if_pos conflict]
        intro reply
        rw [waiting]
        cases reply with
        | true => exact induction failure left
        | false => exact canceled seen left
      next conflict =>
        rwa [if_neg conflict]

end

end Spinifex.State
