import Spinifex.State.KeyValue

/-!
# Retrying under a discipline

The optimistic-concurrency loop under any discipline of a system that has a
bucket among other things: the loop keeps what each of its attempts keeps, and
a result it reports is one that an attempt reached.
-/

namespace Spinifex.State

open Concurrency Go Discipline

variable {Index Record Question Shared Outcome Own Result : Type}
    {Answer : Question → Type}
    {system :
      System Index (Bucket.Call String (Stored Record) Question)
        (Bucket.Reply Answer) Shared Outcome}
    {discipline : Discipline system} {index : Index}

/-- What a call that may fail keeps, and what it achieves. -/
def Achieves (pre : Shared → Prop) (done : Result → Shared → Prop)
    (result : Except (Failure Own) Result) (shared : Shared) : Prop :=
  pre shared ∧ ∀ value, result = .ok value → done value shared

variable {pre : Shared → Prop} {done : Result → Shared → Prop}
    {failure : Failure Own} {shared : Shared}

@[simp]
theorem achieves_error_iff : Achieves pre done (.error failure) shared ↔ pre shared :=
  ⟨And.left, fun holds => ⟨holds, nofun⟩⟩

theorem achieves_error (holds : pre shared) : Achieves pre done (.error failure) shared :=
  achieves_error_iff.2 holds

/-- A failure keeps what held before. -/
theorem ensures_failed {more : Shared → Prop} :
    discipline.Ensures index (fun shared => pre shared ∧ more shared) (pure (.error failure))
      (Achieves pre done) :=
  ensures_pure fun _ met => achieves_error met.1

theorem achieves_ok (holds : pre shared) (reached : done value shared) :
    Achieves pre done (.ok value : Except (Failure Own) Result) shared := by
  refine ⟨holds, ?_⟩
  rintro other ⟨⟩
  exact reached

variable [DecidableEq Own]

/-- The loop keeps what its attempts keep when they fail. -/
theorem ensures_retryLoop {post : Except (Failure Own) Result → Shared → Prop}
    (failed : ∀ failure shared, post (.error failure) shared ↔ pre shared)
    (attempted : discipline.Ensures index pre attempt post)
    (waiting : discipline.Ensures index pre (waits : Session Record Answer Bool) fun _ => pre)
    (attempts : Nat) (lastErr : Failure Own) :
    discipline.Ensures index pre (retryLoop attempt exhausted attempts lastErr) post := by
  induction attempts generalizing lastErr with
  | zero => exact ensures_pure fun shared => (failed _ shared).2
  | succ attempts induction =>
    refine ensures_bind attempted fun result => ?_
    cases result with
    | ok value => exact ensures_pure fun _ met => met
    | error failure =>
      dsimp only
      split
      · refine ensures_then waiting (fun shared => (failed _ shared).1) fun waited => ?_
        cases waited with
        | true => exact induction failure
        | false => exact ensures_pure fun shared => (failed _ shared).2
      · exact ensures_pure fun _ met => met

end Spinifex.State
