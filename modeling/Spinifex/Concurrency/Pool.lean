import Mathlib.Logic.Function.Basic
import Mathlib.Logic.Relation
import Spinifex.Concurrency.Program

/-!
# Interleaved runs of a pool of programs

A system fixes what one call may do to the shared state, what the shared state
may do on its own, and what is recorded when a thread returns.  A pool is a
shared state and one thread per index; a step lets one thread make its next
call, lets one thread return, or lets the shared state drift.  The index type
is arbitrary, so a statement about every reachable pool is a statement about
every interleaving of any number of calls.

Returning is a step of its own.  A thread whose code has run to its end is
therefore still distinguishable from one whose caller has the answer.

The second half makes runs executable: a resolver turns the choices a system
leaves open into values, and a schedule is a list of such choices.
-/

namespace Spinifex.Concurrency

/-- What calls, time and returns do to the shared state. -/
@[ext]
structure System (Index Op : Type) (Reply : Op → Type) (Shared Result : Type) where
  perform : Index → (op : Op) → Shared → Reply op → Shared → Prop
  drift : Shared → Shared → Prop
  finish : Index → Result → Shared → Shared

/-- A thread still executing, or one that has returned. -/
inductive Thread (Op : Type) (Reply : Op → Type) (Result : Type) where
  | running (program : Program Op Reply Result)
  | returned (result : Result)

/-- What a thread has returned. -/
def Thread.result {Op : Type} {Reply : Op → Type} {Result : Type} :
    Thread Op Reply Result → Option Result
  | .running _ => none
  | .returned result => some result

theorem Thread.result_eq_some {thread : Thread Op Reply Result} {result : Result} :
    thread.result = some result ↔ thread = .returned result := by
  cases thread <;> simp [Thread.result]

/-- The call a thread is about to make. -/
def Thread.pending {Op : Type} {Reply : Op → Type} {Result : Type} :
    Thread Op Reply Result → Option Op
  | .running (.call op _) => some op
  | _ => none

theorem Thread.pending_eq_some {thread : Thread Op Reply Result} :
    thread.pending = some op ↔ ∃ next, thread = .running (.call op next) := by
  match thread with
  | .returned _ => simp [Thread.pending]
  | .running (.done _) => simp [Thread.pending]
  | .running (.call other next) =>
    constructor
    · rintro ⟨⟩
      exact ⟨next, rfl⟩
    · rintro ⟨_, ⟨⟩⟩
      rfl

/-- A shared state and one thread per index. -/
structure Pool (Index Op : Type) (Reply : Op → Type) (Shared Result : Type) where
  shared : Shared
  thread : Index → Thread Op Reply Result

variable {Index Op : Type} {Reply : Op → Type} {Shared Result : Type}

/-- The pool in which every thread is about to start its program. -/
def Pool.start (shared : Shared) (programs : Index → Program Op Reply Result) :
    Pool Index Op Reply Shared Result where
  shared := shared
  thread index := .running (programs index)

namespace System

variable [DecidableEq Index] (system : System Index Op Reply Shared Result)

/-- One call, one return, or one drift of the shared state. -/
inductive Step : Pool Index Op Reply Shared Result → Pool Index Op Reply Shared Result → Prop where
  | call
    {pool : Pool Index Op Reply Shared Result}
    {index : Index} {op : Op}
    {next : Reply op → Program Op Reply Result}
    {reply : Reply op} {after : Shared}
    (scheduled : pool.thread index = .running (.call op next))
    (performed : system.perform index op pool.shared reply after) :
    Step pool ⟨after, Function.update pool.thread index (.running (next reply))⟩
  | finish
    {pool : Pool Index Op Reply Shared Result}
    {index : Index} {result : Result}
    (scheduled : pool.thread index = .running (.done result)) :
    Step pool ⟨system.finish index result pool.shared,
      Function.update pool.thread index (.returned result)⟩
  | drift
    {pool : Pool Index Op Reply Shared Result}
    {after : Shared}
    (drifted : system.drift pool.shared after) :
    Step pool ⟨after, pool.thread⟩

/-- The pools some interleaving reaches. -/
def Reachable (initial pool : Pool Index Op Reply Shared Result) : Prop :=
  Relation.ReflTransGen system.Step initial pool

/-- The runs all of whose calls meet a condition on the state before them. -/
def restrict (admitted : Index → (op : Op) → Shared → Reply op → Prop) :
    System Index Op Reply Shared Result where
  perform index op before reply after :=
    system.perform index op before reply after ∧ admitted index op before reply
  drift := system.drift
  finish := system.finish

/-! ## Executable runs -/

/-- A way to settle what a system leaves open, sound for the system. -/
structure Resolver (Choice : Type) where
  call : Index → (op : Op) → Shared → Choice → Option (Reply op × Shared)
  drift : Shared → Choice → Option Shared
  call_sound : ∀ index op before choice reply after,
    call index op before choice = some (reply, after) → system.perform index op before reply after
  drift_sound : ∀ before choice after, drift before choice = some after → system.drift before after

inductive Move (Index Choice : Type) where
  | thread (index : Index) (choice : Choice)
  | drift (choice : Choice)

variable {system} {Choice : Type}

/-- The pool after one move, if the move is possible. -/
def Resolver.move (resolver : system.Resolver Choice) (pool : Pool Index Op Reply Shared Result) :
    Move Index Choice → Option (Pool Index Op Reply Shared Result)
  | .drift choice =>
    (resolver.drift pool.shared choice).map fun after => ⟨after, pool.thread⟩
  | .thread index choice =>
    match pool.thread index with
    | .returned _ => none
    | .running (.done result) =>
      some ⟨system.finish index result pool.shared,
        Function.update pool.thread index (.returned result)⟩
    | .running (.call op next) =>
      (resolver.call index op pool.shared choice).map
        fun outcome => ⟨outcome.2, Function.update pool.thread index (.running (next outcome.1))⟩

/-- The pool after a whole schedule, if every move is possible. -/
def Resolver.play (resolver : system.Resolver Choice) :
    Pool Index Op Reply Shared Result →
      List (Move Index Choice) → Option (Pool Index Op Reply Shared Result)
  | pool, [] => some pool
  | pool, move :: moves =>
    (resolver.move pool move).bind fun after => resolver.play after moves

/-- Settle only calls that meet a condition. -/
def Resolver.restrict
    (resolver : system.Resolver Choice) (admitted : Index → (op : Op) → Shared → Reply op → Prop)
    [∀ index op before reply, Decidable (admitted index op before reply)] :
    (system.restrict admitted).Resolver Choice where
  call index op before choice := (resolver.call index op before choice).filter fun outcome =>
      admitted index op before outcome.1
  drift := resolver.drift
  call_sound := by
    intro index op before choice reply after called
    rw [Option.filter_eq_some_iff] at called
    exact ⟨resolver.call_sound _ _ _ _ _ _ called.1, of_decide_eq_true called.2⟩
  drift_sound := resolver.drift_sound

variable {after : Pool Index Op Reply Shared Result} (resolver : system.Resolver Choice)

theorem Resolver.move_sound {move : Move Index Choice}
    (moved : resolver.move pool move = some after) : system.Step pool after := by
  cases move with
  | drift choice =>
    simp only [move, Option.map_eq_some_iff] at moved
    rcases moved with ⟨shared, drifted, rfl⟩
    exact .drift (resolver.drift_sound _ _ _ drifted)
  | thread index choice =>
    simp only [move] at moved
    split at moved
    · cases moved
    next scheduled =>
      cases moved
      exact .finish scheduled
    next scheduled =>
      rw [Option.map_eq_some_iff] at moved
      rcases moved with ⟨⟨reply, shared⟩, called, rfl⟩
      exact .call scheduled (resolver.call_sound _ _ _ _ _ _ called)

/-- Whatever a schedule computes is reachable. -/
theorem Resolver.play_sound (played : resolver.play pool moves = some after) :
    system.Reachable pool after := by
  induction moves generalizing pool with
  | nil =>
    cases played
    exact .refl
  | cons move moves induction =>
    simp only [play, Option.bind_eq_some_iff] at played
    rcases played with ⟨middle, moved, rest⟩
    exact .head (resolver.move_sound moved) (induction rest)

/-- What a schedule computes of its last pool holds of a reachable one. -/
theorem Resolver.exists_of_play (played : (resolver.play pool moves).map feature = some seen) :
    ∃ after, system.Reachable pool after ∧ feature after = seen := by
  rcases Option.map_eq_some_iff.1 played with ⟨after, computed, rfl⟩
  exact ⟨after, resolver.play_sound computed, rfl⟩

/-- The same for a pool on the way and the last one. -/
theorem Resolver.exists_of_play_play {first : Pool Index Op Reply Shared Result → First}
    {second : Pool Index Op Reply Shared Result → Second}
    (played : ((resolver.play pool moves).bind fun middle =>
        (resolver.play middle rest).map fun last => (first middle, second last)) = some seen) :
    ∃ middle last, system.Reachable pool middle ∧ system.Reachable middle last ∧
      first middle = seen.1 ∧ second last = seen.2 := by
  rcases Option.bind_eq_some_iff.1 played with ⟨middle, computed, continued⟩
  rcases resolver.exists_of_play continued with ⟨last, reached, rfl⟩
  exact ⟨middle, last, resolver.play_sound computed, reached, rfl, rfl⟩

end System

end Spinifex.Concurrency
