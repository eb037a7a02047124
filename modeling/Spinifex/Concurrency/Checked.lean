import Spinifex.Concurrency.Discipline

/-!
# Calls with a precondition

Some calls must not be made in some states.  `System.checked` is the system in
which such a call may do anything at all, so no program that makes one upholds
a discipline whose invariant rules anything out.  Every run of a system is one
of the checked system, and a pool in order never stands before a call that
must not be made.
-/

namespace Spinifex.Concurrency

variable {Index Op : Type} {Reply : Op → Type} {Shared Result : Type}

namespace System

/-- The system in which a call that is not allowed may do anything. -/
def checked (system : System Index Op Reply Shared Result)
    (allowed : Op → Shared → Prop) : System Index Op Reply Shared Result where
  perform index op before reply after :=
    allowed op before → system.perform index op before reply after
  drift := system.drift
  finish := system.finish

variable [DecidableEq Index] {system : System Index Op Reply Shared Result}
    {allowed : Op → Shared → Prop}

theorem Step.checked
    (step : system.Step before after) : (system.checked allowed).Step before after := by
  cases step with
  | call scheduled performed => exact .call scheduled fun _ => performed
  | finish scheduled =>
    have ended : (system.checked allowed).Step before _ := .finish scheduled
    exact ended
  | drift drifted => exact .drift drifted

theorem Reachable.checked
    (reached : system.Reachable initial pool) : (system.checked allowed).Reachable initial pool :=
  Relation.ReflTransGen.mono (fun _ _ step => Step.checked step) _ _ reached

end System

namespace Discipline

variable {system : System Index Op Reply Shared Result}
    {allowed : Op → Shared → Prop} {discipline : Discipline (system.checked allowed)}

/-- A pool in order stands before allowed calls only. -/
theorem PoolUpholds.permits (upheld : discipline.PoolUpholds pool)
    (scheduled : pool.thread index = .running (.call op next)) (reply : Reply op)
    (wrong : ¬ discipline.invariant broken) : allowed op pool.shared := by
  by_contra refused
  have obligation := upheld.threads index
  rw [scheduled] at obligation
  have performed : (system.checked allowed).perform index op pool.shared reply broken :=
    fun permitted => absurd permitted refused
  exact wrong (obligation (.refl _) upheld.invariant performed).1.invariant

end Discipline

end Spinifex.Concurrency
