import Spinifex.Concurrency.Pool

/-!
# Auxiliary variables

An invariant may need to say what the shared state alone does not: which
thread is in the middle of what.  `System.observed` runs a system beside an
auxiliary variable that each call updates from the states before and after it.
No call looks at the variable, so every pool a run of the system reaches is
reached by an observed run, and what holds of all observed pools for some
value of the variable holds of the plain ones.
-/

namespace Spinifex.Concurrency

variable {Index Op : Type} {Reply : Op → Type} {Shared Ghost Result : Type}

/-- How a call updates the auxiliary variable. -/
abbrev Follow (Index Op Shared Ghost : Type) : Type :=
  Index → Op → Shared → Shared → Ghost → Ghost

namespace System

/-- The system beside an auxiliary variable. -/
def observed (system : System Index Op Reply Shared Result)
    (follow : Follow Index Op Shared Ghost) : System Index Op Reply (Shared × Ghost) Result where
  perform index op before reply after := system.perform index op before.1 reply after.1 ∧
    after.2 = follow index op before.1 after.1 before.2
  drift before after := system.drift before.1 after.1 ∧ after.2 = before.2
  finish index result shared := (system.finish index result shared.1, shared.2)

variable [DecidableEq Index] {system : System Index Op Reply Shared Result}
    {follow : Follow Index Op Shared Ghost}

/-- Every run is one beside the auxiliary variable. -/
theorem Reachable.observed
    (reached : system.Reachable (Pool.start shared programs) pool) (ghost : Ghost) :
    ∃ last, (system.observed follow).Reachable (Pool.start (shared, ghost) programs)
      ⟨(pool.shared, last), pool.thread⟩ := by
  induction reached with
  | refl => exact ⟨ghost, .refl⟩
  | tail _ step induction =>
    rcases induction with ⟨last, reached⟩
    cases step with
    | @call index op _ _ after scheduled performed =>
      exact ⟨follow index op _ after last, reached.tail (.call scheduled ⟨performed, rfl⟩)⟩
    | finish scheduled => exact ⟨_, reached.tail (.finish scheduled)⟩
    | drift drifted => exact ⟨_, reached.tail (.drift ⟨drifted, rfl⟩)⟩

end System

end Spinifex.Concurrency
