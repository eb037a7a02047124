import Mathlib.Data.Option.Basic
import Mathlib.Logic.Function.Basic
import Spinifex.Concurrency.Bucket

/-!
# Shelves of revisioned cells

A shelf holds at most one version per key.  Every change of a cell, a removal
included, takes the next number of one sequence, and a conditional change
takes effect only at the revision it expects.  It is the content of a bucket
without its log, for programs that also work on other things than the bucket.

`Shelf.Evolves` says that no version comes back once it has been replaced, so
whoever read a version and still finds its revision finds its value.
-/

namespace Spinifex.Concurrency

open Option Function

/--
The answer to an unconditional write.  A failure is reported with whether the
write was stored all the same, which only the store knows.
-/
inductive WriteReply (Failure : Type) where
  | acknowledged
  | failed (failure : Failure) (stored : Bool)
deriving DecidableEq, Repr

namespace WriteReply

variable {Failure : Type}

/-- What the writer is told. -/
def result : WriteReply Failure → Except Failure Unit
  | .acknowledged => .ok ()
  | .failed failure _ => .error failure

/-- Whether the write took effect. -/
def stored : WriteReply Failure → Bool
  | .acknowledged => true
  | .failed _ stored => stored

/-- The write took effect exactly if the writer is told so. -/
def Truthful (reply : WriteReply Failure) : Prop :=
  reply.stored = true → reply = .acknowledged

instance [DecidableEq Failure] (reply : WriteReply Failure) : Decidable reply.Truthful :=
  inferInstanceAs (Decidable (_ → _))

end WriteReply

/-- The versions in place, and the last number that was used. -/
structure Shelf (Key Value : Type) where
  cells : Key → Option (Version Value)
  last : Nat
  bounded : ∀ key version, cells key = some version → 0 < version.revision ∧ version.revision ≤ last

namespace Shelf

variable {Key Value : Type}

/-- A shelf on which nothing was ever put. -/
def empty : Shelf Key Value where
  cells _ := none
  last := 0
  bounded := nofun

variable (shelf : Shelf Key Value)

/-- The revision a conditional change of a key has to expect. -/
def revision (key : Key) : Nat :=
  (shelf.cells key).elim 0 Version.revision

def value (key : Key) : Option Value :=
  (shelf.cells key).map Version.value

variable {key : Key} {shelf : Shelf Key Value}

theorem value_eq_some
    (stored : shelf.cells key = some version) : shelf.value key = some version.value := by
  rw [value, stored, map_some]

theorem value_eq_none (absent : shelf.cells key = none) : shelf.value key = none := by
  rw [value, absent, map_none]

/-! ## Changes -/

section

variable [DecidableEq Key] (shelf : Shelf Key Value) (key : Key)

/-- Replace or remove the value of a key. -/
def put (value : Option Value) : Shelf Key Value where
  cells := update shelf.cells key (value.map fun value => ⟨value, shelf.last + 1⟩)
  last := shelf.last + 1
  bounded := by
    intro other version stored
    by_cases same : other = key
    · rw [same, update_self] at stored
      rcases Option.map_eq_some_iff.1 stored with ⟨_, _, rfl⟩
      exact ⟨Nat.succ_pos _, Nat.le_refl _⟩
    · rw [update_of_ne same] at stored
      have kept := shelf.bounded other version stored
      exact ⟨kept.1, Nat.le_succ_of_le kept.2⟩

variable {other : Key} {value : Option Value}

@[simp]
theorem value_put_self (value : Option Value) : (shelf.put key value).value key = value := by
  simp only [Shelf.value, put, update_self]
  cases value <;> rfl

theorem value_put_of_ne {shelf : Shelf Key Value} {key : Key} (different : other ≠ key) :
    (shelf.put key value).value other = shelf.value other := by
  simp only [Shelf.value, put, update_of_ne different]

end

/-- What a read of a key may be answered with. -/
def Answers (shelf : Shelf Key Value) (key : Key) :
    Except Bucket.Fault (Version Value) → Prop
  | .ok version => shelf.cells key = some version
  | .error .notFound => shelf.cells key = none
  | .error _ => True

/--
What a conditional change may be answered with and leaves behind.  One that
fails for another reason than its revision may have taken effect.
-/
def Writes [DecidableEq Key] (before : Shelf Key Value) (key : Key) (value : Option Value)
    (expected : Nat) : Except Bucket.Fault Nat → Shelf Key Value → Prop
  | .ok fresh, after =>
    expected = before.revision key ∧ fresh = before.last + 1 ∧ after = before.put key value
  | .error (.other _), after =>
    after = before ∨ expected = before.revision key ∧ after = before.put key value
  | .error _, after => after = before

theorem Writes.cases [DecidableEq Key] {before after : Shelf Key Value} {value : Option Value}
    (written : before.Writes key value expected reply after) :
    (after = before ∧ ∀ fresh, reply ≠ .ok fresh) ∨
      expected = before.revision key ∧ after = before.put key value := by
  cases reply with
  | ok fresh => exact .inr ⟨written.1, written.2.2⟩
  | error fault =>
    cases fault with
    | other text =>
      rcases written with same | landed
      · exact .inl ⟨same, nofun⟩
      · exact .inr landed
    | notFound | alreadyExists | revisionMismatch | wrongLastSequence =>
      exact .inl ⟨written, nofun⟩

/-! ## Evolution -/

/-- A version that was replaced does not come back. -/
structure Evolves (before after : Shelf Key Value) : Prop where
  last : before.last ≤ after.last
  cells : ∀ key version, after.cells key = some version →
    version.revision ≤ before.last → before.cells key = some version

theorem Evolves.refl (shelf : Shelf Key Value) : shelf.Evolves shelf :=
  ⟨Nat.le_refl _, fun _ _ stored _ => stored⟩

theorem Evolves.trans {first second third : Shelf Key Value} (left : first.Evolves second)
    (right : second.Evolves third) : first.Evolves third :=
  ⟨Nat.le_trans left.last right.last, fun key version stored old => left.cells key version
    (right.cells key version stored (Nat.le_trans old left.last))
    old⟩

theorem evolves_put [DecidableEq Key] (shelf : Shelf Key Value) (key : Key) (value : Option Value) :
    shelf.Evolves (shelf.put key value) := by
  refine ⟨Nat.le_succ _, ?_⟩
  intro other version stored old
  by_cases same : other = key
  · simp only [same, put, update_self] at stored
    rcases map_eq_some_iff.1 stored with ⟨_, _, rfl⟩
    exact absurd old (Nat.not_succ_le_self _)
  · simpa only [put, update_of_ne same] using stored

variable {seen current : Shelf Key Value}

/-- Whoever read a version and finds its revision finds its value. -/
theorem Evolves.unchanged (evolved : seen.Evolves current)
    (read : seen.cells key = some version) (expected : version.revision = current.revision key) :
    current.cells key = some version := by
  have bounds := seen.bounded key version read
  cases stored : current.cells key with
  | none =>
    rw [revision, stored, elim_none] at expected
    exact absurd bounds.1 (by omega)
  | some other =>
    rw [revision, stored, elim_some] at expected
    have before := evolved.cells key other stored (expected ▸ bounds.2)
    rw [read] at before
    exact before.symm

/-- A key expected to be absent is absent. -/
theorem absent_of_revision (expected : 0 = shelf.revision key) : shelf.cells key = none := by
  cases stored : shelf.cells key with
  | none => rfl
  | some version =>
    have bounds := shelf.bounded key version stored
    rw [revision, stored, elim_some] at expected
    omega

/-- A key whose revision has not changed has its value still. -/
theorem Evolves.value_eq (evolved : seen.Evolves current)
    (same : seen.revision key = current.revision key) : current.value key = seen.value key := by
  cases stored : seen.cells key with
  | some version =>
    have revision : seen.revision key = version.revision := by
      rw [Shelf.revision, stored, elim_some]
    have kept := evolved.unchanged stored (revision.symm.trans same)
    rw [value_eq_some stored, value_eq_some kept]
  | none =>
    have revision : seen.revision key = 0 := by
      rw [Shelf.revision, stored, elim_none]
    have absent := absent_of_revision (revision.symm.trans same)
    rw [value_eq_none stored, value_eq_none absent]

end Shelf

end Spinifex.Concurrency
