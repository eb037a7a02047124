import Mathlib.Logic.Function.Basic

/-!
# Sequential programs over an effect signature

A program is a finite tree.  A leaf is a result; an inner node is one call on
an effect signature, with one subtree for every reply that call may get.  The
code between two calls is ordinary Lean computation, so a function whose only
interactions are calls on a store is written in direct style with `do`.

A program says nothing about what its calls do.  That is fixed by whoever runs
it: one thread of a pool under some interleaving, or a single deterministic
run against a handler.
-/

namespace Spinifex.Concurrency

/-- A result, or one call and what follows each of its replies. -/
inductive Program (Op : Type) (Reply : Op → Type) (Result : Type) where
  | done (result : Result)
  | call (op : Op)
    (next : Reply op → Program Op Reply Result)

/-- What follows a call that may fail is checked on errors and on values. -/
theorem either {property : Except Error Value → Prop}
    (failed : ∀ error, property (.error error)) (rest : ∀ value, property (.ok value)) :
    ∀ result, property result
  | .error error => failed error
  | .ok value => rest value
namespace Program
variable {Op : Type} {Reply : Op → Type} {First Second Third : Type}
/-- The program that makes one call and returns its reply. -/
def request (op : Op) : Program Op Reply (Reply op) :=
  .call op .done

/-- Run a program and continue from its result. -/
def andThen :
    Program Op Reply First → (First → Program Op Reply Second) → Program Op Reply Second
  | .done result, continuation => continuation result
  | .call op next, continuation =>
    .call op fun reply => (next reply).andThen continuation

instance : Monad (Program Op Reply) where
  pure := .done
  bind := andThen

@[simp]
theorem pure_eq (result : First) : (pure result : Program Op Reply First) = .done result :=
  rfl

@[simp]
theorem bind_done (result : First) (continuation : First → Program Op Reply Second) :
    (Program.done result >>= continuation) = continuation result :=
  rfl

@[simp]
theorem bind_call (op : Op) (next : Reply op → Program Op Reply First)
    (continuation : First → Program Op Reply Second) :
    (Program.call op next >>= continuation) = .call op fun reply => next reply >>= continuation :=
  rfl

@[simp]
theorem bind_request (op : Op) (continuation : Reply op → Program Op Reply Second) :
    (request op >>= continuation) = .call op continuation :=
  rfl

theorem bind_assoc (program : Program Op Reply First) (second : First → Program Op Reply Second)
    (third : Second → Program Op Reply Third) :
    (program >>= second >>= third) = program >>= fun result => second result >>= third := by
  induction program with
  | done result => rfl
  | call op next induction => simp only [bind_call, induction]

/-- Every call of the program, whatever the replies, is an allowed one. -/
def Only (allowed : Op → Prop) :
    Program Op Reply First → Prop
  | .done _ => True
  | .call op next => allowed op ∧ ∀ reply, (next reply).Only allowed

variable {allowed : Op → Prop}

theorem only_pure (result : First) : (pure result : Program Op Reply First).Only allowed :=
  trivial

variable {program : Program Op Reply First} {continuation : First → Program Op Reply Second}

theorem only_bind (first : program.Only allowed)
    (rest : ∀ result, (continuation result).Only allowed) :
    (program >>= continuation).Only allowed := by
  induction program with
  | done result => exact rest result
  | call op next induction =>
    exact ⟨first.1, fun reply => induction reply (first.2 reply)⟩

theorem Only.mono (only : program.Only allowed)
    (implies : ∀ op, allowed op → wider op) : program.Only wider := by
  induction program with
  | done result => trivial
  | call op next induction =>
    exact ⟨implies op only.1, fun reply => induction reply (only.2 reply)⟩

/--
What holds of every result, whatever the replies, given what was noted of the
calls and replies on the way to it.
-/
def Notes {Ghost : Type} (note : (op : Op) → Reply op → Ghost → Ghost)
    (post : First → Ghost → Prop) : Program Op Reply First → Ghost → Prop
  | .done result, ghost => post result ghost
  | .call op next, ghost =>
    ∀ reply, (next reply).Notes note post (note op reply ghost)

/-- What holds of every result, whatever the replies. -/
abbrev Yields (fact : First → Prop) (program : Program Op Reply First) : Prop :=
  program.Notes (fun _ _ (ghost : Unit) => ghost) (fun result _ => fact result) ()

variable {Ghost : Type}

theorem notes_bind :
    (program >>= continuation).Notes note post ghost ↔ program.Notes note
      (fun result seen => (continuation result).Notes note post seen) ghost := by
  induction program generalizing ghost with
  | done result => rfl
  | call op next induction => exact forall_congr' fun reply => induction reply

theorem notes_of_forall (met : ∀ result seen, post result seen) :
    program.Notes note post ghost := by
  induction program generalizing ghost with
  | done result => exact met result ghost
  | call op next induction => exact fun reply => induction reply

theorem Notes.mono (notes : program.Notes note post ghost)
    (implies : ∀ result seen, post result seen → wider result seen) :
    program.Notes note wider ghost := by
  induction program generalizing ghost with
  | done result => exact implies result ghost notes
  | call op next induction => exact fun reply => induction reply (notes reply)

/-- Run a program alone, every call answered by a deterministic handler. -/
def run {World : Type} (handle : (op : Op) → World → Reply op × World) :
    Program Op Reply First → World → First × World
  | .done result, world => (result, world)
  | .call op next, world =>
    (next (handle op world).1).run handle (handle op world).2

variable {World : Type} (handle : (op : Op) → World → Reply op × World)

@[simp]
theorem run_done (result : First) (world : World) :
    (Program.done result).run handle world = (result, world) :=
  rfl

@[simp]
theorem run_call (handle : (op : Op) → World → Reply op × World) (op : Op)
    (next : Reply op → Program Op Reply First) (world : World) :
    (Program.call op next).run handle world =
      (next (handle op world).1).run handle (handle op world).2 :=
  rfl

theorem run_bind (program : Program Op Reply First)
    (continuation : First → Program Op Reply Second) (world : World) :
    (program >>= continuation).run handle world =
      (continuation (program.run handle world).1).run handle (program.run handle world).2 := by
  induction program generalizing world with
  | done result => rfl
  | call op next induction => simp only [bind_call, run_call, induction]

end Program

end Spinifex.Concurrency
