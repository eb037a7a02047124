import Spinifex.Concurrency.Pool

/-!
# Calls run one at a time

A program run from its start to its end with nothing but the drift of the
shared state in between.  A program is confined to a property if no run of it
alone leaves the property, and its result is of a given kind; more generally a
program ensures a postcondition from a precondition.

Both are shown along the program: one rule for a single call, one for
sequencing, and one for programs all of whose calls keep the property.
-/

namespace Spinifex.Concurrency.System

variable {Index Op : Type} {Reply : Op → Type} {Shared Result First Second : Type}
    (system : System Index Op Reply Shared Result)

/-- A run of one program from its start to its end. -/
inductive Executes (index : Index) : Program Op Reply First → Shared → First → Shared → Prop where
  | done {result : First} {shared : Shared} :
    Executes index (.done result) shared result shared
  | call {op : Op} {next : Reply op → Program Op Reply First}
    {before middle after : Shared} {reply : Reply op}
    {result : First}
    (performed : system.perform index op before reply middle)
    (rest : Executes index (next reply) middle result after) :
    Executes index (.call op next) before result after
  | drift {program : Program Op Reply First}
    {before middle after : Shared} {result : First}
    (drifted : system.drift before middle)
    (rest : Executes index program middle result after) :
    Executes index program before result after

/-- A property that the drift of the shared state keeps. -/
def Steady (property : Shared → Prop) : Prop :=
  ∀ before after, system.drift before after → property before → property after

/-- Every run of the program from `pre` ends in `post`. -/
def Ensures (index : Index) (pre : Shared → Prop) (program : Program Op Reply First)
    (post : First → Shared → Prop) : Prop :=
  ∀ before result after, pre before →
    system.Executes index program before result after → post result after

/-- No run of the program alone leaves the property. -/
abbrev Confined (index : Index) (property : Shared → Prop) (program : Program Op Reply First)
    (learned : First → Prop) : Prop :=
  system.Ensures index property program fun result after => property after ∧ learned result

variable {system} {index : Index} {next : First → Program Op Reply Second} {after : Shared}

/-- A run of two programs in sequence. -/
theorem Executes.of_bind (run : system.Executes index (program >>= next) before result after) :
    ∃ first middle, system.Executes index program before first middle ∧
      system.Executes index (next first) middle result after := by
  generalize same : (program >>= next) = whole at run
  induction run generalizing program with
  | done =>
    cases program with
    | done first =>
      have last : next first = .done _ := same
      exact ⟨first, _, .done, last ▸ .done⟩
    | call op rest => cases same
  | call performed rest induction =>
    cases program with
    | done first =>
      have later : next first = .call _ _ := same
      exact ⟨first, _, .done, later ▸ .call performed rest⟩
    | call op follow =>
      cases same
      rcases induction rfl with ⟨first, middle, left, right⟩
      exact ⟨first, middle, .call performed left, right⟩
  | drift drifted rest induction =>
    rcases induction same with ⟨first, middle, left, right⟩
    exact ⟨first, middle, .drift drifted left, right⟩

variable {result : First}

/-- What every call and every drift keeps, a whole run keeps. -/
theorem Executes.invariant (steady : system.Steady property)
    (keeps : ∀ op before reply after, property before →
      system.perform index op before reply after → property after)
    (run : system.Executes index program before result after)
    (holds : property before) : property after := by
  induction run with
  | done => exact holds
  | call performed rest induction =>
    exact induction (keeps _ _ _ _ holds performed)
  | drift drifted rest induction => exact induction (steady _ _ drifted holds)

/-- What holds of every result whatever the replies holds of a run's. -/
theorem Executes.notes (run : system.Executes index program before result after)
    (notes : program.Notes note post ghost) : ∃ seen, post result seen := by
  induction run generalizing ghost with
  | done => exact ⟨ghost, notes⟩
  | call performed rest induction => exact induction (notes _)
  | drift drifted rest induction => exact induction notes

/-! ## Rules -/

theorem ensures_pure (steady : system.Steady pre)
    (holds : ∀ shared, pre shared → post result shared) :
    system.Ensures index pre (pure result : Program Op Reply First) post := by
  intro before last after start run
  generalize same : (pure result : Program Op Reply First) = program at run
  induction run with
  | done =>
    cases same
    exact holds _ start
  | call performed rest induction => cases same
  | drift drifted rest induction =>
    exact induction (steady _ _ drifted start) same

theorem ensures_bind {post : Second → Shared → Prop}
    (first : system.Ensures index pre program middle)
    (rest : ∀ result, system.Ensures index (middle result) (next result) post) :
    system.Ensures index pre (program >>= next) post := by
  intro before result after start run
  rcases run.of_bind with ⟨value, between, left, right⟩
  exact rest value _ _ _ (first _ _ _ start left) right

theorem ensures_request {post : Reply op → Shared → Prop}
    (steady : system.Steady pre) (stays : ∀ reply, system.Steady (post reply))
    (performs : ∀ before reply after, pre before →
      system.perform index op before reply after → post reply after) :
    system.Ensures index pre (Program.request op) post := by
  intro before result after start run
  generalize same : (Program.request op : Program Op Reply (Reply op)) = program at run
  induction run with
  | done => cases same
  | call performed rest induction =>
    cases same
    exact ensures_pure (stays _) (fun _ holds => holds) _ _ _ (performs _ _ _ start performed) rest
  | drift drifted rest induction =>
    exact induction (steady _ _ drifted start) same

theorem Ensures.strengthen (ensures : system.Ensures index pre program post)
    (implies : ∀ shared, stronger shared → pre shared) :
    system.Ensures index stronger program post :=
  fun _ _ _ start run => ensures _ _ _ (implies _ start) run

theorem confined_pure (steady : system.Steady property) (fact : learned result) :
    system.Confined index property (pure result : Program Op Reply First) learned :=
  ensures_pure steady fun _ holds => ⟨holds, fact⟩

theorem confined_bind {learned : Second → Prop}
    (first : system.Confined index property program middle)
    (rest : ∀ result, middle result → system.Confined index property (next result) learned) :
    system.Confined index property (program >>= next) learned :=
  ensures_bind first fun result _ _ _ kept run => rest result kept.2 _ _ _ kept.1 run

theorem confined_request {learned : Reply op → Prop} (steady : system.Steady property)
    (keeps : ∀ before reply after, property before →
      system.perform index op before reply after → property after ∧ learned reply) :
    system.Confined index property (Program.request op) learned :=
  ensures_request steady (fun _ _ _ drifted kept => ⟨steady _ _ drifted kept.1, kept.2⟩) keeps

/-- A program all of whose calls keep the property. -/
theorem confined_only {allowed : Op → Prop} (steady : system.Steady property)
    (keeps : ∀ op before reply after, allowed op → property before →
      system.perform index op before reply after → property after)
    (only : program.Only allowed) : system.Confined index property program fun _ => True := by
  induction program with
  | done result => exact confined_pure steady trivial
  | call op next induction =>
    have asked : system.Confined index property (Program.request op) fun _ => True :=
      confined_request steady fun before reply after holds performed =>
          ⟨keeps op before reply after only.1 holds performed, trivial⟩
    exact confined_bind asked fun reply _ => induction reply (only.2 reply)

/-! ## Executable runs -/

variable {Choice : Type}

/-- Run a program alone by a list of choices. -/
def Resolver.alone (resolver : system.Resolver Choice) (index : Index) :
    Program Op Reply First → Shared → List Choice → Option (First × Shared)
  | .done result, shared, _ => some (result, shared)
  | .call _ _, _, [] => none
  | .call op next, shared, choice :: choices =>
    (resolver.call index op shared choice).bind fun outcome =>
      resolver.alone index (next outcome.1) outcome.2 choices

theorem Resolver.alone_sound (resolver : system.Resolver Choice)
    (ran : resolver.alone index program before choices = some (result, after)) :
    system.Executes index program before result after := by
  induction program generalizing before choices with
  | done value =>
    cases ran
    exact .done
  | call op next induction =>
    cases choices with
    | nil => cases ran
    | cons choice choices =>
      rcases Option.bind_eq_some_iff.1 ran with ⟨⟨reply, middle⟩, called, rest⟩
      exact .call (resolver.call_sound _ _ _ _ _ _ called) (induction reply rest)

/-- What a run by choices ends with, some run ends with. -/
theorem Resolver.exists_of_alone (resolver : system.Resolver Choice)
    (ran : (resolver.alone index program before choices).map feature = some seen) :
    ∃ result after, system.Executes index program before result after ∧
      feature (result, after) = seen := by
  rcases Option.map_eq_some_iff.1 ran with ⟨⟨result, after⟩, computed, rfl⟩
  exact ⟨result, after, resolver.alone_sound computed, rfl⟩

end Spinifex.Concurrency.System
