import Spinifex.Concurrency.Pool

/-!
# Rely and guarantee for pools of programs

A discipline is an invariant of the shared state together with two relations.
`evolves` says how the shared state may change under any step.  `spares` says
what the steps of the other threads leave to one thread: a thread may count on
it between its own calls, and need not keep it in them.

A program upholds the discipline from a state when, whatever other threads
have done in the meantime, each of its own calls keeps the invariant, is an
allowed evolution and spares every other thread, and its result meets a
postcondition.  Nothing is assumed about the other threads beyond the same
discipline, so threads are verified one program at a time.

A step that the stepping thread might as well have relied on does not disturb
what that thread knows; `ensures_request` is the rule of a single call and
`upholds_only` that of a program of such steps.

`Discipline.reachable` is the only place where interleavings are reasoned
about: if every program upholds the discipline from the initial state, then the
invariant holds in every reachable pool.
-/

namespace Spinifex.Concurrency

variable {Index Op : Type} {Reply : Op → Type} {Shared Result First Second : Type}

/-- An invariant of the shared state and how that state may change. -/
structure Discipline (system : System Index Op Reply Shared Result) where
  invariant : Shared → Prop
  evolves : Shared → Shared → Prop
  spares : Index → Shared → Shared → Prop := fun _ _ _ => True
  evolves_refl : ∀ shared, evolves shared shared
  evolves_trans : ∀ {first second third},
    evolves first second → evolves second third → evolves first third
  spares_refl : ∀ index shared, spares index shared shared := by
    intro _ _
    trivial
  spares_trans : ∀ {index first second third},
      spares index first second → spares index second third → spares index first third := by
    intro _ _ _ _ _ _
    trivial
  drift_evolves : ∀ {before after}, invariant before → system.drift before after →
    evolves before after ∧ (∀ index, spares index before after) ∧ invariant after

namespace Discipline

variable {system : System Index Op Reply Shared Result} (discipline : Discipline system)

/-- What one thread may count on between two of its own calls. -/
structure Relies (index : Index) (before after : Shared) : Prop where
  evolves : discipline.evolves before after
  spares : discipline.spares index before after

/-- What a step of one thread owes to the others. -/
structure Keeps (index : Index) (before after : Shared) : Prop where
  evolves : discipline.evolves before after
  spares : ∀ other, other ≠ index → discipline.spares other before after
  invariant : discipline.invariant after

/-- A property of the shared state that no step of the others undoes. -/
def Stable (index : Index) (property : Shared → Prop) : Prop :=
  ∀ ⦃before after⦄, discipline.Relies index before after →
    discipline.invariant after → property before → property after

/--
The program keeps the discipline whenever it is scheduled, and ends in its
postcondition.
-/
def Upholds (index : Index) (post : First → Shared → Prop) : Program Op Reply First → Shared → Prop
  | .done result, seen => post result seen
  | .call op next, seen =>
    ∀ ⦃before⦄, discipline.Relies index seen before → discipline.invariant before →
      ∀ ⦃reply after⦄, system.perform index op before reply after →
        discipline.Keeps index before after ∧ Upholds index post (next reply) after

variable {discipline} {index : Index}

theorem Relies.refl (shared : Shared) : discipline.Relies index shared shared :=
  ⟨discipline.evolves_refl shared, discipline.spares_refl index shared⟩

theorem Relies.trans (left : discipline.Relies index first second)
    (right : discipline.Relies index second third) : discipline.Relies index first third :=
  ⟨discipline.evolves_trans left.evolves right.evolves,
    discipline.spares_trans left.spares right.spares⟩

theorem Keeps.refl (holds : discipline.invariant shared) :
    discipline.Keeps index shared shared :=
  ⟨discipline.evolves_refl shared, fun other _ => discipline.spares_refl other shared, holds⟩

/-- A step of one thread is something every other thread relies on. -/
theorem Keeps.relies (kept : discipline.Keeps index before after)
    (different : other ≠ index) : discipline.Relies other before after :=
  ⟨kept.evolves, kept.spares other different⟩

variable {seen : Shared} {post : First → Shared → Prop}

@[simp]
theorem upholds_done : discipline.Upholds index post (.done result) seen ↔ post result seen :=
  Iff.rfl

/-- A stable postcondition makes the whole obligation stable. -/
theorem upholds_stable (stablePost : ∀ result, discipline.Stable index (post result))
    (program : Program Op Reply First) :
    discipline.Stable index (discipline.Upholds index post program) := by
  intro before after relied holds upheld
  cases program with
  | done result => exact stablePost result relied holds upheld
  | call op next =>
    intro later reliedLater holdsLater reply final performed
    exact upheld (relied.trans reliedLater) holdsLater performed

variable {program : Program Op Reply First}

/-- A weaker postcondition is upheld too. -/
theorem Upholds.mono {post weaker : First → Shared → Prop}
    (implies : ∀ result shared, discipline.invariant shared →
      post result shared → weaker result shared)
    (holds : discipline.invariant seen) (upheld : discipline.Upholds index post program seen) :
    discipline.Upholds index weaker program seen := by
  induction program generalizing seen with
  | done result => exact implies result seen holds upheld
  | call op next induction =>
    intro before relied holdsBefore reply after performed
    have outcome := upheld relied holdsBefore performed
    exact ⟨outcome.1, induction reply outcome.1.invariant outcome.2⟩

/-- What a program upholds, it upholds by allowed evolutions. -/
theorem Upholds.evolves (upheld : discipline.Upholds index post program seen) :
    discipline.Upholds index (fun result shared =>
        post result shared ∧ discipline.evolves seen shared)
      program seen := by
  induction program generalizing seen with
  | done result => exact ⟨upheld, discipline.evolves_refl seen⟩
  | call op next induction =>
    intro before relied holds reply after performed
    have outcome := upheld relied holds performed
    refine ⟨outcome.1, (induction reply outcome.2).mono ?_ outcome.1.invariant⟩
    intro result shared _ met
    exact ⟨met.1, discipline.evolves_trans relied.evolves
        (discipline.evolves_trans outcome.1.evolves met.2)⟩

/-- Sequencing: the second program starts from the first one's result. -/
theorem upholds_bind {post : Second → Shared → Prop} :
    discipline.Upholds index post (program >>= continuation) seen ↔
      discipline.Upholds index (fun result shared =>
          discipline.Upholds index post (continuation result) shared)
        program seen := by
  induction program generalizing seen with
  | done result => rfl
  | call op next induction =>
    constructor
    · intro upheld before relied holds reply after performed
      have outcome := upheld relied holds performed
      exact ⟨outcome.1, (induction reply).1 outcome.2⟩
    · intro upheld before relied holds reply after performed
      have outcome := upheld relied holds performed
      exact ⟨outcome.1, (induction reply).2 outcome.2⟩

variable {pre : Shared → Prop}

/-- A program of calls that even its own thread may rely on. -/
theorem upholds_only (neutral : ∀ op before reply after,
      allowed op → discipline.invariant before → system.perform index op before reply after →
        discipline.Keeps index before after ∧ discipline.Relies index before after)
    (only : program.Only allowed) (stable : discipline.Stable index pre) (holds : pre seen) :
    discipline.Upholds index (fun _ => pre) program seen := by
  induction program generalizing seen with
  | done result => exact holds
  | call op next induction =>
    intro before relied inOrder reply after performed
    have outcome := neutral op before reply after only.1 inOrder performed
    refine ⟨outcome.1, induction reply (only.2 reply) ?_⟩
    exact stable outcome.2 outcome.1.invariant (stable relied inOrder holds)

/-- Sequencing from the first program's postcondition. -/
theorem upholds_andThen {middle : First → Shared → Prop} {post : Second → Shared → Prop}
    (inOrder : discipline.invariant seen) (first : discipline.Upholds index middle program seen)
    (rest : ∀ result shared, discipline.invariant shared → middle result shared →
      discipline.Upholds index post (next result) shared) :
    discipline.Upholds index post (program >>= next) seen :=
  upholds_bind.2 (first.mono rest inOrder)

/-! ## Preconditions and postconditions -/

/-- From a precondition, in order, the program ends in its postcondition. -/
def Ensures (discipline : Discipline system) (index : Index) (pre : Shared → Prop)
    (program : Program Op Reply First) (post : First → Shared → Prop) : Prop :=
  ∀ ⦃seen⦄, discipline.invariant seen → pre seen → discipline.Upholds index post program seen

section

theorem ensures_pure (implied : ∀ shared, pre shared → post result shared) :
    discipline.Ensures index pre (pure result) post :=
  fun seen _ holds => implied seen holds

theorem ensures_left {more : Shared → Prop} :
    discipline.Ensures index (fun shared => pre shared ∧ more shared) (pure result) fun _ => pre :=
  ensures_pure fun _ => And.left

theorem ensures_trivial :
    discipline.Ensures index pre (pure result) fun _ _ => True :=
  ensures_pure fun _ _ => trivial

variable {next : First → Program Op Reply Second}

theorem ensures_bind {post : Second → Shared → Prop}
    (first : discipline.Ensures index pre program middle)
    (rest : ∀ result, discipline.Ensures index (middle result) (next result) post) :
    discipline.Ensures index pre (program >>= next) post :=
  fun _ inOrder holds => upholds_andThen inOrder (first inOrder holds) fun result _ inOrder met =>
      rest result inOrder met

/-- Sequencing from less than what is known. -/
theorem ensures_then {post : Second → Shared → Prop}
    (first : discipline.Ensures index pre program middle)
    (implied : ∀ shared, stronger shared → pre shared)
    (rest : ∀ result, discipline.Ensures index (middle result) (next result) post) :
    discipline.Ensures index stronger (program >>= next) post :=
  fun seen inOrder holds => ensures_bind first rest inOrder (implied seen holds)

theorem ensures_request {post : Reply op → Shared → Prop} (stable : discipline.Stable index pre)
    (sound : ∀ before reply after, discipline.invariant before → pre before →
      system.perform index op before reply after →
        discipline.Keeps index before after ∧ post reply after) :
    discipline.Ensures index pre (Program.request op) post := by
  intro _ _ holds before relied inOrder reply after performed
  exact sound before reply after inOrder (stable relied inOrder holds) performed

theorem Ensures.given (ensures : discipline.Ensures index pre program post)
    (implied : ∀ shared, stronger shared → pre shared) :
    discipline.Ensures index stronger program post :=
  fun seen inOrder holds => ensures inOrder (implied seen holds)

theorem Ensures.gives (ensures : discipline.Ensures index pre program post)
    (implied : ∀ result shared, post result shared → weaker result shared) :
    discipline.Ensures index pre program weaker :=
  fun _ inOrder holds =>
    (ensures inOrder holds).mono (fun result shared _ => implied result shared) inOrder

end

theorem Stable.and (first : discipline.Stable index left) (second : discipline.Stable index right) :
    discipline.Stable index fun shared => left shared ∧ right shared :=
  fun _ _ relied holds met => ⟨first relied holds met.1, second relied holds met.2⟩

theorem Stable.given {fact : Source → Prop} {property : Source → Shared → Prop}
    (stable : ∀ source, discipline.Stable index (property source)) :
    discipline.Stable index fun shared => ∀ source, fact source → property source shared :=
  fun _ _ relied holds met source known => stable source relied holds (met source known)

theorem Stable.const (fact : Prop) : discipline.Stable index fun _ => fact :=
  fun _ _ _ _ met => met

/-- Recording a result keeps the discipline at any later time. -/
def Settles (discipline : Discipline system)
    (index : Index) (result : Result) (seen : Shared) : Prop :=
  ∀ ⦃before⦄, discipline.Relies index seen before → discipline.invariant before →
    discipline.Keeps index before (system.finish index result before)

theorem settles_unchanged (unchanged : ∀ shared, system.finish index result shared = shared) :
    discipline.Settles index result seen := by
  intro before _ holds
  rw [unchanged]
  exact .refl holds

theorem settles_stable (index : Index) (result : Result) :
    discipline.Stable index (discipline.Settles index result) := by
  intro before after relied holds settles later reliedLater
  exact settles (relied.trans reliedLater)

/-- What the discipline asks of one thread of a pool. -/
def ThreadUpholds (discipline : Discipline system) (index : Index) :
    Thread Op Reply Result → Shared → Prop
  | .running program, shared =>
    discipline.Upholds index (discipline.Settles index) program shared
  | .returned _, _ => True

theorem threadUpholds_stable (index : Index) (thread : Thread Op Reply Result) :
    discipline.Stable index (discipline.ThreadUpholds index thread) := by
  cases thread with
  | running program =>
    exact upholds_stable (fun result => settles_stable index result) program
  | returned result =>
    intro before after relied holds upheld
    trivial

/-- The shared state is in order and every thread will keep it so. -/
structure PoolUpholds (discipline : Discipline system)
    (pool : Pool Index Op Reply Shared Result) : Prop where
  invariant : discipline.invariant pool.shared
  threads : ∀ index, discipline.ThreadUpholds index (pool.thread index) pool.shared

variable [DecidableEq Index] {pool : Pool Index Op Reply Shared Result}

private theorem threads_after
    (threads : ∀ index, discipline.ThreadUpholds index (pool.thread index) pool.shared)
    (kept : discipline.Keeps index pool.shared after)
    (own : discipline.ThreadUpholds index thread after) (other : Index) :
    discipline.ThreadUpholds other (Function.update pool.thread index thread other)
      after := by
  by_cases same : other = index
  · subst other
    rwa [Function.update_self]
  · rw [Function.update_of_ne same]
    exact threadUpholds_stable other _ (kept.relies same) kept.invariant (threads other)

variable {after : Pool Index Op Reply Shared Result}

section

variable (upheld : discipline.PoolUpholds pool)

include upheld

/-- One step of any thread is an allowed evolution of a pool in order. -/
theorem PoolUpholds.step (step : system.Step pool after) :
    discipline.evolves pool.shared after.shared ∧ discipline.PoolUpholds after := by
  cases step with
  | @call index op next reply shared scheduled performed =>
    have obligation := upheld.threads index
    rw [scheduled] at obligation
    have outcome := obligation (.refl _) upheld.invariant performed
    exact ⟨outcome.1.evolves,
        { invariant := outcome.1.invariant
          threads := threads_after upheld.threads outcome.1 outcome.2 }⟩
  | @finish index result scheduled =>
    have obligation := upheld.threads index
    rw [scheduled] at obligation
    have kept := obligation (.refl _) upheld.invariant
    exact ⟨kept.evolves,
        { invariant := kept.invariant
          threads := threads_after upheld.threads kept trivial }⟩
  | drift drifted =>
    have outcome := discipline.drift_evolves upheld.invariant drifted
    exact ⟨outcome.1,
        { invariant := outcome.2.2
          threads := fun index => threadUpholds_stable index _ ⟨outcome.1, outcome.2.1 index⟩
            outcome.2.2 (upheld.threads index) }⟩

/-- A pool in order stays so, and its state only evolves. -/
theorem PoolUpholds.later {later : Pool Index Op Reply Shared Result}
    (reached : system.Reachable pool later) :
    discipline.evolves pool.shared later.shared ∧ discipline.PoolUpholds later := by
  induction reached with
  | refl => exact ⟨discipline.evolves_refl _, upheld⟩
  | tail _ step induction =>
    have outcome := induction.2.step step
    exact ⟨discipline.evolves_trans induction.1 outcome.1, outcome.2⟩

/-- A step of a pool in order as one of its threads sees it. -/
theorem PoolUpholds.step_cases (step : system.Step pool after) (index : Index) :
    (after.thread index = pool.thread index ∧ discipline.Relies index pool.shared after.shared) ∨
      (∃ op next reply, pool.thread index = .running (.call op next) ∧
      system.perform index op pool.shared reply after.shared ∧
      after.thread index = .running (next reply)) ∨ ∃ result,
      pool.thread index = .running (.done result) ∧ after.thread index = .returned result ∧
      after.shared = system.finish index result pool.shared := by
  cases step with
  | @call other op next reply shared scheduled performed =>
    by_cases same : index = other
    · subst other
      exact .inr (.inl ⟨op, next, reply, scheduled, performed, by simp⟩)
    · have obligation := upheld.threads other
      rw [scheduled] at obligation
      have kept := (obligation (.refl _) upheld.invariant performed).1
      exact .inl ⟨by simp [same], kept.relies same⟩
  | @finish other result scheduled =>
    by_cases same : index = other
    · subst other
      exact .inr (.inr ⟨result, scheduled, by simp, rfl⟩)
    · have obligation := upheld.threads other
      rw [scheduled] at obligation
      have kept := obligation (.refl _) upheld.invariant
      exact .inl ⟨by simp [same], kept.relies same⟩
  | drift drifted =>
    have outcome := discipline.drift_evolves upheld.invariant drifted
    exact .inl ⟨rfl, outcome.1, outcome.2.1 index⟩

/--
A thread of a pool in order that upholds a postcondition of its own is still
on its way to it, or has returned in it at a state the pool evolved from.
-/
theorem PoolUpholds.follow {later : Pool Index Op Reply Shared Result}
    {post : Result → Shared → Prop} {program : Program Op Reply Result}
    (stablePost : ∀ result, discipline.Stable index (post result))
    (scheduled : pool.thread index = .running program)
    (own : discipline.Upholds index post program pool.shared)
    (reached : system.Reachable pool later) :
    (∃ rest, later.thread index = .running rest ∧ discipline.Upholds index post rest later.shared) ∨
      ∃ result shared, later.thread index = .returned result ∧
        post result shared ∧ discipline.evolves shared later.shared ∧
        discipline.Relies index (system.finish index result shared) later.shared := by
  induction reached with
  | refl => exact .inl ⟨program, scheduled, own⟩
  | @tail middle last reaches step induction =>
    have inOrder := (upheld.later reaches).2
    have stepped := inOrder.step step
    have holds := stepped.2.invariant
    rcases induction with ⟨rest, waiting, ownRest⟩
      | ⟨result, shared, ended, met, evolved, since⟩
    · rcases inOrder.step_cases step index with ⟨same, relied⟩
        | ⟨op, next, reply, called, performed, continued⟩
        | ⟨result, finished, returned, recorded⟩
      · exact .inl ⟨rest, same.trans waiting, upholds_stable stablePost rest relied holds ownRest⟩
      · cases waiting.symm.trans called
        have outcome := ownRest (.refl _) inOrder.invariant performed
        exact .inl ⟨next reply, continued, outcome.2⟩
      · cases waiting.symm.trans finished
        exact .inr ⟨result, middle.shared, returned, ownRest, stepped.1, recorded ▸ .refl _⟩
    · rcases inOrder.step_cases step index with ⟨same, relied⟩ | ⟨op, next, reply, called, _⟩
        | ⟨other, finished, _⟩
      · exact .inr ⟨result, shared, same.trans ended, met,
            discipline.evolves_trans evolved stepped.1,
            since.trans relied⟩
      · cases ended.symm.trans called
      · cases ended.symm.trans finished

end

/--
If every program upholds the discipline on its own, every pool that any
interleaving reaches is in order.
-/
theorem reachable (holds : discipline.invariant shared)
    (upheld : ∀ index, discipline.Upholds index (discipline.Settles index) (programs index) shared)
    (reached : system.Reachable (Pool.start shared programs) pool) : discipline.PoolUpholds pool :=
  (PoolUpholds.later ⟨holds, upheld⟩ reached).2

end Discipline

end Spinifex.Concurrency
