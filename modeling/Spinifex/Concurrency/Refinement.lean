import Spinifex.Concurrency.Discipline

/-!
# Refining a discipline

Once every program is known to uphold a discipline, every call of every run
keeps it, so it may be assumed of each call when more is to be shown of the
same runs or of some of them.  `Discipline.guarded` is the system whose calls
carry that knowledge, and `Discipline.refine` adds to a discipline what is to
be shown next.  A part of a program whose calls all meet the additional
obligations keeps what it was shown to uphold before; only the other calls are
looked at again.
-/

namespace Spinifex.Concurrency

variable {Index Op : Type} {Reply : Op → Type} {Shared Result First : Type}

namespace System

/-- The runs in which the shared state does not change on its own. -/
def still (system : System Index Op Reply Shared Result) : System Index Op Reply Shared Result where
  perform := system.perform
  drift _ _ := False
  finish := system.finish

/-- Every step of the first system is one of the second. -/
structure Within (part whole : System Index Op Reply Shared Result) : Prop where
  perform : ∀ {index op before reply after}, part.perform index op before reply after →
    whole.perform index op before reply after
  drift : ∀ {before after}, part.drift before after → whole.drift before after
  finish : part.finish = whole.finish

/-- Settle the calls of a run without drift. -/
def Resolver.still {system : System Index Op Reply Shared Result}
    {Choice : Type} (resolver : system.Resolver Choice) : system.still.Resolver Choice where
  call := resolver.call
  drift _ _ := none
  call_sound := resolver.call_sound
  drift_sound _ _ _ wrong := by cases wrong

end System

namespace Discipline

variable {part whole : System Index Op Reply Shared Result} (discipline : Discipline whole)

/-- The runs of a system all of whose calls keep a discipline. -/
def guarded (part : System Index Op Reply Shared Result) : System Index Op Reply Shared Result where
  perform index op before reply after :=
    part.perform index op before reply after ∧ discipline.invariant before ∧
      discipline.Keeps index before after
  drift := part.drift
  finish := part.finish

/-- More to be shown of how the shared state changes. -/
structure Extra (part : System Index Op Reply Shared Result) where
  evolves : Shared → Shared → Prop
  spares : Index → Shared → Shared → Prop
  evolves_refl : ∀ shared, evolves shared shared
  evolves_trans : ∀ {first second third},
    evolves first second → evolves second third → evolves first third
  spares_refl : ∀ index shared, spares index shared shared
  spares_trans : ∀ {index first second third},
    spares index first second → spares index second third → spares index first third
  drift_evolves : ∀ {before after}, part.drift before after →
    evolves before after ∧ ∀ index, spares index before after

/-- The discipline with more to be shown, of some of the runs. -/
def refine (within : part.Within whole) (extra : Extra part) :
    Discipline (discipline.guarded part) where
  invariant := discipline.invariant
  evolves before after := discipline.evolves before after ∧ extra.evolves before after
  spares index before after :=
    discipline.spares index before after ∧ extra.spares index before after
  evolves_refl shared := ⟨discipline.evolves_refl shared, extra.evolves_refl shared⟩
  evolves_trans left right := ⟨discipline.evolves_trans left.1 right.1,
    extra.evolves_trans left.2 right.2⟩
  spares_refl index shared := ⟨discipline.spares_refl index shared, extra.spares_refl index shared⟩
  spares_trans left right :=
    ⟨discipline.spares_trans left.1 right.1, extra.spares_trans left.2 right.2⟩
  drift_evolves := by
    intro before after holds drifted
    have kept := discipline.drift_evolves holds (within.drift drifted)
    have more := extra.drift_evolves drifted
    exact ⟨⟨kept.1, more.1⟩, fun index => ⟨kept.2.1 index, more.2 index⟩, kept.2.2⟩

variable {discipline} {extra : Extra part} {index : Index}

/-- What a call still has to show. -/
def Extra.Keeps (extra : Extra part) (index : Index) (before after : Shared) : Prop :=
  extra.evolves before after ∧ ∀ other, other ≠ index → extra.spares other before after

variable {after : Shared}

theorem Keeps.refine (kept : discipline.Keeps index before after)
    (more : extra.Keeps index before after) :
    (discipline.refine within extra).Keeps index before after :=
  ⟨⟨kept.evolves, more.1⟩, fun other different =>
      ⟨kept.spares other different, more.2 other different⟩,
    kept.invariant⟩

theorem Stable.refine (stable : discipline.Stable index property) :
    (discipline.refine within extra).Stable index property :=
  fun _ _ relied holds met => stable ⟨relied.evolves.1, relied.spares.1⟩ holds met

/-- One call, of which the discipline itself is known. -/
theorem refine_request (stable : (discipline.refine within extra).Stable index pre)
    (sound : ∀ before reply after, discipline.invariant before → pre before →
      part.perform index op before reply after → discipline.Keeps index before after →
        extra.Keeps index before after ∧ post reply after) :
    (discipline.refine within extra).Ensures index pre (Program.request op) post := by
  apply ensures_request stable
  rintro before reply after inOrder met ⟨performed, _, kept⟩
  have outcome := sound before reply after inOrder met performed kept
  exact ⟨kept.refine outcome.1, outcome.2⟩

variable [DecidableEq Index]

/-- Every run of programs that uphold a discipline is a guarded one. -/
theorem reachable_guarded (within : part.Within whole) (holds : discipline.invariant shared)
    (upheld : ∀ index, discipline.Upholds index (discipline.Settles index) (programs index) shared)
    (reached : part.Reachable (Pool.start shared programs) pool) :
    (discipline.guarded part).Reachable (Pool.start shared programs) pool ∧
      discipline.PoolUpholds pool := by
  induction reached with
  | refl => exact ⟨.refl, holds, upheld⟩
  | @tail middle _ _ step induction =>
    rcases induction with ⟨reached, inOrder⟩
    cases step with
    | @call index op next reply after scheduled performed =>
      have obligation := inOrder.threads index
      rw [scheduled] at obligation
      have kept := (obligation (.refl _) inOrder.invariant (within.perform performed)).1
      exact ⟨reached.tail (.call scheduled ⟨performed, inOrder.invariant, kept⟩),
          (inOrder.step (.call scheduled (within.perform performed))).2⟩
    | @finish index result scheduled =>
      have ended : whole.Step middle ⟨whole.finish index result middle.shared,
          Function.update middle.thread index (.returned result)⟩ :=
        .finish scheduled
      rw [← within.finish] at ended
      exact ⟨reached.tail (.finish scheduled), (inOrder.step ended).2⟩
    | drift drifted =>
      exact ⟨reached.tail (.drift drifted), (inOrder.step (.drift (within.drift drifted))).2⟩

end Discipline

end Spinifex.Concurrency
