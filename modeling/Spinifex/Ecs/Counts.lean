import Mathlib.Logic.Function.Iterate
import Spinifex.Ecs.Bounds

/-!
# Rounds on counts

How many tasks of each kind there are after a round depends only on how many
there were before it.  On these counts a rollout either comes closer to its
goal with every round or can never reach it.  Which of the two is decided by
the first counts, the desired count, the floor and the ceiling.
-/

namespace Spinifex.Ecs

namespace Census

variable (census : Census) (desired floor ceiling : Int)

/-- How many tasks a pass launches if nothing holds it back. -/
def launches : Nat :=
  if census.primary < desired then
    (min (desired - census.primary) (max (ceiling - census.total) 0)).toNat
  else
    0

/-- The counts after a round. -/
def round : Census where
  oldPending := 0
  oldRunning := census.oldRunning - (census.stops desired floor).oldRunning
  primaryPending := 0
  primaryRunning := census.primary - (census.stops desired floor).primary +
    census.launches desired ceiling

/-- The counts a rollout is to end with. -/
def goal : Census :=
  ⟨0, 0, 0, desired.toNat⟩

/--
A rollout gets to its goal: the PRIMARY deployment has its tasks or the ceiling
leaves room for them, and the floor lets go of the other tasks, be it because
there are none.
-/
structure Progresses : Prop where
  room : desired ≤ census.primary ∨ desired ≤ ceiling
  drain : (floor ≤ desired ∧ (desired ≤ census.primary ∨ floor < ceiling ∨ census.oldRunning = 0)) ∨
    (desired < floor ∧ census.oldRunning = 0 ∧ census.primaryRunning ≤ desired)

/-- How far the counts are from the goal. -/
def distance : Nat :=
  census.old + (census.primary - desired).natAbs

variable {census desired floor ceiling}

theorem primary_goal (wanted : 0 ≤ desired) : ((goal desired).primary : Int) = desired := by
  unfold goal primary
  dsimp only
  omega

theorem progresses_goal (wanted : 0 ≤ desired) :
    (goal desired).Progresses desired floor ceiling := by
  have count := primary_goal wanted
  refine ⟨.inl (by omega), ?_⟩
  rcases Int.lt_or_le desired floor with above | below
  · refine .inr ⟨above, rfl, ?_⟩
    unfold goal
    dsimp only
    omega
  · exact .inl ⟨below, .inl (by omega)⟩

theorem launches_eq :
    census.launches desired ceiling = (min (desired - census.primary)
      (max (ceiling - census.total) 0)).toNat := by
  unfold launches
  split <;> omega

theorem launches_of_enough
    (enough : desired ≤ census.primary) : census.launches desired ceiling = 0 :=
  if_neg (by omega)

theorem primary_stops_of_short
    (short : census.primary < desired) : (census.stops desired floor).primary = 0 := by
  unfold stops surplus
  unfold primary at short ⊢
  dsimp only
  omega

variable (census) in
theorem primary_stops_le (desired floor : Int) :
    (census.stops desired floor).primary ≤ census.primary := by
  unfold stops primary
  dsimp only
  omega

theorem primary_round :
    (census.round desired floor ceiling).primary =
      (census.round desired floor ceiling).primaryRunning := by
  unfold primary round
  dsimp only
  omega

theorem primaryRunning_round_of_short (short : census.primary < desired) :
    (census.round desired floor ceiling).primaryRunning = census.primary +
      (min (desired - census.primary) (max (ceiling - census.total) 0)).toNat := by
  unfold round
  rw [primary_stops_of_short short, launches_eq, Nat.sub_zero]

theorem primaryRunning_round_of_enough (enough : desired ≤ census.primary) :
    (census.round desired floor ceiling).primaryRunning =
      census.primary - (census.stops desired floor).primary := by
  unfold round
  rw [launches_of_enough enough, Nat.add_zero]

theorem oldRunning_round :
    (census.round desired floor ceiling).oldRunning = census.oldRunning -
      min census.oldRunning (census.primaryRunning + census.oldRunning - floor).toNat := by
  unfold round stops budget running
  dsimp only
  omega

theorem le_primaryRunning_round (wanted : 0 ≤ desired) (enough : desired ≤ census.primary) :
    desired ≤ (census.round desired floor ceiling).primaryRunning := by
  have kept := census.primary_stops floor wanted
  rw [primaryRunning_round_of_enough enough]
  omega

theorem primary_eq : census.primary = census.primaryPending + census.primaryRunning :=
  rfl

theorem total_eq : census.total = census.primary + (census.oldPending + census.oldRunning) :=
  rfl

/-- The PRIMARY tasks a pass stops are those it may, up to the surplus. -/
theorem primary_stops_eq (enough : desired ≤ census.primary) :
    ((census.stops desired floor).primary : Int) =
      min (census.primary - desired) (census.primaryPending +
        min (census.primaryRunning : Int) (max (census.primaryRunning - floor) 0)) := by
  have free : ((census.budget floor - min census.oldRunning (census.budget floor) : Nat) : Int) =
      max (census.primaryRunning - floor) 0 := by
    unfold budget running
    omega
  have surplus : (census.surplus desired : Int) = census.primary - desired := by
    unfold surplus
    omega
  have stopped : (census.stops desired floor).primary =
      min census.primaryPending (census.surplus desired) +
        min census.primaryRunning (min (census.surplus desired -
            min census.primaryPending (census.surplus desired))
          (census.budget floor - min census.oldRunning (census.budget floor))) :=
    rfl
  omega

/-- With a short PRIMARY deployment a round settles nothing. -/
theorem progresses_round_of_short (short : census.primary < desired) :
    (census.round desired floor ceiling).Progresses desired floor ceiling ↔
      census.Progresses desired floor ceiling := by
  have settled := @primary_round census desired floor ceiling
  have primary := @primaryRunning_round_of_short census desired floor ceiling short
  have old := @oldRunning_round census desired floor ceiling
  have parts := @primary_eq census
  have total := @total_eq census
  constructor
  all_goals
    rintro ⟨room, drain⟩
    have ceiled : desired ≤ ceiling := by omega
    refine ⟨.inr ceiled, ?_⟩
    omega

/-- Above the desired count only a floor above it is in the way. -/
theorem progresses_round_of_high (wanted : 0 < desired) (enough : desired ≤ census.primary)
    (high : desired < floor) :
    (census.round desired floor ceiling).Progresses desired floor ceiling ↔
      census.Progresses desired floor ceiling := by
  have settled := @primary_round census desired floor ceiling
  have primary := @primaryRunning_round_of_enough census desired floor ceiling enough
  have old := @oldRunning_round census desired floor ceiling
  have parts := @primary_eq census
  have stopped := @primary_stops_eq census desired floor enough
  constructor
  · rintro ⟨room, drain⟩
    refine ⟨.inl enough, .inr ⟨high, ?_⟩⟩
    omega
  · rintro ⟨room, drain⟩
    refine ⟨.inl (by omega), .inr ⟨high, ?_⟩⟩
    omega

/-- A round decides nothing that was not decided before it. -/
theorem progresses_round (wanted : 0 < desired) :
    (census.round desired floor ceiling).Progresses desired floor ceiling ↔
      census.Progresses desired floor ceiling := by
  rcases Int.lt_or_le census.primary desired with short | enough
  · exact progresses_round_of_short short
  · rcases Int.lt_or_le desired floor with high | low
    · exact progresses_round_of_high wanted enough high
    · have settled := @primary_round census desired floor ceiling
      have above := @le_primaryRunning_round census desired floor ceiling (by omega) enough
      exact iff_of_true ⟨.inl (by omega), .inl ⟨low, .inl (by omega)⟩⟩
        ⟨.inl enough, .inl ⟨low, .inl enough⟩⟩

/-- Below the desired count a round drains or launches. -/
theorem moves_of_short (progresses : census.Progresses desired floor ceiling)
    (settled : census.oldPending = 0 ∧ census.primaryPending = 0)
    (short : census.primary < desired) :
    (census.round desired floor ceiling).oldRunning < census.oldRunning ∨
      census.primary < (census.round desired floor ceiling).primaryRunning := by
  have parts := @primary_eq census
  have total := @total_eq census
  have room : desired ≤ ceiling := progresses.room.resolve_left (by omega)
  rw [oldRunning_round, primaryRunning_round_of_short short]
  -- Without a RUNNING task above the floor there is room below the ceiling.
  by_cases drains : 0 < census.oldRunning ∧ floor < census.primary + census.oldRunning
  · left
    omega
  · right
    have launches : (census.total : Int) < ceiling := by
      rcases progresses.drain with ⟨-, enough | gap | none⟩ | ⟨-, none, -⟩
      all_goals omega
    omega

/-- From the desired count on a round drains or scales in. -/
theorem moves_of_enough
    (wanted : 0 < desired) (progresses : census.Progresses desired floor ceiling)
    (settled : census.oldPending = 0 ∧ census.primaryPending = 0)
    (enough : desired ≤ census.primary)
    (unfinished : census.oldRunning ≠ 0 ∨ (census.primary : Int) ≠ desired) :
    (census.round desired floor ceiling).oldRunning < census.oldRunning ∨
      (census.round desired floor ceiling).primaryRunning < census.primary := by
  have parts := @primary_eq census
  have stopped := @primary_stops_eq census desired floor enough
  rw [oldRunning_round, primaryRunning_round_of_enough enough]
  have low : floor ≤ desired := by
    rcases progresses.drain with ⟨low, -⟩ | ⟨-, none, few⟩
    all_goals omega
  by_cases drains : 0 < census.oldRunning
  · left
    omega
  · right
    omega

/-- Every round but the last brings the counts closer to the goal. -/
theorem distance_round (wanted : 0 < desired) (progresses : census.Progresses desired floor ceiling)
    (settled : census.oldPending = 0 ∧ census.primaryPending = 0)
    (unfinished : census ≠ goal desired) :
    (census.round desired floor ceiling).distance desired < census.distance desired := by
  have counts := @primary_round census desired floor ceiling
  have fewer : (census.round desired floor ceiling).oldRunning ≤ census.oldRunning := Nat.sub_le ..
  have left : (census.round desired floor ceiling).old =
      0 + (census.round desired floor ceiling).oldRunning :=
    rfl
  have before : census.old = census.oldPending + census.oldRunning := rfl
  unfold distance
  rcases Int.lt_or_le census.primary desired with short | enough
  · have moves := moves_of_short progresses settled short
    have primary := @primaryRunning_round_of_short census desired floor ceiling short
    omega
  · have short : census.oldRunning ≠ 0 ∨ (census.primary : Int) ≠ desired := by
      by_contra neither
      have parts := @primary_eq census
      refine unfinished (Census.ext ?_ ?_ ?_ ?_)
      all_goals
        unfold goal
        dsimp only
        omega
    have moves := moves_of_enough wanted progresses settled enough short
    have least := @le_primaryRunning_round census desired floor ceiling (by omega) enough
    have most :
        (census.round desired floor ceiling).primaryRunning ≤ census.primary := by
      rw [primaryRunning_round_of_enough enough]
      exact Nat.sub_le ..
    omega

/-- A round leaves the goal as it is. -/
theorem round_goal (wanted : 0 ≤ desired) :
    (goal desired).round desired floor ceiling = goal desired := by
  have count := primary_goal wanted
  have kept := (goal desired).primary_stops floor wanted
  unfold round
  rw [launches_of_enough (by omega)]
  ext
  · rfl
  · rfl
  · rfl
  · dsimp only
    have same : (goal desired).primary = (goal desired).primaryRunning := Nat.zero_add _
    omega

theorem progresses_iterate (wanted : 0 < desired) (rounds : Nat) :
    ((fun census : Census => census.round desired floor ceiling)^[rounds]
        census).Progresses desired floor ceiling ↔
      census.Progresses desired floor ceiling := by
  induction rounds with
  | zero => rfl
  | succ rounds induction =>
    rw [Function.iterate_succ_apply', progresses_round wanted, induction]

/-- Once nothing is pending, a rollout that progresses ends. -/
theorem exists_goal_of_settled
    (wanted : 0 < desired) (progresses : census.Progresses desired floor ceiling)
    (settled : census.oldPending = 0 ∧ census.primaryPending = 0) :
    ∃ rounds, (fun census : Census => census.round desired floor ceiling)^[rounds] census =
      goal desired := by
  induction far : census.distance desired using Nat.strong_induction_on generalizing census with
  | _ far induction =>
    by_cases finished : census = goal desired
    · exact ⟨0, finished⟩
    · have closer := distance_round wanted progresses settled finished
      obtain ⟨rounds, reached⟩ := induction _ (far ▸ closer)
          ((progresses_round wanted).2 progresses) ⟨rfl, rfl⟩ rfl
      exact ⟨rounds + 1, reached⟩

/-- The counts of a rollout reach the goal exactly if they progress. -/
theorem reaches_goal_iff (wanted : 0 < desired) :
    (∃ rounds, (fun census : Census => census.round desired floor ceiling)^[rounds] census =
          goal desired) ↔
      census.Progresses desired floor ceiling := by
  constructor
  · rintro ⟨rounds, reached⟩
    rw [← progresses_iterate wanted rounds, reached]
    exact progresses_goal (by omega)
  · intro progresses
    obtain ⟨rounds, reached⟩ :=
      exists_goal_of_settled wanted ((progresses_round wanted).2 progresses) ⟨rfl, rfl⟩
    exact ⟨rounds + 1, reached⟩

end Census

end Spinifex.Ecs
