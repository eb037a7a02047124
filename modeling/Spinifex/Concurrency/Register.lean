import Mathlib.Data.List.Basic

/-!
# Registers with revision compare-and-set

A register holds at most one version, a value at a revision.  A conditional
write names the revision it expects, zero for none, and commits only while that
is the register's revision; every committed value gets a revision above all
earlier ones.  A write whose reply was lost stays pending: it may commit at any
later time, under the same condition, or never.

A register carries its own log, newest event first.  Committed writes are
recorded with the version they replaced; clients add notes of their own.  The
log is consistent by construction, so that what a revision stands for never
changes: `Register.current_of_seen` is the fact every compare-and-set argument
rests on.
-/

namespace Spinifex.Concurrency

open List Option

variable {Writer Value Stamp Note : Type}

/-- A value and the revision it was committed at. -/
structure Version (Value : Type) where
  value : Value
  revision : Nat
deriving DecidableEq, Repr

/-- A write that takes effect only at the revision it expects. -/
structure ConditionalWrite (Writer Value : Type) where
  writer : Writer
  expected : Nat
  value : Option Value

/-- A committed write, or a note of the register's client. -/
inductive Event (Writer Value Stamp Note : Type) where
  | committed
    (writer : Writer)
    (replaced version : Option (Version Value))
    (stamp : Stamp)
  | noted (note : Note)
deriving DecidableEq

namespace Log

/-- The version a log leaves in place. -/
def current (base : Option (Version Value)) :
    List (Event Writer Value Stamp Note) → Option (Version Value)
  | [] => base
  | .committed _ _ version _ :: _ => version
  | .noted _ :: older => current base older

/-- Every version that was ever in place. -/
def versions (base : Option (Version Value)) :
    List (Event Writer Value Stamp Note) → List (Version Value)
  | [] => base.toList
  | .committed _ _ version _ :: older => version.toList ++ versions base older
  | .noted _ :: older => versions base older

/--
Each commit replaces what the older log left in place, and each committed
value has a revision above all earlier ones.
-/
def Consistent (base : Option (Version Value)) :
    List (Event Writer Value Stamp Note) → Prop
  | [] => ∀ version ∈ base, 0 < version.revision
  | .committed _ replaced version _ :: older =>
    replaced = current base older ∧ (∀ written ∈ version, 0 < written.revision ∧
      ∀ earlier ∈ versions base older, earlier.revision < written.revision) ∧ Consistent base older
  | .noted _ :: older => Consistent base older

variable {log older newer : List (Event Writer Value Stamp Note)} {version : Version Value}

theorem mem_versions_of_current
    (inPlace : current base log = some version) : version ∈ versions base log := by
  induction log with
  | nil =>
    simp only [current] at inPlace
    simp [versions, inPlace]
  | cons event older induction =>
    cases event with
    | committed writer replaced written stamp =>
      simp only [current] at inPlace
      simp [versions, inPlace]
    | noted note => exact induction inPlace

theorem mem_versions_of_committed (member : .committed writer replaced (some version) stamp ∈ log) :
    version ∈ versions base log := by
  induction log with
  | nil => cases member
  | cons event older induction =>
    rcases mem_cons.1 member with rfl | earlier
    · exact mem_append_left _ (mem_toList.2 rfl)
    · cases event with
      | committed writer replaced written stamp =>
        exact mem_append_right _ (induction earlier)
      | noted note => exact induction earlier

theorem versions_append_of_mem
    (member : version ∈ versions base older) : version ∈ versions base (newer ++ older) := by
  induction newer with
  | nil => exact member
  | cons event newer induction =>
    cases event with
    | committed writer replaced written stamp =>
      exact mem_append_right _ induction
    | noted note => exact induction

theorem Consistent.of_append
    (consistent : Consistent base (newer ++ older)) : Consistent base older := by
  induction newer with
  | nil => exact consistent
  | cons event newer induction =>
    cases event with
    | committed writer replaced written stamp => exact induction consistent.2.2
    | noted note => exact induction consistent

theorem Consistent.revision_pos (consistent : Consistent base log)
    (member : version ∈ versions base log) : 0 < version.revision := by
  induction log with
  | nil => exact consistent version (mem_toList.1 member)
  | cons event older induction =>
    cases event with
    | committed writer replaced written stamp =>
      rcases mem_append.1 member with fresh | earlier
      · exact (consistent.2.1 version (mem_toList.1 fresh)).1
      · exact induction consistent.2.2 earlier
    | noted note => exact induction consistent member

/-- One revision never stands for two versions. -/
theorem Consistent.version_unique (consistent : Consistent base log)
    (leftMember : left ∈ versions base log)
    (rightMember : right ∈ versions base log)
    (sameRevision : left.revision = right.revision) : left = right := by
  induction log with
  | nil =>
    have leftBase := mem_toList.1 leftMember
    have rightBase := mem_toList.1 rightMember
    exact mem_unique leftBase rightBase
  | cons event older induction =>
    cases event with
    | committed writer replaced written stamp =>
      rcases mem_append.1 leftMember with
        leftFresh | leftEarlier <;>
      rcases mem_append.1 rightMember with
        rightFresh | rightEarlier
      · exact mem_unique (mem_toList.1 leftFresh) (mem_toList.1 rightFresh)
      · have above := (consistent.2.1 left (mem_toList.1 leftFresh)).2 right rightEarlier
        omega
      · have above := (consistent.2.1 right (mem_toList.1 rightFresh)).2 left leftEarlier
        omega
      · exact induction consistent.2.2 leftEarlier rightEarlier
    | noted note => exact induction consistent leftMember rightMember

/-- The writes a log holds: who wrote what over what, newest first. -/
def commits :
    List (Event Writer Value Stamp Note) →
      List (Writer × Option (Version Value) × Option (Version Value))
  | [] => []
  | .committed writer replaced version _ :: older =>
    (writer, replaced, version) :: commits older
  | .noted _ :: older => commits older

theorem commits_append (newer older : List (Event Writer Value Stamp Note)) :
    commits (newer ++ older) = commits newer ++ commits older := by
  induction newer with
  | nil => rfl
  | cons event newer induction =>
    cases event with
    | committed writer replaced version stamp => exact congrArg _ induction
    | noted note => exact induction

theorem mem_commits_iff {replaced version : Option (Version Value)} :
    (writer, replaced, version) ∈ commits log ↔
      ∃ stamp, .committed writer replaced version stamp ∈ log := by
  induction log with
  | nil => simp [commits]
  | cons event older induction =>
    cases event with
    | committed otherWriter otherReplaced otherVersion stamp =>
      simp only [commits, mem_cons, Prod.mk.injEq, induction, Event.committed.injEq, exists_or]
      grind
    | noted note => simp [commits, induction]

/-- What is in place was there before, or is what some write left. -/
theorem current_append (newer older : List (Event Writer Value Stamp Note)) :
    (commits newer = [] ∧ current base (newer ++ older) = current base older) ∨
      ∃ writer replaced, (writer, replaced, current base (newer ++ older)) ∈ commits newer := by
  induction newer with
  | nil => exact .inl ⟨rfl, rfl⟩
  | cons event newer induction =>
    cases event with
    | committed writer replaced version stamp =>
      exact .inr ⟨writer, replaced, mem_cons_self⟩
    | noted note => exact induction

/-- Nothing was written since a version still in place was seen. -/
theorem Consistent.unwritten
    (consistent : Consistent base (newer ++ older)) (seen : version ∈ versions base older)
    (inPlace : current base (newer ++ older) = some version) :
    commits newer = [] ∧ current base older = some version := by
  induction newer with
  | nil => exact ⟨rfl, inPlace⟩
  | cons event newer induction =>
    cases event with
    | committed writer replaced written stamp =>
      have above := (consistent.2.1 version inPlace).2 version (versions_append_of_mem seen)
      omega
    | noted note => exact induction consistent inPlace

/-- The first event happened before the second. -/
def Precedes (log : List (Event Writer Value Stamp Note))
    (first second : Event Writer Value Stamp Note) : Prop :=
  ∃ newer middle older, log = newer ++ second :: (middle ++ first :: older)

/-- Of two different events one happened before the other. -/
theorem precedes_total (firstMember : first ∈ log) (secondMember : second ∈ log)
    (different : first ≠ second) : Precedes log first second ∨ Precedes log second first := by
  rcases append_of_mem firstMember with ⟨newer, older, split⟩
  rw [split] at secondMember ⊢
  rcases mem_append.1 secondMember with after | before
  · rcases append_of_mem after with ⟨newest, middle, rfl⟩
    left
    exact ⟨newest, middle, older, by
        rw [append_assoc, cons_append]⟩
  · rcases mem_cons.1 before with same | earlier
    · exact absurd same.symm different
    · rcases append_of_mem earlier with ⟨middle, oldest, rfl⟩
      right
      exact ⟨newer, middle, oldest, rfl⟩

end Log

/-- A register: its log, where the log started, and the lost writes. -/
structure Register (Writer Value Stamp Note : Type) where
  base : Option (Version Value)
  log : List (Event Writer Value Stamp Note)
  pending : List (ConditionalWrite Writer Value)
  consistent : Log.Consistent base log

namespace Register

/-- The register before any event. -/
def initial (base : Option (Version Value)) (positive : ∀ version ∈ base, 0 < version.revision) :
    Register Writer Value Stamp Note where
  base := base
  log := []
  pending := []
  consistent := positive

variable (register : Register Writer Value Stamp Note)

/-- The version in place. -/
def current : Option (Version Value) :=
  Log.current register.base register.log

/-- The revision in place, zero for none. -/
def revision : Nat :=
  (register.current.map Version.revision).getD 0

/-- The version was in place at some time. -/
def Seen (version : Version Value) : Prop :=
  version ∈ Log.versions register.base register.log

/-- A revision above every earlier one. -/
def Fresh (revision : Nat) : Prop :=
  0 < revision ∧ ∀ version ∈ Log.versions register.base register.log, version.revision < revision

def addNote (note : Note) : Register Writer Value Stamp Note where
  base := register.base
  log := .noted note :: register.log
  pending := register.pending
  consistent := register.consistent

variable (write : ConditionalWrite Writer Value)

/-- Keep a write whose reply was lost. -/
def lose : Register Writer Value Stamp Note :=
  { register with pending := write :: register.pending }

/-- Forget a pending write. -/
def settle (pending : List (ConditionalWrite Writer Value)) : Register Writer Value Stamp Note :=
  { register with pending := pending }

/-- The log after a write commits at a fresh revision. -/
def commit (fresh : Nat) (stamp : Stamp)
    (isFresh : register.Fresh fresh) : Register Writer Value Stamp Note where
  base := register.base
  log := .committed write.writer register.current
    (write.value.map fun value => ⟨value, fresh⟩) stamp :: register.log
  pending := register.pending
  consistent := by
    refine ⟨rfl, ?_, register.consistent⟩
    intro written member
    rcases Option.map_eq_some_iff.1 member with ⟨value, _, rfl⟩
    exact isFresh

/-- The least revision above every earlier one. -/
def nextRevision : Nat :=
  ((Log.versions register.base register.log).map Version.revision).foldr max 0 + 1

theorem fresh_nextRevision : register.Fresh register.nextRevision := by
  refine ⟨Nat.succ_pos _, ?_⟩
  intro version member
  have bounded : ∀ revisions : List Nat, ∀ revision ∈ revisions,
      revision ≤ revisions.foldr max 0 := by
    intro revisions
    induction revisions with
    | nil => simp
    | cons head tail induction =>
      intro revision member
      rcases mem_cons.1 member with rfl | later
      · exact Nat.le_max_left _ _
      · exact Nat.le_trans (induction revision later) (Nat.le_max_right _ _)
  exact Nat.lt_succ_of_le (bounded _ _ (mem_map_of_mem member))

section

variable (register : Register Writer Value Stamp Note)
    (note : Note) (write : ConditionalWrite Writer Value)
    (pending : List (ConditionalWrite Writer Value))
    (fresh : Nat) (stamp : Stamp) (isFresh : register.Fresh fresh)

@[simp]
theorem lose_pending : (register.lose write).pending = write :: register.pending :=
  rfl

@[simp]
theorem settle_log : (register.settle pending).log = register.log :=
  rfl

@[simp]
theorem settle_current : (register.settle pending).current = register.current :=
  rfl

@[simp]
theorem commit_log :
    (register.commit write fresh stamp isFresh).log = .committed write.writer register.current
      (write.value.map fun value => ⟨value, fresh⟩) stamp :: register.log :=
  rfl

@[simp]
theorem commit_pending : (register.commit write fresh stamp isFresh).pending = register.pending :=
  rfl

end

variable {register : Register Writer Value Stamp Note} {version : Version Value}

theorem seen_of_current (inPlace : register.current = some version) : register.Seen version :=
  Log.mem_versions_of_current inPlace

theorem revision_eq_zero_iff : register.revision = 0 ↔ register.current = none := by
  unfold revision
  cases inPlace : register.current with
  | none => simp
  | some version =>
    have positive := register.consistent.revision_pos (Log.mem_versions_of_current inPlace)
    simp only [map_some, getD_some]
    constructor
    · intro zero
      omega
    · nofun

/--
A version seen earlier is the one in place as soon as their revisions agree:
the revision a conditional write expects pins the value it was decided on.
-/
theorem current_of_seen (seen : register.Seen version)
    (matched : version.revision = register.revision) : register.current = some version := by
  have positive := register.consistent.revision_pos seen
  cases inPlace : register.current with
  | none =>
    have zero := revision_eq_zero_iff.2 inPlace
    omega
  | some present =>
    have presentRevision : register.revision = present.revision := by
      simp [revision, inPlace]
    have same : version = present :=
      register.consistent.version_unique seen (seen_of_current inPlace)
        (matched.trans presentRevision)
    rw [same]

/-- The second register continues the first one's log. -/
def Extends (first second : Register Writer Value Stamp Note) : Prop :=
  second.base = first.base ∧ ∃ newer, second.log = newer ++ first.log

variable (register : Register Writer Value Stamp Note)

theorem Extends.refl : register.Extends register :=
  ⟨rfl, [], rfl⟩

theorem Extends.trans
    {first second third : Register Writer Value Stamp Note} (left : first.Extends second)
    (right : second.Extends third) : first.Extends third := by
  rcases left with ⟨leftBase, leftNewer, leftLog⟩
  rcases right with ⟨rightBase, rightNewer, rightLog⟩
  refine ⟨rightBase.trans leftBase, rightNewer ++ leftNewer, ?_⟩
  rw [rightLog, leftLog, append_assoc]

variable {first second : Register Writer Value Stamp Note}

section

variable (extended : first.Extends second)

include extended

theorem Extends.seen (seen : first.Seen version) : second.Seen version := by
  rcases extended with ⟨sameBase, newer, sameLog⟩
  unfold Seen at seen ⊢
  rw [sameBase, sameLog]
  exact Log.versions_append_of_mem seen

theorem Extends.mem (member : event ∈ first.log) : event ∈ second.log := by
  rcases extended with ⟨_, newer, sameLog⟩
  rw [sameLog]
  exact mem_append_right _ member

/-- A version in place now was in place at every time since it was seen. -/
theorem Extends.current (seen : first.Seen version)
    (inPlace : second.current = some version) : first.current = some version := by
  rcases extended with ⟨sameBase, newer, sameLog⟩
  have consistent := second.consistent
  unfold Register.current at inPlace ⊢
  rw [sameBase, sameLog] at consistent inPlace
  exact (consistent.unwritten seen inPlace).2

end

theorem extends_addNote (note : Note) : register.Extends (register.addNote note) :=
  ⟨rfl, [.noted note], rfl⟩

variable (write : ConditionalWrite Writer Value)

theorem extends_lose : register.Extends (register.lose write) :=
  ⟨rfl, [], rfl⟩

end Register

end Spinifex.Concurrency
