import Mathlib.Data.List.Dedup
import Mathlib.Data.List.Perm.Subperm
import Spinifex.Go.Basic

/-!
# Lockouts after failed authentication

An address is locked out once enough different attempts have failed within a window.
Times are in nanoseconds; the zero time of an address that is not locked is `none`.
-/

namespace Spinifex.RateLimit

open Function Go List

def failureWindow : Duration := 60 * second

def maxFailures : Nat := 10

def initialLockout : Duration := 30 * second

def backoffMultiplier : Int := 2

def maxLockout : Duration := 300 * second

/-- The fingerprint of a failure that named no credential. -/
def anonymous : String := ""

structure Attempt where
  fingerprint : String
  time : Int

structure IPRecord where
  failures : List Attempt := []
  lockedUntil : Option Int := none
  lockouts : Nat := 0

/-- The records of the limiter, by address. -/
abbrev Records : Type :=
  String → Option IPRecord

/-- `CheckIP`: the address may not proceed. -/
def checkIP (records : Records) (ip : String) (now : Int) : Bool :=
  (records ip).any (·.lockedUntil.any (now < ·))

def pruneOldFailures (failures : List Attempt) (now : Int) : List Attempt :=
  failures.filter (now - failureWindow < ·.time)

def recordAttempt (fingerprint : String) (now : Int) : List Attempt → List Attempt
  | [] => [⟨fingerprint, now⟩]
  | attempt :: failures =>
    if fingerprint ≠ anonymous ∧ attempt.fingerprint = fingerprint then
      ⟨fingerprint, now⟩ :: failures
    else attempt :: recordAttempt fingerprint now failures

/-- The duration of a lockout after some number of earlier ones. -/
def backoff : Nat → Duration → Duration
  | 0, lockout => lockout
  | lockouts + 1, lockout =>
    if lockout * backoffMultiplier ≥ maxLockout then maxLockout
    else backoff lockouts (lockout * backoffMultiplier)

/-- `RecordFailure`, on the record of the address. -/
def IPRecord.fail (record : IPRecord) (fingerprint : String) (now : Int) : IPRecord :=
  let failures := recordAttempt fingerprint now (pruneOldFailures record.failures now)
  if failures.length ≥ maxFailures ∧ record.lockedUntil.all (· < now) then
    ⟨[], some (now + backoff record.lockouts initialLockout), record.lockouts + 1⟩
  else { record with failures }

/-- `cleanup`, on the record of one address. -/
def IPRecord.cleanup (record : IPRecord) (now : Int) : Option IPRecord :=
  if record.lockedUntil.any (now < ·) then some record
  else
    let failures := pruneOldFailures record.failures now
    if failures.length = 0 then none else some { record with failures }

/-- What the requests and the collector do to the limiter. -/
inductive Event where
  | failure (ip fingerprint : String)
  | success (ip : String)
  | cleanup
deriving DecidableEq

def Event.apply (records : Records) (now : Int) : Event → Records
  | .failure ip fingerprint =>
    update records ip (some (((records ip).getD {}).fail fingerprint now))
  | .success ip => update records ip none
  | .cleanup => fun ip => (records ip).bind (·.cleanup now)

/-- The records after some events, the last one first. -/
def run : List (Int × Event) → Records
  | [] => fun _ => none
  | (now, event) :: earlier => event.apply (run earlier) now

/-- The record of an address, an empty one if there is none. -/
def current (history : List (Int × Event)) (ip : String) : IPRecord :=
  (run history ip).getD {}

theorem checkIP_run : checkIP (run history) ip now =
    (current history ip).lockedUntil.any (now < ·) := by
  unfold checkIP current
  cases run history ip <;> simp

/-- All that an event does to the record of an address. -/
theorem current_cases (ip : String) (entry : Int × Event) (history : List (Int × Event)) :
    let before := current history ip
    let after := current (entry :: history) ip
    after = before ∨
      (∃ fingerprint, entry.2 = .failure ip fingerprint ∧
        after = before.fail fingerprint entry.1) ∨
      (entry.2 = .success ip ∨ entry.2 = .cleanup ∧ ¬ before.lockedUntil.any (entry.1 < ·) ∧
        pruneOldFailures before.failures entry.1 = []) ∧ after = {} ∨
      ¬ before.lockedUntil.any (entry.1 < ·) ∧
        after = { before with failures := pruneOldFailures before.failures entry.1 } := by
  obtain ⟨now, event⟩ := entry
  simp only [current, run]
  cases event with
  | failure other fingerprint => by_cases same : ip = other <;> simp_all [Event.apply]
  | success other => by_cases same : ip = other <;> simp_all [Event.apply]
  | cleanup =>
    cases stored : run history ip with
    | none => simp [Event.apply, stored]
    | some record =>
      simp only [Event.apply, IPRecord.cleanup, stored, Option.bind_some]
      split_ifs <;> simp_all

theorem fail_of_locked {record : IPRecord} (locked : record.lockedUntil = some expiry)
    (early : now < expiry) : (record.fail fingerprint now).lockedUntil = some expiry := by
  simp [IPRecord.fail, locked, Int.not_lt.2 (Int.le_of_lt early)]

theorem lockedUntil_lasts {earlier later : List (Int × Event)}
    (locked : (current earlier ip).lockedUntil = some expiry)
    (kept : ∀ entry ∈ later, entry.1 < expiry ∧ entry.2 ≠ .success ip) :
    (current (later ++ earlier) ip).lockedUntil = some expiry := by
  induction later with
  | nil => exact locked
  | cons entry later induction =>
    obtain ⟨early, stays⟩ := kept entry (by simp)
    have before := induction fun entry member => kept entry (by simp [member])
    rcases current_cases ip entry (later ++ earlier) with
      same | ⟨_, _, failed⟩ | ⟨free, _⟩ | ⟨free, _⟩
    · exact (congrArg _ same).trans before
    · exact (congrArg _ failed).trans (fail_of_locked before early)
    · simp [stays, before, early] at free
    · simp [before, early] at free

/-- A locked address stays locked exactly until its lockout expires, whatever else
fails and however often the records are cleaned up. -/
theorem lockout_lasts {earlier later : List (Int × Event)}
    (locked : (current earlier ip).lockedUntil = some expiry)
    (kept : ∀ entry ∈ later, entry.1 < expiry ∧ entry.2 ≠ .success ip) (now : Int) :
    checkIP (run (later ++ earlier)) ip now = decide (now < expiry) := by
  rw [checkIP_run, lockedUntil_lasts locked kept, Option.any_some]

def tenFailures : List (Int × Event) :=
  replicate 10 (0, .failure "a" "")

theorem lockout_lasts_through_cleanup : checkIP (run ([(2 * second, .cleanup),
      (second, .failure "a" "")] ++ tenFailures)) "a" (3 * second) =
    decide (3 * second < 30 * second) :=
  lockout_lasts rfl (by decide) _

theorem backoff_le (below : lockout ≤ maxLockout) : backoff lockouts lockout ≤ maxLockout := by
  fun_induction backoff lockouts lockout <;> grind

/-- An address is refused only because of its own failures, and for no longer than the
longest lockout after one of them. -/
theorem refused_after_own_failure (refused : checkIP (run history) ip now = true) :
    ∃ entry ∈ history, (∃ fingerprint, entry.2 = .failure ip fingerprint) ∧
      now < entry.1 + maxLockout := by
  rw [checkIP_run] at refused
  induction history with
  | nil => cases refused
  | cons entry history induction =>
    have earlier := fun refused => (induction refused).imp fun _ cause =>
      And.intro (mem_cons_of_mem entry cause.1) cause.2
    rcases current_cases ip entry history with
      same | ⟨fingerprint, isFailure, failed⟩ | ⟨-, empty⟩ | ⟨-, pruned⟩
    · exact earlier (same ▸ refused)
    · rw [failed, IPRecord.fail] at refused
      split_ifs at refused
      · refine ⟨entry, .head _, ⟨fingerprint, isFailure⟩, ?_⟩
        exact Int.lt_of_lt_of_le (by simpa using refused)
          (Int.add_le_add_left (backoff_le (by decide)) _)
      · exact earlier refused
    · cases empty ▸ refused
    · exact earlier (by rwa [pruned] at refused)

theorem refused_after_ten : ∃ entry ∈ tenFailures,
    (∃ fingerprint, entry.2 = .failure "a" fingerprint) ∧ second < entry.1 + maxLockout :=
  refused_after_own_failure rfl

/-- The fingerprints of the failures of an address within the window that ends now. -/
def recent (ip : String) (now : Int) (history : List (Int × Event)) : List String :=
  history.filterMap fun
    | (time, .failure other fingerprint) =>
      if other = ip ∧ now - failureWindow < time then some fingerprint else none
    | _ => none

/-- Each failure of the address names a credential, and has fewer different ones in its
window than lock the address. -/
def Sparse (ip : String) : List (Int × Event) → Prop
  | [] => True
  | (now, event) :: earlier => Sparse ip earlier ∧ ∀ fingerprint,
    event = .failure ip fingerprint → fingerprint ≠ anonymous ∧
      (recent ip now ((now, event) :: earlier)).dedup.length < maxFailures

/-- The record of an address that was never locked. -/
structure Unlocked (ip : String) (history : List (Int × Event)) (record : IPRecord) : Prop where
  free : record.lockedUntil = none
  distinct : (record.failures.map (·.fingerprint)).Nodup
  failed : ∀ attempt ∈ record.failures, (attempt.time, .failure ip attempt.fingerprint) ∈ history

theorem Unlocked.prune (unlocked : Unlocked ip history record) (now : Int) :
    Unlocked ip history { record with failures := pruneOldFailures record.failures now } where
  free := unlocked.free
  distinct := unlocked.distinct.sublist (filter_sublist.map _)
  failed attempt member := unlocked.failed attempt (mem_of_mem_filter member)

theorem mem_recordAttempt (member : attempt ∈ recordAttempt fingerprint now failures) :
    attempt = ⟨fingerprint, now⟩ ∨ attempt ∈ failures := by
  fun_induction recordAttempt fingerprint now failures <;> grind

theorem nodup_recordAttempt (named : fingerprint ≠ anonymous)
    (distinct : (failures.map Attempt.fingerprint).Nodup) :
    ((recordAttempt fingerprint now failures).map (·.fingerprint)).Nodup := by
  fun_induction recordAttempt fingerprint now failures with
  | case1 => simp
  | case2 attempt failures same => simp_all
  | case3 attempt failures other induction =>
    simp only [map_cons, nodup_cons] at distinct ⊢
    refine ⟨fun repeated => ?_, induction distinct.2⟩
    obtain ⟨found, member, same⟩ := mem_map.1 repeated
    grind [mem_recordAttempt member]

theorem Unlocked.fail (unlocked : Unlocked ip history record)
    (last : (now, .failure ip fingerprint) ∈ history) (named : fingerprint ≠ anonymous)
    (few : (recent ip now history).dedup.length < maxFailures) :
    Unlocked ip history (record.fail fingerprint now) := by
  have pruned := unlocked.prune now
  unfold IPRecord.fail
  generalize isKept : recordAttempt fingerprint now (pruneOldFailures record.failures now) = kept
  have distinct : (kept.map (·.fingerprint)).Nodup :=
    isKept ▸ nodup_recordAttempt named pruned.distinct
  have failed : ∀ attempt ∈ kept, (attempt.time, .failure ip attempt.fingerprint) ∈ history ∧
      now - failureWindow < attempt.time := by
    intro attempt member
    rcases mem_recordAttempt (isKept ▸ member) with rfl | old
    · exact ⟨last, Int.sub_lt_self _ (by decide)⟩
    · exact ⟨pruned.failed attempt old, by simpa using (mem_filter.1 old).2⟩
  -- The failures that count are different ones of the window, so there are too few of them.
  have short : (kept.map (·.fingerprint)).length ≤ (recent ip now history).dedup.length := by
    refine (subperm_of_subset distinct fun found member => ?_).length_le
    obtain ⟨attempt, isKept, rfl⟩ := mem_map.1 member
    obtain ⟨isFailure, inWindow⟩ := failed attempt isKept
    exact mem_dedup.2 (mem_filterMap.2 ⟨_, isFailure, by simp [inWindow]⟩)
  rw [length_map] at short
  rw [if_neg (by omega)]
  exact ⟨unlocked.free, distinct, fun attempt member => (failed attempt member).1⟩

theorem unlocked_of_sparse (sparse : Sparse ip history) :
    Unlocked ip history (current history ip) := by
  induction history with
  | nil => exact ⟨rfl, .nil, by simp [current, run]⟩
  | cons entry history induction =>
    have before := induction sparse.1
    have before : Unlocked ip (entry :: history) (current history ip) :=
      { before with failed := fun attempt member => .tail _ (before.failed attempt member) }
    rcases current_cases ip entry history with
      same | ⟨fingerprint, isFailure, failed⟩ | ⟨-, empty⟩ | ⟨-, pruned⟩
    · rwa [same]
    · obtain ⟨named, few⟩ := sparse.2 fingerprint isFailure
      rw [failed]
      exact before.fail (by simp [← isFailure]) named few
    · rw [empty]
      exact ⟨rfl, .nil, by simp⟩
    · rw [pruned]
      exact before.prune _

/-- A client that presents few different credentials in each window is never locked
out, however often it repeats them and whatever other clients do. -/
theorem sparse_never_refused (sparse : Sparse ip history) (now : Int) :
    checkIP (run history) ip now = false := by
  rw [checkIP_run, (unlocked_of_sparse sparse).free, Option.any_none]

/-- One credential presented twelve times, ten failures of another client and a cleanup. -/
def repeatedFailures : List (Int × Event) :=
  (2 * second, .cleanup) :: replicate 10 (second, .failure "b" "") ++
    replicate 12 (0, .failure "a" "key")

theorem sparse_never_refused_repeated :
    checkIP (run repeatedFailures) "a" (3 * second) = false ∧
      checkIP (run repeatedFailures) "b" (3 * second) = true := by
  refine ⟨sparse_never_refused ?_ _, by decide +kernel⟩
  simp [repeatedFailures, Sparse, replicate]
  decide

/-! ## Escalation -/

/-- The durations of the lockouts of an address, the last one first. -/
def durations (ip : String) : List (Int × Event) → List Duration
  | [] => []
  | entry :: earlier =>
    let after := current (entry :: earlier) ip
    if (current earlier ip).lockouts < after.lockouts then
      (after.lockedUntil.getD entry.1 - entry.1) :: durations ip earlier
    else
      durations ip earlier

theorem backoff_le_succ {lockout : Int} (positive : 0 < lockout) (below : lockout ≤ maxLockout) :
    backoff lockouts lockout ≤ backoff (lockouts + 1) lockout := by
  induction lockouts generalizing lockout with
  | zero =>
    show lockout ≤ if lockout * backoffMultiplier ≥ maxLockout then maxLockout else _
    split
    · exact below
    · show lockout ≤ lockout * 2
      omega
  | succ lockouts induction =>
    rw [backoff, backoff]
    split_ifs with capped
    · exact Int.le_refl _
    · exact induction (Int.mul_pos positive (by decide)) (Int.le_of_lt (Int.not_le.1 capped))

theorem backoff_pred_le (lockouts : Nat) :
    backoff (lockouts - 1) initialLockout ≤ backoff lockouts initialLockout := by
  cases lockouts with
  | zero => exact Int.le_refl _
  | succ lockouts => exact backoff_le_succ (by decide) (by decide)

/-- The durations so far do not decrease, and none is longer than the last one by the count. -/
structure Rising (ip : String) (history : List (Int × Event)) : Prop where
  ordered : (durations ip history).Pairwise (· ≥ ·)
  below : ∀ duration ∈ durations ip history,
    duration ≤ backoff ((current history ip).lockouts - 1) initialLockout

theorem Rising.cons (rising : Rising ip history)
    (same : (current (entry :: history) ip).lockouts = (current history ip).lockouts) :
    Rising ip (entry :: history) := by
  refine ⟨?_, ?_⟩
  · simpa [durations, same] using rising.ordered
  · simpa [durations, same] using rising.below

theorem Rising.fail (rising : Rising ip history)
    (failed : current (entry :: history) ip = (current history ip).fail fingerprint entry.1) :
    Rising ip (entry :: history) := by
  rw [IPRecord.fail] at failed
  split at failed
  · have lasts (start duration : Int) : start + duration - start = duration := by omega
    have longer : ∀ duration ∈ durations ip history,
        duration ≤ backoff (current history ip).lockouts initialLockout := fun duration member =>
      Int.le_trans (rising.below duration member) (backoff_pred_le _)
    refine ⟨?_, ?_⟩
    · simpa [durations, failed, lasts] using ⟨longer, rising.ordered⟩
    · simpa [durations, failed, lasts] using longer
  · exact rising.cons (by rw [failed])

end Spinifex.RateLimit
