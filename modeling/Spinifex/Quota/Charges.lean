import Spinifex.Quota.CounterLaw

/-!
# Charges and sweeps

What the logs of the counters say about charges.  A pass with a complete scan
writes only where nobody has written since it read the revision, so a charge it
did not see survives it; between the writes of sweeps a counter grows by what
was charged.

A raise-only sweep decides on one read and writes after another.  A charge
committed in between may leave the counter above the swept value, and the sweep
then lowers it.
-/

namespace Spinifex.Quota.Counter

open Concurrency Go State List Log

variable {Index : Type}

/-- A leader's read returns the counter in place. -/
theorem counter_of_admits (admitted : Bucket.Reads.leader.Admits base log reply)
    (read : readCounter reply = some value) : counter (Log.current base log) = some value := by
  match reply with
  | .ok version =>
    have inPlace : current base log = some version := admitted
    rwa [inPlace]
  | .error .notFound =>
    have absent : current base log = none := admitted
    rwa [absent]

/-! ## A sweep and a charge on one account -/

namespace Sample

/-- A sweep and a charge. -/
inductive Caller where
  | sweep
  | charge
deriving DecidableEq

def account : String := "111122223333"

/-- A charge of ten vCPUs and some sweep. -/
def deployment (sweep : Request) : Deployment Caller where
  service := ⟨true⟩
  requests
    | .sweep => sweep
    | .charge => .addVCPU account 10
  content other := if other = account then some ⟨some 4, 1⟩ else none
  positive other version held := by
    split_ifs at held
    · cases held
      decide
    · cases held
  reads := .leader

/-- Every scan is complete and finds twelve vCPUs. -/
def answers (_ : Caller) : (question : Question) → Answer question
  | .accounts => .ok [account]
  | .scan => .ok ⟨[(account, 12)], true⟩

/-- A raise-only sweep that found some vCPUs. -/
def raise (value : Int64) : Request := .reconcileVCPU account value false 0

/-- The pool after a schedule. -/
def play (sweep : Request) (schedule : List Caller) : Option (RequestPool Caller) :=
  Bucket.play .leader answers (deployment sweep).start schedule

/-- A charge, and a pass up to its write. -/
def passLog : List (CounterEvent Caller) :=
  [.noted (.read .sweep (.ok ⟨some 14, 2⟩)),
    .noted (.answered .sweep Question.scan (.ok ⟨[(account, 12)], true⟩)),
    .noted (.read .sweep (.ok ⟨some 14, 2⟩)),
    .committed .charge (some ⟨some 4, 1⟩) (some ⟨some 14, 2⟩) (),
    .noted (.read .charge (.ok ⟨some 4, 1⟩))]

/-- A charge, and a raise-only sweep up to its write. -/
def raiseLog : List (CounterEvent Caller) :=
  [.noted (.read .sweep (.ok ⟨some 14, 2⟩)),
    .noted (.read .sweep (.ok ⟨some 14, 2⟩)),
    .committed .charge (some ⟨some 4, 1⟩) (some ⟨some 14, 2⟩) (),
    .noted (.read .charge (.ok ⟨some 4, 1⟩))]

theorem exists_reaches_of_play {Feature : Type}
    {feature : RequestPool Caller → Feature} {seen : Feature}
    (played : (play sweep schedule).map feature = some seen) :
    ∃ pool, (deployment sweep).Reaches pool ∧ feature pool = seen :=
  (Bucket.resolver _ _).exists_of_play played

end Sample

open Sample

namespace Deployment

variable [DecidableEq Index]
    {deployment : Deployment Index} {pool : RequestPool Index} {account : String} {index : Index}

variable {newer older : List (CounterEvent Index)}

/-- What a write in the log of a counter stands for. -/
theorem Reaches.commits (reached : deployment.Reaches pool)
    (log : (pool.shared account).log = newer ++ .committed index replaced version () :: older) :
    replaced = Log.current (pool.shared account).base older ∧
      deployment.law.commits account index replaced version older := by
  have orderly := (reached.orderly account).sound
  have consistent := (pool.shared account).consistent
  rw [log] at orderly consistent
  exact ⟨consistent.of_append.1, orderly.lawful⟩

variable {reply : Except Bucket.Fault (Version (Stored Int64))}

/-- What a read in the log of a counter saw. -/
theorem Reaches.admits (reached : deployment.Reaches pool)
    (log : (pool.shared account).log = newer ++ .noted (.read index reply) :: older) :
    deployment.reads.Admits (pool.shared account).base older reply := by
  have orderly := (reached.orderly account).sound
  rw [log] at orderly
  exact orderly.lawful

/-! ## Raise-only sweeps -/

/--
A raise-only write does not lower the counter if no other call has committed a
write to it since the call read less than its value.
-/
theorem raise_only_write_never_lowers_undisturbed {value : Int64} {sinceRevision : Nat}
    {newer older : List (CounterEvent Index)} {replaced version : Option (Version (Stored Int64))}
    (reached : deployment.Reaches pool) (leader : deployment.reads = .leader)
    (request : deployment.requests index = .reconcileVCPU account value false sinceRevision)
    (log : (pool.shared account).log = newer ++ .committed index replaced version () :: older)
    (undisturbed : ∀ middle reply oldest less, older = middle ++ .noted (.read index reply) ::
      oldest → readCounter reply = some less → less < value →
      ∀ write ∈ Log.commits middle, write.1 = index) :
    ∃ before after, counter replaced = some before ∧
      counter version = some after ∧ before ≤ after := by
  rcases reached.commits log with ⟨inPlace, before, counted, mayWrite⟩
  rw [request] at mayWrite
  rcases mayWrite with ⟨_, ⟨revision, rfl⟩, raised⟩
  rcases raised rfl with ⟨middle, reply, oldest, less, split, read, below⟩
  refine ⟨before, value, counted, rfl, ?_⟩
  have admitted := reached.admits (log.trans (by
      rw [split, ← cons_append, ← append_assoc]))
  rw [leader] at admitted
  rw [inPlace, split] at counted
  rcases current_append middle (.noted (.read index reply) :: oldest) with
    ⟨_, unchanged⟩ | ⟨writer, beneath, member⟩
  · rw [unchanged] at counted
    have saw : counter (current _ oldest) = some less := counter_of_admits admitted read
    cases saw.symm.trans counted
    exact Int64.le_of_lt below
  -- The call itself has written since, by an attempt it took for failed.
  · obtain rfl : writer = index := undisturbed middle reply oldest less split read below _ member
    generalize current _ _ = stored at member counted
    rcases mem_commits_iff.1 member with ⟨_, committed⟩
    rcases append_of_mem committed with ⟨later, earlier, rfl⟩
    have within : (pool.shared account).log =
        (newer ++ .committed writer replaced (some ⟨some value, revision⟩) () :: later) ++
          .committed writer beneath stored () ::
            (earlier ++ .noted (.read writer reply) :: oldest) := by
      rw [log, split]
      simp
    rcases reached.commits within with ⟨-, _, -, own⟩
    rw [request] at own
    rcases own with ⟨_, ⟨_, rfl⟩, _⟩
    cases counted
    exact Int64.le_refl _

/--
The sweep reads four, the charge leaves fourteen, and the sweep, which may only
raise the counter, writes five over it.
-/
theorem raise_only_sweep_lowers_counter :
    ∃ pool, (Sample.deployment (raise 5)).Reaches pool ∧ (Caller.sweep, some ⟨some 14, 2⟩,
      some ⟨some 5, 3⟩) ∈ Log.commits (pool.shared Sample.account).log := by
  have played : (play (raise 5) [.sweep, .charge, .charge, .sweep, .sweep]).map
      (fun pool => commits (pool.shared Sample.account).log) =
      some [(.sweep, some ⟨some 14, 2⟩, some ⟨some 5, 3⟩),
        (.charge, some ⟨some 4, 1⟩, some ⟨some 14, 2⟩)] :=
    rfl
  rcases exists_reaches_of_play played with ⟨pool, reached, commits⟩
  refine ⟨pool, reached, ?_⟩
  rw [commits]
  exact mem_cons_self

/-- After a charge has left fourteen, a sweep raises the counter to twenty. -/
theorem raise_only_sweep_raises_charged_counter :
    ∃ pool, (Sample.deployment (raise 20)).Reaches pool ∧ (pool.shared Sample.account).log =
        .committed .sweep (some ⟨some 14, 2⟩) (some ⟨some 20, 3⟩) () :: raiseLog ∧
      ∃ before after, counter (some ⟨some 14, 2⟩) = some before ∧
        counter (some ⟨some 20, 3⟩) = some after ∧
        before ≤ after := by
  have played : (play (raise 20) [.charge, .charge, .sweep, .sweep, .sweep]).map
      (fun pool => (pool.shared Sample.account).log) =
      some (.committed .sweep (some ⟨some 14, 2⟩) (some ⟨some 20, 3⟩) () :: raiseLog) :=
    rfl
  rcases exists_reaches_of_play played with ⟨pool, reached, log⟩
  refine ⟨pool, reached, log, ?_⟩
  refine raise_only_write_never_lowers_undisturbed reached rfl rfl
      (show _ = [] ++ _ :: _ from log) ?_
  intro middle reply oldest less split _ _
  rcases middle with _ | ⟨_, _ | ⟨_, _ | ⟨_, _ | ⟨_, _⟩⟩⟩⟩
  all_goals simp [raiseLog] at split
  · simp [commits]
  · simp [commits, ← split.1]

/-! ## Complete passes -/

/-- Nobody ever removes a counter. -/
theorem Reaches.commits_eq_nil
    (reached : deployment.Reaches pool) (log : (pool.shared account).log = newer ++ older)
    (absent : Log.current (pool.shared account).base older = none) : Log.commits older = [] := by
  rcases current_append older ([] : List (CounterEvent Index)) with
    ⟨unwritten, _⟩ | ⟨writer, replaced, member⟩
  · exact unwritten
  · rw [append_nil, absent] at member
    rcases mem_commits_iff.1 member with ⟨_, committed⟩
    rcases append_of_mem committed with ⟨middle, oldest, split⟩
    rcases reached.commits (log.trans (by rw [split, ← append_assoc])) with ⟨_, before, _, mayWrite⟩
    rcases mayWrite.wrote with ⟨value, revision, impossible⟩
    cases impossible

/-- A write at the revision a read saw is the first since that read. -/
theorem Reaches.commits_since_read (reached : deployment.Reaches pool)
    (log : (pool.shared account).log = newer ++ (middle ++ .noted (.read index reply) :: oldest))
    (matched : readRevision reply = revisionOf (Log.current (pool.shared account).base
      (middle ++ .noted (.read index reply) :: oldest))) :
    Log.commits middle = [] := by
  have consistent := (pool.shared account).consistent
  rw [log] at consistent
  have older := consistent.of_append
  have admitted := reached.admits (log.trans (append_assoc _ _ _).symm)
  cases inPlace : current (pool.shared account).base
    (middle ++ .noted (.read index reply) :: oldest) with
  | none =>
    have unwritten := reached.commits_eq_nil log inPlace
    rw [commits_append] at unwritten
    exact (append_eq_nil_iff.1 unwritten).1
  | some version =>
    have positive := older.revision_pos (mem_versions_of_current inPlace)
    rw [inPlace] at matched
    have read : readRevision reply = version.revision := matched
    match reply with
    | .ok ⟨some value, revision⟩ =>
      have seen := admitted.mem_versions
      have same := older.version_unique (versions_append_of_mem seen)
          (mem_versions_of_current inPlace) read
      rw [← same] at inPlace
      exact (older.unwritten seen inPlace).1
    | .ok ⟨none, _⟩ =>
      have zero : (0 : Nat) = version.revision := read
      omega
    | .error _ =>
      have zero : (0 : Nat) = version.revision := read
      omega

/-- What the writes of a log charged, by the deltas of their requests. -/
def charged (deployment : Deployment Index) (log : List (CounterEvent Index)) : Int64 :=
  (Log.commits log).foldr (fun write total => match deployment.requests write.1 with
      | .addVCPU _ delta => total + delta
      | _ => total)
    0

/-- Between the writes of sweeps a counter grows by what was charged. -/
theorem Reaches.counter_append
    {newer span older : List (CounterEvent Index)} (reached : deployment.Reaches pool)
    (log : (pool.shared account).log = newer ++ (span ++ older))
    (charges : ∀ write ∈ Log.commits span,
      ∃ target delta, deployment.requests write.1 = .addVCPU target delta) :
    counter (Log.current (pool.shared account).base (span ++ older)) = (counter
      (Log.current (pool.shared account).base older)).map (· + deployment.charged span) := by
  induction span generalizing newer with
  | nil => simp [charged, Log.commits]
  | cons event span induction =>
    have shifted : (pool.shared account).log = (newer ++ [event]) ++ (span ++ older) := by
      rw [log, append_assoc]
      rfl
    cases event with
    | noted note => exact induction shifted charges
    | committed writer replaced version stamp =>
      have before := induction shifted fun write member => charges write (mem_cons_of_mem _ member)
      rw [cons_append] at log ⊢
      rcases reached.commits log with ⟨inPlace, value, counted, mayWrite⟩
      rcases charges _ mem_cons_self with ⟨target, delta, request⟩
      rw [request] at mayWrite
      rcases mayWrite with ⟨_, revision, rfl⟩
      rw [inPlace, before] at counted
      rcases Option.map_eq_some_iff.1 counted with ⟨start, started, rfl⟩
      rw [started]
      simp only [Log.current, counter, charged, Log.commits, foldr_cons, request,
        Option.map_some, Int64.add_assoc]

/--
A write of a pass with complete scans goes back to a read of the counter made
before the scan, and nobody has written the counter since that read.  Between
the writes of sweeps a counter grows by exactly what the committed charges add.
-/
theorem complete_pass_never_erases_unseen_charge (reached : deployment.Reaches pool) :
    (∀ index account newer replaced version older, deployment.IsPass index →
      (∀ scan, Scanned index scan (pool.shared account).log → scan.complete = true) →
      (pool.shared account).log = newer ++ .committed index replaced version () :: older →
        ∃ middle reply oldest scan,
          older = middle ++ .noted (.read index reply) :: oldest ∧ Scanned index scan middle ∧
            Log.commits middle = []) ∧
      ∀ account newer span older, (pool.shared account).log = newer ++ (span ++ older) →
        (∀ write ∈ Log.commits span, ∃ target delta,
            deployment.requests write.1 = .addVCPU target delta) →
          counter (Log.current (pool.shared account).base (span ++ older)) =
            (counter (Log.current (pool.shared account).base older)).map
              (· + deployment.charged span) := by
  refine ⟨?_, fun _ _ _ _ => reached.counter_append⟩
  intro index account newer replaced version older pass complete log
  rcases reached.commits log with ⟨inPlace, before, counted, mayWrite⟩
  rcases (mayWrite_of_isPass pass).1 mayWrite with ⟨-, scan, scanned⟩
  split_ifs at scanned with whole
  · rcases scanned with ⟨middle, reply, oldest, split, read, scanned⟩
    refine ⟨middle, reply, oldest, scan, split, scanned, ?_⟩
    rw [inPlace, split] at read
    rw [split, ← singleton_append, ← append_assoc] at log
    exact reached.commits_since_read log read
  · refine absurd (complete scan ?_) whole
    rw [log]
    exact mem_append_right _ (mem_cons_of_mem _ scanned)

/-- A pass after a charge: it writes twelve over what it has read. -/
theorem pass_after_charge_keeps_unseen_charges :
    ∃ pool, (Sample.deployment (.reconcileAccount Sample.account)).Reaches pool ∧
      (pool.shared Sample.account).log =
        .committed .sweep (some ⟨some 14, 2⟩) (some ⟨some 12, 3⟩) () :: passLog ∧
      ∃ middle reply oldest scan, passLog = middle ++ .noted (.read .sweep reply) :: oldest ∧
        Scanned .sweep scan middle ∧
        Log.commits middle = [] := by
  have played : (play (.reconcileAccount Sample.account)
        [.charge, .charge, .sweep, .sweep, .sweep, .sweep]).map
      (fun pool => (pool.shared Sample.account).log) =
      some (.committed .sweep (some ⟨some 14, 2⟩) (some ⟨some 12, 3⟩) () :: passLog) :=
    rfl
  rcases exists_reaches_of_play played with ⟨pool, reached, log⟩
  refine ⟨pool, reached, log, ?_⟩
  refine (complete_pass_never_erases_unseen_charge reached).1 .sweep
      Sample.account [] _ _ _ (.inr ⟨_, rfl⟩) ?_ log
  intro scan scanned
  rw [log] at scanned
  simp only [Scanned, passLog, mem_cons, reduceCtorEq, Event.noted.injEq,
    Bucket.Note.answered.injEq, true_and, heq_eq_eq, Except.ok.injEq, false_or, or_false,
    not_mem_nil] at scanned
  rw [scanned]

end Deployment

end Spinifex.Quota.Counter
