import Spinifex.Quota.Counter
import Spinifex.State.Rules

/-!
# What may be written to a counter

The law of the counters, said once: a charge adds its delta to the counter it
replaces; a raise-only write goes back to a read that saw less; a write of a
pass goes back to the revision the pass read before its scan, or its scan was
incomplete.  Every program of the package obeys it, so in every run every log
does.
-/

namespace Spinifex.Quota.Counter

open Concurrency Go State Discipline Bucket.Law List
open Bucket.Law (Lasting)

variable {Index : Type}

/-! ## Reading the logs -/

/-- The counter a stored version stands for; zero for none. -/
def counter : Option (Version (Stored Int64)) → Option Int64
  | none => some 0
  | some version => version.value

/-- The revision of a stored version; zero for none. -/
def revisionOf : Option (Version (Stored Int64)) → Nat
  | none => 0
  | some version => version.revision

/-- The counter a read came back with. -/
def readCounter :
    Except Bucket.Fault (Version (Stored Int64)) → Option Int64
  | .ok version => version.value
  | .error .notFound => some 0
  | .error _ => none

/-- The revision a read came back with; zero if it has none. -/
def readRevision :
    Except Bucket.Fault (Version (Stored Int64)) → Nat
  | .ok ⟨some _, revision⟩ => revision
  | _ => 0

/-- The write left this value. -/
def Wrote (value : Int64) (version : Option (Version (Stored Int64))) : Prop :=
  ∃ revision, version = some ⟨some value, revision⟩

variable (index : Index)

/-- The log goes back to a read that saw less than the value. -/
def RaisedFrom (value : Int64) (log : List (CounterEvent Index)) : Prop :=
  ∃ middle reply oldest less, log = middle ++ .noted (.read index reply) :: oldest ∧
    readCounter reply = some less ∧ less < value

/-- The log goes back to a read of this revision. -/
def ReadSince (revision : Nat) (log : List (CounterEvent Index)) : Prop :=
  ∃ middle reply oldest, log = middle ++ .noted (.read index reply) :: oldest ∧
    readRevision reply = revision

/-- The scan came back. -/
def Scanned (scan : Scan) (log : List (CounterEvent Index)) : Prop :=
  .noted (.answered index Question.scan (.ok scan)) ∈ log

/-- The scan came back after a read of this revision. -/
def ScannedSince (revision : Nat) (scan : Scan) (log : List (CounterEvent Index)) : Prop :=
  ∃ middle reply oldest, log = middle ++ .noted (.read index reply) :: oldest ∧
    readRevision reply = revision ∧ Scanned index scan middle

variable {index : Index}

theorem RaisedFrom.append (raised : RaisedFrom index value older)
    (newer : List (CounterEvent Index)) : RaisedFrom index value (newer ++ older) := by
  rcases raised with ⟨middle, reply, oldest, less, rfl, saw⟩
  exact ⟨newer ++ middle, reply, oldest, less, (append_assoc _ _ _).symm, saw⟩

variable {revision : Nat}

theorem ReadSince.append (since : ReadSince index revision older)
    (newer : List (CounterEvent Index)) : ReadSince index revision (newer ++ older) := by
  rcases since with ⟨middle, reply, oldest, rfl, read⟩
  exact ⟨newer ++ middle, reply, oldest, (append_assoc _ _ _).symm, read⟩

variable {scan : Scan}

theorem ReadSince.scanned (since : ReadSince index revision older) :
    ScannedSince index revision scan
      (.noted (.answered index Question.scan (.ok scan)) :: older) := by
  rcases since with ⟨middle, reply, oldest, rfl, read⟩
  exact ⟨_ :: middle, reply, oldest, rfl, read, mem_cons_self⟩

theorem ScannedSince.append (since : ScannedSince index revision scan older)
    (newer : List (CounterEvent Index)) : ScannedSince index revision scan (newer ++ older) := by
  rcases since with ⟨middle, reply, oldest, rfl, read, scanned⟩
  exact ⟨newer ++ middle, reply, oldest, (append_assoc _ _ _).symm, read,
      mem_append_right _ scanned⟩

/-! ## The law -/

namespace Deployment

variable (deployment : Deployment Index)

/-- What a request may write over a counter. -/
def MayWrite (account : String) (index : Index) (replaced version : Option (Version (Stored Int64)))
    (before : Int64) (log : List (CounterEvent Index)) : Request → Prop
  | .addVCPU target delta => account = target ∧ Wrote (before + delta) version
  | .reconcileVCPU target value complete _ =>
    account = target ∧ Wrote value version ∧ (complete = false → RaisedFrom index value log)
  | .reconcile | .reconcileAccount _ =>
    (∃ value, Wrote value version) ∧ ∃ scan : Scan, if scan.complete then
          ScannedSince index (revisionOf replaced) scan log
        else
          Scanned index scan log

/-- Whoever writes a counter leaves a value. -/
theorem MayWrite.wrote (mayWrite : MayWrite account index replaced version before log request) :
    ∃ value, Wrote value version := by
  cases request with
  | addVCPU target delta => exact ⟨_, mayWrite.2⟩
  | reconcileVCPU target value complete sinceRevision =>
    exact ⟨_, mayWrite.2.1⟩
  | reconcile | reconcileAccount target => exact mayWrite.1

/-- The law of the counters. -/
def law : Bucket.Law Index String (Stored Int64) Answer (Except Failure Unit) where
  commits account index replaced version log := ∃ before, counter replaced = some before ∧
    MayWrite account index replaced version before log (deployment.requests index)
  returns _ _ _ _ := True

/-! ## The programs obey it -/

section

variable {deployment : Deployment Index} {index : Index} {Result : Type}
    {account : String} {pre : Counters Index → Prop}

/-- The program obeys the law of the counters from a property to another. -/
abbrev Obeys (deployment : Deployment Index) (index : Index)
    (pre : Counters Index → Prop) (program : Usage Result)
    (post : Result → Counters Index → Prop) : Prop :=
  (deployment.law.discipline deployment.reads).Ensures index pre program post

/-- Nothing is promised. -/
abbrev Anything : Result → Counters Index → Prop :=
  fun _ _ => True

/-- The bucket is in order. -/
abbrev Orderly (deployment : Deployment Index) (counters : Counters Index) : Prop :=
  deployment.law.Orderly deployment.reads counters

/-- What `readVCPU` makes of a reply. -/
def ReadAs (reply : Except Bucket.Fault (Version (Stored Int64))) :
    Except Failure (Int64 × Nat) → Prop
  | .ok (value, revision) =>
    readCounter reply = some value ∧ readRevision reply = revision
  | .error _ => readRevision reply = 0

theorem obeys_readVCPU (lasting : Lasting pre) :
    deployment.Obeys index pre (readVCPU account) fun result counters =>
      pre counters ∧ ∃ reply, Bucket.Law.Fetched index account reply counters ∧
        ReadAs reply result := by
  unfold readVCPU Store.get
  rw [Program.bind_assoc]
  refine State.ensures_get lasting fun reply => ?_
  match reply with
  | .ok ⟨some value, revision⟩ =>
    exact ensures_pure fun _ met => ⟨met.1, _, met.2, rfl, rfl⟩
  | .ok ⟨none, _⟩ => exact ensures_pure fun _ met => ⟨met.1, _, met.2, rfl⟩
  | .error .notFound =>
    exact ensures_pure fun _ met => ⟨met.1, _, met.2, rfl, rfl⟩
  | .error .alreadyExists | .error .revisionMismatch
  | .error .wrongLastSequence | .error (.other _) =>
    exact ensures_pure fun _ met => ⟨met.1, _, met.2, rfl⟩

/-- The revision is that of a counter once in place, or of none. -/
def Standing (account : String) (revision : Nat) (counters : Counters Index) : Prop :=
  revision = 0 ∨ ∃ value, (counters account).Seen ⟨some value, revision⟩

theorem standing_lasting (account : String) (revision : Nat) :
    Lasting (Standing account revision : Counters Index → Prop) :=
  fun _ _ evolved standing =>
    standing.imp_right fun ⟨value, seen⟩ => ⟨value, (evolved account).seen seen⟩

variable {counters : Counters Index}

theorem standing_of_fetched (fetched : Bucket.Law.Fetched index account reply counters) :
    Standing account (readRevision reply) counters := by
  match reply with
  | .ok ⟨some value, revision⟩ => exact .inr ⟨value, fetched.seen _ rfl⟩
  | .ok ⟨none, _⟩ => exact .inl rfl
  | .error _ => exact .inl rfl

/-- A write at the revision a read came back with. -/
theorem warranted_of_standing (standing : Standing account revision counters)
    (lawful : ∀ later replaced before fresh, (counters account).Extends later →
      counter replaced = some before → revisionOf replaced = revision →
      deployment.law.commits account index replaced (some ⟨some value, fresh⟩) later.log) :
    deployment.law.Warranted deployment.reads account (counters account)
      ⟨index, revision, some (some value)⟩ := by
  rcases standing with rfl | ⟨before, seen⟩
  · apply warranted_of_absent
    intro later extended _ _ fresh
    exact lawful later none 0 fresh extended rfl rfl
  · apply warranted_of_seen seen
    intro later extended _ _ fresh
    exact lawful later _ before fresh extended rfl rfl

theorem obeys_casVCPU (lasting : Lasting pre)
    (lawful : ∀ counters later replaced before value fresh, pre counters →
      (counters account).Extends later →
      counter replaced = some before →
      change before = (value, false) →
        deployment.law.commits account index replaced (some ⟨some value, fresh⟩) later.log) :
    deployment.Obeys index pre (casVCPU account change) fun _ => pre := by
  have changed : ∀ before value, mutation change before = .ok (value, true) →
      change before = (value, false) := by
    intro before value mutated
    rcases computed : change before with ⟨new, skip⟩
    rw [mutation, computed] at mutated
    cases skip with
    | true => cases mutated
    | false =>
      cases mutated
      rfl
  refine ensures_bind (State.achieves_update lasting ⟨?_, ?_⟩) fun result => ?_
  · intro counters value held mutated
    apply warranted_of_absent
    intro later extended _ _ fresh
    exact lawful counters later none 0 value fresh held extended rfl (changed 0 value mutated)
  · intro counters before revision value held inLog mutated
    apply warranted_of_seen inLog
    intro later extended _ _ fresh
    exact lawful counters later _ before value fresh held extended rfl
        (changed before value mutated)
  · cases result with
    | error failure | ok value => exact ensures_left

/-- A charge adds its delta to the counter it replaces. -/
theorem obeys_addVCPU (request : deployment.requests index = .addVCPU account delta) :
    deployment.Obeys index (fun _ => True) (addVCPU deployment.service account delta) Anything := by
  unfold addVCPU
  split_ifs
  · exact ensures_trivial
  · apply obeys_casVCPU lasting_true
    rintro _ later replaced before _ fresh _ _ counted ⟨⟩
    refine ⟨before, counted, ?_⟩
    rw [request]
    exact ⟨rfl, fresh, rfl⟩

theorem obeys_setVCPUAt (lasting : Lasting pre)
    (lawful : ∀ counters later replaced before fresh, pre counters →
      (counters account).Extends later →
      counter replaced = some before →
      revisionOf replaced = sinceRevision →
        deployment.law.commits account index replaced (some ⟨some value, fresh⟩) later.log) :
    deployment.Obeys index pre (setVCPUAt account value sinceRevision) fun _ => pre := by
  refine ensures_bind (obeys_readVCPU lasting) fun result => ?_
  match result with
  | .error failure => exact ensures_left
  | .ok (current, revision) =>
    dsimp only
    split_ifs with moved created
    · exact ensures_left
    all_goals
      have unmoved : revision = sinceRevision := not_not.1 fun differs => moved (.inl differs)
      have standing : ∀ counters : Counters Index, (pre counters ∧
          ∃ reply, Bucket.Law.Fetched index account reply counters ∧
            ReadAs reply (.ok (current, revision))) →
          pre counters ∧ Standing account revision counters := by
        rintro counters ⟨held, reply, fetched, -, rfl⟩
        exact ⟨held, standing_of_fetched fetched⟩
      have warranted : ∀ counters : Counters Index,
          pre counters ∧ Standing account revision counters →
            deployment.law.Warranted deployment.reads account (counters account)
              ⟨index, revision, some (some value)⟩ := by
        rintro counters ⟨held, stands⟩
        apply warranted_of_standing stands
        intro later replaced before fresh extended counted matched
        exact lawful counters later replaced before fresh held extended counted
            (matched.trans unmoved)
      have kept := lasting.and (standing_lasting account revision)
    on_goal 1 =>
      subst created
      refine ensures_then (State.ensures_create kept warranted) standing fun written => ?_
    on_goal 2 =>
      refine ensures_then (State.ensures_compareAndSet kept warranted) standing fun written => ?_
    all_goals
      cases written with
      | ok fresh => exact ensures_left
      | error failure =>
        dsimp only
        split_ifs
        all_goals exact ensures_left

theorem raisedFrom_lasting (value : Int64) :
    Lasting fun counters : Counters Index => RaisedFrom index value (counters account).log := by
  intro before after evolved raised
  rcases evolved account with ⟨_, newer, log⟩
  rw [log]
  exact raised.append newer

/-- A sweep overwrites at a revision, or raises from a read. -/
theorem obeys_reconcileVCPU (lasting : Lasting pre) (overwrites : complete = true →
      ∀ counters later replaced before fresh, pre counters → (counters account).Extends later →
        counter replaced = some before →
        revisionOf replaced = sinceRevision →
          deployment.law.commits account index replaced (some ⟨some value, fresh⟩) later.log)
    (raises : complete = false →
      ∀ counters later replaced before fresh, pre counters → (counters account).Extends later →
        counter replaced = some before →
        RaisedFrom index value later.log →
          deployment.law.commits account index replaced (some ⟨some value, fresh⟩) later.log) :
    deployment.Obeys index pre
      (reconcileVCPU account value complete sinceRevision) fun _ => pre := by
  cases complete with
  | true => exact obeys_setVCPUAt lasting (overwrites rfl)
  | false =>
    refine ensures_bind (obeys_readVCPU lasting) fun result => ?_
    match result with
    | .error failure => exact ensures_left
    | .ok (current, _) =>
      dsimp only
      split_ifs with enough
      · exact ensures_left
      · have written : deployment.Obeys index (fun counters =>
                pre counters ∧ RaisedFrom index value (counters account).log)
              (setVCPU account value)
              fun _ counters => pre counters ∧ RaisedFrom index value (counters account).log := by
          apply obeys_casVCPU (lasting.and (raisedFrom_lasting value))
          rintro counters later replaced old _ fresh ⟨held, raised⟩ extended counted changes
          cases congrArg Prod.fst changes
          rcases id extended with ⟨_, newer, newerLog⟩
          apply raises rfl counters later replaced old fresh held extended counted
          rw [newerLog]
          exact raised.append newer
        refine (written.given ?_).gives fun _ _ met => met.1
        rintro counters ⟨held, reply, fetched, saw, -⟩
        rcases fetched.noted with ⟨older, log⟩
        refine ⟨held, ?_⟩
        rw [log]
        exact ⟨[], reply, older, current, rfl, saw, Int64.not_le.1 enough⟩

/-- What a pass knows of the revisions it has read. -/
structure RevisionsRead (index : Index) (done : List String) (revisions : Revisions)
    (counters : Counters Index) : Prop where
  any : ∀ account, revisions.of account = 0 ∨
    ReadSince index (revisions.of account) (counters account).log
  done : ∀ account ∈ done, ReadSince index (revisions.of account) (counters account).log

variable {revisions : Revisions} {done : List String}

theorem revisionsRead_lasting : Lasting (RevisionsRead index done revisions) := by
  intro before after evolved read
  have extend : ∀ account revision, ReadSince index revision (before account).log →
      ReadSince index revision (after account).log := by
    intro account revision since
    rcases evolved account with ⟨_, newer, log⟩
    rw [log]
    exact since.append newer
  exact
    { any := fun account => (read.any account).imp id (extend account _)
      done := fun account member => extend account _ (read.done account member) }

theorem of_cons_self (account : String) (revision : Nat) (revisions : Revisions) :
    Revisions.of ((account, revision) :: revisions) account = revision := by
  simp [Revisions.of]

theorem of_cons_of_ne (different : other ≠ account) (revision : Nat) (revisions : Revisions) :
    Revisions.of ((account, revision) :: revisions) other = revisions.of other := by
  have unequal : (other == account) = false := by
    simpa using different
  simp [Revisions.of, lookup_cons, unequal]

section

variable (read : RevisionsRead index done revisions counters)

include read

/-- A read that came back with a revision. -/
theorem RevisionsRead.add (since : ReadSince index revision (counters account).log) :
    RevisionsRead index (done ++ [account]) ((account, revision) :: revisions) counters := by
  refine { any := ?_, done := ?_ }
  · intro other
    by_cases same : other = account
    · rw [same, of_cons_self]
      exact .inr since
    · rw [of_cons_of_ne same]
      exact read.any other
  · intro other member
    by_cases same : other = account
    · rwa [same, of_cons_self]
    · rw [of_cons_of_ne same]
      apply read.done other
      simpa [same] using member

/-- A read that failed: its account counts as never seen, or as before. -/
theorem RevisionsRead.skip (since : ReadSince index 0 (counters account).log) :
    RevisionsRead index (done ++ [account]) revisions counters := by
  refine { any := read.any, done := ?_ }
  intro other member
  rcases mem_append.1 member with earlier | last
  · exact read.done other earlier
  · rw [mem_singleton.1 last]
    rcases read.any account with zero | known
    · rwa [zero]
    · exact known

end

theorem obeys_counterRevisions (accounts : List String) :
    deployment.Obeys index (RevisionsRead index done revisions)
      (counterRevisions accounts revisions) (RevisionsRead index (done ++ accounts)) := by
  induction accounts generalizing done revisions with
  | nil =>
    rw [append_nil]
    exact ensures_pure fun _ read => read
  | cons account rest induction =>
    rw [append_cons]
    refine ensures_bind (obeys_readVCPU revisionsRead_lasting) fun result => ?_
    have since {counters : Counters Index} {reply : Except Bucket.Fault (Version (Stored Int64))}
        (fetched : Bucket.Law.Fetched index account reply counters) :
        ReadSince index (readRevision reply) (counters account).log := by
      rcases fetched.noted with ⟨older, log⟩
      rw [log]
      exact ⟨[], reply, older, rfl, rfl⟩
    match result with
    | .error failure =>
      apply induction.given
      rintro counters ⟨read, reply, fetched, failed⟩
      apply read.skip
      rw [← show readRevision reply = 0 from failed]
      exact since fetched
    | .ok (value, revision) =>
      apply induction.given
      rintro counters ⟨read, reply, fetched, -, rfl⟩
      exact read.add (since fetched)

/-- The request is a pass over one or all accounts. -/
def IsPass (deployment : Deployment Index) (index : Index) : Prop :=
  deployment.requests index = .reconcile ∨
    ∃ account, deployment.requests index = .reconcileAccount account

variable {log : List (CounterEvent Index)}

theorem mayWrite_of_isPass (pass : deployment.IsPass index) :
    MayWrite account index replaced version before log (deployment.requests index) ↔
      (∃ value, Wrote value version) ∧ ∃ scan : Scan, if scan.complete then
          ScannedSince index (revisionOf replaced) scan log
        else
          Scanned index scan log := by
  rcases pass with all | ⟨one, single⟩
  · rw [all]
    rfl
  · rw [single]
    rfl

/-- One account of a pass, after its scan. -/
theorem obeys_reconcileVCPU_of_scanned (pass : deployment.IsPass index) (lasting : Lasting pre)
    (scanned : ∀ counters, pre counters →
      ScannedSince index sinceRevision scan (counters account).log) :
    deployment.Obeys index pre
      (reconcileVCPU account (scan.total account) scan.complete sinceRevision) fun _ => pre := by
  refine obeys_reconcileVCPU lasting ?_ ?_
  · intro complete counters later replaced before fresh held extended counted matched
    rcases extended with ⟨_, newer, log⟩
    refine ⟨before, counted, (mayWrite_of_isPass pass).2 ⟨⟨_, fresh, rfl⟩, scan, ?_⟩⟩
    rw [if_pos complete, log, matched]
    exact (scanned counters held).append newer
  · intro incomplete counters later replaced before fresh held extended counted _
    rcases extended with ⟨_, newer, log⟩
    refine ⟨before, counted, (mayWrite_of_isPass pass).2 ⟨⟨_, fresh, rfl⟩, scan, ?_⟩⟩
    rw [if_neg (by simp [incomplete]), log]
    rcases scanned counters held with ⟨middle, reply, oldest, logSeen, _, noted⟩
    rw [logSeen]
    exact mem_append_right _ (mem_append_left _ noted)

/-- The scan came back after the revisions of these accounts were read. -/
def ScannedAll (index : Index) (revisions : Revisions) (scan : Scan)
    (accounts : List String) (counters : Counters Index) : Prop :=
  ∀ account ∈ accounts, ScannedSince index (revisions.of account) scan (counters account).log

theorem scannedAll_lasting : Lasting (ScannedAll index revisions scan accounts) := by
  intro before after evolved scanned account member
  rcases evolved account with ⟨_, newer, log⟩
  rw [log]
  exact (scanned account member).append newer

theorem obeys_reconcileAll (accounts : List String) (firstErr : Option Failure)
    (pass : deployment.IsPass index) :
    deployment.Obeys index (ScannedAll index revisions scan accounts)
      (reconcileAll scan revisions accounts firstErr) Anything := by
  induction accounts generalizing firstErr with
  | nil => cases firstErr <;> exact ensures_trivial
  | cons account rest induction =>
    refine ensures_bind (ensures_waits scannedAll_lasting) fun waiting => ?_
    split_ifs
    · refine ensures_bind (obeys_reconcileVCPU_of_scanned pass scannedAll_lasting
            fun _ scanned => scanned account mem_cons_self)
          fun result => ?_
      have rest (firstErr : Option Failure) : deployment.Obeys index
          (ScannedAll index revisions scan (account :: rest))
          (reconcileAll scan revisions rest firstErr) Anything :=
        (induction firstErr).given fun _ scanned other member =>
          scanned other (mem_cons_of_mem _ member)
      cases result <;> exact rest _
    · exact ensures_trivial

/-- The revisions of a pass, then its scan. -/
theorem obeys_scan :
    deployment.Obeys index (RevisionsRead index accounts revisions)
      scanInstances fun answer counters => ∀ scan, answer = .ok scan →
        ScannedAll index revisions scan accounts counters := by
  refine (ensures_ask revisionsRead_lasting).gives fun answer counters met => ?_
  rintro scan rfl account member
  obtain ⟨-, before, read, log⟩ := met
  rw [log account]
  exact (read.done account member).scanned

theorem revisionsRead_nil (counters : Counters Index) : RevisionsRead index [] [] counters where
  any _ := .inl rfl
  done _ member := by cases member

theorem obeys_reconcile (pass : deployment.IsPass index) :
    deployment.Obeys index (fun _ => True) (reconcile deployment.service) Anything := by
  unfold reconcile
  split_ifs
  · refine ensures_bind (ensures_ask lasting_true) fun answer => ?_
    cases answer with
    | error failure => exact ensures_trivial
    | ok ids =>
      refine ensures_then (obeys_counterRevisions _) (fun counters _ => revisionsRead_nil counters)
          fun revisions => ?_
      refine ensures_bind obeys_scan
        (either (fun _ => ensures_trivial) fun scan => ?_)
      exact (obeys_reconcileAll _ none pass).given fun _ met => met scan rfl
  · exact ensures_trivial

theorem obeys_reconcileAccount (pass : deployment.IsPass index) :
    deployment.Obeys index (fun _ => True)
      (reconcileAccount deployment.service account) Anything := by
  unfold reconcileAccount
  split_ifs
  · refine ensures_then (obeys_counterRevisions _)
        (fun counters _ => revisionsRead_nil counters) fun revisions => ?_
    refine ensures_bind obeys_scan
      (either (fun _ => ensures_trivial) fun scan => ?_)
    refine ensures_then (obeys_reconcileVCPU_of_scanned pass scannedAll_lasting
          fun _ scanned => scanned account (by simp))
        (fun _ met => met scan rfl) fun result => ?_
    cases result <;> exact ensures_trivial
  · exact ensures_trivial

/-- Every request obeys the law. -/
theorem obeys_program :
    deployment.Obeys index (fun _ => True)
      ((deployment.requests index).program deployment.service) Anything := by
  match request : deployment.requests index with
  | .addVCPU account delta => exact obeys_addVCPU request
  | .reconcile => exact obeys_reconcile (.inl request)
  | .reconcileAccount account =>
    exact obeys_reconcileAccount (.inr ⟨account, request⟩)
  | .reconcileVCPU account value complete sinceRevision =>
    refine obeys_reconcileVCPU lasting_true ?_ ?_
    · intro overwrites _ later replaced before fresh _ _ counted _
      refine ⟨before, counted, ?_⟩
      rw [request, overwrites]
      exact ⟨rfl, ⟨fresh, rfl⟩, nofun⟩
    · intro _ _ later replaced before fresh _ _ counted raised
      refine ⟨before, counted, ?_⟩
      rw [request]
      exact ⟨rfl, ⟨fresh, rfl⟩, fun _ => raised⟩

end

/-- In every run every log of a counter obeys the law. -/
theorem Reaches.orderly
    [DecidableEq Index] {deployment : Deployment Index} {pool : RequestPool Index}
    (reached : deployment.Reaches pool) : deployment.Orderly pool.shared := by
  refine reachable (fun index => ?_) reached
  refine (obeys_program orderly_initial trivial).mono ?_ orderly_initial
  intro result counters _ _
  exact settles fun _ _ _ _ => trivial

end Deployment

end Spinifex.Quota.Counter
