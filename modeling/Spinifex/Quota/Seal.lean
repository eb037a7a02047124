import Spinifex.Quota.Override
import Spinifex.State.Rules

/-!
# A sealed override stays sealed

The law of the override records: a seal leaves the sealed record; a store or a
clear takes the place of nothing or of an active record.  Since every write is
conditional on the revision of the version it was decided on, it does not
matter how old the reads were.
-/

namespace Spinifex.Quota.Override

open Concurrency Go State Discipline Bucket.Law

/-! ## Runs -/

/-- One call on the overrides. -/
inductive Request where
  | sealAccountOverrides (account : String)
  | putAccountQuota
    (account : String) (overrides : Overrides) (updatedBy : String)
  | getAccountQuota (account : String)
deriving DecidableEq

/-- What a call returned. -/
inductive Outcome where
  | sealed (result : Except Failure Nat)
  | put (result : Except Failure Unit)
  | got (result : Except Failure (Overrides × Limits))

def Request.program (limits : Limits) : Request → Session Outcome
  | .sealAccountOverrides account => do
      return .sealed (← Override.sealAccountOverrides account)
  | .putAccountQuota account overrides updatedBy => do
      return .put (← Override.putAccountQuota account overrides updatedBy)
  | .getAccountQuota account => do
      return .got (← Override.getAccountQuota limits account)

variable {Index : Type}

/-- The logs of the override records. -/
abbrev Records (Index : Type) :=
  Bucket.Store Index String (Stored OverrideRecord) Answer Outcome

/-- An event in the log of an override record. -/
abbrev RecordEvent (Index : Type) :=
  Bucket.Entry Index (Stored OverrideRecord) Answer Outcome

/-- The requests of a run, the records at its start and who reads. -/
structure Deployment (Index : Type) where
  limits : Limits
  requests : Index → Request
  content : String → Option (Version (Stored OverrideRecord))
  positive : ∀ account, ∀ version ∈ content account, 0 < version.revision
  reads : Bucket.Reads

abbrev RequestPool (Index : Type) :=
  Pool Index (Bucket.Call String (Stored OverrideRecord) Question)
    (Bucket.Reply Answer) (Records Index) Outcome

namespace Deployment

variable (deployment : Deployment Index)

/-- Every request about to start. -/
def start : RequestPool Index :=
  Pool.start (Bucket.initial deployment.content deployment.positive)
    fun index => (deployment.requests index).program deployment.limits

/-- The pools some interleaving of the requests reaches. -/
def Reaches [DecidableEq Index] (pool : RequestPool Index) : Prop :=
  (Bucket.system deployment.reads).Reachable deployment.start pool

end Deployment

/-! ## The law -/

/-- The stored version is a record in this state. -/
def InState (state : OverrideState) (version : Option (Version (Stored OverrideRecord))) : Prop :=
  ∃ record revision, version = some ⟨some record, revision⟩ ∧ record.state = state

theorem InState.unique (leftState : InState left version)
    (rightState : InState right version) : left = right := by
  rcases leftState with ⟨record, revision, rfl, rfl⟩
  rcases rightState with ⟨_, _, ⟨⟩, rfl⟩
  rfl

/-- What a request may write over a record. -/
def MayWrite (account : String) (replaced version : Option (Version (Stored OverrideRecord))) :
    Request → Prop
  | .sealAccountOverrides target => account = target ∧ InState .sealed version
  | .putAccountQuota target overrides _ =>
    account = target ∧ (replaced = none ∨ InState .active replaced) ∧ if overrides.empty then
        version = none
      else
        InState .active version
  | .getAccountQuota _ => False

variable {replaced version : Option (Version (Stored OverrideRecord))}

/-- A store or a clear does not take the place of a sealed record. -/
theorem MayWrite.not_sealed
    (mayWrite : MayWrite account replaced version (.putAccountQuota target overrides updatedBy)) :
    ¬InState .sealed replaced := by
  intro sealed
  rcases mayWrite.2.1 with rfl | active
  · rcases sealed with ⟨record, revision, impossible, _⟩
    cases impossible
  · cases active.unique sealed

/-- What takes the place of a sealed record is sealed. -/
theorem MayWrite.sealed (mayWrite : MayWrite account replaced version request)
    (sealed : InState .sealed replaced) : InState .sealed version := by
  cases request with
  | sealAccountOverrides target => exact mayWrite.2
  | putAccountQuota target overrides updatedBy =>
    exact absurd sealed mayWrite.not_sealed
  | getAccountQuota target => exact mayWrite.elim

/-- What a result stands for: a seal's revision is that of its write. -/
def Stands (account : String) (index : Index)
    (log : List (RecordEvent Index)) : Request → Outcome → Prop
  | .sealAccountOverrides target, .sealed (.ok revision) =>
    account = target → ∃ replaced,
      .committed index replaced (some ⟨some sealedRecord, revision⟩) () ∈ log
  | _, _ => True

/-- The law of the override records. -/
def Deployment.law (deployment : Deployment Index) :
    Bucket.Law Index String (Stored OverrideRecord) Answer Outcome where
  commits account index replaced version _ :=
    MayWrite account replaced version (deployment.requests index)
  returns account index outcome log := Stands account index log (deployment.requests index) outcome

namespace Deployment

variable {deployment : Deployment Index} {index : Index} {Result : Type} {account : String}

/-- The program obeys the law of the overrides, to a property. -/
abbrev Obeys (deployment : Deployment Index) (index : Index)
    (program : Session Result) (post : Result → Records Index → Prop) : Prop :=
  (deployment.law.discipline deployment.reads).Ensures index (fun _ => True) program post

/-- Nothing is promised. -/
abbrev Anything : Result → Records Index → Prop :=
  fun _ _ => True

/-- The bucket is in order. -/
abbrev Orderly (deployment : Deployment Index) (records : Records Index) : Prop :=
  deployment.law.Orderly deployment.reads records

theorem checkActive_eq_ok (checked : checkActive record = .ok ()) : record.state = .active := by
  unfold checkActive at checked
  split at checked
  next active => exact active
  · cases checked
  · cases checked

/-- A read of the record writes nothing. -/
theorem obeys_recordFor : deployment.Obeys index (recordFor account) Anything := by
  refine State.ensures_get lasting_true fun reply => ?_
  match reply with
  | .ok ⟨some _, _⟩ => exact ensures_trivial
  | .ok ⟨none, _⟩ => exact ensures_trivial
  | .error fault =>
    dsimp only [Except.mapError]
    split_ifs
    all_goals exact ensures_trivial

/-- A lookup of the quota writes nothing. -/
theorem obeys_getAccountQuota :
    deployment.Obeys index (getAccountQuota deployment.limits account) Anything := by
  refine ensures_bind obeys_recordFor
    (either (fun _ => ensures_trivial) fun record => ?_)
  dsimp only
  split
  all_goals exact ensures_trivial

variable {overrides : Overrides} {updatedBy : String}

/-- A clear removes an active record at the revision it read. -/
theorem obeys_clearLoop (attempts : Nat)
    (request : deployment.requests index = .putAccountQuota account overrides updatedBy)
    (empty : overrides.empty = true) :
    deployment.Obeys index (clearLoop account attempts) Anything := by
  induction attempts with
  | zero => exact ensures_trivial
  | succ attempts induction =>
    refine State.ensures_get lasting_true fun reply => ?_
    rcases reply with fault | ⟨_ | record, revision⟩
    · dsimp only [Except.mapError]
      split_ifs
      all_goals exact ensures_trivial
    · exact ensures_trivial
    · dsimp only [Except.mapError]
      cases checked : checkActive record with
      | error failure => exact ensures_trivial
      | ok done =>
        have seen : Bucket.Law.Lasting fun records : Records Index =>
              (records account).Seen ⟨some record, revision⟩ :=
          fun _ _ evolved => (evolved account).seen
        refine ensures_then (State.ensures_write seen ?_)
            (fun _ met => met.2.seen _ rfl) fun written => ?_
        · intro records inLog
          apply warranted_of_seen inLog
          intro later _ _ _ _
          show MayWrite _ _ _ _
          rw [request]
          refine ⟨rfl, .inr ⟨record, revision, rfl, ?_⟩, ?_⟩
          · exact checkActive_eq_ok checked
          · rw [if_pos empty]
            rfl
        · cases written with
          | ok revision => exact ensures_trivial
          | error failure =>
            dsimp only
            split_ifs
            · exact ensures_trivial
            · exact induction.given fun _ _ => trivial
            · exact ensures_trivial

theorem storeMutation_eq_ok (mutated : storeMutation overrides record = .ok (changed, true)) :
    record.state = .active ∧ changed.state = .active := by
  unfold storeMutation at mutated
  split at mutated
  · cases mutated
  next checked =>
    cases mutated
    exact ⟨checkActive_eq_ok checked, checkActive_eq_ok checked⟩

/-- A store writes an active record over nothing or an active one. -/
theorem obeys_putAccountQuota
    (request : deployment.requests index = .putAccountQuota account overrides updatedBy) :
    deployment.Obeys index (putAccountQuota account overrides updatedBy) Anything := by
  unfold putAccountQuota
  split_ifs with empty
  · exact obeys_clearLoop overrideMaxAttempts request empty
  · refine ensures_bind (ensures_ask lasting_true) fun updatedAt => ?_
    refine ensures_then (State.achieves_update lasting_true ⟨?_, ?_⟩)
        (fun _ _ => trivial) fun result => ?_
    · intro _ changed _ mutated
      apply warranted_of_absent
      intro later _ _ _ fresh
      show MayWrite _ _ _ _
      rw [request]
      refine ⟨rfl, .inl rfl, ?_⟩
      rw [if_neg empty]
      exact ⟨changed, fresh, rfl, (storeMutation_eq_ok mutated).2⟩
    · intro store record revision changed _ inLog mutated
      apply warranted_of_seen inLog
      intro later _ _ _ fresh
      rcases storeMutation_eq_ok mutated with ⟨wasActive, isActive⟩
      show MayWrite _ _ _ _
      rw [request]
      refine ⟨rfl, .inr ⟨record, revision, rfl, wasActive⟩, ?_⟩
      rw [if_neg empty]
      exact ⟨changed, fresh, rfl, isActive⟩
    · cases result <;> exact ensures_trivial

/-- A revision that was returned is that of a sealed record in the log. -/
def SealedAt (index : Index) (account : String) (result : Except Failure Nat)
    (records : Records Index) : Prop :=
  ∀ revision, result = .ok revision → ∃ replaced,
    .committed index replaced (some ⟨some sealedRecord, revision⟩) () ∈ (records account).log

theorem ensures_refused {failure : Failure} :
    (deployment.law.discipline deployment.reads).Ensures index pre (pure (.error failure))
      (SealedAt index account) :=
  ensures_pure fun _ _ => nofun

/-- A seal writes the sealed record, and returns its revision. -/
theorem obeys_sealLoop (attempts : Nat)
    (request : deployment.requests index = .sealAccountOverrides account) :
    deployment.Obeys index (sealLoop account attempts) (SealedAt index account) := by
  induction attempts with
  | zero => exact ensures_refused
  | succ attempts induction =>
    refine State.ensures_get lasting_true fun reply => ?_
    match sealRevision (Except.mapError faultFailure reply) with
    | .error failure => exact ensures_refused
    | .ok revision =>
      dsimp only
      rw [KeyValue.create_or_update]
      refine ensures_then (State.ensures_write lasting_true ?_)
          (fun _ _ => trivial) fun written => ?_
      · intro _ _ later _ _ _ fresh
        show MayWrite _ _ _ _
        rw [request]
        exact ⟨rfl, sealedRecord, fresh, rfl, rfl⟩
      · cases written with
        | ok newRev =>
          refine ensures_pure fun _ met => ?_
          rintro revision ⟨⟩
          exact met.2 newRev rfl
        | error failure =>
          dsimp only
          split_ifs
          · exact induction.given fun _ _ => trivial
          · exact ensures_refused

theorem obeys_sealAccountOverrides
    (request : deployment.requests index = .sealAccountOverrides account) :
    deployment.Obeys index (sealAccountOverrides account) (SealedAt index account) := by
  unfold sealAccountOverrides
  split_ifs
  · exact ensures_refused
  · exact ensures_refused
  · refine ensures_bind (ensures_ask lasting_true) fun terminating => ?_
    match terminating with
    | .error _ | .ok false => exact ensures_refused
    | .ok true =>
      refine ensures_then (ensures_ask lasting_true) (fun _ _ => trivial) fun opened => ?_
      match opened with
      | .error failure => exact ensures_refused
      | .ok () =>
        exact (obeys_sealLoop sealMaxAttempts request).given fun _ _ => trivial
  · exact ensures_refused

/-- Every request obeys the law. -/
theorem obeys_program :
    deployment.Obeys index ((deployment.requests index).program deployment.limits)
      ((deployment.law.discipline deployment.reads).Settles index) := by
  match request : deployment.requests index with
  | .sealAccountOverrides account =>
    refine ensures_bind (obeys_sealAccountOverrides request) fun result =>
        ensures_pure fun _ committed => ?_
    refine settles fun later evolved _ key => ?_
    show Stands _ _ _ _ _
    rw [request]
    match result with
    | .error failure => trivial
    | .ok revision =>
      rintro rfl
      rcases committed revision rfl with ⟨replaced, member⟩
      exact ⟨replaced, (evolved key).mem member⟩
  | .putAccountQuota account overrides updatedBy =>
    refine ensures_bind (obeys_putAccountQuota request) fun result => ensures_pure fun _ _ => ?_
    refine settles fun _ _ _ _ => ?_
    show Stands _ _ _ _ _
    rw [request]
    trivial
  | .getAccountQuota account =>
    refine ensures_bind obeys_getAccountQuota fun result => ensures_pure fun _ _ => ?_
    refine settles fun _ _ _ _ => ?_
    show Stands _ _ _ _ _
    rw [request]
    trivial

/-- In every run every log of an override record obeys the law. -/
theorem Reaches.orderly [DecidableEq Index]
    (reached : deployment.Reaches pool) : deployment.Orderly pool.shared :=
  reachable (fun _ => obeys_program orderly_initial trivial) reached

/-! ## Sealed is final -/

/-- A record once sealed stays sealed. -/
theorem sealed_append (sound : deployment.law.Sound deployment.reads account base (newer ++ older))
    (consistent : Log.Consistent base (newer ++ older))
    (sealed : InState .sealed (Log.current base older)) :
    InState .sealed (Log.current base (newer ++ older)) := by
  induction newer with
  | nil => exact sealed
  | cons event newer induction =>
    cases event with
    | noted note => exact induction sound.2 consistent
    | committed writer replaced version stamp =>
      have before := induction sound.2 consistent.2.2
      have mayWrite : MayWrite account replaced version (deployment.requests writer) := sound.1
      rw [consistent.1] at mayWrite
      exact mayWrite.sealed before

/--
Once a seal has returned a revision the stored record is sealed, and no store
or clear ever took the place of a sealed record.
-/
theorem sealed_override_stays_sealed [DecidableEq Index] {pool : RequestPool Index}
    (reached : deployment.Reaches pool) (account : String) :
    (∀ index revision, deployment.requests index = .sealAccountOverrides account →
      .noted (.returned index (.sealed (.ok revision))) ∈ (pool.shared account).log →
      InState .sealed (pool.shared account).current) ∧ ∀ index replaced version overrides updatedBy,
      deployment.requests index = .putAccountQuota account overrides updatedBy →
      .committed index replaced version () ∈ (pool.shared account).log →
      ¬InState .sealed replaced := by
  have sound := (reached.orderly account).sound
  have consistent := (pool.shared account).consistent
  refine ⟨?_, ?_⟩
  · intro index revision request returned
    rcases List.append_of_mem returned with ⟨newer, older, log⟩
    unfold Register.current
    rw [log] at sound consistent ⊢
    have stands : Stands account index older (deployment.requests index) (.sealed (.ok revision)) :=
      sound.lawful
    rw [request] at stands
    rcases stands rfl with ⟨replaced, committed⟩
    rcases List.append_of_mem committed with ⟨middle, oldest, split⟩
    rw [split, ← List.singleton_append, ← List.append_assoc,
      ← List.append_assoc] at sound consistent ⊢
    exact sealed_append sound consistent ⟨sealedRecord, revision, rfl, rfl⟩
  · intro index replaced version overrides updatedBy request committed sealed
    rcases List.append_of_mem committed with ⟨newer, older, log⟩
    rw [log] at sound
    have mayWrite : MayWrite account replaced version (deployment.requests index) := sound.lawful
    rw [request] at mayWrite
    exact mayWrite.not_sealed sealed

end Deployment

/-! ## A seal and a store on one account -/

namespace Sample

/-- A seal and a store. -/
inductive Caller where
  | sealer
  | admin
deriving DecidableEq

def account : String := "111122223333"

/-- An override of the number of VPCs. -/
def overrides : Overrides :=
  { noOverrides with vpcs := some 3 }

/-- A seal and a store, on replicas that may lag. -/
def deployment : Deployment Caller where
  limits := ⟨8, 5, 5, 5, 100, 10, 2, 2⟩
  requests
    | .sealer => .sealAccountOverrides account
    | .admin => .putAccountQuota account overrides "admin"
  content _ := none
  positive _ _ held := by cases held
  reads := .replica

/-- The account is being terminated. -/
def answers (_ : Caller) : (question : Question) → Answer question
  | .now => "2026-01-01T00:00:00Z"
  | .accountTerminating _ => .ok true
  | .openBucket => .ok ()

end Sample

open Sample

/-- The store has read an absent key when the seal commits. -/
theorem overtaken_store_finds_sealed_override :
    ∃ pool, deployment.Reaches pool ∧
      .noted (.returned .sealer (.sealed (.ok 1))) ∈ (pool.shared account).log ∧
      InState .sealed (pool.shared account).current := by
  have played : (Bucket.play .replica answers deployment.start
        [.admin, .admin, .sealer, .sealer, .sealer, .sealer, .sealer, .admin]).map
      (fun pool => (pool.shared account).log) =
      some [.noted (.returned .sealer (.sealed (.ok 1))),
        .committed .sealer none (some ⟨some sealedRecord, 1⟩) (),
        .noted (.read .sealer (.error .notFound)),
        .noted (.answered .sealer Question.openBucket (.ok ())),
        .noted (.answered .sealer (Question.accountTerminating account) (.ok true)),
        .noted (.read .admin (.error .notFound)),
        .noted (.answered .admin Question.now "2026-01-01T00:00:00Z")] :=
    rfl
  rcases (Bucket.resolver _ _).exists_of_play played with ⟨pool, reached, log⟩
  have reaches : deployment.Reaches pool := reached
  have returned : .noted (.returned .sealer (.sealed (.ok 1))) ∈ (pool.shared account).log := by
    rw [log]
    exact List.mem_cons_self
  exact ⟨pool, reaches, returned, (Deployment.sealed_override_stays_sealed reaches
      account).1 .sealer 1 rfl returned⟩

end Spinifex.Quota.Override
