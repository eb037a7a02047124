import Spinifex.State.Rules
import Spinifex.Vpc.Ipam

/-!
# Runs of the subnet address calls

Any number of allocations, claims and releases on the records of any number of
subnets, where all callers of a subnet pass one block.  The law of the records
is that every write is what the writer's mutation makes of the record it
replaces, so the records stay well formed and an address is handed out again
only after it was released.
-/

namespace Spinifex.Vpc.Ipam

open Concurrency Discipline Go Go.Netip State IPAMRecord List Bucket.Law Except Option Failure

/-! ## Runs -/

/-- One call on the records. -/
inductive Request where
  | allocateIP (subnetId cidrBlock purpose ownerID : String)
  | claimIP (subnetId cidrBlock purpose ownerID requestedIP : String)
  | releaseIP (subnetId ip : String)
deriving DecidableEq, Repr

/-- What a call returned: an address, or that one was released. -/
inductive Outcome where
  | granted (result : Except Failure String)
  | released (result : Except Failure Unit)

def Request.program : Request → Session Outcome
  | .allocateIP subnetId cidrBlock purpose ownerID => do
      return .granted (← Ipam.allocateIP subnetId cidrBlock purpose ownerID)
  | .claimIP subnetId cidrBlock purpose ownerID requestedIP => do
      return .granted (← Ipam.claimIP subnetId cidrBlock purpose ownerID requestedIP)
  | .releaseIP subnetId ip => do
      return .released (← Ipam.releaseIP subnetId ip)

def Request.subnetId : Request → String
  | .allocateIP subnetId _ _ _ => subnetId
  | .claimIP subnetId _ _ _ _ => subnetId
  | .releaseIP subnetId _ => subnetId

/-- The request passes the block its subnet has. -/
def Request.Passes (cidrs : String → String) : Request → Prop
  | .allocateIP subnetId cidrBlock _ _ => cidrBlock = cidrs subnetId
  | .claimIP subnetId cidrBlock _ _ _ => cidrBlock = cidrs subnetId
  | .releaseIP _ _ => True

/-- The address is the text of a usable address of the block. -/
def Offered (cidrBlock ip : String) : Prop :=
  ∃ block addr, parsePrefix cidrBlock = some block ∧ Usable block addr ∧ addr.text = ip

/--
A record of a subnet in order: it carries the subnet's block, its addresses are
pairwise distinct, and each is a usable address of the block.
-/
structure WellFormed (cidrBlock : String) (record : IPAMRecord) : Prop where
  cidr : record.cidrBlock = cidrBlock
  distinct : record.ips.Nodup
  offered : ∀ ip ∈ record.ips, Offered cidrBlock ip

variable {Index : Type}

abbrev Records (Index : Type) :=
  Bucket.Store Index String (Stored IPAMRecord) Answer Outcome

abbrev RecordEvent (Index : Type) :=
  Bucket.Entry Index (Stored IPAMRecord) Answer Outcome

/--
The requests of a run, the block all callers of a subnet pass, the records at
its start and who reads.
-/
structure Deployment (Index : Type) where
  requests : Index → Request
  cidrs : String → String
  passes : ∀ index, (requests index).Passes cidrs
  content : String → Option (Version (Stored IPAMRecord))
  positive : ∀ subnet, ∀ version ∈ content subnet, 0 < version.revision
  wellFormed : ∀ subnet, ∀ version ∈ content subnet, ∀ record,
    version.value = some record → WellFormed (cidrs subnet) record
  reads : Bucket.Reads

abbrev RequestPool (Index : Type) :=
  Pool Index (Bucket.Call String (Stored IPAMRecord) Empty)
    (Bucket.Reply Answer) (Records Index) Outcome

namespace Deployment

variable (deployment : Deployment Index)

/-- Every request about to start. -/
def start : RequestPool Index :=
  Pool.start (Bucket.initial deployment.content deployment.positive)
    fun index => (deployment.requests index).program

/-- The pools some interleaving of the requests reaches. -/
def Reaches [DecidableEq Index] (pool : RequestPool Index) : Prop :=
  (Bucket.system deployment.reads).Reachable deployment.start pool

end Deployment

/-! ## Mutations of records in order -/

/-- The record a stored version stands for; the zero record for none. -/
def recordOf : Option (Version (Stored IPAMRecord)) → Option IPAMRecord
  | none => some IPAMRecord.zero
  | some version => version.value

/-- What the mutation of a request makes of a record. -/
def Request.Mutates (before after : IPAMRecord) : Request → Prop
  | .allocateIP subnetId cidrBlock purpose ownerID =>
    allocateMutation subnetId cidrBlock purpose ownerID before = .ok (after, true)
  | .claimIP subnetId cidrBlock purpose ownerID requestedIP =>
    ∃ addr, claimedAddr cidrBlock requestedIP = .ok addr ∧
      claimMutation subnetId cidrBlock purpose ownerID addr.text before = .ok (after, true)
  | .releaseIP subnetId ip =>
    releaseMutation subnetId ip before = .ok (after, true)

/-- The request releases this address. -/
def Request.Releases (ip : String) : Request → Prop
  | .releaseIP _ released => released = ip
  | _ => False

/-- The request asks for an address. -/
def Request.Takes : Request → Prop
  | .releaseIP _ _ => False
  | _ => True

@[simp]
theorem ips_adopt (record : IPAMRecord) (subnetId cidrBlock : String) :
    (record.adopt subnetId cidrBlock).ips = record.ips := by
  unfold adopt
  split <;> rfl

@[simp]
theorem ips_add (record : IPAMRecord) (entry : IPEntry) :
    (record.add entry).ips = record.ips ++ [entry.ip] := by
  simp [add, ips]

@[simp]
theorem lastIP_add (record : IPAMRecord) (entry : IPEntry) :
    (record.add entry).lastIP = entry.ip := by
  simp [add, lastIP]

variable {before : IPAMRecord} {after : IPAMRecord} {changed : Bool}

theorem allocateMutation_eq_ok {subnetId cidrBlock purpose ownerID : String}
    (mutated : allocateMutation subnetId cidrBlock purpose ownerID before = .ok (after, changed)) :
    ∃ ip, nextAvailableIP (before.adopt subnetId cidrBlock) = .ok ip ∧
      after = (before.adopt subnetId cidrBlock).add ⟨ip, purpose, ownerID⟩ ∧ changed = true := by
  unfold allocateMutation at mutated
  dsimp only at mutated
  split at mutated
  · cases mutated
  next ip found =>
    obtain ⟨rfl, rfl⟩ := Prod.mk.inj (ok.inj mutated)
    exact ⟨ip, found, rfl, rfl⟩

theorem claimMutation_eq_ok {subnetId cidrBlock purpose ownerID ip : String}
    (mutated : claimMutation subnetId cidrBlock purpose ownerID ip before = .ok (after, changed)) :
    ip ∉ before.ips ∧ after = (before.adopt subnetId cidrBlock).add ⟨ip, purpose, ownerID⟩ ∧
      changed = true := by
  unfold claimMutation at mutated
  dsimp only at mutated
  rw [ips_adopt] at mutated
  split at mutated
  · cases mutated
  next free =>
    obtain ⟨rfl, rfl⟩ := Prod.mk.inj (ok.inj mutated)
    exact ⟨free, rfl, rfl⟩

theorem releaseMutation_eq_ok {subnetId ip : String}
    (mutated : releaseMutation subnetId ip before = .ok (after, changed)) :
    ip ∈ before.ips ∧ after =
        { before with allocated := before.allocated.eraseP fun entry => entry.ip = ip } ∧
      changed = true := by
  unfold releaseMutation at mutated
  split at mutated
  next held =>
    obtain ⟨rfl, rfl⟩ := Prod.mk.inj (ok.inj mutated)
    exact ⟨held, rfl, rfl⟩
  · cases mutated

/-- A claim is accepted exactly for the usable addresses of its block. -/
theorem claimedAddr_eq_ok {cidrBlock requestedIP : String} :
    claimedAddr cidrBlock requestedIP = .ok addr ↔ parseAddr requestedIP = some addr ∧
      ∃ block, parsePrefix cidrBlock = some block ∧ Usable block addr := by
  unfold claimedAddr
  constructor
  · intro accepted
    split at accepted
    · cases accepted
    next parsed read =>
      split at accepted
      · cases accepted
      next block readBlock =>
        split at accepted
        next claimable =>
          obtain rfl := ok.inj accepted
          exact ⟨read, block, readBlock, isClaimableAddr_iff.1 claimable⟩
        · cases accepted
  · rintro ⟨read, block, readBlock, usable⟩
    simp [read, readBlock, isClaimableAddr_iff.2 usable]

/-- Releasing an address keeps the other ones and their order. -/
theorem ips_eraseP (entries : List IPEntry) (ip : String) :
    (entries.eraseP fun entry => entry.ip = ip).map IPEntry.ip =
      (entries.map IPEntry.ip).erase ip := by
  induction entries with
  | nil => rfl
  | cons entry entries induction =>
    by_cases same : entry.ip = ip
    · simp [eraseP_cons_of_pos, same]
    · rw [eraseP_cons_of_neg (by simpa using same), map_cons, map_cons,
        erase_cons_tail (by simpa using same), induction]

/-- A record to write on: in order, or the zero record. -/
def Ready (cidrBlock : String) (record : IPAMRecord) : Prop :=
  record = IPAMRecord.zero ∨ WellFormed cidrBlock record

theorem Ready.distinct {cidrBlock : String}
    (ready : Ready cidrBlock record) : record.ips.Nodup := by
  rcases ready with rfl | wellFormed
  · exact nodup_nil
  · exact wellFormed.distinct

theorem Ready.offered {cidrBlock ip : String}
    (ready : Ready cidrBlock record) (member : ip ∈ record.ips) : Offered cidrBlock ip := by
  rcases ready with rfl | wellFormed
  · cases member
  · exact wellFormed.offered ip member

variable {subnetId cidrBlock : String}

theorem Ready.cidr_adopt
    (ready : Ready cidrBlock record) : (record.adopt subnetId cidrBlock).cidrBlock = cidrBlock := by
  unfold adopt
  split
  · rfl
  next present =>
    rcases ready with rfl | wellFormed
    · exact absurd rfl present
    · exact wellFormed.cidr

/-- Adding a new offered address keeps a record in order. -/
theorem Ready.wellFormed_add {record : IPAMRecord}
    (ready : Ready cidrBlock record) (fresh : entry.ip ∉ record.ips)
    (offered : Offered cidrBlock entry.ip) :
    WellFormed cidrBlock ((record.adopt subnetId cidrBlock).add entry) where
  cidr := ready.cidr_adopt
  distinct := by
    rw [ips_add, ips_adopt]
    refine nodup_append.2 ⟨ready.distinct, by simp, ?_⟩
    rintro ip member other last rfl
    obtain rfl := mem_singleton.1 last
    exact fresh member
  offered ip member := by
    rw [ips_add, ips_adopt, mem_append, mem_singleton] at member
    rcases member with earlier | rfl
    · exact ready.offered earlier
    · exact offered

variable {request : Request}

section

variable (mutates : request.Mutates before after)

include mutates

/-- A request for an address appends one that was not listed. -/
theorem Request.Mutates.taken (takes : request.Takes) :
    after.lastIP ∉ before.ips ∧ after.ips = before.ips ++ [after.lastIP] := by
  cases request with
  | allocateIP subnetId cidrBlock purpose ownerID =>
    obtain ⟨ip, found, rfl, -⟩ := allocateMutation_eq_ok mutates
    obtain ⟨-, -, -, -, -, free, -⟩ := nextAvailableIP_eq_ok found
    exact ⟨by simpa using free, by simp⟩
  | claimIP subnetId cidrBlock purpose ownerID requestedIP =>
    obtain ⟨addr, -, mutated⟩ := mutates
    obtain ⟨free, rfl, -⟩ := claimMutation_eq_ok mutated
    exact ⟨by simpa using free, by simp⟩
  | releaseIP subnetId ip => exact takes.elim

/-- Only its release takes an address off a record. -/
theorem Request.Mutates.kept {ip : String}
    (other : ¬ request.Releases ip) (held : ip ∈ before.ips) : ip ∈ after.ips := by
  cases request with
  | releaseIP subnetId released =>
    obtain ⟨-, rfl, -⟩ := releaseMutation_eq_ok mutates
    unfold ips
    rw [ips_eraseP]
    exact (mem_erase_of_ne (Ne.symm other)).2 held
  | allocateIP subnetId cidrBlock purpose ownerID
  | claimIP subnetId cidrBlock purpose ownerID requestedIP =>
    rw [(mutates.taken trivial).2]
    exact mem_append_left _ held

/-- The mutation of a request keeps a record in order. -/
theorem Request.Mutates.wellFormed {cidrs : String → String} (passes : request.Passes cidrs)
    (ready : Ready (cidrs request.subnetId) before) :
    WellFormed (cidrs request.subnetId) after := by
  cases request with
  | allocateIP subnetId cidrBlock purpose ownerID =>
    obtain rfl : cidrBlock = cidrs subnetId := passes
    obtain ⟨ip, found, rfl, -⟩ := allocateMutation_eq_ok mutates
    obtain ⟨block, addr, parsed, usable, text, free, -⟩ := nextAvailableIP_eq_ok found
    rw [ips_adopt] at free
    have cidr : (before.adopt subnetId (cidrs subnetId)).cidrBlock = cidrs subnetId :=
      ready.cidr_adopt
    exact ready.wellFormed_add free ⟨block, addr, cidr ▸ parsed, usable, text⟩
  | claimIP subnetId cidrBlock purpose ownerID requestedIP =>
    obtain rfl : cidrBlock = cidrs subnetId := passes
    obtain ⟨addr, accepted, mutated⟩ := mutates
    obtain ⟨-, block, parsed, usable⟩ := claimedAddr_eq_ok.1 accepted
    obtain ⟨free, rfl, -⟩ := claimMutation_eq_ok mutated
    exact ready.wellFormed_add free ⟨block, addr, parsed, usable, rfl⟩
  | releaseIP subnetId ip =>
    obtain ⟨held, rfl, -⟩ := releaseMutation_eq_ok mutates
    rcases ready with rfl | wellFormed
    · cases held
    · refine ⟨wellFormed.cidr, ?_, ?_⟩
      · have erased := wellFormed.distinct.erase ip
        unfold ips at erased
        rwa [← ips_eraseP] at erased
      · intro other member
        have kept : other ∈ before.ips.erase ip := by
          unfold ips at member ⊢
          rwa [← ips_eraseP]
        exact wellFormed.offered other (mem_of_mem_erase kept)

end

/-! ## The law -/

namespace Deployment

variable (deployment : Deployment Index)

/-- Every write is what its writer's mutation makes of the record it replaces,
and an address that was returned is one the call has committed. -/
def law : Bucket.Law Index String (Stored IPAMRecord) Answer Outcome where
  commits subnet index replaced version _ := subnet = (deployment.requests index).subnetId ∧
    ∃ before after revision, recordOf replaced = some before ∧
    version = some ⟨some after, revision⟩ ∧ (deployment.requests index).Mutates before after
  returns subnet index outcome log := ∀ ip, outcome = .granted (.ok ip) →
    subnet = (deployment.requests index).subnetId →
      (deployment.requests index).Takes ∧ ∃ replaced after revision,
        .committed index replaced (some ⟨some after, revision⟩) () ∈ log ∧ after.lastIP = ip

variable {deployment : Deployment Index} {index : Index}

/-- From a property on, the program obeys the law and returns what it asks. -/
abbrev Obeys (deployment : Deployment Index) (index : Index)
    (pre : Records Index → Prop) (program : Session Outcome) : Prop :=
  (deployment.law.discipline deployment.reads).Ensures index pre program
    ((deployment.law.discipline deployment.reads).Settles index)

/-- The bucket is in order. -/
abbrev Orderly (deployment : Deployment Index) (records : Records Index) : Prop :=
  deployment.law.Orderly deployment.reads records

/-- A result that is no address asks nothing of the log. -/
theorem obeys_ungranted (ungranted : ∀ ip, outcome ≠ .granted (.ok ip)) :
    deployment.Obeys index pre (pure outcome) := by
  refine ensures_pure fun _ _ => ?_
  refine settles fun later _ _ subnet => ?_
  intro ip granted
  exact absurd granted (ungranted ip)

variable {ip : String}

/-- An address that is in the log may be returned. -/
theorem settles_of_committed (takes : (deployment.requests index).Takes)
    (committed : .committed index replaced (some ⟨some after, revision⟩) () ∈
      (seen (deployment.requests index).subnetId).log) (last : after.lastIP = ip) :
    (deployment.law.discipline deployment.reads).Settles index (.granted (.ok ip)) seen := by
  refine settles fun later evolved _ subnet => ?_
  rintro other ⟨⟩ rfl
  exact ⟨takes, replaced, after, revision, (evolved _).mem committed, last⟩

variable {subnetId : String}

/-- The loop of a request writes what the law allows. -/
theorem obeys_update {next : Except Failure IPAMRecord → Session Outcome}
    (subnet : (deployment.requests index).subnetId = subnetId)
    (lawful : ∀ before after, mutate before = .ok (after, true) →
      (deployment.requests index).Mutates before after)
    (failed : ∀ failure, deployment.Obeys index (fun _ => True) (next (.error failure)))
    (written : ∀ record, deployment.Obeys index
      (Left index (deployment.requests index).subnetId mutate record)
      (next (.ok record))) :
    deployment.Obeys index (fun _ => True)
      (update subnetId cfg IPAMRecord.zero mutate >>= next) := by
  subst subnetId
  refine ensures_bind (achieves_update lasting_true ⟨?_, ?_⟩) fun result => ?_
  · intro store changed _ mutated
    apply warranted_of_absent
    intro later _ _ _ fresh
    exact ⟨rfl, zero, changed, fresh, rfl, rfl, lawful _ _ mutated⟩
  · intro store record revision changed _ inLog mutated
    apply warranted_of_seen inLog
    intro later _ _ _ fresh
    exact ⟨rfl, record, changed, fresh, rfl, rfl, lawful _ _ mutated⟩
  · cases result with
    | error failure => exact (failed failure).given fun _ _ => trivial
    | ok record => exact (written record).given fun _ met => met.2 record rfl

variable {cidrBlock purpose ownerID : String}

theorem obeys_allocateIP
    (request : deployment.requests index = .allocateIP subnetId cidrBlock purpose ownerID) :
    deployment.Obeys index (fun _ => True)
      (Request.allocateIP subnetId cidrBlock purpose ownerID).program := by
  unfold Request.program Ipam.allocateIP
  dsimp only
  rw [Program.bind_assoc]
  refine obeys_update (by rw [request]; rfl) ?_ ?_ ?_
  · intro before after mutated
    rwa [request]
  · exact fun failure => obeys_ungranted (by simp)
  · refine fun record => ensures_pure fun store left => ?_
    obtain ⟨before, changed, mutated, committed⟩ := left
    obtain ⟨ip, -, -, isChanged⟩ := allocateMutation_eq_ok mutated
    obtain ⟨replaced, fresh, member⟩ := committed isChanged
    exact settles_of_committed (by rw [request]; trivial) member rfl

theorem obeys_claimIP {subnetId requestedIP : String} (request : deployment.requests index =
      .claimIP subnetId cidrBlock purpose ownerID requestedIP) :
    deployment.Obeys index (fun _ => True)
      (Request.claimIP subnetId cidrBlock purpose ownerID requestedIP).program := by
  unfold Request.program Ipam.claimIP
  dsimp only
  cases accepted : claimedAddr cidrBlock requestedIP with
  | error failure => exact obeys_ungranted (by simp)
  | ok addr =>
    rw [Program.bind_assoc]
    refine obeys_update (by rw [request]; rfl) ?_ ?_ ?_
    · intro before after mutated
      rw [request]
      exact ⟨addr, accepted, mutated⟩
    · exact fun failure => obeys_ungranted (by simp)
    · refine fun record => ensures_pure fun store left => ?_
      obtain ⟨before, changed, mutated, committed⟩ := left
      obtain ⟨-, rfl, isChanged⟩ := claimMutation_eq_ok mutated
      obtain ⟨replaced, fresh, member⟩ := committed isChanged
      exact settles_of_committed (by rw [request]; trivial) member (lastIP_add _ _)

theorem obeys_releaseIP (request : deployment.requests index = .releaseIP subnetId ip) :
    deployment.Obeys index (fun _ => True) (Request.releaseIP subnetId ip).program := by
  unfold Request.program Ipam.releaseIP
  dsimp only
  rw [Program.bind_assoc]
  refine obeys_update (by rw [request]; rfl) ?_ ?_ ?_
  · intro before after mutated
    rwa [request]
  · intro failure
    dsimp only
    split <;> exact obeys_ungranted (by simp)
  · exact fun record => obeys_ungranted (by simp)

/-- Every request obeys the law. -/
theorem obeys_program :
    deployment.Obeys index (fun _ => True) (deployment.requests index).program := by
  cases request : deployment.requests index with
  | allocateIP subnetId cidrBlock purpose ownerID =>
    exact obeys_allocateIP request
  | claimIP subnetId cidrBlock purpose ownerID requestedIP =>
    exact obeys_claimIP request
  | releaseIP subnetId ip => exact obeys_releaseIP request

/-! ## What the logs say -/

variable {subnet : String} {record : IPAMRecord} {log : List (RecordEvent Index)}

/-- The record in place after a sound log is in order. -/
theorem wellFormed_current (sound : deployment.law.Sound deployment.reads subnet base log)
    (consistent : Log.Consistent base log)
    (start : ∀ version ∈ base, ∀ record, version.value = some record →
      WellFormed (deployment.cidrs subnet) record)
    (inPlace : Log.current base log = some version) (decoded : version.value = some record) :
    WellFormed (deployment.cidrs subnet) record := by
  induction log generalizing version record with
  | nil => exact start version inPlace record decoded
  | cons event older induction =>
    cases event with
    | noted note => exact induction sound.2 consistent inPlace decoded
    | committed writer replaced written stamp =>
      obtain ⟨⟨rfl, before, after, revision, stands, rfl, mutates⟩, soundOlder⟩ := sound
      obtain ⟨rfl, -, consistentOlder⟩ := consistent
      obtain rfl := some.inj inPlace
      obtain rfl := some.inj decoded
      apply mutates.wellFormed (deployment.passes writer)
      cases current : Log.current base older with
      | none =>
        rw [current] at stands
        exact Or.inl (some.inj stands).symm
      | some previous =>
        rw [current] at stands
        exact Or.inr (induction soundOlder consistentOlder current stands)

/-- The event takes the address off the record. -/
def Frees (deployment : Deployment Index) (ip : String) :
    RecordEvent Index → Prop
  | .committed writer _ _ _ => (deployment.requests writer).Releases ip
  | .noted _ => False

/-- The event is a write of the call that left the address as the last. -/
def Leaves (index : Index) (ip : String) : RecordEvent Index → Prop
  | .committed writer _ version _ =>
    writer = index ∧ ∃ after revision, version = some ⟨some after, revision⟩ ∧ after.lastIP = ip
  | .noted _ => False

/-- An address stays on the record until it is taken off. -/
theorem mem_current_of_leaves
    (sound : deployment.law.Sound deployment.reads subnet base (newer ++ event :: older))
    (consistent : Log.Consistent base (newer ++ event :: older))
    (takes : (deployment.requests index).Takes) (leaves : Leaves index ip event)
    (kept : ∀ later ∈ newer, ¬ deployment.Frees ip later) :
    ∃ record revision, Log.current base (newer ++ event :: older) = some ⟨some record, revision⟩ ∧
      ip ∈ record.ips := by
  induction newer with
  | nil =>
    cases event with
    | noted note => exact leaves.elim
    | committed writer replaced written stamp =>
      obtain ⟨rfl, after, revision, rfl, last⟩ := leaves
      obtain ⟨⟨-, before, after', revision', -, same, mutates⟩, -⟩ := sound
      cases same
      refine ⟨after, revision, rfl, ?_⟩
      rw [(mutates.taken takes).2, last]
      exact mem_append_right _ (mem_singleton.2 rfl)
  | cons later newer induction =>
    have keptOlder := fun other member => kept other (mem_cons_of_mem _ member)
    cases later with
    | noted note => exact induction sound.2 consistent keptOlder
    | committed writer replaced written stamp =>
      obtain ⟨⟨-, before, after, revision, stands, rfl, mutates⟩, soundOlder⟩ := sound
      obtain ⟨rfl, -, consistentOlder⟩ := consistent
      obtain ⟨record, revision', current, member⟩ := induction soundOlder consistentOlder keptOlder
      change recordOf (Log.current base (newer ++ event :: older)) = some before at stands
      rw [current] at stands
      obtain rfl := some.inj stands
      refine ⟨after, revision, rfl, ?_⟩
      exact mutates.kept (kept _ mem_cons_self) member

/--
The second call took the address after the first one had, and it was released
in between.
-/
def TakenAgain (deployment : Deployment Index) (ip : String) (first second : Index)
    (log : List (RecordEvent Index)) : Prop :=
  ∃ newer later middle earlier older, log = newer ++ later :: (middle ++ earlier :: older) ∧
    Leaves second ip later ∧ Leaves first ip earlier ∧ ∃ event ∈ middle, deployment.Frees ip event

variable {first second : Index}

/-- An address is taken again only after it was released. -/
theorem takenAgain_of_precedes (sound : deployment.law.Sound deployment.reads subnet base log)
    (consistent : Log.Consistent base log) (takesFirst : (deployment.requests first).Takes)
    (takesSecond : (deployment.requests second).Takes) (leavesFirst : Leaves first ip earlier)
    (leavesSecond : Leaves second ip later) (precedes : Log.Precedes log earlier later) :
    deployment.TakenAgain ip first second log := by
  obtain ⟨newer, middle, older, rfl⟩ := precedes
  refine ⟨newer, later, middle, earlier, older, rfl, leavesSecond, leavesFirst, ?_⟩
  by_contra none
  have kept : ∀ event ∈ middle, ¬ deployment.Frees ip event :=
    fun event member frees => none ⟨event, member, frees⟩
  have soundLater := sound.of_append
  have consistentLater := consistent.of_append
  cases later with
  | noted note => exact leavesSecond
  | committed writer replaced written stamp =>
    obtain ⟨rfl, after, revision, rfl, last⟩ := leavesSecond
    obtain ⟨⟨-, before, after', revision', stands, same, mutates⟩, soundOlder⟩ := soundLater
    cases same
    obtain ⟨rfl, -, consistentOlder⟩ := consistentLater
    obtain ⟨record, revision'', current, member⟩ :=
      mem_current_of_leaves soundOlder consistentOlder takesFirst leavesFirst kept
    rw [current] at stands
    obtain rfl := some.inj stands
    apply (mutates.taken takesSecond).1
    rwa [last]

variable [DecidableEq Index] {pool : RequestPool Index}

section

variable (reached : deployment.Reaches pool)

include reached

theorem Reaches.orderly : deployment.Orderly pool.shared :=
  reachable (fun _ => obeys_program orderly_initial trivial) reached

theorem Reaches.base (subnet : String) : (pool.shared subnet).base = deployment.content subnet :=
  (reachable_evolves (fun _ => obeys_program orderly_initial trivial) reached subnet).1

/-- What an address that was returned says of the log. -/
theorem Reaches.leaves (isSubnet : (deployment.requests index).subnetId = subnet)
    (returned : .noted (.returned index (.granted (.ok ip))) ∈ (pool.shared subnet).log) :
    (deployment.requests index).Takes ∧
      ∃ event ∈ (pool.shared subnet).log, Leaves index ip event := by
  obtain ⟨newer, older, log⟩ := append_of_mem returned
  have sound := (reached.orderly subnet).sound
  rw [log] at sound ⊢
  obtain ⟨takes, replaced, after, revision, member, last⟩ := sound.lawful ip rfl isSubnet.symm
  exact ⟨takes, _, mem_append_right _ (mem_cons_of_mem _ member), rfl, after, revision, rfl, last⟩

/-- The record of a subnet is in order in every state of a run. -/
theorem Reaches.wellFormed (inPlace : (pool.shared subnet).current = some version)
    (decoded : version.value = some record) : WellFormed (deployment.cidrs subnet) record := by
  refine wellFormed_current (reached.orderly subnet).sound
    (pool.shared subnet).consistent ?_ inPlace decoded
  rw [reached.base subnet]
  exact deployment.wellFormed subnet

/-- Of two calls that returned one address, one took it again. -/
theorem Reaches.takenAgain (different : first ≠ second)
    (isFirst : (deployment.requests first).subnetId = subnet)
    (isSecond : (deployment.requests second).subnetId = subnet)
    (returnedFirst : .noted (.returned first (.granted (.ok ip))) ∈ (pool.shared subnet).log)
    (returnedSecond : .noted (.returned second (.granted (.ok ip))) ∈ (pool.shared subnet).log) :
    deployment.TakenAgain ip first second (pool.shared subnet).log ∨
      deployment.TakenAgain ip second first (pool.shared subnet).log := by
  obtain ⟨takesFirst, earlier, memberFirst, leavesFirst⟩ := reached.leaves isFirst returnedFirst
  obtain ⟨takesSecond, later, memberSecond, leavesSecond⟩ := reached.leaves isSecond returnedSecond
  have distinct : earlier ≠ later := by
    rintro rfl
    cases earlier with
    | noted note => exact leavesFirst
    | committed writer replaced version stamp =>
      exact different (leavesFirst.1.symm.trans leavesSecond.1)
  have sound := (reached.orderly subnet).sound
  have consistent := (pool.shared subnet).consistent
  rcases Log.precedes_total memberFirst memberSecond distinct with
    precedes | precedes
  · exact Or.inl (takenAgain_of_precedes sound consistent takesFirst takesSecond
        leavesFirst leavesSecond precedes)
  · exact Or.inr (takenAgain_of_precedes sound consistent takesSecond takesFirst
        leavesSecond leavesFirst precedes)

end

end Deployment

/-! ## Exhaustion -/

/-- The record an allocation judges: the one its last read came back with. -/
def judge :
    (call : Bucket.Call String (Stored IPAMRecord) Empty) →
      Bucket.Reply Answer call → Option IPAMRecord → Option IPAMRecord
  | .get _, .ok version, _ => version.value
  | .get _, .error .notFound, _ => some IPAMRecord.zero
  | .get _, .error _, _ => none
  | .write _ _ _, _, judged => judged
  | .waits, _, judged => judged
  | .ask _, _, judged => judged

variable (subnetId cidrBlock : String)

/-- Every usable address of the block is allocated in the record judged. -/
def Full (judged : Option IPAMRecord) : Prop :=
  ∃ record block, judged = some record ∧
    parsePrefix (record.adopt subnetId cidrBlock).cidrBlock = some block ∧
    ∀ addr, Usable block addr → addr.text ∈ record.ips

/-- The result is the report that no address is left. -/
def Exhausted {Result : Type} (result : Except Failure Result) : Prop :=
  ∃ cidrBlock, result = .error (exhaustedFailure cidrBlock)

variable {Result : Type} {failure : Failure}

/-- An error with a sentinel is another one. -/
theorem not_exhausted_of_sentinels (marked : failure.sentinels ≠ []) :
    ¬ Exhausted (.error failure : Except Failure Result) := by
  rintro ⟨cidrBlock, same⟩
  exact marked (congrArg sentinels (error.inj same))

/-- Nor is an error whose text starts otherwise. -/
theorem not_exhausted_of_head (head : failure.text.toList.head? ≠ some 's') :
    ¬ Exhausted (.error failure : Except Failure Result) := by
  rintro ⟨cidrBlock, same⟩
  obtain rfl := error.inj same
  simp [exhaustedFailure] at head

theorem nextAvailableIP_exhausted_cidr {cidrBlock : String}
    (exhausted : nextAvailableIP record = .error (exhaustedFailure cidrBlock)) :
    nextAvailableIP record = .error (exhaustedFailure record.cidrBlock) := by
  unfold nextAvailableIP at exhausted ⊢
  cases parsed : parsePrefix record.cidrBlock with
  | none =>
    rw [parsed] at exhausted
    exact absurd (error.inj exhausted) (parseFailure_ne_exhaustedFailure _ _)
  | some block =>
    rw [parsed] at exhausted
    dsimp only at exhausted ⊢
    split at exhausted
    · cases exhausted
    · rfl

/-- The mutation reports exhaustion exactly for a full record. -/
theorem allocateMutation_exhausted_iff
    {subnetId cidrBlock purpose ownerID : String} {record : IPAMRecord} :
    Exhausted (allocateMutation subnetId cidrBlock purpose ownerID record) ↔
      Full subnetId cidrBlock (some record) := by
  have judged : nextAvailableIP (record.adopt subnetId cidrBlock) = .error
          (exhaustedFailure (record.adopt subnetId cidrBlock).cidrBlock) ↔
      Full subnetId cidrBlock (some record) := by
    rw [nextAvailableIP_exhausted_iff, ips_adopt]
    constructor
    · rintro ⟨block, parsed, full⟩
      exact ⟨record, block, rfl, parsed, full⟩
    · rintro ⟨other, block, same, parsed, full⟩
      obtain rfl := some.inj same
      exact ⟨block, parsed, full⟩
  rw [← judged]
  unfold Exhausted allocateMutation
  dsimp only
  constructor
  · rintro ⟨cidr, failed⟩
    split at failed
    next failure found =>
      obtain rfl := error.inj failed
      exact nextAvailableIP_exhausted_cidr found
    · cases failed
  · intro found
    exact ⟨_, by rw [found]⟩

/-- What an attempt of an allocation leaves. -/
abbrev Judged {Result : Type}
    (result : Except Failure Result) (judged : Option IPAMRecord) : Prop :=
  Exhausted result ↔ Full subnetId cidrBlock judged

/-- The errors of the mutation are no conflicts. -/
theorem sentinels_of_allocateMutation {subnetId cidrBlock purpose ownerID : String}
    (failed : allocateMutation subnetId cidrBlock purpose ownerID record = .error failure) :
    failure.sentinels = [] := by
  unfold allocateMutation nextAvailableIP at failed
  dsimp only at failed
  split at failed
  next cause found =>
    obtain rfl := error.inj failed
    split at found
    · obtain rfl := error.inj found
      rfl
    · split at found
      · cases found
      · obtain rfl := error.inj found
        rfl
  · cases failed

variable {judged : Option IPAMRecord}

/-- An error that is not exhaustion, with a record that is not full. -/
theorem attempted_of_not_full {subnetId cidrBlock : String}
    (other : ¬ Exhausted (.error failure : Except Failure Result))
    (notFull : ¬ Full subnetId cidrBlock judged) :
    Attempted (fun judged => ¬ Full subnetId cidrBlock judged) (Judged subnetId cidrBlock)
      (.error failure : Except Failure Result) judged := by
  unfold Attempted
  dsimp only
  split
  · exact notFull
  · exact iff_of_false other notFull

theorem not_full_none : ¬ Full subnetId cidrBlock none := by
  rintro ⟨record, block, ⟨⟩, -⟩

/-- A commit of the record that was judged. -/
theorem notes_commitMutation {subnetId cidrBlock purpose ownerID : String} {record : IPAMRecord} :
    (commitMutation subnetId record revision (allocateMutation subnetId cidrBlock purpose ownerID) :
      Session (Except Failure IPAMRecord)).Notes judge
      (Attempted (fun judged => ¬ Full subnetId cidrBlock judged) (Judged subnetId cidrBlock))
      (some record) := by
  have judged := @allocateMutation_exhausted_iff subnetId cidrBlock purpose ownerID record
  unfold commitMutation
  cases mutated : allocateMutation subnetId cidrBlock purpose ownerID record with
  | error failure =>
    have unmarked := sentinels_of_allocateMutation mutated
    have settled : isConflict failure = false := by
      simp [isConflict, is, unmarked]
    rw [mutated] at judged
    change Attempted _ _ (.error failure) (some record)
    unfold Attempted
    dsimp only
    rw [if_neg (by rw [settled]; exact Bool.false_ne_true)]
    rw [Judged, ← judged]
    simp [Exhausted]
  | ok outcome =>
    obtain ⟨ip, -, -, changed⟩ := allocateMutation_eq_ok mutated
    obtain ⟨after, write⟩ := outcome
    obtain rfl : write = true := changed
    have notFull : ¬ Full subnetId cidrBlock (some record) := by
      rw [← judged, mutated]
      rintro ⟨cidr, ⟨⟩⟩
    dsimp only
    rw [KeyValue.create_or_update]
    intro reply
    cases reply with
    | error fault =>
      exact attempted_of_not_full
        (not_exhausted_of_sentinels (by simp [wrap, Sentinel.failure])) notFull
    | ok fresh => exact iff_of_false (by rintro ⟨cidr, ⟨⟩⟩) notFull

/-- One attempt of an allocation. -/
theorem notes_updateAttempt {subnetId cidrBlock purpose ownerID : String} :
    (updateAttempt subnetId ⟨attempts, true, none, exhausted⟩ IPAMRecord.zero
        (allocateMutation subnetId cidrBlock purpose ownerID) :
      Session (Except Failure IPAMRecord)).Notes judge
      (Attempted (fun judged => ¬ Full subnetId cidrBlock judged) (Judged subnetId cidrBlock))
      judged := by
  intro reply
  cases reply with
  | ok version =>
    obtain ⟨value, revision⟩ := version
    cases value with
    | some record => exact notes_commitMutation
    | none =>
      exact attempted_of_not_full (not_exhausted_of_sentinels (by simp [Sentinel.failure]))
        (not_full_none subnetId cidrBlock)
  | error fault =>
    have failed :
        ∀ cause : Failure,
          Attempted (fun judged => ¬ Full subnetId cidrBlock judged) (Judged subnetId cidrBlock)
            (.error (Sentinel.read.failure.wrap cause) : Except Failure IPAMRecord) none :=
      fun cause => attempted_of_not_full
        (not_exhausted_of_sentinels (by simp [wrap, Sentinel.failure]))
        (not_full_none subnetId cidrBlock)
    cases fault with
    | notFound => exact notes_commitMutation
    | alreadyExists | revisionMismatch | wrongLastSequence | other text =>
      exact failed _

/--
Whatever the replies to its calls, an allocation reports exhaustion exactly if
every usable address is allocated in the record it judged.
-/
theorem notes_allocateIP (subnetId cidrBlock purpose ownerID : String) :
    (allocateIP subnetId cidrBlock purpose ownerID).Notes judge
      (Judged subnetId cidrBlock) none := by
  have notFull := not_full_none subnetId cidrBlock
  have looped : (Store.upsertRecord ipamConfig subnetId zero
        (allocateMutation subnetId cidrBlock purpose ownerID) :
      Session (Except Failure IPAMRecord)).Notes judge
      (Judged subnetId cidrBlock) none := by
    refine notes_retryLoop (fun judged _ => notes_updateAttempt) (fun _ _ => rfl) ?_ ?_ _ _ notFull
    · intro judged open'
      exact iff_of_false (not_exhausted_of_sentinels (by simp [Sentinel.failure])) open'
    · intro failure judged open'
      refine iff_of_false (not_exhausted_of_head ?_) open'
      simp [ipamConfig, wrap]
  refine Program.notes_bind.2 (looped.mono ?_)
  intro result judged met
  cases result with
  | ok record =>
    refine Iff.trans (iff_of_false ?_ ?_) met
    · rintro ⟨cidr, ⟨⟩⟩
    · rintro ⟨cidr, ⟨⟩⟩
  | error failure =>
    refine Iff.trans ?_ met
    simp [Exhausted]

/-! ## The two ranges and the whole -/

/-- A claim accepts the addresses an allocation can hand out. -/
theorem claimed_iff_allocated {cidrBlock ip : String} (parsed : parsePrefix cidrBlock = some block)
    (family : block.addr.family = .v4) :
    (∃ requestedIP addr, claimedAddr cidrBlock requestedIP = .ok addr ∧ addr.text = ip) ↔
      ∃ record : IPAMRecord, record.cidrBlock = cidrBlock ∧ nextAvailableIP record = .ok ip := by
  constructor
  · rintro ⟨requestedIP, addr, accepted, rfl⟩
    obtain ⟨-, block', parsed', usable⟩ := claimedAddr_eq_ok.1 accepted
    exact exists_nextAvailableIP parsed' (by cases parsed.symm.trans parsed'; exact family) usable
  · rintro ⟨record, rfl, found⟩
    obtain ⟨block', addr, parsed', usable, text, -, -⟩ := nextAvailableIP_eq_ok found
    obtain rfl := some.inj (parsed.symm.trans parsed')
    exact ⟨addr.text, addr, claimedAddr_eq_ok.2 ⟨parseAddr_text (usable.family.trans family), block,
        parsed, usable⟩, text⟩

namespace Deployment

variable [DecidableEq Index] {deployment : Deployment Index} {pool : RequestPool Index}

/--
In every state of every run of the calls, where all callers of a subnet pass
one block: the record of a subnet is in order; of two calls that returned one
address, one took it after the other's was released; an allocation reports
exhaustion exactly if the record it judged has every usable address; and a
claim accepts exactly the addresses an allocation can hand out.
-/
theorem subnet_addresses_in_order (reached : deployment.Reaches pool) :
    (∀ subnet version record, (pool.shared subnet).current = some version →
      version.value = some record → WellFormed (deployment.cidrs subnet) record) ∧
    (∀ subnet ip first second, first ≠ second → (deployment.requests first).subnetId = subnet →
      (deployment.requests second).subnetId = subnet →
      .noted (.returned first (.granted (.ok ip))) ∈ (pool.shared subnet).log →
      .noted (.returned second (.granted (.ok ip))) ∈ (pool.shared subnet).log →
        deployment.TakenAgain ip first second (pool.shared subnet).log ∨
          deployment.TakenAgain ip second first (pool.shared subnet).log) ∧
    (∀ subnetId cidrBlock purpose ownerID,
      (allocateIP subnetId cidrBlock purpose ownerID).Notes judge
        (Judged subnetId cidrBlock) none) ∧
    ∀ cidrBlock block, parsePrefix cidrBlock = some block → block.addr.family = .v4 → ∀ ip,
      (∃ requestedIP addr, claimedAddr cidrBlock requestedIP = .ok addr ∧ addr.text = ip) ↔
      ∃ record : IPAMRecord, record.cidrBlock = cidrBlock ∧ nextAvailableIP record = .ok ip := by
  refine ⟨?_, ?_, notes_allocateIP, ?_⟩
  · intro subnet version record inPlace decoded
    exact reached.wellFormed inPlace decoded
  · intro subnet ip first second different isFirst isSecond returnedFirst returnedSecond
    exact reached.takenAgain different isFirst isSecond returnedFirst returnedSecond
  · intro cidrBlock block parsed family ip
    exact claimed_iff_allocated parsed family

end Deployment

namespace Sample

/-- Three callers of one subnet. -/
inductive Caller where
  | first
  | releaser
  | second
deriving DecidableEq

def subnet : String := "subnet-1"

/-- An address is allocated, released and claimed again. -/
def deployment : Deployment Caller where
  requests
    | .first => .allocateIP subnet "10.0.0.0/29" "eni" "eni-1"
    | .releaser => .releaseIP subnet "10.0.0.4"
    | .second => .claimIP subnet "10.0.0.0/29" "eni" "eni-2" "10.0.0.4"
  cidrs _ := "10.0.0.0/29"
  passes caller := by
    cases caller with
    | first => rfl
    | releaser => trivial
    | second => rfl
  content _ := none
  positive _ _ held := by cases held
  wellFormed _ _ held := by cases held
  reads := .leader

/-- The record with the one address, and its owner. -/
def record (ownerID : String) : IPAMRecord :=
  ⟨subnet, "10.0.0.0/29", [⟨"10.0.0.4", "eni", ownerID⟩]⟩

/-- The log after all three calls. -/
def log : List (RecordEvent Caller) :=
  [.noted (.returned .second (.granted (.ok "10.0.0.4"))),
    .committed .second (some ⟨some ⟨subnet, "10.0.0.0/29", []⟩, 2⟩)
      (some ⟨some (record "eni-2"), 3⟩) (),
    .noted (.read .second (.ok ⟨some ⟨subnet, "10.0.0.0/29", []⟩, 2⟩)),
    .noted (.returned .releaser (.released (.ok ()))),
    .committed .releaser (some ⟨some (record "eni-1"), 1⟩)
      (some ⟨some ⟨subnet, "10.0.0.0/29", []⟩, 2⟩) (),
    .noted (.read .releaser (.ok ⟨some (record "eni-1"), 1⟩)),
    .noted (.returned .first (.granted (.ok "10.0.0.4"))),
    .committed .first none (some ⟨some (record "eni-1"), 1⟩) (),
    .noted (.read .first (.error .notFound))]

/-- The calls one after the other. -/
theorem exists_reaches : ∃ pool, deployment.Reaches pool ∧ (pool.shared subnet).log = log := by
  have played : (Bucket.play .leader (fun _ question => question.elim) deployment.start
        [.first, .first, .first, .releaser, .releaser, .releaser, .second, .second, .second]).map
      (fun pool => (pool.shared subnet).log) =
      some log :=
    rfl
  exact (Bucket.resolver _ _).exists_of_play played

end Sample

/-- An address that two calls returned was released in between. -/
theorem subnet_address_taken_again :
    ∃ pool, Sample.deployment.Reaches pool ∧ (pool.shared Sample.subnet).log = Sample.log ∧
      (Sample.deployment.TakenAgain "10.0.0.4" .first .second Sample.log ∨
        Sample.deployment.TakenAgain "10.0.0.4" .second .first Sample.log) := by
  obtain ⟨pool, reached, log⟩ := Sample.exists_reaches
  have again := (Deployment.subnet_addresses_in_order reached).2.1 Sample.subnet "10.0.0.4"
      .first .second (by decide) rfl rfl
  rw [log] at again
  refine ⟨pool, reached, log, again ?_ ?_⟩
  · simp [Sample.log]
  · simp [Sample.log]

end Spinifex.Vpc.Ipam
