import Mathlib.Data.List.Nodup
import Spinifex.Placement.Groups
import Spinifex.State.Retry

/-!
# Spread groups are strict

No node is reserved by, or holding instances of, two launches, in every run in
which no removal of an instance finds a placeholder on its node and no write is
stored that is answered with an error.

`Change` says once what an update may do to the entry of a node.  The launch
that makes the update is told apart from the others by what it reserved, so
that each of the four updates is verified on one record and one launch.
-/

namespace Spinifex.Placement

open Concurrency Go State Discipline List Tenure Option

variable {Launch Output : Type}

/-! ## Changes of one entry -/

/-- How a launch may leave a node it has reserved. -/
def Left (launch : Launch) (entry : Entry Launch) : Prop :=
  ∀ instances, entry = some instances →
    instances ≠ [] ∧ ∀ member ∈ instances, member.launch = launch

/-- What an update of a launch may do to the entry of a node. -/
inductive Change (launch : Launch) (tenure : Tenure Launch) :
    Entry Launch → Entry Launch → Prop where
  | same (entry : Entry Launch) : Change launch tenure entry entry
  | reserve : Change launch tenure none (some [])
  | settle
    {before after : Entry Launch}
    (own : tenure = .reserved) (left : Left launch after) :
    Change launch tenure before after
  | shrink
    {instances : List (Instance Launch)} {after : Entry Launch}
    (occupied : instances ≠ [])
    (kept : ∀ rest, after = some rest → rest ≠ [] ∧ rest ⊆ instances) :
    Change launch tenure (some instances) after

namespace Tenure

variable {tenure : Tenure Launch} {before after : Entry Launch}

theorem next_same
    (placed : tenure = .reserved → before = some []) : tenure.next before before = tenure := by
  rcases before with _ | _ | _ <;> cases tenure <;> first | rfl | cases placed rfl

theorem next_ended (occupied : after ≠ some []) : reserved.next before after = .ended after := by
  rcases before with _ | _ <;> rcases after with _ | _ | _ <;>
    first | rfl | exact absurd rfl occupied

/-- A launch reserves a node that was free, or keeps its reservation. -/
theorem of_next_reserved (reserved : tenure.next before after = .reserved) :
    after = some [] ∧ (before = none ∨ tenure = .reserved) := by
  rcases before with _ | _ <;> rcases after with _ | _ | _ <;>
    cases tenure <;> simp_all [Tenure.next]

theorem of_next_ended (ended : tenure.next before after = .ended entry) :
    tenure = .ended entry ∨ tenure = .reserved ∧ entry = after ∧ after ≠ some [] := by
  rcases before with _ | _ <;> rcases after with _ | _ | _ <;>
    cases tenure <;> cases ended <;> simp

end Tenure

/-- A placeholder of another launch stays. -/
theorem Change.undisturbed {after : Entry Launch} (change : Change launch tenure (some []) after)
    (other : tenure ≠ .reserved) : after = some [] := by
  cases change with
  | same => rfl
  | settle own _ => exact absurd own other
  | shrink occupied _ => exact absurd rfl occupied

/-! ## Updates of one record -/

variable (tenure : String → Tenure Launch)

/-- A record agrees with what a launch has reserved. -/
def Placed (record : Record Launch) : Prop :=
  ∀ node, tenure node = .reserved → record.nodeInstances node = some []

/-- What a launch has reserved after it replaced a record. -/
def Replaced (before after : Record Launch) (node : String) : Tenure Launch :=
  (tenure node).next (before.nodeInstances node) (after.nodeInstances node)

/-- What a mutation does for the launch that makes it. -/
structure Mutates (launch : Launch) (permits : Record Launch → Bool)
    (mutate : Mutation Launch Output) (pre : (String → Tenure Launch) → Prop)
    (done : Output → (String → Tenure Launch) → Prop) : Prop where
  unchanged : ∀ tenure record output, pre tenure → Placed tenure record →
    mutate record = .ok (output, none) → done output tenure
  changed : ∀ tenure record output after, pre tenure → Placed tenure record →
    permits record = true → mutate record = .ok (output, some after) →
    (∀ node, Change launch (tenure node) (record.nodeInstances node) (after.nodeInstances node)) ∧
    done output (Replaced tenure record after)

/-- Whether a request may replace a record. -/
def Request.permits : Request Launch → Record Launch → Bool
  | .removeInstance node _, record => !isPlaceholder (record.nodeInstances node)
  | .runInstances _ _, _ => true

/-- A launch that has reserved nothing. -/
def Free : Prop :=
  ∀ node, tenure node = .free

/-- A launch has reserved exactly these nodes. -/
def Reserves (nodes : String → Prop) (tenure : String → Tenure Launch) : Prop :=
  ∀ node, tenure node = .reserved ↔ nodes node

section

variable {launch : Launch} {permits : Record Launch → Bool} {nodes : String → Prop}

theorem replaced_same {tenure : String → Tenure Launch} {before after : Record Launch}
    (placed : Placed tenure before)
    (same : after.nodeInstances node = before.nodeInstances node) :
    Replaced tenure before after node = tenure node := by
  rw [Replaced, same]
  exact next_same (placed node)

theorem mutates_reserve (input : ReserveSpreadNodesInput) :
    Mutates launch permits (reserve input) Free
      fun selected tenure => Reserves (· ∈ selected) tenure ∧
        (input.eligibleNodes.Nodup → selected.Nodup) where
  unchanged tenure record output _ _ mutated := by
    simp only [reserve] at mutated
    split_ifs at mutated
    cases mutated
  changed tenure record selected after free placed _ mutated := by
    simp only [reserve] at mutated
    split_ifs at mutated
    cases mutated
    have vacant : ∀ node ∈ (input.eligibleNodes.filter fun node =>
            (record.nodeInstances node).isNone).take input.maxCount,
          record.nodeInstances node = none := by
      intro node member
      have kept := mem_of_mem_take member
      exact isNone_iff_eq_none.1 (mem_filter.1 kept).2
    refine ⟨fun node => ?_, fun node => ?_, fun distinct => ?_⟩
    · dsimp only
      split_ifs with member
      · rw [vacant node member]
        exact .reserve
      · exact .same _
    · by_cases member : node ∈ (input.eligibleNodes.filter fun node =>
          (record.nodeInstances node).isNone).take input.maxCount
      · simp [Replaced, member, vacant node member, Tenure.next]
      · rw [replaced_same placed (if_neg member), free]
        simp [member]
    · exact (distinct.filter _).sublist (take_sublist _ _)

theorem mutates_finalize {instances : String → Entry Launch}
    (own : ∀ node entry, instances node = some entry → nodes node ∧ Left launch (some entry)) :
    Mutates launch permits (finalize instances) (Reserves nodes)
      fun _ => Reserves fun node => nodes node ∧ instances node = none where
  unchanged tenure record output _ _ mutated := by cases mutated
  changed tenure record output after reserves placed _ mutated := by
    cases mutated
    refine ⟨fun node => ?_, fun node => ?_⟩
    · show Change _ _ _ ((instances node).or _)
      cases found : instances node with
      | none => exact .same _
      | some entry =>
        have mine := own node entry found
        exact .settle ((reserves node).2 mine.1) mine.2
    · cases found : instances node with
      | none =>
        rw [replaced_same placed (by simp [found]), reserves node]
        simp [found]
      | some entry =>
        have mine := own node entry found
        have occupied : some entry ≠ some [] := fun empty =>
          (mine.2 entry rfl).1 (some.inj empty)
        rw [Replaced, (reserves node).2 mine.1]
        simp [found, next_ended occupied]

theorem mutates_release {released : List String} (own : ∀ node ∈ released, nodes node) :
    Mutates launch permits (release released) (Reserves nodes)
      fun _ => Reserves fun node => nodes node ∧ node ∉ released where
  unchanged tenure record output reserves placed mutated := by
    simp only [release] at mutated
    split at mutated
    · cases mutated
    next absent =>
      intro node
      rw [reserves node]
      refine ⟨fun held => ⟨held, fun member => absent ?_⟩, And.left⟩
      refine any_eq_true.2 ⟨node, member, isPlaceholder_iff.2 ?_⟩
      exact placed node ((reserves node).2 held)
  changed tenure record output after reserves placed _ mutated := by
    simp only [release] at mutated
    split at mutated
    · cases mutated
      refine ⟨fun node => ?_, fun node => ?_⟩
      · dsimp only
        split_ifs with member
        · exact .settle ((reserves node).2 (own node member.1)) nofun
        · exact .same _
      · by_cases member : node ∈ released
        · have mine := (reserves node).2 (own node member)
          have empty := isPlaceholder_iff.2 (placed node mine)
          rw [Replaced, mine]
          simp [member, empty, next_ended]
        · rw [replaced_same placed (if_neg fun both => member both.1)]
          simp [reserves node, member]
    · cases mutated

theorem mutates_remove [DecidableEq Launch] (node : String) (removed : Instance Launch) :
    Mutates launch (Request.removeInstance node removed).permits
      (remove node removed) (fun _ => True) fun _ _ => True where
  unchanged _ _ _ _ _ _ := trivial
  changed tenure record output after _ _ permitted mutated := by
    refine ⟨fun other => ?_, trivial⟩
    simp only [remove] at mutated
    split at mutated
    · cases mutated
    next instances found =>
      cases mutated
      by_cases same : other = node
      · subst other
        simp only [Function.update_self, found]
        refine .shrink ?_ fun rest kept => ?_
        · rintro rfl
          simp [Request.permits, found, isPlaceholder] at permitted
        · split_ifs at kept with empty
          cases kept
          exact ⟨empty, filter_subset_self _⟩
      · simp only [Function.update_of_ne same]
        exact .same _

end

/-! ## The invariant -/

/-- Placeholders belong to one launch, and so do the instances of a node. -/
structure Sound (key : String) (group : Group Launch) : Prop where
  placed : ∀ launch node, group.tenure launch node = .reserved → group.entry key node = some []
  exclusive : ∀ first second node, group.tenure first node = .reserved →
    group.tenure second node = .reserved → first = second
  single : ∀ node instances, group.entry key node = some instances →
    ∀ first ∈ instances, ∀ second ∈ instances, first.launch = second.launch
  left : ∀ launch node entry, group.tenure launch node = .ended entry → Left launch entry

variable [DecidableEq Launch]

section

variable {key : String} {group : Group Launch} {launch : Launch}
    {value : Option (Stored (Record Launch))}

theorem entry_write (node : String) :
    (group.write launch key value).entry key node = entryOf value node := by
  simp [Group.entry, Group.write]

theorem tenure_write_self (node : String) :
    (group.write launch key value).tenure launch node =
      (group.tenure launch node).next (group.entry key node) (entryOf value node) := by
  simp [Group.write]

theorem tenure_write_of_ne (different : other ≠ launch) :
    (group.write launch key value).tenure other = group.tenure other :=
  Function.update_of_ne different _ _

/-- An update that changes every entry as it may keeps the invariant. -/
theorem Sound.write (sound : Sound key group)
    (changes : ∀ node, Change launch (group.tenure launch node)
      (group.entry key node) (entryOf value node)) :
    Sound key (group.write launch key value) where
  placed other node reserved := by
    rw [entry_write]
    by_cases own : other = launch
    · rw [own, tenure_write_self] at reserved
      exact (of_next_reserved reserved).1
    · rw [tenure_write_of_ne own] at reserved
      have change := changes node
      rw [sound.placed other node reserved] at change
      refine change.undisturbed fun mine => own ?_
      exact sound.exclusive other launch node reserved mine
  exclusive first second node := by
    intro left right
    -- whoever is not the writer reserved the node before
    have apart :
        ∀ other, other ≠ launch → (group.write launch key value).tenure launch node = .reserved →
          (group.write launch key value).tenure other node ≠ .reserved := by
      intro other different mine theirs
      rw [tenure_write_of_ne different] at theirs
      rw [tenure_write_self, sound.placed other node theirs] at mine
      rcases (of_next_reserved mine).2 with absent | reserved
      · cases absent
      · exact different (sound.exclusive other launch node theirs reserved)
    by_cases leftOwn : first = launch
    · subst first
      by_contra different
      exact apart second (Ne.symm different) left right
    · by_cases rightOwn : second = launch
      · subst second
        exact absurd left (apart first leftOwn right)
      · rw [tenure_write_of_ne leftOwn] at left
        rw [tenure_write_of_ne rightOwn] at right
        exact sound.exclusive first second node left right
  single node instances stored := by
    rw [entry_write] at stored
    have change := changes node
    generalize earlier : group.entry key node = before at change
    rw [stored] at change
    cases change with
    | same => exact sound.single node instances earlier
    | reserve => simp
    | settle _ left =>
      intro first firstMem second secondMem
      have all := (left instances rfl).2
      rw [all first firstMem, all second secondMem]
    | shrink _ kept =>
      intro first firstMem second secondMem
      have within := (kept instances rfl).2
      exact sound.single node _ earlier first (within firstMem) second (within secondMem)
  left other node entry ended := by
    by_cases own : other = launch
    · subst other
      rw [tenure_write_self] at ended
      rcases of_next_ended ended with before | ⟨reserved, rfl, occupied⟩
      · exact sound.left launch node entry before
      · have change := changes node
        rw [sound.placed launch node reserved] at change
        generalize entryOf value node = after at change occupied
        cases change with
        | same => exact absurd rfl occupied
        | settle _ left => exact left
        | shrink nonempty _ => exact absurd rfl nonempty
    · rw [tenure_write_of_ne own] at ended
      exact sound.left other node entry ended

end

/-! ## The discipline -/

/-- The launch on a node failed, or started an instance with a name. -/
def NodeOutcome.told : NodeOutcome → Bool
  | .failed => true
  | .launched serials => !serials.reduceOption.isEmpty

/--
No removal of an instance finds a placeholder on its node; every node reports
its capacity once, and its launch fails or names an instance.
-/
def orderly (requests : Launch → Request Launch) (launch : Launch) :
    (call : Call Launch) → Group Launch → Bucket.Reply Answer call → Bool
  | .write key _ _, before, .ok _ =>
    ((before.records.value key).bind id).all (requests launch).permits
  | .ask .queryNodeCapacity, _, .ok nodes => decide nodes.Nodup
  | .ask (.launchOnNodes nodes), _, launches =>
    (nodeResults nodes launches).all fun result => result.2.told
  | _, _, _ => true

/-- A write that is answered with an error is not stored. -/
def Truthful :
    (call : Call Launch) → Group Launch → Bucket.Reply Answer call → Group Launch → Prop
  | .write _ _ _, before, .error _, after => after = before
  | _, _, _, _ => True

/-- The runs all of whose writes are truthful. -/
def truthfulRuns (Launch : Type) [DecidableEq Launch] :
    System Launch (Call Launch) (Bucket.Reply Answer) (Group Launch) Reply where
  perform launch call before reply after :=
    (system Launch).perform launch call before reply after ∧ Truthful call before reply after
  drift := (system Launch).drift
  finish := (system Launch).finish

/-- Those all of whose calls are orderly as well. -/
abbrev orderlyRuns (requests : Launch → Request Launch) :
    System Launch (Call Launch) (Bucket.Reply Answer) (Group Launch) Reply :=
  (truthfulRuns Launch).restrict fun launch call before reply =>
    orderly requests launch call before reply = true

variable {requests : Launch → Request Launch}

/-- The discipline of the requests on one group. -/
def strictness (requests : Launch → Request Launch) (key : String) :
    Discipline (orderlyRuns requests) where
  invariant := Sound key
  evolves before after := before.records.Evolves after.records
  spares launch before after := after.tenure launch = before.tenure launch
  evolves_refl _ := .refl _
  evolves_trans left right := left.trans right
  spares_refl _ _ := rfl
  spares_trans left right := right.trans left
  drift_evolves _ drifted := drifted.elim

variable {key : String} {launch : Launch}

/-- A program of a launch, by what the launch has reserved. -/
abbrev Spreads (requests : Launch → Request Launch) (key : String) (launch : Launch)
    (pre : (String → Tenure Launch) → Prop) (program : GroupSession Launch Output)
    (post : Output → (String → Tenure Launch) → Prop) : Prop :=
  (strictness requests key).Ensures launch (fun group => pre (group.tenure launch)) program
    fun output group => post output (group.tenure launch)

theorem stable_tenure (property : (String → Tenure Launch) → Prop) :
    (strictness requests key).Stable launch fun group => property (group.tenure launch) := by
  intro before after relied _ met
  have same : after.tenure launch = before.tenure launch := relied.spares
  rwa [same]

/-! ## Updates of the group -/

/-- What a call that may fail leaves of what a launch has reserved. -/
def Yields (pre : (String → Tenure Launch) → Prop)
    (done : Output → (String → Tenure Launch) → Prop) :
    Except Failure Output → (String → Tenure Launch) → Prop
  | .ok output => done output
  | .error _ => pre

variable {mutate : Mutation Launch Output} {pre : (String → Tenure Launch) → Prop}
    {done : Output → (String → Tenure Launch) → Prop}

/-- A version that was read: it agrees with what the launch has reserved. -/
structure Seen (launch : Launch) (key : String) (version : Version (Stored (Record Launch)))
    (group : Group Launch) : Prop where
  read : ∃ seen : Shelf String (Stored (Record Launch)),
    seen.cells key = some version ∧ seen.Evolves group.records
  placed : ∀ record, version.value = some record → Placed (group.tenure launch) record

theorem stable_seen (version : Version (Stored (Record Launch))) :
    (strictness requests key).Stable launch (Seen launch key version) := by
  rintro before after relied _ ⟨⟨seen, read, evolved⟩, placed⟩
  have same : after.tenure launch = before.tenure launch := relied.spares
  exact ⟨⟨seen, read, evolved.trans relied.evolves⟩, same ▸ placed⟩

omit [DecidableEq Launch] in
theorem Sound.placed_record (sound : Sound key group)
    (stored : group.records.cells key = some version)
    (decoded : version.value = some record) : Placed (group.tenure launch) record := by
  intro node reserved
  have placed := sound.placed launch node reserved
  rwa [Group.entry, Shelf.value_eq_some stored, decoded] at placed

theorem ensures_get :
    (strictness requests key).Ensures launch (fun group => pre (group.tenure launch))
      (KeyValue.get key : GroupSession Launch (Except Failure (Version (Stored (Record Launch)))))
      fun reply group => pre (group.tenure launch) ∧
        ∀ version, reply = .ok version → Seen launch key version group := by
  refine ensures_bind (ensures_request (stable_tenure pre) ?_)
    fun reply => ensures_pure fun _ met => met
  rintro group reply _ sound holds ⟨⟨⟨answered, rfl⟩, _⟩, _⟩
  refine ⟨.refl sound, holds, fun version read => ?_⟩
  cases reply with
  | error fault => cases read
  | ok found =>
    cases read
    exact ⟨⟨_, answered, .refl _⟩, fun _ => sound.placed_record answered⟩

theorem ensures_write {record after : Record Launch}
    (mutates : Mutates launch (requests launch).permits mutate pre done)
    (mutated : mutate record = .ok (output, some after)) :
    (strictness requests key).Ensures launch
      (fun group => pre (group.tenure launch) ∧ Seen launch key ⟨some record, revision⟩ group)
      (KeyValue.update key after revision : GroupSession Launch (Except Failure Nat))
      fun reply group => Yields pre done (reply.map fun _ => output) (group.tenure launch) := by
  refine ensures_bind (ensures_request ((stable_tenure pre).and (stable_seen _)) ?_)
    fun reply => ensures_pure fun _ met => met
  rintro group reply later sound ⟨holds, ⟨seen, read, evolved⟩, _⟩
    ⟨⟨⟨records, written, rfl⟩, truthful⟩, permitted⟩
  cases reply with
  | error fault =>
    rw [show _ = group from truthful]
    exact ⟨.refl sound, holds⟩
  | ok fresh =>
    rcases written with ⟨expected, _, rfl⟩
    rw [if_neg (show (group.records.put key _).last ≠ _ from Nat.succ_ne_self _)]
    have stored := evolved.unchanged read expected
    have value := Shelf.value_eq_some stored
    simp only [orderly, value, bind_some, id, all_some] at permitted
    have entry : group.entry key = record.nodeInstances := by
      funext node
      rw [Group.entry, value]
      rfl
    rcases mutates.changed (group.tenure launch) record output after holds
        (sound.placed_record stored rfl) permitted mutated with
      ⟨changes, reached⟩
    refine ⟨⟨Shelf.evolves_put _ _ _, fun _ => tenure_write_of_ne, ?_⟩, ?_⟩
    · refine sound.write fun node => ?_
      rw [entry]
      exact changes node
    · show done output _
      convert reached using 1
      funext node
      rw [tenure_write_self, entry]
      rfl

theorem spreads_updateAttempt (mutates : Mutates launch (requests launch).permits mutate pre done) :
    Spreads requests key launch pre (updateAttempt key mutate) (Yields pre done) := by
  refine ensures_bind ensures_get fun reply => ?_
  rcases reply with failure | ⟨_ | record, revision⟩
  · dsimp only
    split <;> exact ensures_pure fun _ met => met.1
  · exact ensures_pure fun _ met => met.1
  · dsimp only
    split
    · exact ensures_pure fun _ met => met.1
    next output mutated =>
      refine ensures_pure fun _ met => ?_
      exact mutates.unchanged _ _ _ met.1 ((met.2 _ rfl).placed record rfl) mutated
    next output after mutated =>
      refine ensures_then (ensures_write mutates mutated)
          (fun _ met => ⟨met.1, met.2 _ rfl⟩) fun written => ?_
      cases written <;> exact ensures_pure fun _ met => met

theorem spreads_update (mutates : Mutates launch (requests launch).permits mutate pre done) :
    Spreads requests key launch pre (update key mutate) (Yields pre done) := by
  refine ensures_retryLoop (fun _ _ => Iff.rfl) (spreads_updateAttempt mutates) ?_ _ _
  apply ensures_request (stable_tenure pre)
  rintro group _ _ sound holds ⟨⟨rfl, _⟩, _⟩
  exact ⟨.refl sound, holds⟩

variable {groupName accountID : String}

theorem spreads_mutateGroup (mutates : Mutates launch (requests launch).permits mutate pre done) :
    Spreads requests (accountKey accountID groupName) launch pre
      (mutateGroup groupName accountID mutate) (Yields pre done) := by
  unfold mutateGroup
  split
  · exact ensures_pure fun _ met => met
  · refine ensures_bind (spreads_update mutates) fun reply => ?_
    cases reply <;> exact ensures_pure fun _ met => met

/-! ## Launches -/

theorem map_fst_nodeResults (nodes : List String) (launches : Launches) :
    (nodeResults nodes launches).map Prod.fst = nodes := by
  apply ext_getElem (by simp [nodeResults])
  simp [nodeResults]

section

variable {results : List (String × NodeOutcome)} {node : String}

omit [DecidableEq Launch] in
theorem launchedInstances_eq_some (found : launchedInstances launch results node = some entry) :
    node ∈ results.map Prod.fst ∧ Left launch (some entry) := by
  simp only [launchedInstances, ite_none_left_eq_some, some.injEq] at found
  rcases found with ⟨named, rfl⟩
  rw [List.isEmpty_iff] at named
  constructor
  · rcases exists_mem_of_ne_nil _ named with ⟨_, member⟩
    rcases mem_flatMap.1 member with ⟨result, within, _⟩
    rcases mem_filter.1 within with ⟨inside, same⟩
    exact mem_map.2 ⟨result, inside, of_decide_eq_true same⟩
  · rintro _ ⟨⟩
    refine ⟨named, fun started member => ?_⟩
    rcases mem_flatMap.1 member with ⟨⟨_, _ | serials⟩, _, listed⟩
    · cases listed
    · rcases mem_map.1 listed with ⟨_, _, rfl⟩
      rfl

omit [DecidableEq Launch] in
/-- The reserved nodes that a finalized launch still has to release. -/
theorem unlaunched_iff (distinct : (results.map Prod.fst).Nodup)
    (told : ∀ result ∈ results, result.2.told = true) :
    (node ∈ results.map Prod.fst ∧ launchedInstances launch results node = none) ↔
      node ∈ failedNodes results := by
  have unnamed : launchedInstances launch results node = none ↔
      ∀ outcome, (node, outcome) ∈ results → outcome.named launch = [] := by
    simp [launchedInstances]
  have failed : node ∈ failedNodes results ↔ (node, .failed) ∈ results := by
    simp [failedNodes]
  rw [unnamed, failed]
  constructor
  · rintro ⟨reserved, none⟩
    rcases mem_map.1 reserved with ⟨⟨_, _ | serials⟩, member, rfl⟩
    · exact member
    · have named := told _ member
      simp [NodeOutcome.told, map_eq_nil_iff.1 (none _ member)] at named
  · intro failed
    refine ⟨mem_map.2 ⟨_, failed, rfl⟩, fun outcome member => ?_⟩
    cases inj_on_of_nodup_map distinct member failed rfl
    rfl

end

/-- A launch that logs no failed release has no reservation left. -/
def Settled (returned : Returned) (tenure : String → Tenure Launch) : Prop :=
  returned.logged = [] → ∀ node, tenure node ≠ .reserved

theorem spreads_ask (question : Question Launch) :
    Spreads requests key launch pre (ask question) fun reply tenure =>
      pre tenure ∧ ∃ before, orderly requests launch (.ask question) before reply := by
  apply ensures_request (stable_tenure pre)
  rintro group _ _ sound holds ⟨⟨rfl, _⟩, admitted⟩
  exact ⟨.refl sound, holds, _, admitted⟩

section

variable {nodes : List String} {held : String → Prop}

theorem spreads_rollbackInstances (results : List (String × NodeOutcome)) :
    Spreads requests key launch pre (rollbackInstances launch results) fun _ => pre := by
  unfold rollbackInstances
  dsimp only
  split
  · exact ensures_pure fun _ met => met
  · exact ensures_bind (spreads_ask _) fun _ => ensures_pure fun _ => And.left

theorem spreads_releaseAndReturn (all : ∀ node, held node ↔ node ∈ nodes) :
    Spreads requests (accountKey accountID groupName) launch (Reserves held)
      (releaseAndReturn groupName accountID nodes reply) Settled := by
  refine ensures_bind (spreads_mutateGroup (mutates_release fun node => (all node).2))
    (either (fun _ => ensures_pure fun _ _ => nofun) fun _ => ?_)
  refine ensures_pure fun group reserves _ node reserved => ?_
  have still := (reserves node).1 reserved
  exact still.2 ((all node).1 still.1)

theorem spreads_settleLaunch (distinct : nodes.Nodup)
    (told : ∀ result ∈ nodeResults nodes launches, result.2.told = true) :
    Spreads requests (accountKey accountID groupName) launch (Reserves (· ∈ nodes))
      (settleLaunch launch groupName accountID minCount nodes launches) Settled := by
  have reserved := map_fst_nodeResults nodes launches
  have remaining := fun node : String =>
    reserved ▸ @unlaunched_iff _ launch _ node (reserved.symm ▸ distinct) told
  unfold settleLaunch
  dsimp only
  split
  · refine ensures_bind (spreads_rollbackInstances _) fun _ => ?_
    exact spreads_releaseAndReturn fun _ => Iff.rfl
  · refine ensures_bind (spreads_mutateGroup (mutates_finalize fun _ _ found =>
        reserved ▸ launchedInstances_eq_some found))
      (either (fun failure => ?_) fun _ => ?_)
    · refine ensures_bind (spreads_rollbackInstances _) fun _ => ?_
      exact spreads_releaseAndReturn fun _ => Iff.rfl
    · dsimp only
      split
      next none =>
        refine ensures_pure fun group reserves _ node still => ?_
        have failed := (remaining node).1 ((reserves node).1 still)
        simp [none] at failed
      · exact spreads_releaseAndReturn remaining

omit [DecidableEq Launch] in
theorem Free.settled {tenure : String → Tenure Launch} (free : Free tenure)
    (returned : Returned) : Settled returned tenure := by
  intro _ node reserved
  simp [free node] at reserved

theorem spreads_distributeInstancesSpread (minCount maxCount : Nat) :
    Spreads requests (accountKey accountID groupName) launch Free
      (distributeInstancesSpread launch groupName accountID minCount maxCount) Settled := by
  refine ensures_bind (spreads_ask _) fun capacity => ?_
  rcases capacity with failure | _ | ⟨node, nodes⟩
  · exact ensures_pure fun _ met => met.1.settled _
  · exact ensures_pure fun _ met => met.1.settled _
  · rintro group sound ⟨free, _, distinct⟩
    refine ensures_bind (spreads_mutateGroup (mutates_reserve _))
        (either (fun _ => ?_) fun selected => ?_) sound free
    · exact ensures_pure fun _ free => Free.settled free _
    · refine ensures_bind (spreads_ask _) fun launches => ?_
      rintro group sound ⟨⟨reserves, kept⟩, _, told⟩
      exact spreads_settleLaunch (kept (of_decide_eq_true distinct))
          (all_eq_true.1 told) sound reserves

end

/-! ## All interleavings -/

theorem spreads_removeInstance (made : requests launch = .removeInstance node removed) :
    Spreads requests (accountKey accountID groupName) launch Free
      (removeInstance groupName accountID node removed) fun _ _ => True := by
  have mutates := @mutates_remove _ launch _ node removed
  rw [← made] at mutates
  unfold removeInstance
  split
  · exact ensures_trivial
  · refine ensures_then (spreads_update mutates) (fun _ _ => trivial)
      (either (fun _ => ?_) fun _ => ensures_trivial)
    dsimp only
    split <;> exact ensures_trivial

theorem spreads_program (made : requests launch = request) :
    Spreads requests (accountKey accountID groupName) launch Free
      (request.program groupName accountID launch) fun reply tenure =>
        ∀ returned, reply = .launched returned → Settled returned tenure := by
  cases request with
  | runInstances minCount maxCount =>
    refine ensures_bind (spreads_distributeInstancesSpread minCount maxCount)
        fun returned => ensures_pure ?_
    rintro group settled _ ⟨⟩
    exact settled
  | removeInstance node removed =>
    exact ensures_bind (spreads_removeInstance made) fun _ => ensures_pure fun _ _ => nofun

/-- A node is reserved by a launch or holds an instance of it. -/
def Group.Occupies (group : Group Launch) (key : String) (launch : Launch) (node : String) : Prop :=
  group.tenure launch node = .reserved ∨ ∃ instances, group.entry key node = some instances ∧
    ∃ member ∈ instances, member.launch = launch

omit [DecidableEq Launch] in
theorem Sound.occupies_eq {first second : Launch}
    (sound : Sound key group) (left : group.Occupies key first node)
    (right : group.Occupies key second node) : first = second := by
  have apart : ∀ launch instances, group.tenure launch node = .reserved →
      group.entry key node = some instances → instances = [] := by
    intro launch instances reserved stored
    rw [sound.placed launch node reserved] at stored
    exact (some.inj stored).symm
  rcases left with reserved | ⟨instances, stored, one, oneMem, rfl⟩
  · rcases right with other | ⟨instances, stored, one, oneMem, _⟩
    · exact sound.exclusive first second node reserved other
    · cases apart first instances reserved stored
      cases oneMem
  · rcases right with reserved | ⟨others, same, two, twoMem, rfl⟩
    · cases apart second instances reserved stored
      cases oneMem
    · cases stored.symm.trans same
      exact sound.single node instances stored one oneMem two twoMem

/--
In every orderly run no node is reserved by, or holding instances of, two
launches, and a launch that has returned and logged no failed release has left
every node it reserved with its own instances or without an entry.
-/
theorem spread_group_strict {group : Group Launch}
    {pool : Pool Launch (Call Launch) (Bucket.Reply Answer) (Group Launch) Reply}
    (free : ∀ launch, Free (group.tenure launch))
    (single : ∀ node instances, group.entry (accountKey accountID groupName) node = some instances →
      ∀ first ∈ instances, ∀ second ∈ instances, first.launch = second.launch)
    (reached : (orderlyRuns requests).Reachable (Pool.start group fun launch =>
          (requests launch).program groupName accountID launch)
        pool) :
    (∀ first second node, pool.shared.Occupies (accountKey accountID groupName) first node →
          pool.shared.Occupies (accountKey accountID groupName) second node → first = second) ∧
      ∀ launch returned, pool.thread launch = .returned (.launched returned) →
        returned.logged = [] → ∀ node, pool.shared.tenure launch node = .free ∨
          ∃ entry, pool.shared.tenure launch node = .ended entry ∧ Left launch entry := by
  have sound : Sound (accountKey accountID groupName) group :=
    { placed := fun launch node reserved => by
        cases (free launch node).symm.trans reserved
      exclusive := fun launch _ node reserved => by
        cases (free launch node).symm.trans reserved
      single := single
      left := fun launch node entry ended => by
        cases (free launch node).symm.trans ended }
  have upheld := fun launch : Launch =>
    @spreads_program _ _ requests launch groupName accountID _ rfl _ sound (free launch)
  have started : (strictness requests (accountKey accountID groupName)).PoolUpholds
      (Pool.start group fun launch => (requests launch).program groupName accountID launch) :=
    ⟨sound, fun launch => (upheld launch).mono
      (fun _ _ _ _ => settles_unchanged fun _ => rfl) sound⟩
  have inOrder := (started.later reached).2
  refine ⟨fun _ _ _ => inOrder.invariant.occupies_eq, ?_⟩
  intro launch returned ended quiet node
  rcases started.follow (fun reply => stable_tenure fun tenure =>
        ∀ returned, reply = .launched returned → Settled returned tenure)
      rfl (upheld launch) reached with ⟨rest, running, _⟩ | ⟨reply, shared, done, met, _, since⟩
  · cases ended.symm.trans running
  · cases ended.symm.trans done
    have kept : pool.shared.tenure launch = shared.tenure launch := since.spares
    have unreserved := met returned rfl quiet node
    rw [← kept] at unreserved
    cases tenure : pool.shared.tenure launch node with
    | free => exact .inl rfl
    | reserved => exact absurd tenure unreserved
    | ended entry =>
      exact .inr ⟨entry, rfl, inOrder.invariant.left launch node entry tenure⟩

/-! ## Schedules -/

/-- What the surroundings of a launch answer. -/
structure Choice where
  nodes : List String := []
  outcomes : List NodeOutcome := []

/-- The answers of a healthy bucket, and those chosen for the rest. -/
def serve (launch : Launch) :
    (call : Call Launch) → Group Launch → Choice → Option (Bucket.Reply Answer call × Group Launch)
  | .get key, before, _ =>
    match before.records.cells key with
    | some version => some (.ok version, before)
    | none => some (.error .notFound, before)
  | .write key value expected, before, _ =>
    if expected = before.records.revision key then
      some (.ok (before.records.last + 1), before.write launch key value)
    else
      some (.error .revisionMismatch, before)
  | .waits, before, _ => some (true, before)
  | .ask .queryNodeCapacity, before, choice => some (.ok choice.nodes, before)
  | .ask (.launchOnNodes _), before, choice =>
    some (⟨fun position => choice.outcomes.getD position .failed,
      awsError "InsufficientInstanceCapacity"⟩, before)
  | .ask (.terminateInstances _), before, _ => some ((), before)

/-- The resolver of runs on a healthy bucket. -/
def scheduler (Launch : Type) [DecidableEq Launch] : (truthfulRuns Launch).Resolver Choice where
  call := serve
  drift _ _ := none
  call_sound := by
    intro launch call before choice reply after served
    cases call with
    | get key =>
      simp only [serve] at served
      split at served
      next stored =>
        cases served
        exact ⟨⟨stored, rfl⟩, trivial⟩
      next absent =>
        cases served
        exact ⟨⟨absent, rfl⟩, trivial⟩
    | write key value expected =>
      simp only [serve] at served
      split at served
      next matching =>
        cases served
        exact ⟨⟨_, ⟨matching, rfl, rfl⟩, (if_neg (Nat.succ_ne_self _)).symm⟩, trivial⟩
      · cases served
        exact ⟨⟨_, rfl, (if_pos rfl).symm⟩, rfl⟩
    | waits =>
      cases served
      exact ⟨rfl, trivial⟩
    | ask question =>
      cases question <;>
        · cases served
          exact ⟨rfl, trivial⟩
  drift_sound _ _ _ drifted := by cases drifted

/-- The same runs, among all runs. -/
def schedulerOfAll (Launch : Type) [DecidableEq Launch] : (system Launch).Resolver Choice where
  call := serve
  drift _ _ := none
  call_sound launch call before choice reply after served :=
    ((scheduler Launch).call_sound launch call before choice reply after served).1
  drift_sound _ _ _ drifted := by cases drifted

namespace Sample

/-- Three launches and the late removal of an instance of one of them. -/
inductive Caller where
  | rolledBack
  | first
  | removal
  | second
deriving DecidableEq

def made : Caller → Request Caller
  | .rolledBack => .runInstances 2 2
  | .removal => .removeInstance "node-1" ⟨.rolledBack, 0⟩
  | .first | .second => .runInstances 1 1

/-- An available spread group without instances. -/
def group : Group Caller where
  records := Shelf.empty.put "1.web" (some (some
    { strategy := .spread, state := .available
      nodeInstances := fun _ => none }))
  tenure _ _ := .free

def start :
    Pool Caller (Call Caller) (Bucket.Reply Answer) (Group Caller) Reply :=
  Pool.start group fun caller => (made caller).program "web" "1" caller

/-- The next moves of a caller, one for each choice. -/
def moves (caller : Caller) (choices : List Choice) : List (System.Move Caller Choice) :=
  choices.map (.thread caller)

/--
A launch starts an instance on one of its two nodes, is rolled back and gives
both up, and another launch reserves that node.
-/
def reserving : List (System.Move Caller Choice) :=
  moves .rolledBack [⟨["node-1", "node-2"], []⟩, {}, {},
      ⟨[], [.launched [some 0]]⟩, {}, {}, {}, {}] ++
    moves .first [⟨["node-1"], []⟩, {}, {}]

/-- The removal of the instance comes late. -/
def removing : List (System.Move Caller Choice) :=
  reserving ++ moves .removal [{}, {}] ++ moves .second [⟨["node-1"], []⟩, {}, {}]

/-- The second launch is finalized. -/
def launching : List (System.Move Caller Choice) :=
  reserving ++ moves .first [⟨[], [.launched [some 0]]⟩, {}, {}]

theorem occupied :
    ∃ pool, (orderlyRuns made).Reachable start pool ∧
      pool.shared.entry "1.web" "node-1" = some [⟨.first, 0⟩] := by
  have played : (((scheduler Caller).restrict fun caller call before reply =>
            orderly made caller call before reply = true).play start
          launching).map (fun pool => pool.shared.entry "1.web" "node-1") =
        some (some [⟨.first, 0⟩]) := by
    rfl
  exact System.Resolver.exists_of_play _ played

end Sample

open Sample

/-- One node is reserved by two launches. -/
theorem late_removal_frees_reserved_node :
    ∃ pool, (system Caller).Reachable start pool ∧ pool.shared.tenure .first "node-1" = .reserved ∧
      pool.shared.tenure .second "node-1" = .reserved := by
  have played : ((schedulerOfAll Caller).play start removing).map
        (fun pool => (pool.shared.tenure .first "node-1", pool.shared.tenure .second "node-1")) =
      some (.reserved, .reserved) := by
    rfl
  rcases System.Resolver.exists_of_play _ played with ⟨pool, reached, seen⟩
  exact ⟨pool, reached, congrArg Prod.fst seen, congrArg Prod.snd seen⟩

theorem spread_group_strict_sample :
    ∃ pool, (orderlyRuns made).Reachable start pool ∧ pool.shared.Occupies "1.web" .first "node-1" ∧
      ∀ launch, pool.shared.Occupies "1.web" launch "node-1" → launch = .first := by
  rcases occupied with ⟨pool, reached, stored⟩
  have empty : group.entry "1.web" = fun _ => none := rfl
  have occupied : pool.shared.Occupies "1.web" .first "node-1" :=
    .inr ⟨_, stored, _, mem_singleton_self _, rfl⟩
  refine ⟨pool, reached, occupied, fun launch other => ?_⟩
  exact (spread_group_strict (fun _ _ => rfl) (fun _ _ stored => by
        cases (congrFun empty _).symm.trans stored) reached).1
      launch .first "node-1" other occupied

end Spinifex.Placement
