import Spinifex.Sqs.History

/-!
# The cores keep histories sound

The discipline of one message: its history stays sound, bodies only go, and
every write still pending would be justified if it landed.  Each store call has
one rule that says what a core may rely on afterwards and what it owes; each
core is then verified on its own, against any number of others.
-/

namespace Spinifex.Sqs

open Concurrency Go Register Shared Option

variable {Index : Type}

namespace Deployment

variable (deployment : Deployment Index) (key : Key)

/-! ## The discipline of one message -/

/-- How the store may evolve, as far as one message is concerned. -/
structure Evolves (before after : Shared Index) : Prop where
  record : (before.records key).Extends (after.records key)
  body : before.bodies key = none → after.bodies key = none
  clock : deployment.CommonClock → before.clock ≤ after.clock

/-- The record's new content is justified by the version it expects. -/
structure PutWarranted
    (write : ConditionalWrite Index Json.Document) (value : Json.Document) (shared : Shared Index)
    (after : Lifecycle) : Prop where
  value : value = some after.written
  clock : deployment.CommonClock → after.r ≤ shared.clock
  decided : (write.expected = 0 ∧ deployment.Justified key write.writer none after) ∨
    ∃ version before, (shared.records key).Seen version ∧ version.revision = write.expected ∧
    version.value = some before.written ∧ ((shared.records key).current = some version →
    deployment.Justified key write.writer (some before) after)

/-- A conditional write that may land at any later time. -/
def Warranted (write : ConditionalWrite Index Json.Document) (shared : Shared Index) : Prop :=
  match write.value with
  | none => shared.bodies key = none
  | some value => ∃ after, deployment.PutWarranted key write value shared after

/-- The message's part of the store is in order. -/
structure Orderly (shared : Shared Index) : Prop where
  base : (shared.records key).base = none
  body : shared.bodies key = none ∨ shared.bodies key = deployment.bodies key
  sound : deployment.Sound key (shared.records key).log
  stored : shared.bodies key ≠ none → ∀ event ∈ (shared.records key).log, bodyStoredAt event = true
  pending : ∀ write ∈ (shared.records key).pending, deployment.Warranted key write shared
  clocked : deployment.CommonClock → ∀ (version : State) (record : Lifecycle),
    (shared.records key).Seen version →
    version.value = some record.written → record.r ≤ shared.clock

variable {deployment key}
variable {before after shared : Shared Index}

theorem Evolves.refl (shared : Shared Index) : deployment.Evolves key shared shared :=
  ⟨Register.Extends.refl _, id, fun _ => Int.le_refl _⟩

theorem Evolves.trans (left : deployment.Evolves key before middle)
    (right : deployment.Evolves key middle after) : deployment.Evolves key before after :=
  ⟨left.record.trans right.record, fun gone => right.body (left.body gone),
    fun common => Int.le_trans (left.clock common) (right.clock common)⟩

/-- A step that leaves the message alone. -/
theorem Evolves.of_same (sameRecord : after.records key = before.records key)
    (sameBody : after.bodies key = before.bodies key)
    (sameClock : after.clock = before.clock) : deployment.Evolves key before after := by
  refine ⟨?_, ?_, ?_⟩
  · rw [sameRecord]
    exact Register.Extends.refl _
  · rw [sameBody]
    exact id
  · intro
    exact Int.le_of_eq sameClock.symm

variable {write : ConditionalWrite Index Json.Document}

theorem Warranted.evolves (evolved : deployment.Evolves key before after)
    (warranted : deployment.Warranted key write before) : deployment.Warranted key write after := by
  unfold Warranted at warranted ⊢
  cases written : write.value with
  | none =>
    rw [written] at warranted
    exact evolved.body warranted
  | some value =>
    rw [written] at warranted
    rcases warranted with ⟨lifecycle, put⟩
    refine ⟨lifecycle, put.value, ?_, ?_⟩
    · intro common
      exact Int.le_trans (put.clock common) (evolved.clock common)
    · rcases put.decided with created | replaced
      · exact .inl created
      · rcases replaced with ⟨version, record, seen, expected, holds, justified⟩
        exact .inr ⟨version, record, evolved.record.seen seen, expected, holds,
            fun inPlace => justified (evolved.record.current seen inPlace)⟩

section

variable (orderly : deployment.Orderly key shared)

include orderly

/-- The history is consistent from an empty record on. -/
theorem Orderly.consistent : Log.Consistent none (shared.records key).log := by
  have consistent := (shared.records key).consistent
  rwa [orderly.base] at consistent

theorem Orderly.current_eq :
    (shared.records key).current = Log.current none (shared.records key).log := by
  unfold current
  rw [orderly.base]

/-- What a read of the record returns is a plain record. -/
theorem Orderly.holds : ∃ record, Holds (shared.records key).current record := by
  rw [orderly.current_eq]
  exact orderly.sound.holds_current

end

theorem Orderly.of_same
    (orderly : deployment.Orderly key before) (sameRecord : after.records key = before.records key)
    (sameBody : after.bodies key = before.bodies key)
    (sameClock : after.clock = before.clock) : deployment.Orderly key after := by
  refine
    { base := by rw [sameRecord]; exact orderly.base
      body := by rw [sameBody]; exact orderly.body
      sound := by rw [sameRecord]; exact orderly.sound
      stored := by
        rw [sameRecord, sameBody]
        exact orderly.stored
      pending := ?_
      clocked := by
        rw [sameRecord, sameClock]
        exact orderly.clocked }
  rw [sameRecord]
  intro write member
  exact (orderly.pending write member).evolves (.of_same sameRecord sameBody sameClock)

/-! ## What the store's steps keep -/

/-- The event a warranted write adds fits the history. -/
theorem Warranted.eventSound (warranted : deployment.Warranted key write shared)
    (matched : write.expected = (shared.records key).revision) (fresh : Revision) :
    deployment.EventSound key (shared.records key).log
      (.committed write.writer (shared.records key).current
        (write.value.map fun value => ⟨value, fresh⟩)
        (shared.stamp key)) := by
  unfold Warranted at warranted
  cases written : write.value with
  | none =>
    rw [written] at warranted
    simp only [map_none, EventSound, stamp, warranted, isSome_none]
  | some value =>
    rw [written] at warranted
    rcases warranted with ⟨lifecycle, put⟩
    rcases put.decided with created | replaced
    · have empty : (shared.records key).current = none := by
        rw [← revision_eq_zero_iff, ← matched]
        exact created.1
      refine ⟨none, lifecycle, ?_, put.value, created.2, put.clock⟩
      rw [empty]
      exact .absent
    · rcases replaced with ⟨version, record, seen, expected, holds, justified⟩
      have inPlace := current_of_seen seen (expected.trans matched)
      refine ⟨some record, lifecycle, ?_, put.value, justified inPlace, put.clock⟩
      rw [inPlace]
      cases version
      cases holds
      exact .present _ _

/-- A warranted write that commits keeps the message in order. -/
theorem Orderly.commit {pending : List (ConditionalWrite Index Json.Document)}
    (orderly : deployment.Orderly key before)
    (warranted : deployment.Warranted key write before)
    (kept : ∀ other ∈ pending, other ∈ (before.records key).pending)
    (commits : Commits key write pending fresh before after) :
    deployment.Evolves key before after ∧ deployment.Orderly key after ∧
      (after.records key).log = .committed write.writer (before.records key).current
        (write.value.map fun value => ⟨value, fresh⟩)
        (before.stamp key) :: (before.records key).log := by
  rcases commits with ⟨matched, isFresh, rfl⟩
  have evolved : deployment.Evolves key before (before.setRecord key
      (((before.records key).settle pending).commit write
        fresh (before.stamp key) isFresh)) := by
    refine ⟨?_, id, fun _ => Int.le_refl _⟩
    rw [setRecord_records_self]
    exact ⟨rfl, [_], rfl⟩
  refine ⟨evolved, ?_, by simp⟩
  refine
    { base := ?_
      body := orderly.body
      sound := ?_
      stored := ?_
      pending := ?_
      clocked := ?_ }
  · rw [setRecord_records_self]
    exact orderly.base
  · rw [setRecord_records_self, commit_log, settle_current, settle_log]
    refine ⟨warranted.eventSound matched fresh, ?_, orderly.sound⟩
    intro stored
    have present : before.bodies key ≠ none := by
      intro gone
      simp [bodyStoredAt, stamp, gone] at stored
    exact orderly.stored present
  · rw [setRecord_records_self, commit_log]
    intro present event member
    rcases List.mem_cons.1 member with rfl | earlier
    · exact isSome_iff_ne_none.2 present
    · exact orderly.stored present event earlier
  · rw [setRecord_records_self, commit_pending]
    intro other member
    exact (orderly.pending other (kept other member)).evolves evolved
  · intro common version record seen value
    unfold Register.Seen at seen
    rw [setRecord_records_self, commit_log] at seen
    rcases List.mem_append.1 seen with written | earlier
    · unfold Warranted at warranted
      rcases map_eq_some_iff.1 (mem_toList.1 written) with ⟨document, isPut, rfl⟩
      rw [isPut] at warranted
      rcases warranted with ⟨lifecycle, put⟩
      rw [put.value] at value
      cases Lifecycle.written_injective (some.inj value)
      exact put.clock common
    · exact orderly.clocked common version record earlier value

section

variable (orderly : deployment.Orderly key shared)

include orderly

/-- A lost write that was warranted keeps the message in order. -/
theorem Orderly.lose (warranted : deployment.Warranted key write shared) :
    deployment.Evolves key shared (shared.setRecord key ((shared.records key).lose write)) ∧
      deployment.Orderly key (shared.setRecord key ((shared.records key).lose write)) := by
  have evolved : deployment.Evolves key shared
      (shared.setRecord key ((shared.records key).lose write)) := by
    refine ⟨?_, id, fun _ => Int.le_refl _⟩
    rw [setRecord_records_self]
    exact extends_lose _ _
  refine ⟨evolved, ?_⟩
  refine
    { base := by
        rw [setRecord_records_self]
        exact orderly.base
      body := orderly.body
      sound := by
        rw [setRecord_records_self]
        exact orderly.sound
      stored := by
        rw [setRecord_records_self]
        exact orderly.stored
      pending := ?_
      clocked := by
        rw [setRecord_records_self]
        exact orderly.clocked }
  rw [setRecord_records_self, lose_pending]
  intro other member
  rcases List.mem_cons.1 member with rfl | earlier
  · exact warranted.evolves evolved
  · exact (orderly.pending other earlier).evolves evolved

/-- Removing any body keeps the message in order. -/
theorem Orderly.removeBody (other : Key) :
    deployment.Evolves key shared (shared.removeBody other) ∧
      deployment.Orderly key (shared.removeBody other) := by
  by_cases same : key = other
  · subst other
    have gone : (shared.removeBody key).bodies key = none := shared.removeBody_bodies_self key
    have evolved : deployment.Evolves key shared (shared.removeBody key) :=
      ⟨Register.Extends.refl _, fun _ => gone, fun _ => Int.le_refl _⟩
    refine ⟨evolved, ?_⟩
    exact
      { orderly with
        body := .inl gone
        stored := fun present => absurd gone present
        pending := fun write member => (orderly.pending write member).evolves evolved }
  · have sameBody : (shared.removeBody other).bodies key = shared.bodies key := by
      simp [Shared.removeBody, same]
    exact ⟨.of_same rfl sameBody rfl, orderly.of_same rfl sameBody rfl⟩

/-- A clock reading the deployment admits keeps the message in order. -/
theorem Orderly.tick (admitted : deployment.readings index shared reading) :
    deployment.Evolves key shared { shared with clock := reading } ∧
      deployment.Orderly key { shared with clock := reading } := by
  have evolved : deployment.Evolves key shared { shared with clock := reading } :=
    ⟨Register.Extends.refl _, id, fun common => common _ _ _ admitted⟩
  refine ⟨evolved, ?_⟩
  exact
    { orderly with
      pending := fun write member => (orderly.pending write member).evolves evolved
      clocked := fun common version record seen value =>
        Int.le_trans (orderly.clocked common version record seen value) (common _ _ _ admitted) }

/-- A write to another message's record. -/
theorem Orderly.setRecord_of_ne (different : key ≠ other) (register : RecordRegister Index) :
    deployment.Evolves key shared (shared.setRecord other register) ∧
      deployment.Orderly key (shared.setRecord other register) := by
  have same : (shared.setRecord other register).records key = shared.records key := by
    simp [Shared.setRecord, different]
  exact ⟨.of_same same rfl rfl, orderly.of_same same rfl rfl⟩

end

/-- What the record's history gains when a write is acknowledged. -/
def Acknowledges
    (key : Key) (write : ConditionalWrite Index Json.Document) (reply : Except Failure Revision)
    (before after : Shared Index) : Prop :=
  ∀ fresh, reply = .ok fresh → (after.records key).log =
    .committed write.writer (before.records key).current
      (write.value.map fun value => ⟨value, fresh⟩)
      (before.stamp key) :: (before.records key).log

/-- A write to any record, warranted if it is this message's. -/
theorem Orderly.writes {other : Key} (orderly : deployment.Orderly key before)
    (warranted : key = other → deployment.Warranted key write before)
    (writes : Writes other write reply before after) :
    (deployment.Evolves key before after ∧ deployment.Orderly key after) ∧
      (key = other → Acknowledges key write reply before after) := by
  cases reply with
  | ok fresh =>
    by_cases same : key = other
    · subst other
      rcases orderly.commit (warranted rfl) (fun _ member => member) writes with
        ⟨evolved, ordered, log⟩
      refine ⟨⟨evolved, ordered⟩, ?_⟩
      intro _ revision acknowledged
      cases acknowledged
      exact log
    · rcases writes with ⟨_, _, rfl⟩
      exact ⟨orderly.setRecord_of_ne same _, fun equal => absurd equal same⟩
  | error failure =>
    refine ⟨?_, nofun⟩
    simp only [Writes] at writes
    split at writes
    · rw [writes.2]
      exact ⟨.refl _, orderly⟩
    · rw [writes]
      by_cases same : key = other
      · subst other
        exact orderly.lose (warranted rfl)
      · exact orderly.setRecord_of_ne same _

theorem Orderly.drift (orderly : deployment.Orderly key before) (drifted : Drift before after) :
    deployment.Evolves key before after ∧ deployment.Orderly key after := by
  cases drifted with
  | remove other => exact orderly.removeBody other
  | @land _ other left right write fresh lost removes commits =>
    by_cases same : key = other
    · subst other
      have warranted : deployment.Warranted key write before :=
        orderly.pending write (by simp [lost])
      have kept : ∀ write ∈ left ++ right, write ∈ (before.records key).pending := by
        intro write member
        rw [lost]
        rcases List.mem_append.1 member with early | late
        · exact List.mem_append_left _ early
        · exact List.mem_append_right _ (List.mem_cons_of_mem _ late)
      rcases orderly.commit warranted kept commits with ⟨evolved, ordered, -⟩
      exact ⟨evolved, ordered⟩
    · rcases commits with ⟨_, _, rfl⟩
      exact orderly.setRecord_of_ne same _

variable (deployment key)

/-- The discipline of one message. -/
def conduct : Discipline deployment.system where
  invariant := deployment.Orderly key
  evolves := deployment.Evolves key
  evolves_refl := Evolves.refl
  evolves_trans := Evolves.trans
  drift_evolves := fun orderly drifted =>
    ⟨(orderly.drift drifted).1, fun _ => trivial, (orderly.drift drifted).2⟩

variable {deployment key}

theorem orderly_initial : deployment.Orderly key deployment.initial where
  base := rfl
  body := .inr rfl
  sound := trivial
  stored := nofun
  pending := nofun
  clocked := nofun

/-! ## Rules for the calls -/

section

variable {index : Index} {Result : Type} {post : Result → Shared Index → Prop} {seen : Shared Index}

/-- A core keeps the discipline of one message from a state on. -/
abbrev Upholds (deployment : Deployment Index) (key : Key) (index : Index)
    (post : Result → Shared Index → Prop) (program : Core Result) (seen : Shared Index) : Prop :=
  (deployment.conduct key).Upholds index post program seen

variable {other : Key}

/-- A call that only reads tells about the store it was made on. -/
theorem upholds_read
    (reads : ∀ before reply after, deployment.perform index op before reply after → after = before)
    (continues : ∀ shared reply, deployment.Evolves key seen shared →
      deployment.Orderly key shared → deployment.perform index op shared reply shared →
      deployment.Upholds key index post (next reply) shared) :
    deployment.Upholds key index post (Program.request op >>= next) seen := by
  intro shared ⟨evolved, _⟩ orderly reply after performed
  cases reads _ _ _ performed
  exact ⟨⟨.refl _, fun _ _ => trivial, orderly⟩, continues _ reply evolved orderly performed⟩

theorem upholds_now (continues : ∀ shared reading, deployment.Evolves key seen shared →
      deployment.Orderly key shared →
      ClockReading reading →
      deployment.readings index shared reading →
      deployment.Evolves key shared { shared with clock := reading } →
      deployment.Orderly key { shared with clock := reading } →
        deployment.Upholds key index post (next reading) { shared with clock := reading }) :
    deployment.Upholds key index post (Core.now >>= next) seen := by
  intro shared ⟨evolved, _⟩ orderly reading after performed
  rcases performed with ⟨⟨valid, admitted⟩, rfl⟩
  have ticked := orderly.tick admitted
  exact ⟨⟨ticked.1, fun _ _ => trivial, ticked.2⟩,
      continues shared reading evolved orderly valid admitted ticked.1 ticked.2⟩

theorem upholds_putState
    (warranted : key = other → deployment.Warranted key ⟨index, expected, some value⟩ seen)
    (continues : ∀ before after reply, deployment.Evolves key seen before →
      deployment.Evolves key before after → deployment.Orderly key after →
      (key = other → Acknowledges key ⟨index, expected, some value⟩ reply before after) →
      deployment.Upholds key index post (next reply) after) :
    deployment.Upholds key index post (Core.putState other value expected >>= next) seen := by
  intro before ⟨evolved, _⟩ orderly reply after performed
  have outcome := orderly.writes (fun same => (warranted same).evolves evolved) performed
  exact ⟨⟨outcome.1.1, fun _ _ => trivial, outcome.1.2⟩,
      continues before after reply evolved outcome.1.1 outcome.1.2 outcome.2⟩

variable {next : Except Failure Unit → Core Result}

theorem upholds_deleteState (bodyGone : key = other → seen.bodies key = none)
    (continues : ∀ shared reply, deployment.Evolves key seen shared →
      deployment.Orderly key shared → deployment.Upholds key index post (next reply) shared) :
    deployment.Upholds key index post (Core.deleteState other expected >>= next) seen := by
  intro before ⟨evolved, _⟩ orderly reply after performed
  have kept : deployment.Evolves key before after ∧ deployment.Orderly key after := by
    have warranted : key = other → deployment.Warranted key ⟨index, expected, none⟩ before :=
      fun same => evolved.body (bodyGone same)
    cases reply with
    | ok _ =>
      rcases performed with ⟨_, fresh, writes⟩
      exact (orderly.writes warranted writes).1
    | error failure =>
      simp only [system, perform] at performed
      split at performed
      · rw [performed.2]
        exact ⟨.refl _, orderly⟩
      · exact (orderly.writes warranted performed).1
  exact ⟨⟨kept.1, fun _ _ => trivial, kept.2⟩, continues after reply (evolved.trans kept.1) kept.2⟩

theorem upholds_delete (continues : ∀ shared reply, deployment.Evolves key seen shared →
      deployment.Orderly key shared → (reply = .ok () → shared.bodies other = none) →
      deployment.Upholds key index post (next reply) shared) :
    deployment.Upholds key index post (Core.delete other >>= next) seen := by
  intro before ⟨evolved, _⟩ orderly reply after performed
  rcases performed with rfl | ⟨rfl, failed⟩
  · have removed := orderly.removeBody other
    exact ⟨⟨removed.1, fun _ _ => trivial, removed.2⟩,
        continues _ reply (evolved.trans removed.1) removed.2
          (fun _ => before.removeBody_bodies_self other)⟩
  · exact ⟨⟨.refl _, fun _ _ => trivial, orderly⟩,
        continues _ reply evolved orderly (fun succeeded => absurd succeeded failed)⟩

end

end Deployment

end Spinifex.Sqs
