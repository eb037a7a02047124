import Spinifex.Concurrency.Discipline
import Spinifex.Concurrency.Register

/-!
# Buckets of revision registers

A bucket keeps one register per key.  A program reads a key, writes or removes
one at an expected revision, asks questions that have nothing to do with the
bucket, and may find that its caller no longer waits.  Reads are served by the
leader, or by a replica that may lag by any amount.  A write whose reply was
lost may still take effect later.

Every read, answer and return is noted in the logs, next to the committed
writes.  A law says which writes a program may commit on what the log holds by
then, and what its result stands for; `Law.reachable` turns a proof that each
program obeys the law into a fact about the log of every key in every run.
-/

namespace Spinifex.Concurrency.Bucket

open Register Discipline Register.Extends

/-- Why a call on a bucket failed. -/
inductive Fault where
  | notFound
  | alreadyExists
  | revisionMismatch
  | wrongLastSequence
  | other (text : String)
deriving DecidableEq, Repr

/-- One call of a program that works on a bucket. -/
inductive Call (Key Value Question : Type) where
  | get (key : Key)
  | write (key : Key) (value : Option Value) (expected : Nat)
  | waits
  | ask (question : Question)

variable {Index Key Value Question Outcome : Type} {Answer : Question → Type}

/-- What each call is answered with. -/
@[reducible]
def Reply (Answer : Question → Type) :
    Call Key Value Question → Type
  | .get _ => Except Fault (Version Value)
  | .write _ _ _ => Except Fault Nat
  | .waits => Bool
  | .ask question => Answer question

/-- What the logs note besides committed writes. -/
inductive Note (Index Value : Type) (Answer : Question → Type) (Outcome : Type) where
  | read (reader : Index) (reply : Except Fault (Version Value))
  | answered
    (asker : Index) (question : Question)
    (answer : Answer question)
  | returned (index : Index) (outcome : Outcome)

/-- An event in the log of one key. -/
abbrev Entry (Index Value : Type) (Answer : Question → Type) (Outcome : Type) :=
  Event Index Value Unit (Note Index Value Answer Outcome)

/-- The register of one key. -/
abbrev Cell (Index Value : Type) (Answer : Question → Type) (Outcome : Type) :=
  Register Index Value Unit (Note Index Value Answer Outcome)

/-- The registers of a bucket. -/
abbrev Store (Index Key Value : Type) (Answer : Question → Type) (Outcome : Type) :=
  Key → Cell Index Value Answer Outcome

namespace Store

variable (store : Store Index Key Value Answer Outcome) (note : Note Index Value Answer Outcome)

/-- Note something in the log of every key. -/
def noteAll : Store Index Key Value Answer Outcome :=
  fun key => (store key).addNote note

/-- Every log continues as it was. -/
def Evolves (before after : Store Index Key Value Answer Outcome) : Prop :=
  ∀ key, (before key).Extends (after key)

theorem Evolves.refl : store.Evolves store :=
  fun key => Register.Extends.refl (store key)

theorem Evolves.trans
    {first second third : Store Index Key Value Answer Outcome} (left : first.Evolves second)
    (right : second.Evolves third) : first.Evolves third :=
  fun key => (left key).trans (right key)

theorem evolves_noteAll : store.Evolves (store.noteAll note) :=
  fun key => extends_addNote (store key) note

variable [DecidableEq Key]

/-- Replace the register of one key. -/
def set (store : Store Index Key Value Answer Outcome) (key : Key)
    (cell : Cell Index Value Answer Outcome) : Store Index Key Value Answer Outcome :=
  Function.update store key cell

@[simp]
theorem set_self
    (key : Key) (cell : Cell Index Value Answer Outcome) : store.set key cell key = cell := by
  simp [set]

theorem set_of_ne (different : other ≠ key)
    (cell : Cell Index Value Answer Outcome) : store.set key cell other = store other := by
  simp [set, different]

theorem evolves_set {store : Store Index Key Value Answer Outcome}
    (extended : (store key).Extends cell) : store.Evolves (store.set key cell) := by
  intro other
  by_cases same : other = key
  · subst other
    rwa [set_self]
  · rw [set_of_ne store same]
    exact refl _

end Store

/-! ## What calls do -/

/-- Who answers reads. -/
inductive Reads where
  | leader
  | replica
deriving DecidableEq, Repr

/-- The replies a read may get on a log. -/
def Reads.Admits (base : Option (Version Value)) (log : List (Entry Index Value Answer Outcome)) :
    Reads → Except Fault (Version Value) → Prop
  | .leader, .ok version => Log.current base log = some version
  | .leader, .error .notFound => Log.current base log = none
  | .replica, .ok version => version ∈ Log.versions base log
  | _, _ => True

/-- Whoever answers a read, the version it returns was once in place. -/
theorem Reads.Admits.mem_versions {base : Option (Version Value)}
    {log : List (Entry Index Value Answer Outcome)} {reads : Reads}
    (admitted : reads.Admits base log (.ok version)) : version ∈ Log.versions base log := by
  cases reads with
  | leader => exact Log.mem_versions_of_current admitted
  | replica => exact admitted

section

variable [DecidableEq Key]

/-- A conditional write takes effect. -/
def Commits (key : Key) (write : ConditionalWrite Index Value)
    (pending : List (ConditionalWrite Index Value)) (fresh : Nat)
    (before after : Store Index Key Value Answer Outcome) : Prop :=
  write.expected = (before key).revision ∧ ∃ isFresh : ((before key).settle pending).Fresh fresh,
    after = before.set key (((before key).settle pending).commit write fresh () isFresh)

/-- A conditional write is answered. -/
def Writes (key : Key) (write : ConditionalWrite Index Value)
    (before after : Store Index Key Value Answer Outcome) :
    Except Fault Nat → Prop
  | .ok fresh => Commits key write (before key).pending fresh before after
  | .error (.other _) => after = before.set key ((before key).lose write)
  | .error _ => after = before

/-- What a call may answer and what it changes. -/
def perform (reads : Reads) (index : Index) :
    (call : Call Key Value Question) → Store Index Key Value Answer Outcome →
      Reply Answer call → Store Index Key Value Answer Outcome → Prop
  | .get key, before, reply, after =>
    reads.Admits (before key).base (before key).log reply ∧
      after = before.set key ((before key).addNote (.read index reply))
  | .write key value expected, before, reply, after =>
    Writes key ⟨index, expected, value⟩ before after reply
  | .waits, before, _, after => after = before
  | .ask question, before, answer, after =>
    after = before.noteAll (.answered index question answer)

/-- A lost write takes effect. -/
inductive Lands :
    Store Index Key Value Answer Outcome → Store Index Key Value Answer Outcome → Prop where
  | land
    {before after : Store Index Key Value Answer Outcome}
    {key : Key}
    {left right : List (ConditionalWrite Index Value)}
    {write : ConditionalWrite Index Value} {fresh : Nat}
    (lost : (before key).pending = left ++ write :: right)
    (commits : Commits key write (left ++ right) fresh before after) :
    Lands before after

/-- The system of programs that share a bucket. -/
def system (reads : Reads) :
    System Index (Call Key Value Question) (Reply Answer)
      (Store Index Key Value Answer Outcome) Outcome where
  perform := perform reads
  drift := Lands
  finish index outcome store := store.noteAll (.returned index outcome)

end

/-- The bucket before any call. -/
def initial (content : Key → Option (Version Value))
    (positive : ∀ key, ∀ version ∈ content key, 0 < version.revision) :
    Store Index Key Value Answer Outcome :=
  fun key => Register.initial (content key) (positive key)

/-! ## Laws -/

/--
Which writes may be committed, given the log before them, and what a result
stands for, given the log before its return.
-/
structure Law (Index Key Value : Type) (Answer : Question → Type) (Outcome : Type) where
  commits : Key → Index → Option (Version Value) → Option (Version Value) →
    List (Entry Index Value Answer Outcome) → Prop
  returns : Key → Index → Outcome → List (Entry Index Value Answer Outcome) → Prop

namespace Law

variable (law : Law Index Key Value Answer Outcome) (reads : Reads)

/-- One event obeys the law on the log before it. -/
def Lawful (key : Key) (base : Option (Version Value)) :
    Entry Index Value Answer Outcome → List (Entry Index Value Answer Outcome) → Prop
  | .committed writer replaced version _, older =>
    law.commits key writer replaced version older
  | .noted (.read _ reply), older => reads.Admits base older reply
  | .noted (.answered _ _ _), _ => True
  | .noted (.returned index outcome), older =>
    law.returns key index outcome older

/-- Every event of a log obeyed the law when it happened. -/
def Sound (key : Key) (base : Option (Version Value)) :
    List (Entry Index Value Answer Outcome) → Prop
  | [] => True
  | event :: older =>
    law.Lawful reads key base event older ∧ Sound key base older

variable {law reads} {key : Key} {newer older : List (Entry Index Value Answer Outcome)}
    {base : Option (Version Value)}

theorem Sound.of_append
    (sound : law.Sound reads key base (newer ++ older)) : law.Sound reads key base older := by
  induction newer with
  | nil => exact sound
  | cons event newer induction => exact induction sound.2

/-- What an event of a sound log stands for. -/
theorem Sound.lawful (sound : law.Sound reads key base (newer ++ event :: older)) :
    law.Lawful reads key base event older :=
  sound.of_append.1

variable (law reads)

/-- A write that obeys the law whenever it should take effect. -/
def Warranted (key : Key) (cell : Cell Index Value Answer Outcome)
    (write : ConditionalWrite Index Value) : Prop :=
  ∀ later, cell.Extends later → law.Sound reads key later.base later.log →
    write.expected = later.revision → ∀ fresh, law.commits key write.writer later.current
      (write.value.map fun value => ⟨value, fresh⟩) later.log

variable {law reads} {write : ConditionalWrite Index Value}

theorem Warranted.extend (warranted : law.Warranted reads key before write)
    (extended : before.Extends after) : law.Warranted reads key after write :=
  fun later extendedLater => warranted later (extended.trans extendedLater)

variable {cell : Cell Index Value Answer Outcome} {index : Index} {value : Option Value}

/-- A write at the revision of a version seen replaces that version. -/
theorem warranted_of_seen (seen : cell.Seen version)
    (lawful : ∀ later, cell.Extends later → law.Sound reads key later.base later.log →
      later.current = some version →
      ∀ fresh, law.commits key index (some version)
        (value.map fun value => ⟨value, fresh⟩) later.log) :
    law.Warranted reads key cell ⟨index, version.revision, value⟩ := by
  intro later extended sound matched fresh
  have inPlace := current_of_seen (extended.seen seen) matched
  rw [inPlace]
  exact lawful later extended sound inPlace fresh

/-- A write at revision zero replaces nothing. -/
theorem warranted_of_absent
    (lawful : ∀ later, cell.Extends later → law.Sound reads key later.base later.log →
      later.current = none →
      ∀ fresh, law.commits key index none (value.map fun value => ⟨value, fresh⟩) later.log) :
    law.Warranted reads key cell ⟨index, 0, value⟩ := by
  intro later extended sound matched fresh
  have absent := revision_eq_zero_iff.1 matched.symm
  rw [absent]
  exact lawful later extended sound absent fresh

variable (law reads)

/-- One register and its lost writes are in order. -/
structure CellOrderly (key : Key) (cell : Cell Index Value Answer Outcome) : Prop where
  sound : law.Sound reads key cell.base cell.log
  pending : ∀ write ∈ cell.pending, law.Warranted reads key cell write

/-- The whole bucket is in order. -/
def Orderly (store : Store Index Key Value Answer Outcome) : Prop :=
  ∀ key, law.CellOrderly reads key (store key)

variable {law reads}

section

variable (orderly : law.CellOrderly reads key cell)

include orderly

theorem CellOrderly.addNote {note : Note Index Value Answer Outcome}
    (lawful : law.Lawful reads key cell.base (.noted note) cell.log) :
    law.CellOrderly reads key (cell.addNote note) where
  sound := ⟨lawful, orderly.sound⟩
  pending write lost := (orderly.pending write lost).extend (Register.extends_addNote cell note)

theorem CellOrderly.lose (warranted : law.Warranted reads key cell write) :
    law.CellOrderly reads key (cell.lose write) where
  sound := orderly.sound
  pending other lost := by
    have extended := extends_lose cell write
    rcases List.mem_cons.1 lost with rfl | earlier
    · exact warranted.extend extended
    · exact (orderly.pending other earlier).extend extended

theorem CellOrderly.commit {pending : List (ConditionalWrite Index Value)}
    (kept : ∀ other ∈ pending, other ∈ cell.pending)
    (warranted : law.Warranted reads key cell write) (matched : write.expected = cell.revision)
    (isFresh : (cell.settle pending).Fresh fresh) :
    law.CellOrderly reads key ((cell.settle pending).commit write fresh () isFresh) where
  sound := ⟨warranted cell (refl cell) orderly.sound matched fresh, orderly.sound⟩
  pending other lost := (orderly.pending other (kept other lost)).extend ⟨rfl, [_], rfl⟩

end

/-- A bucket nobody has used yet is in order. -/
theorem orderly_initial :
    law.Orderly reads (initial content positive) :=
  fun _ => ⟨trivial, nofun⟩

section

variable [DecidableEq Key] {key : Key}

theorem Orderly.set {store : Store Index Key Value Answer Outcome}
    (orderly : law.Orderly reads store)
    (cellOrderly : law.CellOrderly reads key cell) : law.Orderly reads (store.set key cell) := by
  intro other
  by_cases same : other = key
  · subst other
    rwa [Store.set_self]
  · rw [Store.set_of_ne store same]
    exact orderly other

/-- A warranted write that takes effect keeps the bucket in order. -/
theorem Orderly.commits {before after : Store Index Key Value Answer Outcome}
    {pending : List (ConditionalWrite Index Value)}
    (orderly : law.Orderly reads before) (kept : ∀ other ∈ pending, other ∈ (before key).pending)
    (warranted : law.Warranted reads key (before key) write)
    (commits : Commits key write pending fresh before after) :
    before.Evolves after ∧ law.Orderly reads after ∧ .committed write.writer (before key).current
        (write.value.map fun value => ⟨value, fresh⟩) () ∈
      (after key).log := by
  rcases commits with ⟨matched, isFresh, rfl⟩
  refine ⟨Store.evolves_set ?_, ?_, ?_⟩
  · exact ⟨rfl, [_], rfl⟩
  · exact orderly.set ((orderly key).commit kept warranted matched isFresh)
  · rw [Store.set_self]
    exact List.mem_cons_self

/-- The law as a discipline of the bucket's programs. -/
def discipline (law : Law Index Key Value Answer Outcome) (reads : Reads) :
    Discipline (system reads : System Index (Call Key Value Question) (Reply Answer)
      (Store Index Key Value Answer Outcome) Outcome) where
  invariant := law.Orderly reads
  evolves := Store.Evolves
  evolves_refl := Store.Evolves.refl
  evolves_trans := Store.Evolves.trans
  drift_evolves := by
    intro before after orderly lands
    cases lands with
    | @land key left right write fresh lost commits =>
      have member : write ∈ (before key).pending := by
        rw [lost]
        exact List.mem_append_right _ List.mem_cons_self
      have kept : ∀ other ∈ left ++ right, other ∈ (before key).pending := by
        intro other
        rw [lost]
        simp only [List.mem_append, List.mem_cons]
        tauto
      have outcome := orderly.commits kept ((orderly key).pending _ member) commits
      exact ⟨outcome.1, fun _ => trivial, outcome.2.1⟩

/-! ## One rule per call -/

/-- A property that nothing done to the bucket undoes. -/
def Lasting (property : Store Index Key Value Answer Outcome → Prop) : Prop :=
  ∀ ⦃before after⦄, before.Evolves after → property before → property after

variable {index : Index} {seen : Store Index Key Value Answer Outcome}

theorem Lasting.stable (lasting : Lasting pre) : (law.discipline reads).Stable index pre :=
  fun _ _ relied _ => lasting relied.evolves

omit [DecidableEq Key] in
theorem Lasting.and
    (first : Lasting pre) (second : Lasting other) : Lasting fun store => pre store ∧ other store :=
  fun _ _ evolved held => ⟨first evolved held.1, second evolved held.2⟩

omit [DecidableEq Key] in
theorem lasting_true : Lasting fun _ : Store Index Key Value Answer Outcome => True :=
  fun _ _ _ held => held

/-- What a reply says of the key it was read from. -/
structure Fetched (index : Index) (key : Key) (reply : Except Fault (Version Value))
    (store : Store Index Key Value Answer Outcome) : Prop where
  seen : ∀ version, reply = .ok version → (store key).Seen version
  noted : ∃ older, (store key).log = .noted (.read index reply) :: older

theorem ensures_get (lasting : Lasting pre) :
    (law.discipline reads).Ensures index pre (Program.request (.get key))
      fun (reply : Except Fault (Version Value)) store =>
        pre store ∧ Fetched index key reply store := by
  apply ensures_request lasting.stable
  intro before reply after orderly held performed
  rcases performed with ⟨admitted, rfl⟩
  have noted := Store.evolves_set (extends_addNote (before key) (.read index reply))
  refine ⟨⟨noted, fun _ _ => trivial, orderly.set ((orderly key).addNote admitted)⟩,
      lasting noted held, ?_, ?_⟩
  · intro version answered
    exact (noted key).seen (Reads.Admits.mem_versions (answered ▸ admitted))
  · rw [Store.set_self]
    exact ⟨_, rfl⟩

/-- The write is in the log. -/
def Committed (index : Index) (key : Key) (value : Option Value) (fresh : Nat)
    (store : Store Index Key Value Answer Outcome) : Prop :=
  ∃ replaced, .committed index replaced (value.map fun value => ⟨value, fresh⟩) () ∈ (store key).log

theorem ensures_write {value : Option Value} (lasting : Lasting pre)
    (warranted : ∀ store, pre store →
      law.Warranted reads key (store key) ⟨index, expected, value⟩) :
    (law.discipline reads).Ensures index pre (Program.request (.write key value expected))
      fun (reply : Except Fault Nat) store => pre store ∧ ∀ fresh, reply = .ok fresh →
        Committed index key value fresh store := by
  apply ensures_request lasting.stable
  intro before reply after orderly held performed
  have allowed := warranted before held
  cases reply with
  | ok fresh =>
    have outcome := orderly.commits (fun _ kept => kept) allowed performed
    refine ⟨⟨outcome.1, fun _ _ => trivial, outcome.2.1⟩, lasting outcome.1 held, ?_⟩
    rintro _ ⟨⟩
    exact ⟨_, outcome.2.2⟩
  | error fault =>
    have unanswered : before.Evolves after ∧ law.Orderly reads after := by
      cases fault with
      | other text =>
        cases performed
        exact ⟨Store.evolves_set (extends_lose _ _), orderly.set ((orderly key).lose allowed)⟩
      | notFound | alreadyExists | revisionMismatch
      | wrongLastSequence =>
        cases performed
        exact ⟨Store.Evolves.refl _, orderly⟩
    refine ⟨⟨unanswered.1, fun _ _ => trivial, unanswered.2⟩, lasting unanswered.1 held, ?_⟩
    nofun

theorem ensures_waits (lasting : Lasting pre) :
    (law.discipline reads).Ensures index pre (Program.request (.waits : Call Key Value Question))
      fun _ => pre := by
  apply ensures_request lasting.stable
  rintro before reply after orderly held rfl
  exact ⟨.refl orderly, held⟩

theorem ensures_ask {question : Question} (lasting : Lasting pre) :
    (law.discipline reads).Ensures index pre
      (Program.request (.ask question : Call Key Value Question))
      fun (answer : Answer question) after => pre after ∧ ∃ before, pre before ∧ ∀ key, after key =
        (before key).addNote (.answered index question answer) := by
  apply ensures_request lasting.stable
  rintro before answer after orderly held rfl
  have noted := before.evolves_noteAll (.answered index question answer)
  exact ⟨⟨noted, fun _ _ => trivial, fun key => (orderly key).addNote trivial⟩,
      lasting noted held, before, held, fun _ => rfl⟩

/-- A result that stands for what the law asks, at any later time. -/
theorem settles {outcome : Outcome}
    (returns : ∀ later, seen.Evolves later → law.Orderly reads later →
      ∀ key, law.returns key index outcome (later key).log) :
    (law.discipline reads).Settles index outcome seen := by
  intro later ⟨evolved, _⟩ orderly
  refine ⟨later.evolves_noteAll _, fun _ _ => trivial, fun key => ?_⟩
  exact (orderly key).addNote (returns later evolved orderly key)

variable [DecidableEq Index] {content : Key → Option (Version Value)}
    {positive : ∀ key, ∀ version ∈ content key, 0 < version.revision}
    {programs : Index → Program (Call Key Value Question) (Reply Answer) Outcome}
    {pool : Pool Index (Call Key Value Question) (Reply Answer)
      (Store Index Key Value Answer Outcome) Outcome}
    (obeys : ∀ index, (law.discipline reads).Upholds index ((law.discipline reads).Settles index)
      (programs index) (initial content positive))
    (reached : (system reads).Reachable (Pool.start (initial content positive) programs) pool)

include obeys reached

/-- Programs that obey the law keep every log sound. -/
theorem reachable : law.Orderly reads pool.shared :=
  (Discipline.reachable orderly_initial obeys reached).invariant

/-- Programs that obey the law only continue the logs. -/
theorem reachable_evolves : (initial content positive).Evolves pool.shared :=
  (Discipline.PoolUpholds.later ⟨orderly_initial, obeys⟩ reached).1

end

end Law

/-! ## Executable runs -/

section

/-- The reply of a read that sees the version in place. -/
def readReply (cell : Cell Index Value Answer Outcome) : Except Fault (Version Value) :=
  match cell.current with
  | some version => .ok version
  | none => .error .notFound

variable (reads : Reads)

theorem admits_readReply (cell : Cell Index Value Answer Outcome) :
    reads.Admits cell.base cell.log (readReply cell) := by
  unfold readReply
  cases inPlace : cell.current with
  | some version =>
    cases reads with
    | leader => exact inPlace
    | replica => exact seen_of_current inPlace
  | none =>
    cases reads with
    | leader => exact inPlace
    | replica => trivial

variable [DecidableEq Key] (answers : Index → (question : Question) → Answer question)

/-- Answer one call the way a healthy leader does. -/
def answer (index : Index) :
    (call : Call Key Value Question) → Store Index Key Value Answer Outcome →
      Reply Answer call × Store Index Key Value Answer Outcome
  | .get key, store =>
    (readReply (store key), store.set key
      ((store key).addNote (.read index (readReply (store key)))))
  | .write key value expected, store =>
    if expected = (store key).revision then
      (.ok (store key).nextRevision, store.set key (((store key).settle (store key).pending).commit
        ⟨index, expected, value⟩ (store key).nextRevision ()
        (store key).fresh_nextRevision))
    else if expected = 0 then (.error .alreadyExists, store) else (.error .revisionMismatch, store)
  | .waits, store => (true, store)
  | .ask question, store =>
    (answers index question, store.noteAll (.answered index question (answers index question)))

theorem perform_answer (index : Index) (call : Call Key Value Question)
    (store : Store Index Key Value Answer Outcome) :
    perform reads index call store (answer answers index call store).1
      (answer answers index call store).2 := by
  cases call with
  | get key => exact ⟨admits_readReply reads (store key), rfl⟩
  | write key value expected =>
    unfold answer
    dsimp only
    split_ifs with matched created
    · exact ⟨matched, (store key).fresh_nextRevision, rfl⟩
    · exact rfl
    · exact rfl
  | waits | ask question => exact rfl

/-- A schedule names who acts next; every call is answered in order. -/
def resolver (reads : Reads) (answers : Index → (question : Question) → Answer question) :
    (system reads :
      System Index (Call Key Value Question) (Reply Answer) (Store Index Key Value Answer Outcome)
        Outcome).Resolver Unit where
  call index call store _ := some (answer answers index call store)
  drift _ _ := none
  call_sound := by
    intro index call before _ reply after answered
    have performed := perform_answer reads answers index call before
    rwa [Option.some.inj answered] at performed
  drift_sound := nofun

/-- The pool after a schedule of callers. -/
def play
    [DecidableEq Index] (reads : Reads) (answers : Index → (question : Question) → Answer question)
    (start :
      Pool Index (Call Key Value Question) (Reply Answer)
        (Store Index Key Value Answer Outcome) Outcome)
    (schedule : List Index) :
    Option (Pool Index (Call Key Value Question) (Reply Answer)
      (Store Index Key Value Answer Outcome) Outcome) :=
  (resolver reads answers).play start (schedule.map fun index => .thread index ())

end

end Spinifex.Concurrency.Bucket
