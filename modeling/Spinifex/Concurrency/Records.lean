import Mathlib.Logic.Function.Basic
import Spinifex.Concurrency.Discipline
import Spinifex.Concurrency.Shelf

/-!
# Records that are read, changed and written back

Programs share records under keys.  They read a record, compute on it and write
the whole record back, unconditionally or at the revision they read.  The log
keeps every write with the value it replaced, whatever else is worth a note,
and every return; a mark keeps for every thread which revision of a record it
has seen last.

An unconditional write undoes whatever was written since the writer's read.  A
run is undisturbed if that never happens: no thread writes a record that has
changed since it saw it.  In such a run a write replaces the value its writer
has seen, so what a program does to the records it has seen, shown for one
program at a time by `Obeys`, is what the log says of every write.
-/

namespace Spinifex.Concurrency.Records

open Function

/-! ## Calls on records -/

/-- What a call shows of the records, stores in one of them, and is noted as. -/
structure Access (Op : Type) (Reply : Op → Type) (Key Value Note : Type) where
  shown : (op : Op) → Reply op → Key → Option (Option Value)
  told : (op : Op) → Reply op → Key → Option Nat := fun _ _ _ => none
  expected : Op → Key → Option Nat := fun _ _ => none
  stored : (op : Op) → Reply op → Option (Key × Option Value)
  remark : (op : Op) → Reply op → Option Note := fun _ _ => none

/-- What the log keeps of a thread. -/
inductive Deed (Key Value Note Result : Type) where
  | wrote (key : Key) (value : Option Value)
  | noted (note : Note)
  | returned (result : Result)
deriving DecidableEq

/-- Who did what, and what a write replaced. -/
structure Entry (Index Key Value Note Result : Type) where
  index : Index
  deed : Deed Key Value Note Result
  replaced : Option Value := none
deriving DecidableEq

/-- The records, what each thread has seen, and the log. -/
structure State (Index Key Value Note Result : Type) where
  shelf : Shelf Key Value
  marks : Index → Key → Option Nat
  log : List (Entry Index Key Value Note Result)

/-- The records before any call. -/
def State.initial {Index Key Value Note Result : Type} (shelf : Shelf Key Value) :
    State Index Key Value Note Result where
  shelf := shelf
  marks _ _ := none
  log := []

section

variable {Index Key Value Note Result : Type} [DecidableEq Index]

/-- What one thread did, the last first. -/
def own (index : Index) (log : List (Entry Index Key Value Note Result)) :
    List (Deed Key Value Note Result) :=
  log.filterMap fun entry => if entry.index = index then some entry.deed else none

@[simp]
theorem own_cons_self (entry : Entry Index Key Value Note Result)
    (log : List (Entry Index Key Value Note Result)) :
    own entry.index (entry :: log) = entry.deed :: own entry.index log := by
  simp [own]

theorem own_cons_of_ne (different : entry.index ≠ index)
    (log : List (Entry Index Key Value Note Result)) :
    own index (entry :: log) = own index log := by
  simp [own, different]

/-- The entry of something a thread did. -/
theorem exists_of_own_eq_append {log : List (Entry Index Key Value Note Result)}
    (did : own index log = newer ++ deed :: earlier) :
    ∃ later replaced older, log = later ++ ⟨index, deed, replaced⟩ :: older ∧
      own index older = earlier := by
  induction log generalizing newer with
  | nil => simp [own] at did
  | cons entry log induction =>
    by_cases mine : entry.index = index
    · subst mine
      rw [own_cons_self] at did
      cases newer with
      | nil =>
        obtain ⟨rfl, first⟩ := List.cons.inj did
        exact ⟨[], entry.replaced, log, rfl, first⟩
      | cons newest newer =>
        obtain ⟨-, rest⟩ := List.cons.inj did
        obtain ⟨later, replaced, older, rfl, first⟩ := induction rest
        exact ⟨entry :: later, replaced, older, rfl, first⟩
    · rw [own_cons_of_ne mine] at did
      obtain ⟨later, replaced, older, rfl, first⟩ := induction did
      exact ⟨entry :: later, replaced, older, rfl, first⟩

variable [DecidableEq Key]

/-- The value of every key after the writes of a log. -/
def content (base : Key → Option Value) :
    List (Entry Index Key Value Note Result) → Key → Option Value
  | [] => base
  | entry :: older =>
    match entry.deed with
    | .wrote key value => update (content base older) key value
    | .noted _ => content base older
    | .returned _ => content base older

end

section

variable {Index Op : Type} {Reply : Op → Type}
    {Key Value Note Result : Type} [DecidableEq Index] [DecidableEq Key]

namespace State

variable (state : State Index Key Value Note Result) (index : Index)
    (shown : Key → Option (Option Value))

/-- A thread has seen some records. -/
def sees : State Index Key Value Note Result :=
  { state with
    marks := update state.marks index fun key => if (shown key).isSome then
        some (state.shelf.revision key)
      else
        state.marks index key }

/-- A thread writes a record. -/
def writes (key : Key) (value : Option Value) : State Index Key Value Note Result where
  shelf := state.shelf.put key value
  marks := update state.marks index (update (state.marks index) key
    (some ((state.shelf.put key value).revision key)))
  log := ⟨index, .wrote key value, state.shelf.value key⟩ :: state.log

/-- Something a thread did is noted. -/
def notes (deed : Deed Key Value Note Result) : State Index Key Value Note Result :=
  { state with log := ⟨index, deed, none⟩ :: state.log }

variable (stored : Option (Key × Option Value))

/-- A write, if there is one. -/
def stores : State Index Key Value Note Result :=
  match stored with
  | none => state
  | some (key, value) => state.writes index key value

/-- A note, if there is one. -/
def remarks (remark : Option Note) : State Index Key Value Note Result :=
  match remark with
  | none => state
  | some note => state.notes index (.noted note)

theorem shelf_stores_sees :
    ((state.sees index shown).stores index stored).shelf = (state.stores index stored).shelf := by
  cases stored with
  | none | some cell => rfl

theorem log_stores_sees :
    ((state.sees index shown).stores index stored).log = (state.stores index stored).log := by
  cases stored with
  | none | some cell => rfl

/-- What a call leaves behind. -/
def does (access : Access Op Reply Key Value Note)
    (index : Index) (op : Op) (reply : Reply op) : State Index Key Value Note Result :=
  ((state.sees index (access.shown op reply)).stores index
    (access.stored op reply)).remarks index (access.remark op reply)

end State

variable (access : Access Op Reply Key Value Note)

/-- A call shows the records as they are and writes at the right revision. -/
@[mk_iff]
structure Performs
    (index : Index) (op : Op) (before : State Index Key Value Note Result) (reply : Reply op)
    (after : State Index Key Value Note Result) : Prop where
  shown : ∀ key value, access.shown op reply key = some value → before.shelf.value key = value
  told : ∀ key revision, access.told op reply key = some revision →
    before.shelf.revision key = revision
  expected : ∀ key value revision, access.stored op reply = some (key, value) →
    access.expected op key = some revision → before.shelf.revision key = revision
  after : after = before.does access index op reply

/-- The system of programs that share records. -/
def system : System Index Op Reply (State Index Key Value Note Result) Result where
  perform := Performs access
  drift _ _ := False
  finish index result state := state.notes index (.returned result)

/-- A thread writes unconditionally only what is still as it saw it. -/
def Undisturbed (index : Index) (op : Op)
    (before : State Index Key Value Note Result) (reply : Reply op) : Prop :=
  ∀ key value, access.stored op reply = some (key, value) → access.expected op key = none →
    ∀ revision, before.marks index key = some revision → before.shelf.revision key = revision

/-- The same calls, with another account of what they store. -/
abbrev Access.storing (access : Access Op Reply Key Value Note)
    (stored : (op : Op) → Reply op → Option (Key × Option Value)) :
    Access Op Reply Key Value Note :=
  { access with stored }

/-- Where both accounts agree on every admitted reply, the runs are the same. -/
theorem restrict_storing {access : Access Op Reply Key Value Note}
    {admitted : Index → (op : Op) → State Index Key Value Note Result → Reply op → Prop}
    (agree : ∀ index op before reply, admitted index op before reply →
      stored op reply = access.stored op reply) :
    (system access : System Index Op Reply (State Index Key Value Note Result) Result).restrict
        admitted =
      (system (access.storing stored)).restrict admitted := by
  have performs (index : Index) (op : Op) (before : State Index Key Value Note Result)
      (reply : Reply op) (after : State Index Key Value Note Result)
      (same : stored op reply = access.stored op reply) :
      Performs access index op before reply after ↔
        Performs (access.storing stored) index op before reply after := by
    rw [performs_iff, performs_iff]
    simp only [State.does, same]
  refine System.ext ?_ rfl rfl
  funext index op before reply after
  exact propext (and_congr_left fun met => performs _ _ _ _ _ (agree _ _ _ _ met))

omit [DecidableEq Index] [DecidableEq Key] in
theorem Undisturbed.storing {access : Access Op Reply Key Value Note} {index : Index}
    {before : State Index Key Value Note Result}
    (undisturbed : Undisturbed access index op before reply)
    (agree : stored op reply = access.stored op reply) :
    Undisturbed (access.storing stored) index op before reply :=
  fun key value written => undisturbed key value (agree.symm.trans written)

end

/-! ## What a program does to the records it has seen -/

/-- What a thread knows of the records. -/
structure View (Key Value : Type) where
  value : Key → Option (Option Value)
  revision : Key → Option Nat

/-- The view of a thread that has not seen anything. -/
def View.blank {Key Value : Type} : View Key Value where
  value _ := none
  revision _ := none

section

variable {Op : Type} {Reply : Op → Type}
    {Key Value Note Result First Second : Type} [DecidableEq Key]

namespace View

variable (view : View Key Value)

/-- The view after some records were shown. -/
def sees (shown : Key → Option (Option Value)) (told : Key → Option Nat) : View Key Value where
  value key := (shown key).or (view.value key)
  revision key := if (shown key).isSome then told key else view.revision key

/-- The view after a write of one's own. -/
def stores (stored : Option (Key × Option Value)) : View Key Value :=
  match stored with
  | none => view
  | some (key, value) =>
    { value := update view.value key (some value)
      revision := update view.revision key none }

end View

variable (deeds : List (Deed Key Value Note Result))

/-- The deeds after a write, if there is one. -/
def ownStores (stored : Option (Key × Option Value)) : List (Deed Key Value Note Result) :=
  match stored with
  | none => deeds
  | some (key, value) => .wrote key value :: deeds

/-- The deeds after a note, if there is one. -/
def ownRemarks (remark : Option Note) : List (Deed Key Value Note Result) :=
  match remark with
  | none => deeds
  | some note => .noted note :: deeds

variable (access : Access Op Reply Key Value Note)
    (law : List (Deed Key Value Note Result) → (Key → Option (Option Value)) →
      Deed Key Value Note Result → Prop)

/--
Every write and note of a program is one the law allows a thread that has done
so much and seen these records, and its result meets a postcondition.
-/
def Obeys
    (post : First → View Key Value → List (Deed Key Value Note Result) → Prop) :
    Program Op Reply First → View Key Value → List (Deed Key Value Note Result) → Prop
  | .done result, view, deeds => post result view deeds
  | .call op next, view, deeds =>
    ∀ reply, (∀ key value, access.stored op reply = some (key, value) →
        law deeds (view.sees (access.shown op reply)
            (access.told op reply)).value (.wrote key value) ∧
          ∀ revision, access.expected op key = some revision → (view.sees (access.shown op reply)
            (access.told op reply)).revision key = some revision) ∧
      (∀ note, access.remark op reply = some note →
        law (ownStores deeds (access.stored op reply)) ((view.sees (access.shown op reply)
          (access.told op reply)).stores (access.stored op reply)).value (.noted note)) ∧
      Obeys post (next reply) ((view.sees (access.shown op reply)
          (access.told op reply)).stores (access.stored op reply))
        (ownRemarks (ownStores deeds (access.stored op reply)) (access.remark op reply))

variable {access law} {deeds : List (Deed Key Value Note Result)}
    {program : Program Op Reply First} {view : View Key Value}
    {continuation : First → Program Op Reply Second}

theorem obeys_bind :
    Obeys access law post (program >>= continuation) view deeds ↔
      Obeys access law (fun result view deeds =>
          Obeys access law post (continuation result) view deeds)
        program view deeds := by
  induction program generalizing view deeds with
  | done result => rfl
  | call op next induction =>
    refine forall_congr' fun reply => ?_
    exact and_congr_right' (and_congr_right' (induction reply))

theorem Obeys.mono (obeys : Obeys access law post program view deeds)
    (implies : ∀ result view deeds, post result view deeds → wider result view deeds) :
    Obeys access law wider program view deeds := by
  induction program generalizing view deeds with
  | done result => exact implies result view deeds obeys
  | call op next induction =>
    intro reply
    obtain ⟨writes, notes, rest⟩ := obeys reply
    exact ⟨writes, notes, induction reply rest⟩

/-- A call that has nothing to do with the records. -/
structure Silent (access : Access Op Reply Key Value Note) (op : Op) : Prop where
  shown : ∀ reply key, access.shown op reply key = none
  stored : ∀ reply, access.stored op reply = none
  remark : ∀ reply, access.remark op reply = none

variable {post : First → View Key Value → List (Deed Key Value Note Result) → Prop}

theorem obeys_silent (silent : Silent access op) :
    Obeys access law post (.call op next) view deeds ↔
      ∀ reply, Obeys access law post (next reply) view deeds := by
  refine forall_congr' fun reply => ?_
  have same : view.sees (access.shown op reply) (access.told op reply) = view := by
    rw [funext (silent.shown reply)]
    rfl
  rw [same, silent.stored reply, silent.remark reply]
  constructor
  · exact fun obeys => obeys.2.2
  · intro obeys
    refine ⟨?_, ?_, obeys⟩
    · nofun
    · nofun

section

variable (silent : program.Only (Silent access))

include silent

/-- A program that has nothing to do with the records. -/
theorem obeys_of_yields (yields : program.Yields fact)
    (met : ∀ result, fact result → post result view deeds) :
    Obeys access law post program view deeds := by
  induction program with
  | done result => exact met result yields
  | call op next induction =>
    rw [obeys_silent silent.1]
    intro reply
    exact induction reply (silent.2 reply) (yields reply)

theorem obeys_of_only
    (met : ∀ result, post result view deeds) : Obeys access law post program view deeds := by
  induction program with
  | done result => exact met result
  | call op next induction =>
    rw [obeys_silent silent.1]
    exact fun reply => induction reply (silent.2 reply)

theorem obeys_only_bind {post : Second → View Key Value → List (Deed Key Value Note Result) → Prop}
    (met : ∀ result, Obeys access law post (continuation result) view deeds) :
    Obeys access law post (program >>= continuation) view deeds :=
  obeys_bind.2 (obeys_of_only silent met)

end

end

/-! ## What a thread knows -/

section

variable {Index Key Value Note Result : Type} [DecidableEq Index]

/-- What a thread knows is so, as far as nobody has written since. -/
structure Knows (index : Index) (view : View Key Value) (deeds : List (Deed Key Value Note Result))
    (state : State Index Key Value Note Result) : Prop where
  deeds : own index state.log = deeds
  seen : ∀ key value, view.value key = some value → ∃ shelf : Shelf Key Value,
    shelf.Evolves state.shelf ∧ shelf.value key = value ∧
      state.marks index key = some (shelf.revision key) ∧
      ∀ revision, view.revision key = some revision → shelf.revision key = revision

/-- A step of one thread, as the others see it. -/
structure Follows (index : Index) (before after : State Index Key Value Note Result) : Prop where
  shelf : before.shelf.Evolves after.shelf
  log : ∃ newer, after.log = newer ++ before.log
  marks : ∀ other, other ≠ index → after.marks other = before.marks other
  own : ∀ other, other ≠ index → own other after.log = own other before.log

variable {index : Index} {view : View Key Value}
    {deeds : List (Deed Key Value Note Result)} {state : State Index Key Value Note Result}

theorem Follows.refl (state : State Index Key Value Note Result) : Follows index state state :=
  ⟨.refl _, ⟨[], rfl⟩, fun _ _ => rfl, fun _ _ => rfl⟩

theorem Follows.trans (left : Follows index first second)
    (right : Follows index second third) : Follows index first third := by
  obtain ⟨newer, leftLog⟩ := left.log
  obtain ⟨newest, rightLog⟩ := right.log
  refine ⟨left.shelf.trans right.shelf, ⟨newest ++ newer, ?_⟩, ?_, ?_⟩
  · rw [rightLog, leftLog, List.append_assoc]
  · intro other different
    exact (right.marks other different).trans (left.marks other different)
  · intro other different
    exact (right.own other different).trans (left.own other different)

theorem follows_sees (shown : Key → Option (Option Value)) :
    Follows index state (state.sees index shown) :=
  ⟨.refl _, ⟨[], rfl⟩, fun _ different => update_of_ne different _ _, fun _ _ => rfl⟩

theorem Knows.sees (knows : Knows index view deeds state)
    (isShown : ∀ key value, shown key = some value → state.shelf.value key = value)
    (isTold : ∀ key revision, told key = some revision → state.shelf.revision key = revision) :
    Knows index (view.sees shown told) deeds (state.sees index shown) := by
  refine ⟨knows.deeds, ?_⟩
  intro key value known
  have marks : (state.sees index shown).marks index key = if (shown key).isSome then
          some (state.shelf.revision key)
        else
          state.marks index key := by
    simp [State.sees]
  rw [marks]
  cases here : shown key with
  | some current =>
    have same : current = value := by
      simpa [View.sees, here] using known
    subst same
    refine ⟨state.shelf, .refl _, isShown key current here, rfl, ?_⟩
    intro revision revealed
    apply isTold key revision
    simpa [View.sees, here] using revealed
  | none =>
    have before : view.value key = some value := by
      simpa [View.sees, here] using known
    obtain ⟨shelf, evolved, same, marked, revisions⟩ := knows.seen key value before
    refine ⟨shelf, evolved, same, marked, ?_⟩
    intro revision revealed
    apply revisions revision
    simpa [View.sees, here] using revealed

theorem follows_notes (deed : Deed Key Value Note Result) :
    Follows index state (state.notes index deed) :=
  ⟨.refl _, ⟨[_], rfl⟩, fun _ _ => rfl, fun _ different => own_cons_of_ne (Ne.symm different) _⟩

theorem Knows.notes (knows : Knows index view deeds state) (deed : Deed Key Value Note Result) :
    Knows index view (deed :: deeds) (state.notes index deed) := by
  refine ⟨?_, knows.seen⟩
  rw [← knows.deeds]
  exact own_cons_self _ _

variable [DecidableEq Key]

theorem follows_writes (key : Key) (value : Option Value) :
    Follows index state (state.writes index key value) :=
  ⟨Shelf.evolves_put _ _ _, ⟨[_], rfl⟩, fun _ different => update_of_ne different _ _,
    fun _ different => own_cons_of_ne (Ne.symm different) _⟩

theorem Knows.writes (knows : Knows index view deeds state) (key : Key) (value : Option Value) :
    Knows index (view.stores (some (key, value)))
      (.wrote key value :: deeds) (state.writes index key value) := by
  constructor
  · rw [← knows.deeds]
    exact own_cons_self _ _
  · intro other seen known
    have marks : (state.writes index key value).marks index other = if other = key then
            some ((state.shelf.put key value).revision key)
          else
            state.marks index other := by
      simp [State.writes, update_apply]
    rw [marks]
    by_cases same : other = key
    · subst same
      have stored : value = seen := by
        simpa [View.stores] using known
      subst stored
      refine ⟨state.shelf.put other value, .refl _, Shelf.value_put_self _ _ _, if_pos rfl, ?_⟩
      intro revision revealed
      simp [View.stores] at revealed
    · have before : view.value other = some seen := by
        simpa [View.stores, same] using known
      obtain ⟨shelf, evolved, isValue, marked, revisions⟩ := knows.seen other seen before
      refine ⟨shelf, evolved.trans (Shelf.evolves_put _ _ _), isValue,
        (if_neg same).trans marked, ?_⟩
      intro revision revealed
      apply revisions revision
      simpa [View.stores, same] using revealed

end

/-! ## What the log says -/

section

variable {Index Key Value Note Result : Type} [DecidableEq Index] [DecidableEq Key] (law :
      Index → List (Deed Key Value Note Result) →
        (Key → Option (Option Value)) → Deed Key Value Note Result → Prop)
    (allows : Entry Index Key Value Note Result → (Key → Option Value) →
      List (Entry Index Key Value Note Result) → Prop)
    (base : Key → Option Value)

/-- One entry obeys the law on the log before it. -/
structure Lawful (entry : Entry Index Key Value Note Result)
    (older : List (Entry Index Key Value Note Result)) : Prop where
  law : ∃ view, law entry.index (own entry.index older) view entry.deed ∧ ∀ key value,
    entry.deed = .wrote key value → view key = none ∨ view key = some entry.replaced
  replaced : ∀ key value, entry.deed = .wrote key value → entry.replaced = content base older key
  allowed : (∀ result, entry.deed ≠ .returned result) → allows entry (content base older) older

/-- Every entry of a log obeyed the law when it was made. -/
def Sound : List (Entry Index Key Value Note Result) → Prop
  | [] => True
  | entry :: older => Lawful law allows base entry older ∧ Sound older

/-- The log obeys the law and the records are what it says. -/
structure Orderly (state : State Index Key Value Note Result) : Prop where
  sound : Sound law allows base state.log
  records : ∀ key, state.shelf.value key = content base state.log key

variable {law allows base} {index : Index}
    {state : State Index Key Value Note Result}

theorem Sound.of_append
    (sound : Sound law allows base (newer ++ older)) : Sound law allows base older := by
  induction newer with
  | nil => exact sound
  | cons entry newer induction => exact induction sound.2

theorem Orderly.content_eq (orderly : Orderly law allows base state) :
    content base state.log = state.shelf.value :=
  funext fun key => (orderly.records key).symm

theorem Orderly.writes (orderly : Orderly law allows base state)
    (known : Key → Option (Option Value))
    (lawful : law index (own index state.log) known (.wrote key value))
    (seen : known key = none ∨ known key = some (state.shelf.value key))
    (allowed : allows ⟨index, .wrote key value, state.shelf.value key⟩
      state.shelf.value state.log) :
    Orderly law allows base (state.writes index key value) := by
  constructor
  · refine ⟨⟨⟨known, lawful, ?_⟩, ?_, ?_⟩, orderly.sound⟩
    · rintro other stored ⟨⟩
      exact seen
    · rintro other stored ⟨⟩
      exact orderly.records key
    · intro _
      rwa [orderly.content_eq]
  · intro other
    change (state.shelf.put key value).value other = update (content base state.log) key value other
    by_cases same : other = key
    · subst same
      rw [Shelf.value_put_self, update_self]
    · rw [Shelf.value_put_of_ne same, update_of_ne same]
      exact orderly.records other

/-- The deed is not a write. -/
def Deed.Quiet (deed : Deed Key Value Note Result) : Prop :=
  ∀ key value, deed ≠ .wrote key value

theorem Orderly.notes (orderly : Orderly law allows base state) (quiet : deed.Quiet)
    (known : Key → Option (Option Value)) (lawful : law index (own index state.log) known deed)
    (allowed : (∀ result, deed ≠ .returned result) →
      allows ⟨index, deed, none⟩ state.shelf.value state.log) :
    Orderly law allows base (state.notes index deed) := by
  constructor
  · refine ⟨⟨⟨known, lawful, ?_⟩, ?_, ?_⟩, orderly.sound⟩
    · intro key value wrote
      exact absurd wrote (quiet key value)
    · intro key value wrote
      exact absurd wrote (quiet key value)
    · intro isWork
      rw [orderly.content_eq]
      exact allowed isWork
  · intro key
    rw [show (state.notes index deed).shelf = state.shelf from rfl, orderly.records]
    cases deed with
    | wrote key value => exact absurd rfl (quiet key value)
    | noted note | returned result => rfl

end

/-! ## Runs -/

section

variable {Index Op : Type} {Reply : Op → Type}
    {Key Value Note Result First : Type} [DecidableEq Index] [DecidableEq Key]
    {access : Access Op Reply Key Value Note}
    {law : Index → List (Deed Key Value Note Result) → (Key → Option (Option Value)) →
      Deed Key Value Note Result → Prop}
    {allows : Entry Index Key Value Note Result → (Key → Option Value) →
      List (Entry Index Key Value Note Result) → Prop}
    {base : Key → Option Value}
    {admitted : Index → (op : Op) → State Index Key Value Note Result → Reply op → Prop}

/-- A condition on calls rules out disturbances and some of the deeds. -/
structure Admits (access : Access Op Reply Key Value Note)
    (allows : Entry Index Key Value Note Result → (Key → Option Value) →
      List (Entry Index Key Value Note Result) → Prop)
    (admitted : Index → (op : Op) → State Index Key Value Note Result → Reply op → Prop) :
    Prop where
  undisturbed : ∀ {index op before reply},
    admitted index op before reply → Undisturbed access index op before reply
  wrote : ∀ {index op before reply key value}, admitted index op before reply →
    access.stored op reply = some (key, value) →
      allows ⟨index, .wrote key value, before.shelf.value key⟩ before.shelf.value before.log
  noted : ∀ {index op before reply note}, admitted index op before reply →
    access.remark op reply = some note → allows ⟨index, .noted note, none⟩
      (before.stores index (access.stored op reply)).shelf.value
      (before.stores index (access.stored op reply)).log

variable (access law allows base admitted) in
/-- The law as a discipline of the programs that share records. -/
def discipline :
    Discipline ((system access :
      System Index Op Reply (State Index Key Value Note Result) Result).restrict admitted) where
  invariant := Orderly law allows base
  evolves before after :=
    before.shelf.Evolves after.shelf ∧ ∃ newer, after.log = newer ++ before.log
  spares index before after := after.marks index = before.marks index ∧
    own index after.log = own index before.log
  evolves_refl state := ⟨.refl _, [], rfl⟩
  evolves_trans := by
    rintro first second third ⟨left, newer, leftLog⟩ ⟨right, newest, rightLog⟩
    refine ⟨left.trans right, newest ++ newer, ?_⟩
    rw [rightLog, leftLog, List.append_assoc]
  spares_refl _ _ := ⟨rfl, rfl⟩
  spares_trans left right := ⟨right.1.trans left.1, right.2.trans left.2⟩
  drift_evolves := by
    intro before after _ drifted
    exact absurd drifted id

variable {index : Index} {view : View Key Value}
    {deeds : List (Deed Key Value Note Result)} {before after : State Index Key Value Note Result}

theorem Follows.keeps (follows : Follows index before after)
    (orderly : Orderly law allows base after) :
    (discipline access law allows base admitted).Keeps index before after :=
  ⟨⟨follows.shelf, follows.log⟩, fun other different =>
      ⟨follows.marks other different, follows.own other different⟩,
    orderly⟩

theorem Knows.relies (knows : Knows index view deeds before)
    (relied : (discipline access law allows base admitted).Relies index before after) :
    Knows index view deeds after := by
  obtain ⟨⟨evolved, -⟩, marks, deedsKept⟩ := relied
  refine ⟨deedsKept.trans knows.deeds, ?_⟩
  intro key value seen
  obtain ⟨shelf, older, same, marked, revisions⟩ := knows.seen key value seen
  refine ⟨shelf, older.trans evolved, same, ?_, revisions⟩
  rwa [marks]

/-- A record that is still as a thread saw it has the value it saw. -/
theorem Knows.current
    (knows : Knows index view deeds before) (performs : Performs access index op before reply after)
    (undisturbed : Undisturbed access index op before reply)
    (stored : access.stored op reply = some (key, written))
    (agreed : ∀ revision, access.expected op key = some revision →
      (view.sees (access.shown op reply) (access.told op reply)).revision key = some revision)
    (seen : (view.sees (access.shown op reply) (access.told op reply)).value key = some value) :
    before.shelf.value key = value := by
  obtain ⟨shelf, evolved, same, marked, revisions⟩ :=
    (knows.sees performs.shown performs.told).seen key value seen
  rw [← same]
  apply evolved.value_eq
  change shelf.revision key = before.shelf.revision key
  have marks : (before.sees index (access.shown op reply)).marks index key =
      if (access.shown op reply key).isSome then
          some (before.shelf.revision key)
        else
          before.marks index key := by
    simp [State.sees]
  cases conditional : access.expected op key with
  | some revision =>
    rw [revisions revision (agreed revision conditional),
      performs.expected key written revision stored conditional]
  | none =>
    rw [marks] at marked
    split at marked
    · exact (Option.some.inj marked).symm
    · exact (undisturbed key written stored conditional _ marked).symm

variable {state : State Index Key Value Note Result}

theorem follows_does (access : Access Op Reply Key Value Note)
    (index : Index) (op : Op) (reply : Reply op) :
    Follows index state (state.does access index op reply) := by
  have wrote : Follows index (state.sees index (access.shown op reply))
      ((state.sees index (access.shown op reply)).stores index (access.stored op reply)) := by
    cases access.stored op reply with
    | none => exact .refl _
    | some written => exact follows_writes written.1 written.2
  have noted : Follows index ((state.sees index (access.shown op reply)).stores index
        (access.stored op reply))
      (state.does access index op reply) := by
    unfold State.does
    cases access.remark op reply with
    | none => exact .refl _
    | some note => exact follows_notes _
  exact ((follows_sees (access.shown op reply)).trans wrote).trans noted

/-- A write, if there is one, that is lawful. -/
theorem Knows.stores
    (knows : Knows index view deeds state) (orderly : Orderly law allows base state)
    (lawful : ∀ key value, stored = some (key, value) →
      law index deeds view.value (.wrote key value))
    (current : ∀ key value seen, stored = some (key, value) →
      view.value key = some seen → state.shelf.value key = seen)
    (allowed : ∀ key value, stored = some (key, value) →
      allows ⟨index, .wrote key value, state.shelf.value key⟩ state.shelf.value state.log) :
    Follows index state (state.stores index stored) ∧
      Orderly law allows base (state.stores index stored) ∧
      Knows index (view.stores stored) (ownStores deeds stored) (state.stores index stored) := by
  cases stored with
  | none => exact ⟨.refl _, orderly, knows⟩
  | some written =>
    obtain ⟨key, value⟩ := written
    refine ⟨follows_writes key value, ?_, knows.writes key value⟩
    refine orderly.writes view.value ?_ ?_ (allowed key value rfl)
    · rw [knows.deeds]
      exact lawful key value rfl
    · cases seen : view.value key with
      | none => exact .inl rfl
      | some known =>
        exact .inr (congrArg some (current key value known rfl seen).symm)

/-- A note, if there is one, that is lawful. -/
theorem Knows.remarks
    (knows : Knows index view deeds state) (orderly : Orderly law allows base state)
    (lawful : ∀ note, remark = some note → law index deeds view.value (.noted note))
    (allowed : ∀ note, remark = some note →
      allows ⟨index, .noted note, none⟩ state.shelf.value state.log) :
    Follows index state (state.remarks index remark) ∧
      Orderly law allows base (state.remarks index remark) ∧
      Knows index view (ownRemarks deeds remark) (state.remarks index remark) := by
  cases remark with
  | none => exact ⟨.refl _, orderly, knows⟩
  | some note =>
    refine ⟨follows_notes _, ?_, knows.notes _⟩
    refine orderly.notes (fun _ _ => nofun) view.value ?_ fun _ => allowed note rfl
    rw [knows.deeds]
    exact lawful note rfl

/-- A program that obeys the law keeps the log sound, whatever others do. -/
theorem upholds_of_obeys (admits : Admits access allows admitted)
    (knows : Knows index view deeds before)
    (obeys : Obeys access (law index) post program view deeds) :
    (discipline access law allows base admitted).Upholds index
      (fun result state => ∃ view deeds, Knows index view deeds state ∧ post result view deeds)
      program before := by
  induction program generalizing view deeds before with
  | done result => exact ⟨view, deeds, knows, obeys⟩
  | call op next induction =>
    intro now relied orderly reply later performed
    obtain ⟨performs, admitted⟩ := performed
    obtain ⟨lawfulWrite, lawfulNote, rest⟩ := obeys reply
    have knowsNow := knows.relies relied
    have undisturbed := admits.undisturbed admitted
    have allowed (key : Key) (value : Option Value)
        (stored : access.stored op reply = some (key, value)) :
        allows ⟨index, .wrote key value, now.shelf.value key⟩ now.shelf.value now.log :=
      admits.wrote admitted stored
    have knowsSeen := knowsNow.sees performs.shown performs.told
    have follows := @follows_sees Index Key Value Note Result _ index now (access.shown op reply)
    have orderlySeen : Orderly law allows base (now.sees index (access.shown op reply)) :=
      ⟨orderly.sound, orderly.records⟩
    obtain ⟨wrote, orderlyWrote, knowsWrote⟩ := knowsSeen.stores orderlySeen
        (fun key value stored => (lawfulWrite key value stored).1)
        (fun key value seen stored known =>
          knowsNow.current performs undisturbed stored (lawfulWrite key value stored).2 known)
        allowed
    obtain ⟨noted, orderlyNoted, knowsNoted⟩ :=
      knowsWrote.remarks orderlyWrote lawfulNote fun note remark => by
        rw [State.shelf_stores_sees, State.log_stores_sees]
        exact admits.noted admitted remark
    rw [performs.after]
    exact ⟨((follows.trans wrote).trans noted).keeps orderlyNoted, induction reply knowsNoted rest⟩

variable {pool : Pool Index Op Reply (State Index Key Value Note Result) Result}
    {programs : Index → Program Op Reply Result} {shelf : Shelf Key Value}

/-- In every run the log is sound and the records are what it says. -/
theorem reachable (admits : Admits access allows admitted)
    (obeys : ∀ index, Obeys access (law index) (fun result view deeds =>
            law index deeds view.value (.returned result))
          (programs index) View.blank [])
    (reached : ((system access).restrict admitted).Reachable
      (Pool.start (State.initial shelf) programs) pool) :
    Orderly law allows shelf.value pool.shared := by
  have upheld := @Discipline.reachable _ _ _ _ _ _
      (discipline access law allows shelf.value admitted) _
      pool (State.initial shelf) programs ⟨trivial, fun _ => rfl⟩ ?_
      reached
  · exact upheld.invariant
  · intro index
    refine (upholds_of_obeys admits ⟨rfl, fun _ _ seen => by cases seen⟩ (obeys index)).mono ?_
      ⟨trivial, fun _ => rfl⟩
    rintro result state _ ⟨view, deeds, knows, lawful⟩ later relied orderly
    have knowsLater := knows.relies relied
    apply (follows_notes (.returned result)).keeps
    refine orderly.notes (fun _ _ => nofun) view.value ?_ fun isWork =>
      absurd rfl (isWork result)
    rwa [knowsLater.deeds]

/-- A thread that has returned is in the log. -/
theorem mem_of_returned (reached : ((system access).restrict admitted).Reachable
      (Pool.start (State.initial shelf) programs) pool)
    (returned : pool.thread index = .returned result) :
    ⟨index, .returned result, none⟩ ∈ pool.shared.log := by
  induction reached with
  | refl => cases returned
  | @tail middle last _ step induction =>
    cases step with
    | @call other op next reply shared scheduled performed =>
      dsimp only at returned
      by_cases same : index = other
      · subst same
        simp [update_self] at returned
      · rw [update_of_ne same] at returned
        obtain ⟨newer, grown⟩ := (follows_does access other op reply).log
        rw [performed.1.after, grown]
        exact List.mem_append_right _ (induction returned)
    | @finish other result scheduled =>
      dsimp only at returned
      by_cases same : index = other
      · subst same
        rw [update_self] at returned
        cases returned
        exact List.mem_cons_self ..
      · rw [update_of_ne same] at returned
        exact List.mem_cons_of_mem _ (induction returned)
    | drift drifted => exact absurd drifted id

end

/-! ## Executable runs -/

section

variable {Index Op : Type} {Reply : Op → Type}
    {Key Value Note Result Choice : Type} [DecidableEq Index] [DecidableEq Key]

instance decidableUndisturbed (access : Access Op Reply Key Value Note) (index : Index) (op : Op)
    (before : State Index Key Value Note Result) (reply : Reply op) :
    Decidable (Undisturbed access index op before reply) :=
  decidable_of_iff (∀ cell ∈ access.stored op reply, access.expected op cell.1 = none →
      ∀ revision ∈ before.marks index cell.1, before.shelf.revision cell.1 = revision)
    ⟨fun calm key value => calm (key, value), fun calm cell => calm cell.1 cell.2⟩

/-- A way to answer calls from the records as they are. -/
structure Server (access : Access Op Reply Key Value Note) (Index Choice : Type) where
  answer : Index → (op : Op) → Shelf Key Value → Choice → Option (Reply op)
  shown : ∀ {index op shelf choice reply}, answer index op shelf choice = some reply → ∀ key value,
      access.shown op reply key = some value → shelf.value key = value
  told : ∀ {index op shelf choice reply}, answer index op shelf choice = some reply →
    ∀ key revision, access.told op reply key = some revision → shelf.revision key = revision
  expected : ∀ {index op shelf choice reply}, answer index op shelf choice = some reply →
    ∀ key value revision, access.stored op reply = some (key, value) →
      access.expected op key = some revision → shelf.revision key = revision

/-- The runs in which a server answers. -/
def Server.resolver {access : Access Op Reply Key Value Note}
    (server : Server access Index Choice) :
    (system access :
      System Index Op Reply (State Index Key Value Note Result) Result).Resolver Choice where
  call index op before choice := (server.answer index op before.shelf choice).map fun reply =>
      (reply, before.does access index op reply)
  drift _ _ := none
  call_sound := by
    intro index op before choice reply after called
    obtain ⟨given, answered, same⟩ := Option.map_eq_some_iff.1 called
    obtain ⟨rfl, rfl⟩ := Prod.mk.inj same
    exact ⟨server.shown answered, server.told answered, server.expected answered, rfl⟩
  drift_sound := nofun

end

end Spinifex.Concurrency.Records
