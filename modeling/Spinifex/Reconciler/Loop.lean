import Mathlib.Data.List.Basic

/-!
# The revisit deadlines of a reconcile loop

A pass may ask to be revisited within some time.  The loop keeps one timer and
arms it anew after every branch, from the passes of that branch alone: passes
over single keys drop what the last whole-set pass, or other keys, asked for.
-/

namespace Spinifex.Reconciler

/-- What a pass returns: `failure` says whether its error is terminal. -/
structure Outcome where
  elapsed : Nat
  revisit : Int
  failure : Option Bool

/-- `DefaultResync`, in nanoseconds. -/
def defaultResync : Int :=
  300000000000

/-- `DefaultErrorRetry`, in nanoseconds. -/
def defaultErrorRetry : Int :=
  15000000000

/-- `Earliest`: the sooner of two deadlines; a non-positive one is none. -/
def earliest (first second : Int) : Int :=
  if first ≤ 0 then max second 0 else if second ≤ 0 then first else min first second

/-- `failed`. -/
def failed (terminal : Bool) (revisit : Int) : Int :=
  if terminal then revisit else earliest revisit defaultErrorRetry

/-- `pass` and `keyPass`: the deadline a pass asks for. -/
def pass (outcome : Outcome) : Int :=
  match outcome.failure with
  | some terminal => failed terminal outcome.revisit
  | none => outcome.revisit

/-- `clampRevisit`. -/
def clampRevisit (duration resync : Int) : Int :=
  if duration ≤ 0 then 0 else min duration resync

/-- `rearm`: when the timer will fire. -/
def rearm (now duration : Int) : Option Int :=
  if 0 < duration then some (now + duration) else none

/-- `workQueue`: the keys that wait, or the whole set. -/
structure WorkQueue where
  whole : Bool := false
  order : List String := []

/-- `workQueue.add`. -/
def WorkQueue.add (queue : WorkQueue) (keys : List String) : WorkQueue :=
  { queue with
    order := keys.foldl
      (fun order key => if key ∈ order then order else order ++ [key]) queue.order }

/-- `Config`: `keyed` says that `ReconcileKey` is set. -/
structure Config (Entry : Type) where
  keyed : Bool
  keyFor : Option (Entry → Option (List String))
  key : Entry → String
  resync : Int

variable {Entry : Type}

/-- The resync period after `fixDefaults`. -/
def Config.period (cfg : Config Entry) : Int :=
  if cfg.resync ≤ 0 then defaultResync else cfg.resync

/-- `watchSet.observe`, as far as the queue is concerned. -/
def observe (cfg : Config Entry) (entry : Entry) (queue : WorkQueue) : WorkQueue :=
  if !cfg.keyed then
    queue
  else
    match cfg.keyFor with
    | none => queue.add [cfg.key entry]
    | some keyFor =>
      match keyFor entry with
      | none => { queue with whole := true }
      | some keys => queue.add keys

/--
The loop between two steps.  `due` are the deadlines that the last whole-set
pass and the key passes since then asked for; no step reads it.
-/
structure Loop where
  clock : Int
  timer : Option Int := none
  queue : WorkQueue := {}
  changes : Bool := false
  due : List Int := []

section

variable (cfg : Config Entry)

/-- A watch update, or a trigger or re-established watch that names no key. -/
def arrive (loop : Loop) (update : Option Entry) : Loop :=
  { loop with
    changes := true
    queue := match update with
      | some entry => observe cfg entry loop.queue
      | none => { loop.queue with whole := true } }

/-- A branch that ends with a whole-set pass. -/
def wholePass (loop : Loop) (outcome : Outcome) : Loop :=
  let now := loop.clock + outcome.elapsed
  let timer := rearm now (clampRevisit (pass outcome) cfg.period)
  { loop with clock := now, timer := timer, due := timer.toList }

/-- The time at which passes run one after the other are over. -/
def ended (start : Int) : List Outcome → Int
  | [] => start
  | outcome :: rest => ended (start + outcome.elapsed) rest

/-- The deadlines such passes ask for, each counted from the pass's end. -/
def asked (start : Int) : List Outcome → List Int
  | [] => []
  | outcome :: rest =>
    let now := start + outcome.elapsed
    (rearm now (clampRevisit (pass outcome) cfg.period)).toList ++ asked now rest

/-- `serve`, where the context ends after `alive` keys. -/
def serve (loop : Loop) (whole : Outcome) (keys : String → Outcome) (alive : Nat) : Loop :=
  if !cfg.keyed then
    wholePass cfg loop whole
  else if loop.queue.whole then
    wholePass cfg { loop with queue := {} } whole
  else
    let outcomes := (loop.queue.order.take alive).map keys
    let now := ended loop.clock outcomes
    let revisit := outcomes.foldl (fun revisit outcome => earliest revisit (pass outcome)) 0
    { loop with
      queue := {}
      clock := now
      timer := rearm now (clampRevisit revisit cfg.period)
      due := loop.due ++ asked cfg loop.clock outcomes }

/-- What happens to the loop, with the results of the passes it runs. -/
inductive Event (Entry : Type) where
  | elapse (time : Nat)
  | arrives (update : Option Entry)
  | resync (outcome : Outcome)
  | deadline (outcome : Outcome)
  | change (settling : Nat) (more late : List (Option Entry)) (whole : Outcome)
    (keys : String → Outcome) (alive : Nat)
  | cancelled (more : List (Option Entry))

/-- The loop when a burst has settled; what comes `late` signals once more. -/
def settle (loop : Loop) (settling : Nat) (more late : List (Option Entry)) : Loop :=
  { (more ++ late).foldl (arrive cfg) loop with
    clock := loop.clock + settling, changes := !late.isEmpty }

/-- One branch of `Run`, or what happens between two. -/
def step (loop : Loop) : Event Entry → Option Loop
  | .elapse time => some { loop with clock := loop.clock + time }
  | .arrives update => some (arrive cfg loop update)
  | .resync outcome => some (wholePass cfg { loop with queue := {} } outcome)
  | .deadline outcome =>
    if loop.timer.any fun fires => fires ≤ loop.clock then
      some (wholePass cfg { loop with queue := {} } outcome)
    else
      none
  | .change settling more late whole keys alive =>
    if loop.changes then
      some (serve cfg (settle cfg loop settling more late) whole keys alive)
    else
      none
  | .cancelled more => if loop.changes then some (settle cfg loop 0 more []) else none

/-- What `Run` reaches from its startup pass on by steps that are allowed. -/
inductive Reaches (allowed : Loop → Event Entry → Prop) : Loop → Prop where
  | start (clock : Int) (updates : List (Option Entry)) (outcome : Outcome) :
    Reaches allowed (wholePass cfg (updates.foldl (arrive cfg) { clock := clock }) outcome)
  | step {loop after : Loop} {event : Event Entry} (reached : Reaches allowed loop)
    (permitted : allowed loop event) (stepped : Reconciler.step cfg loop event = some after) :
    Reaches allowed after

/-- The timer is armed to fire no later than any deadline. -/
def Honoured (loop : Loop) : Prop :=
  ∀ deadline ∈ loop.due, ∃ fires, loop.timer = some fires ∧ fires ≤ deadline

/--
Key passes are run only if, counted from their end, one of them asks for a
deadline no later than each that is due and each that they ask for themselves.
-/
def Permits (loop : Loop) : Event Entry → Prop
  | .change settling more late _ keys alive =>
    let settled := settle cfg loop settling more late
    let outcomes := (settled.queue.order.take alive).map keys
    cfg.keyed = true → settled.queue.whole = false → ∀ deadline ∈ loop.due ++
      asked cfg settled.clock outcomes, ∃ outcome ∈ outcomes, 0 < pass outcome ∧
      ended settled.clock outcomes + min (pass outcome) cfg.period ≤ deadline
  | _ => True

end

/-! ## Deadlines of a branch -/

section

variable {cfg : Config Entry} {now bound : Int}

theorem Config.period_pos : 0 < cfg.period := by
  unfold Config.period
  split
  · decide
  · omega

theorem rearm_clampRevisit_iff :
    (∃ fires, rearm now (clampRevisit duration cfg.period) = some fires ∧ fires ≤ bound) ↔
      0 < duration ∧ now + min duration cfg.period ≤ bound := by
  have positive := @Config.period_pos _ cfg
  unfold rearm clampRevisit
  constructor
  · rintro ⟨fires, armed, inTime⟩
    split_ifs at armed
    · omega
    · cases armed
      exact ⟨by omega, inTime⟩
  · rintro ⟨asks, inTime⟩
    refine ⟨_, ?_, inTime⟩
    rw [if_neg (Int.not_le.2 asks), if_pos (Int.lt_min.2 ⟨asks, positive⟩)]

/-- The timer of a burst of key passes, by what they ask for. -/
theorem rearm_burst_iff (outcomes : List Outcome) :
    (∃ fires, rearm now (clampRevisit
          (outcomes.foldl (fun revisit outcome => earliest revisit (pass outcome)) 0)
          cfg.period) = some fires ∧ fires ≤ bound) ↔
      ∃ outcome ∈ outcomes, 0 < pass outcome ∧ now + min (pass outcome) cfg.period ≤ bound := by
  have folded : ∀ first : Int,
      (0 < outcomes.foldl (fun revisit outcome => earliest revisit (pass outcome)) first ∧
          now + min (outcomes.foldl
            (fun revisit outcome => earliest revisit (pass outcome)) first) cfg.period ≤ bound) ↔
        (0 < first ∧ now + min first cfg.period ≤ bound) ∨ ∃ outcome ∈ outcomes, 0 < pass outcome ∧
            now + min (pass outcome) cfg.period ≤ bound := by
    induction outcomes with
    | nil => simp
    | cons outcome rest induction =>
      intro first
      have sooner : (0 < earliest first (pass outcome) ∧
            now + min (earliest first (pass outcome)) cfg.period ≤ bound) ↔
          (0 < first ∧ now + min first cfg.period ≤ bound) ∨
            (0 < pass outcome ∧ now + min (pass outcome) cfg.period ≤ bound) := by
        unfold earliest
        split_ifs <;> omega
      rw [List.foldl_cons, induction, sooner, or_assoc, List.exists_mem_cons_iff]
  rw [rearm_clampRevisit_iff, folded]
  simp

theorem honoured_wholePass (loop : Loop) (outcome : Outcome) :
    Honoured (wholePass cfg loop outcome) := by
  intro deadline asked
  exact ⟨deadline, Option.mem_toList.1 asked, Int.le_refl deadline⟩

theorem settle_fields (loop : Loop) (settling : Nat) (more late : List (Option Entry)) :
    (settle cfg loop settling more late).due = loop.due ∧
      (settle cfg loop settling more late).timer = loop.timer := by
  refine List.foldlRecOn (more ++ late) (arrive cfg)
      (motive := fun reached => reached.due = loop.due ∧ reached.timer = loop.timer)
      ⟨rfl, rfl⟩ ?_
  intro reached same update _
  exact same

/-- A step keeps the deadlines exactly if it is permitted. -/
theorem honoured_step_iff (honoured : Honoured loop)
    (stepped : step cfg loop event = some after) : Honoured after ↔ Permits cfg loop event := by
  cases event with
  | elapse time | arrives update =>
    cases stepped
    exact iff_of_true honoured trivial
  | resync outcome =>
    cases stepped
    exact iff_of_true (honoured_wholePass _ _) trivial
  | deadline outcome =>
    rw [step, Option.ite_none_right_eq_some] at stepped
    cases stepped.2
    exact iff_of_true (honoured_wholePass _ _) trivial
  | cancelled more =>
    rw [step, Option.ite_none_right_eq_some] at stepped
    cases stepped.2
    refine iff_of_true ?_ trivial
    have same := @settle_fields _ cfg loop 0 more []
    rwa [Honoured, same.1, same.2]
  | change settling more late whole keys alive =>
    rw [step, Option.ite_none_right_eq_some] at stepped
    cases stepped.2
    have same := @settle_fields _ cfg loop settling more late
    unfold serve
    split_ifs with unkeyed all
    · exact iff_of_true (honoured_wholePass _ _) fun keyed => by simp [keyed] at unkeyed
    · exact iff_of_true (honoured_wholePass _ _) fun _ none => by
        simp [none] at all
    · simp only [Bool.not_eq_eq_eq_not, Bool.not_true, Bool.not_eq_false] at unkeyed
      simp only [Honoured, Permits, unkeyed, all, forall_const, rearm_burst_iff, same.1]

end

/--
A run whose steps are all permitted keeps the timer armed for every deadline
that is due, and the first step that is not permitted misses one.
-/
theorem revisit_deadlines_honoured (cfg : Config Entry) :
    (∀ loop, Reaches cfg (Permits cfg) loop → Honoured loop) ∧
      ∀ loop event after, Reaches cfg (Permits cfg) loop →
        step cfg loop event = some after → ¬Permits cfg loop event → ¬Honoured after := by
  have honoured : ∀ loop, Reaches cfg (Permits cfg) loop → Honoured loop := by
    intro loop reached
    induction reached with
    | start clock updates outcome => exact honoured_wholePass _ _
    | step reached permitted stepped induction =>
      exact (honoured_step_iff induction stepped).2 permitted
  refine ⟨honoured, fun loop event after reached stepped forbidden => ?_⟩
  rwa [honoured_step_iff (honoured loop reached) stepped]

namespace Sample

/-- A loop over single keys. -/
def keyed : Config String where
  keyed := true
  keyFor := none
  key := id
  resync := 0

/-- A pass that asks for nothing. -/
def quiet : Outcome :=
  ⟨0, 0, none⟩

/-- A startup pass that asks for a revisit within ten seconds. -/
def started : Loop :=
  wholePass keyed ⟨0, none, {}, false, []⟩ ⟨0, 10000000000, none⟩

end Sample

open Sample

/-- A change of one key cancels the revisit that another resource asked for. -/
theorem key_change_cancels_revisit :
    ∃ loop, Reaches keyed (fun _ _ => True) loop ∧
      loop.due = [10000000000] ∧ loop.timer = none := by
  have changed : Reaches keyed (fun _ _ => True) (arrive keyed started (some "b")) :=
    .step (.start 0 [] ⟨0, 10000000000, none⟩) trivial
      (show step keyed started (.arrives (some "b")) = some _ from rfl)
  have served : step keyed (arrive keyed started (some "b"))
      (.change 0 [] [] quiet (fun _ => quiet) 1) = some _ := rfl
  exact ⟨_, .step changed trivial served, rfl, rfl⟩

/-- A change of one key that asks to be revisited earlier keeps the deadline. -/
theorem revisit_deadlines_honoured_started :
    ∃ loop, Reaches keyed (Permits keyed) loop ∧
      loop.due = [10000000000, 5000000000] ∧ Honoured loop := by
  have changed : Reaches keyed (Permits keyed) (arrive keyed started (some "b")) :=
    .step (.start 0 [] ⟨0, 10000000000, none⟩)
      (show Permits keyed started (.arrives (some "b")) from trivial) rfl
  have permitted : Permits keyed (arrive keyed started (some "b"))
      (.change 0 [] [] quiet (fun _ => ⟨0, 5000000000, none⟩) 1) := by
    intro _ _
    decide
  have reached := Reaches.step changed permitted rfl
  exact ⟨_, reached, rfl, (revisit_deadlines_honoured keyed).1 _ reached⟩

end Spinifex.Reconciler
