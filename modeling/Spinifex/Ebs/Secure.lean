import Spinifex.Concurrency.Refinement
import Spinifex.Ebs.Writers

/-!
# Attachments that nothing undoes

An attachment is secure when the instance has the volume and its node, if it
runs, exports it.  An attach that fails undoes its publish and its claim by the
volume's name, so it is to be shown that it undoes no other attach's work.

The runs are those in which an attach takes the hot-plug lock only while the
volume's document is available, and finds the document in another state only
once the attachment is secure.  What is already known of attaches, that the
volumes instances hold are assigned to them, is assumed of each call.
-/

namespace Spinifex.Ebs

open Aws Concurrency Go Function List.Subset
open Concurrency.Discipline

/-! ## Secure attachments -/

section

variable {Index : Type}

/-- The instance has the volume, and its node exports it. -/
structure Cluster.Secure (cluster : Cluster Index) (id volumeID : String) : Prop where
  holds : cluster.Holds id volumeID
  exported : ∀ host, cluster.running id = some host → cluster.exports host.node volumeID = true

/--
The hot-plug lock is taken while the document is available, and a read finds
it available or the attachment secure.
-/
def Timely (id : String) (key : Key) (_ : Index) :
    (op : Op) → Cluster Index → Reply op → Prop
  | .lock _, before, _ =>
    (before.documents key).map Volume.state = some .available
  | .getVolume read .inspect, before, _ =>
    read.volume = key.volume → ∀ volume ∈ before.documents read,
      volume.state = .available ∨ before.Secure id key.volume
  | _, _, _ => True

/-- The timely runs in which no claim overwrites another. -/
def timely (Index : Type) (id : String) (key : Key) :
    System Index Op Reply (Cluster Index) Outcome :=
  ((unclaimed Index).restrict (Timely id key)).still

/-- Those runs beside the custody map. -/
def timelyWatched (Index : Type) (id : String) (key : Key) :
    System Index Op Reply (Watched Index) Outcome :=
  (timely Index id key).observed custody

theorem timelyWatched_within (id : String) (key : Key) :
    (timelyWatched Index id key).Within (watched Index) where
  perform performed := ⟨performed.1.1, performed.2⟩
  drift drifted := drifted.1.elim
  finish := rfl

end

/-! ## What is to be shown of a call -/

section

variable {Index : Type} (id : String) (key : Key)

/-- The node of an instance stays, and a secure attachment does. -/
structure Secures (before after : Watched Index) : Prop where
  node : (after.1.running id).map Running.node = (before.1.running id).map Running.node
  secure : before.1.Secure id key.volume → after.1.Secure id key.volume

/-- A call with the hot-plug lock may count on the exports. -/
def Publishes (index : Index) (before after : Watched Index) : Prop :=
  before.1.attachMu id = some index → after.1.attachMu id = some index ∧
    ∀ node, before.1.exports node key.volume = true → after.1.exports node key.volume = true

/-- What is to be shown of the calls of timely runs. -/
def security (Index : Type) : Extra (timelyWatched Index id key) where
  evolves := Secures id key
  spares := Publishes id key
  evolves_refl _ := ⟨rfl, fun secure => secure⟩
  evolves_trans left right := ⟨right.node.trans left.node, fun secure =>
      right.secure (left.secure secure)⟩
  spares_refl _ _ locked := ⟨locked, fun _ exported => exported⟩
  spares_trans left right locked := ⟨(right (left locked).1).1, fun node exported =>
      (right (left locked).1).2 node ((left locked).2 node exported)⟩
  drift_evolves drifted := drifted.1.elim

/-- Attaches keep order and secure attachments. -/
def protection (Index : Type) :
    Discipline ((exclusion Index).guarded (timelyWatched Index id key)) :=
  (exclusion Index).refine (timelyWatched_within id key) (security id key Index)

end

/-! ## Calls that undo nothing -/

/-- The calls of an attach but those that unpublish. -/
def Op.Benign : Op → Prop
  | .unpublish _ _ => False
  | .deleteStopped _ => False
  | .shutdown _ => False
  | .forget _ => False
  | .unlock _ => False
  | .updateStopped _ mutate => ∀ vm, vm.volumes ⊆ (mutate vm).volumes
  | _ => True

section

variable {Index : Type} {index : Index} {before after : Cluster Index} {other : String}

/-- No command takes a device out of a guest. -/
theorem Guest.Does.keeps
    (done : Guest.Does volumeID command guest changed) (plugged : guest.devices other ≠ none) :
    changed.devices other ≠ none := by
  have set : ∀ (device : Device) (backed : guest.nodes volumeID = true),
      (guest.setDevice volumeID device backed).devices other ≠ none := by
    intro device backed
    by_cases same : other = volumeID
    · subst other
      simp [Guest.setDevice]
    · simp only [Guest.setDevice, update_of_ne same]
      exact plugged
  cases done with
  | objectAdd | objectDel | blockdevAdd => exact plugged
  | deviceAdd _ port absent backed | deviceDel _ present => exact set _ _
  | blockdevDel _ unused => exact plugged

variable {reply : Except QMPError Unit}

theorem Guest.Runs.keeps (ran : Guest.Runs volumeID command (some guest) reply left)
    (plugged : guest.devices other ≠ none) :
    ∃ changed, left = some changed ∧ changed.devices other ≠ none := by
  have carried : (∃ old new, some guest = some old ∧ left = some new ∧
        Guest.Does volumeID command old new) →
      ∃ changed, left = some changed ∧ changed.devices other ≠ none := by
    rintro ⟨old, new, same, rfl, done⟩
    cases same
    exact ⟨new, rfl, done.keeps plugged⟩
  rcases reply with error | _
  · cases error with
    | deviceNotFound | nodeNotFound => exact ⟨guest, ran.1, plugged⟩
    | nodeInUse => exact ⟨guest, ran, plugged⟩
    | other text =>
      rcases ran with unchanged | done
      · exact ⟨guest, unchanged, plugged⟩
      · exact carried done
  · exact carried ran

theorem Cluster.InGuest.qmp {id volumeID named : String} (inside : before.InGuest id volumeID)
    {guest : Option Guest} (ran : Guest.Runs named command (before.guests other) reply guest) :
    (before.setGuest other guest).InGuest id volumeID := by
  rcases inside with ⟨old, present, plugged⟩
  by_cases same : id = other
  · subst other
    rw [present] at ran
    rcases ran.keeps plugged with ⟨changed, rfl, stays⟩
    exact ⟨changed, before.guests_setGuest_self _ _, stays⟩
  · exact ⟨old, (Cluster.guests_setGuest_of_ne same).trans present, plugged⟩

/-- What the benign calls do not take away. -/
structure Cluster.Keeps (before after : Cluster Index) : Prop where
  inGuest : ∀ id volumeID, before.InGuest id volumeID → after.InGuest id volumeID
  stopped : ∀ id vm, before.stopped id = some vm →
    ∃ changed, after.stopped id = some changed ∧ vm.volumes ⊆ changed.volumes
  node : ∀ id, (after.running id).map Running.node = (before.running id).map Running.node
  exports : ∀ node volumeID,
    before.exports node volumeID = true → after.exports node volumeID = true
  attachMu : ∀ id index, before.attachMu id = some index → after.attachMu id = some index

variable (cluster : Cluster Index)

theorem Cluster.Keeps.refl : cluster.Keeps cluster :=
  ⟨fun _ _ inside => inside, fun _ vm stored => ⟨vm, stored, List.Subset.refl _⟩,
    fun _ => rfl, fun _ _ exported => exported,
    fun _ _ locked => locked⟩

theorem Cluster.Keeps.publish
    (node volumeID : String) : cluster.Keeps (cluster.setExport node volumeID true) := by
  refine ⟨fun _ _ inside => inside, fun _ vm stored => ⟨vm, stored, List.Subset.refl _⟩,
      fun _ => rfl, fun other named exported => ?_,
      fun _ _ locked => locked⟩
  simp only [Cluster.setExport, update_apply]
  split
  next same =>
    subst other
    rw [update_apply]
    split
    · rfl
    · exact exported
  · exact exported

theorem Op.Benign.keeps {op : Op} {reply : Reply op} (benign : op.Benign)
    (performed : perform index op before reply after) : before.Keeps after := by
  cases becomes_of_perform performed with
  | same => exact .refl _
  | unpublish | removeStopped | shutdown | removeRunning | unlock => cases benign
  | putDocument | removeDocument =>
    obtain ⟨inGuest, stopped, node, exports, attachMu⟩ := Cluster.Keeps.refl before
    exact ⟨inGuest, stopped, node, exports, attachMu⟩
  | @putStopped id mutate vm present =>
    refine ⟨fun _ _ inside => inside, fun other old stored => ?_, fun _ => rfl,
        fun _ _ exported => exported, fun _ _ locked => locked⟩
    by_cases same : other = id
    · subst other
      cases present.symm.trans stored
      exact ⟨_, before.stopped_putStopped_self _ _, benign vm⟩
    · exact ⟨old, (Cluster.stopped_putStopped_of_ne same).trans stored, refl _⟩
  | editRunning id mutate =>
    refine ⟨fun _ _ inside => inside, fun _ vm stored => ⟨vm, stored, refl _⟩,
        fun other => ?_, fun _ _ exported => exported, fun _ _ locked => locked⟩
    by_cases same : other = id
    · subst other
      simp only [Cluster.editRunning, update_self, Option.map_map]
      rfl
    · simp only [Cluster.editRunning, update_of_ne same]
  | @lock id free =>
    refine ⟨fun _ _ inside => inside, fun _ vm stored => ⟨vm, stored, refl _⟩,
        fun _ => rfl, fun _ _ exported => exported, fun other holder locked => ?_⟩
    have different : other ≠ id := by
      rintro rfl
      cases free.symm.trans locked
    exact (update_of_ne different _ _).trans locked
  | command ran =>
    exact ⟨fun _ _ inside => inside.qmp ran, fun _ vm stored => ⟨vm, stored, refl _⟩,
        fun _ => rfl, fun _ _ exported => exported, fun _ _ locked => locked⟩
  | publish => exact .publish _ _ _

theorem Cluster.Keeps.secure {id volumeID : String} (keeps : before.Keeps after)
    (secure : before.Secure id volumeID) : after.Secure id volumeID := by
  constructor
  · rcases secure.holds with inside | ⟨vm, stored, listed⟩
    · exact .inl (keeps.inGuest id volumeID inside)
    · rcases keeps.stopped id vm stored with ⟨changed, present, more⟩
      exact .inr ⟨changed, present, more listed⟩
  · intro host present
    have node := keeps.node id
    rw [present, Option.map_some] at node
    rcases Option.map_eq_some_iff.1 node.symm with ⟨old, stored, same⟩
    rw [← same]
    exact keeps.exports _ _ (secure.exported old stored)

/-- A benign call meets the additional obligations. -/
theorem Cluster.Keeps.security {id : String} (keeps : before.Keeps after) :
    (Ebs.security id key Index).Keeps index (before, held) (after, kept) :=
  ⟨⟨keeps.node id, keeps.secure⟩,
    fun other _ locked => ⟨keeps.attachMu id other locked, fun node exported =>
        keeps.exports node key.volume exported⟩⟩

end

/-! ## Rules -/

section

variable {Index : Type} {index : Index} {id : String} {key : Key} {seen : Watched Index}

/-- What a program upholds in timely runs. -/
abbrev Protects {First : Type}
    (index : Index) (id : String) (key : Key) (post : First → Watched Index → Prop)
    (program : Session First) (seen : Watched Index) : Prop :=
  (protection id key Index).Upholds index post program seen

/-- From a precondition, what a program upholds in timely runs. -/
abbrev Assures {First : Type}
    (index : Index) (id : String) (key : Key) (pre : Watched Index → Prop) (program : Session First)
    (post : First → Watched Index → Prop) : Prop :=
  (protection id key Index).Ensures index pre program post

/-- A property that the others leave alone in timely runs. -/
abbrev Lasting (index : Index) (id : String) (key : Key) (property : Watched Index → Prop) : Prop :=
  (protection id key Index).Stable index property

variable {before after : Watched Index} {op : Op} {reply : Reply op}

theorem Op.Reading.unchanged (reading : op.Reading)
    (performed : (timelyWatched Index id key).perform index op before reply after) :
    after = before := by
  rcases before with ⟨before, held⟩
  rcases after with ⟨after, kept⟩
  rcases performed with ⟨⟨⟨performed, _⟩, _⟩, followed⟩
  have cluster : after = before := by
    cases op with
    | getVolume key purpose => exact performed.1
    | listKeys => exact performed
    | isStopped id | loadStopped id | route id | get id
    | qemuConfirmedDead id => exact performed.1
    | ask question => exact performed
    | _ => cases reading
  have custody : kept = held := by
    cases op with
    | getVolume key purpose | listKeys | isStopped id | loadStopped id
    | route id | get id | qemuConfirmedDead id | ask question => exact followed
    | _ => cases reading
  rw [cluster, custody]

theorem timely_keeps (performed : (timelyWatched Index id key).perform index op before reply after)
    (benign : op.Benign) : before.1.Keeps after.1 :=
  benign.keeps performed.1.1.1

variable {First : Type} {program : Session First}

/-- A program of reads keeps whatever lasts. -/
theorem assures_reading (reading : Reading program) (lasting : Lasting index id key pre) :
    Assures index id key pre program fun _ => pre := by
  intro seen _ holds
  refine upholds_only ?_ reading lasting holds
  rintro op before reply after allowed inOrder ⟨performed, _, kept⟩
  cases allowed.unchanged performed
  refine ⟨kept.refine ⟨?_, ?_⟩, .refl _⟩
  · exact (security id key Index).evolves_refl _
  · exact fun other _ => (security id key Index).spares_refl _ _

/-- A read, and what it tells. -/
theorem assures_read {learned : Reply op → Watched Index → Prop} (reading : op.Reading)
    (lasting : Lasting index id key pre)
    (tells : ∀ (state : Watched Index) (reply : Reply op),
      InOrder state → pre state → perform index op state.1 reply state.1 →
        Timely id key index op state.1 reply → learned reply state) :
    Assures index id key pre (call op) fun reply state => pre state ∧ learned reply state := by
  apply refine_request lasting
  intro before reply after inOrder met performed kept
  cases reading.unchanged performed
  refine ⟨⟨?_, fun other _ => ?_⟩, met, ?_⟩
  · exact (security id key Index).evolves_refl _
  · exact (security id key Index).spares_refl _ _
  · exact tells before reply inOrder met performed.1.1.1 performed.1.2

/-- A program of benign calls. -/
theorem protects_benign
    (benign : program.Only Op.Benign) : Protects index id key (fun _ _ => True) program seen := by
  induction program generalizing seen with
  | done result => trivial
  | call op next induction =>
    rintro before relied inOrder reply after ⟨performed, _, kept⟩
    refine ⟨kept.refine ?_, induction reply (benign.2 reply)⟩
    exact (timely_keeps performed benign.1).security

theorem locked_lasting (lock : Option String) : Lasting index id key (Locked index lock) :=
  (locked_stable lock).refine

/-- A program of benign calls keeps the hot-plug lock. -/
theorem assures_locked (benign : program.Only Op.Benign) :
    Assures index id key (Locked index (some id)) program fun _ => Locked index (some id) := by
  intro seen _ locked
  induction program generalizing seen with
  | done result => exact locked
  | call op next induction =>
    rintro before relied inOrder reply after ⟨performed, _, kept⟩
    have met := locked_lasting _ relied inOrder locked
    have keeps := timely_keeps performed benign.1
    refine ⟨kept.refine keeps.security,
        induction reply (benign.2 reply) kept.invariant fun other member => ?_⟩
    exact keeps.attachMu other index (met other member)

theorem secure_lasting : Lasting index id key fun state => state.1.Secure id key.volume :=
  fun _ _ relied _ secure => relied.evolves.2.secure secure

/-- A secure attachment is secure when a program ends. -/
theorem Assures.secure (assures : Assures index id key pre program post) :
    Assures index id key (fun state => pre state ∧ state.1.Secure id key.volume) program
      fun result state => post result state ∧ state.1.Secure id key.volume := by
  rintro seen inOrder ⟨holds, secure⟩
  refine (Upholds.evolves (assures inOrder holds)).mono ?_ inOrder
  intro result state _ met
  exact ⟨met.1, met.2.2.secure secure⟩

/-! ### Under the hot-plug lock -/

/-- The call has the lock, and the volume is not in the guest. -/
def Bare (index : Index) (id : String) (key : Key) (state : Watched Index) : Prop :=
  Locked index (some id) state ∧ ¬state.1.InGuest id key.volume

theorem bare_lasting : Lasting index id key (Bare index id key) :=
  (unplugged_stable id key.volume).refine

/-- Nothing a passive call takes away is part of an attachment. -/
theorem Bare.passive (bare : Bare index id key before) (inOrder : InOrder before)
    (performed : (timelyWatched Index id key).perform index op before reply after)
    (passive : op.Passive) :
    (security id key Index).Keeps index before after ∧ Bare index id key after := by
  have fades := passive.fades performed.1.1.1
  have consistent := inOrder.consistent
  refine ⟨⟨⟨?_, fun secure => ⟨?_, ?_⟩⟩, ?_⟩, ?_, ?_⟩
  · rw [fades.running]
  · rcases secure.holds with inside | listed
    · exact absurd inside bare.2
    · unfold Cluster.Holds
      rw [fades.stopped]
      exact .inr listed
  · intro host present
    rw [fades.running] at present
    rcases secure.holds with inside | ⟨vm, stored, _⟩
    · exact absurd inside bare.2
    · have apart := consistent.apart id (by rw [stored]; exact nofun)
      cases apart.symm.trans present
  · intro other different owned
    cases owned.symm.trans (bare.1 id rfl)
    exact absurd rfl different
  · intro other member
    rw [fades.attachMu]
    exact bare.1 other member
  · exact fun inside => bare.2 (fades.inGuest id _ inside)

theorem assures_bare (passive : Passive program) :
    Assures index id key (Bare index id key) program fun _ =>
      Bare index id key := by
  intro seen inOrder bare
  induction program generalizing seen with
  | done result => exact bare
  | call op next induction =>
    rintro before relied inOrder reply after ⟨performed, _, kept⟩
    have met := bare_lasting relied inOrder bare
    have outcome := met.passive inOrder performed passive.1
    exact ⟨kept.refine outcome.1, induction reply (passive.2 reply) kept.invariant outcome.2⟩

/-- The volume is published on the instance's node as well. -/
structure Ready (index : Index) (id : String) (key : Key) (node : String)
    (state : Watched Index) : Prop where
  bare : Bare index id key state
  exported : state.1.exports node key.volume = true
  node : (state.1.running id).map Running.node = some node

/-- The node an instance runs on. -/
def Sits (id node : String) (state : Watched Index) : Prop :=
  (state.1.running id).map Running.node = some node

theorem sits_lasting (node : String) : Lasting index id key (Sits id node) :=
  fun _ _ relied _ sits => relied.evolves.2.node.trans sits

theorem ready_lasting (node : String) : Lasting index id key (Ready index id key node) := by
  intro before after relied inOrder ready
  refine ⟨bare_lasting relied inOrder ready.bare, ?_, sits_lasting node relied inOrder ready.node⟩
  exact (relied.spares.2 (ready.bare.1 id rfl)).2 node ready.exported

/-- Calls that leave records, locks and exports alone. -/
inductive Op.Mild : Op → Prop where
  | reading {op : Op} (reading : op.Reading) : Mild op
  | put (seen volume : Volume) : Mild (.putVolume seen volume)
  | qmp {id volumeID : String} {command : QMPCommand}
    (passive : (Op.qmp id volumeID command).Passive) :
    Mild (.qmp id volumeID command)

theorem Op.Reading.benign (reading : op.Reading) : op.Benign := by
  cases op <;> trivial

theorem Op.Mild.benign (mild : op.Mild) : op.Benign := by
  cases mild with
  | reading reading => exact reading.benign
  | put seen volume | qmp passive => trivial

theorem Op.Mild.inGuest (mild : op.Mild)
    (performed : (timelyWatched Index id key).perform index op before reply after)
    (inside : after.1.InGuest id volumeID) : before.1.InGuest id volumeID := by
  cases mild with
  | reading reading =>
    cases reading.unchanged performed
    exact inside
  | put seen volume =>
    rcases performed.1.1.1 with same | ⟨_, same⟩
    · exact inside.congr (by rw [same]; rfl)
    · exact inside.congr (by rw [same])
  | @qmp other named command passive =>
    have ran : perform index (.qmp other named command) before.1 reply after.1 := performed.1.1.1
    exact (passive.fades ran).inGuest id volumeID inside

variable {node : String}

theorem Ready.mild (ready : Ready index id key node before) (mild : op.Mild)
    (performed : (timelyWatched Index id key).perform index op before reply after) :
    Ready index id key node after := by
  have keeps := timely_keeps performed mild.benign
  refine ⟨⟨fun other member => ?_, fun inside => ?_⟩, ?_, ?_⟩
  · exact keeps.attachMu other index (ready.bare.1 other member)
  · exact ready.bare.2 (mild.inGuest performed inside)
  · exact keeps.exports node key.volume ready.exported
  · exact (keeps.node id).trans ready.node

theorem assures_ready (mild : program.Only Op.Mild) :
    Assures index id key (Ready index id key node) program fun _ =>
      Ready index id key node := by
  intro seen _ ready
  induction program generalizing seen with
  | done result => exact ready
  | call op next induction =>
    rintro before relied inOrder reply after ⟨performed, _, kept⟩
    have met := ready_lasting node relied inOrder ready
    have keeps := timely_keeps performed mild.1.benign
    exact ⟨kept.refine keeps.security,
        induction reply (mild.2 reply) kept.invariant (met.mild mild.1 performed)⟩

end

end Spinifex.Ebs
