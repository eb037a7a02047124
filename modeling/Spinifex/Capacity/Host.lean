import Mathlib.Algebra.BigOperators.Group.Finset.Piecewise
import Mathlib.Algebra.BigOperators.Group.List.Lemmas
import Mathlib.Algebra.Order.BigOperators.Group.Finset
import Mathlib.Algebra.Order.BigOperators.Group.List
import Mathlib.Algebra.Order.Monoid.Prod
import Mathlib.Data.Rat.Floor
import Mathlib.Tactic.Abel
import Mathlib.Tactic.Linarith

/-!
# The compute capacity of a host

A slot of a capacity reservation moves between the reservation's carve-out and
the instances launched into it; instances may outlive the reservation.  Over
every order of the critical sections the counters of the resource manager agree
with the reservations and the instances there are, and never exceed the host.
-/

namespace Spinifex.Capacity

open List Finset Function

/-- vCPUs and memory in GB. -/
abbrev Compute := ℤ × ℚ

/-- `InstanceTypeInfo`: what the catalog says of a type. -/
structure InstanceTypeInfo where
  vCPUs : Nat
  memoryMiB : Nat
  gpu : Bool

/-- What stays fixed; a resolved host reserve is not negative. -/
structure Config where
  host : Compute
  reserved : Compute
  reserved_nonneg : 0 ≤ reserved
  catalog : String → InstanceTypeInfo
  nbdkitChargeMiB : Nat

/-- `instanceMemChargeMiB`. -/
def Config.memChargeMiB (config : Config) (instanceType : String) : Nat :=
  (config.catalog instanceType).memoryMiB + config.nbdkitChargeMiB

/-- The charge of one instance of a type. -/
def Config.charge (config : Config) (instanceType : String) : Compute :=
  ((config.catalog instanceType).vCPUs, config.memChargeMiB instanceType / 1024)

/-- `capacityReservation`. -/
structure Reservation where
  accountID : String
  instanceType : String
  totalInstanceCount : ℤ
  perInstance : Compute
  consumedCount : ℤ := 0

/-- `ResourceManager`: no reservation is given the ID of an earlier one. -/
structure Manager where
  reservedCR : Compute := 0
  allocated : Compute := 0
  reservations : Nat → Option Reservation := fun _ => none
  nextID : Nat := 0

/-- What the critical sections fail with. -/
inductive Error where
  | insufficientResources (instanceType : String)
  | insufficientInstanceCapacity
  | invalidCapacityReservationIdNotFound
  | invalidParameterValue
  | reservationCapacityExceeded

/-- The text of an error. -/
def Error.text : Error → String
  | .insufficientResources instanceType =>
    "insufficient resources for instance type " ++ instanceType
  | .insufficientInstanceCapacity => "InsufficientInstanceCapacity"
  | .invalidCapacityReservationIdNotFound => "InvalidCapacityReservationId.NotFound"
  | .invalidParameterValue => "InvalidParameterValue"
  | .reservationCapacityExceeded => "ReservationCapacityExceeded"

/-! ## Admission -/

/-- The conversion of a float to an integer. -/
def truncate (value : ℚ) : ℤ :=
  if 0 ≤ value then ⌊value⌋ else ⌈value⌉

/-- `canAllocateCount`. -/
def canAllocateCount (available allocated : Compute) (vCPUs memMiB : Nat)
    (maxCount availGPU : ℤ) (requiresGPU : Bool) : ℤ :=
  if requiresGPU && availGPU = 0 then
    0
  else
    let remainingVCPU := available.1 - allocated.1
    let remainingMem := available.2 - allocated.2
    let memoryGB : ℚ := memMiB / 1024
    let countByCPU := if 0 < vCPUs then remainingVCPU.tdiv vCPUs else maxCount
    let countByMem := if 0 < memoryGB then truncate (remainingMem / memoryGB) else maxCount
    let result := min countByMem countByCPU
    let result := if requiresGPU then min result availGPU else result
    max (min result maxCount) 0

/-- `liveMemCount`. -/
def liveMemCount (count : ℤ) (availMemGB reservedMemGB memGB : ℚ) : ℤ :=
  if memGB ≤ 0 then count else max 0 (min count (truncate ((availMemGB - reservedMemGB) / memGB)))

section

variable (config : Config) (rm : Manager)

/-- `liveMemGate`: `reading` is what the host reports, if the gate is on. -/
def liveMemGate (count : ℤ) (instanceType : String) (reading : Option ℚ) : ℤ :=
  if count ≤ 0 then
    count
  else
    match reading with
    | none => count
    | some availGB =>
      liveMemCount count availGB (config.reserved.2 + rm.reservedCR.2)
        (config.memChargeMiB instanceType / 1024)

/-- `admitLocked`, where the GPU pool backs `availGPU` instances of the type. -/
def admitLocked (instanceType : String) (count availGPU : ℤ) (reading : Option ℚ) : ℤ × String :=
  let info := config.catalog instanceType
  let budget :=
    canAllocateCount (config.host - config.reserved - rm.reservedCR) rm.allocated info.vCPUs
      (config.memChargeMiB instanceType) count (if info.gpu then availGPU else 0) info.gpu
  let count := liveMemGate config rm budget instanceType reading
  (count, if count < budget then "live-memory" else "budget")

/-! ## Critical sections -/

/-- `allocate`. -/
def allocate (instanceType : String) (availGPU : ℤ) (reading : Option ℚ) : Except Error Manager :=
  if (admitLocked config rm instanceType 1 availGPU reading).1 < 1 then
    .error (.insufficientResources instanceType)
  else
    .ok { rm with allocated := rm.allocated + config.charge instanceType }

/-- `deallocate`. -/
def deallocate (instanceType : String) : Manager :=
  { rm with allocated := rm.allocated - config.charge instanceType }

/-- `CreateReservation`, with the record its handler makes. -/
def createReservation (accountID instanceType : String) (count : ℤ) : Except Error Manager :=
  let record : Reservation := ⟨accountID, instanceType, count, config.charge instanceType, 0⟩
  let want := record.totalInstanceCount • record.perInstance
  let remaining := config.host - config.reserved - rm.reservedCR - rm.allocated
  if remaining.1 < want.1 ∨ remaining.2 < want.2 then
    .error .insufficientInstanceCapacity
  else
    .ok { rm with
      reservedCR := rm.reservedCR + want
      reservations := Function.update rm.reservations rm.nextID (some record)
      nextID := rm.nextID + 1 }

/-- `CancelReservation`. -/
def cancelReservation (id : Nat) (accountID : String) : Manager × Option Reservation :=
  match rm.reservations id with
  | none => (rm, none)
  | some record =>
    if record.accountID ≠ accountID then
      (rm, none)
    else
      let remaining := record.totalInstanceCount - record.consumedCount
      ({ rm with
          reservedCR := rm.reservedCR - remaining • record.perInstance
          reservations := Function.update rm.reservations id none }, some record)

/-- Moves one slot of a reservation, or with `-1` moves it back. -/
def Manager.swap (id : Nat) (record : Reservation) (count : ℤ) : Manager :=
  { rm with
    reservedCR := rm.reservedCR - count • record.perInstance
    allocated := rm.allocated + count • record.perInstance
    reservations := Function.update rm.reservations id
      (some { record with consumedCount := record.consumedCount + count }) }

/-- `AllocateFromReservation`. -/
def allocateFromReservation (id : Nat) (accountID instanceType : String) (availGPU : ℤ) :
    Except Error Manager :=
  match rm.reservations id with
  | none => .error .invalidCapacityReservationIdNotFound
  | some record =>
    if record.accountID ≠ accountID then
      .error .invalidCapacityReservationIdNotFound
    else if record.instanceType ≠ instanceType then
      .error .invalidParameterValue
    else if record.totalInstanceCount ≤ record.consumedCount then
      .error .reservationCapacityExceeded
    else if (config.catalog instanceType).gpu ∧ availGPU < 1 then
      .error .insufficientInstanceCapacity
    else
      .ok (rm.swap id record 1)

/-- `ReleaseToReservation`. -/
def releaseToReservation (id : Nat) (instanceType : String) : Manager :=
  match rm.reservations id with
  | none => deallocate config rm instanceType
  | some record =>
    if 0 < record.consumedCount then rm.swap id record (-1) else deallocate config rm instanceType

end

/-! ## Runs -/

/-- An instance and the reservation it was launched into. -/
structure Instance where
  instanceType : String
  reservation : Option Nat
  deriving DecidableEq

/-- The manager and the instances that are live. -/
structure State where
  rm : Manager := {}
  live : List Instance := []

/-- The critical sections. -/
inductive Action where
  | allocate (instanceType : String) (availGPU : ℤ) (reading : Option ℚ)
  | deallocate (freed : Instance)
  | createReservation (accountID instanceType : String) (count : ℤ)
  | cancelReservation (id : Nat) (accountID : String)
  | allocateFromReservation (id : Nat) (accountID instanceType : String) (availGPU : ℤ)
  | releaseToReservation (freed : Instance) (id : Nat)

section

variable (config : Config)

/-- The state after a section; one that fails leaves it as it is. -/
def State.after (state : State) (live : List Instance) : Except Error Manager → State
  | .error _ => state
  | .ok rm => ⟨rm, live⟩

/-- A section; only live instances are freed, and counts are positive. -/
def step (state : State) : Action → Option State
  | .allocate instanceType availGPU reading =>
    some (state.after (⟨instanceType, none⟩ :: state.live)
      (allocate config state.rm instanceType availGPU reading))
  | .deallocate freed =>
    if freed ∈ state.live then
      some ⟨deallocate config state.rm freed.instanceType, state.live.erase freed⟩
    else
      none
  | .createReservation accountID instanceType count =>
    if 0 < count then
      some (state.after state.live (createReservation config state.rm accountID instanceType count))
    else
      none
  | .cancelReservation id accountID =>
    some ⟨(cancelReservation state.rm id accountID).1, state.live⟩
  | .allocateFromReservation id accountID instanceType availGPU =>
    some (state.after (⟨instanceType, some id⟩ :: state.live)
      (allocateFromReservation config state.rm id accountID instanceType availGPU))
  | .releaseToReservation freed id =>
    if freed ∈ state.live ∧ freed.reservation = some id then
      some ⟨releaseToReservation config state.rm id freed.instanceType, state.live.erase freed⟩
    else
      none

/-- A run from an empty host on. -/
def run (actions : List Action) : Option State :=
  actions.foldlM (step config) {}

/-- What a reservation still holds. -/
def unconsumed : Option Reservation → Compute
  | none => 0
  | some record => (record.totalInstanceCount - record.consumedCount) • record.perInstance

/-- The carve-out of the live reservations. -/
def Manager.held (rm : Manager) : Compute :=
  ∑ id ∈ Finset.range rm.nextID, unconsumed (rm.reservations id)

/-- The charges of the live instances. -/
def State.charged (state : State) : Compute :=
  (state.live.map fun live => config.charge live.instanceType).sum

/-- The vCPUs fit beside the host reserve if that fits itself, and so does the memory. -/
structure Fits (used : Compute) : Prop where
  vCPU : config.reserved.1 ≤ config.host.1 → config.reserved.1 + used.1 ≤ config.host.1
  mem : config.reserved.2 ≤ config.host.2 → config.reserved.2 + used.2 ≤ config.host.2

/-- The counters are what they stand for, and fit in the host. -/
structure Balanced (state : State) : Prop where
  reservedCR : state.rm.reservedCR = state.rm.held
  allocated : state.rm.allocated = state.charged config
  fits : Fits config (state.rm.reservedCR + state.rm.allocated)

/-- Capacity is conserved. -/
structure Conserved (state : State) : Prop extends Balanced config state where
  nonneg : 0 ≤ config.reserved ∧ 0 ≤ state.rm.reservedCR ∧ 0 ≤ state.rm.allocated
  counts : ∀ id record, state.rm.reservations id = some record →
    0 ≤ record.consumedCount ∧ record.consumedCount ≤ record.totalInstanceCount

/-- What is known of a reservation and the instances launched into it. -/
structure Backs (live : List Instance) (id : Nat) (record : Reservation) : Prop where
  perInstance : record.perInstance = config.charge record.instanceType
  launched : (live.countP fun other => other.reservation = some id : ℤ) ≤ record.consumedCount
  counts : record.consumedCount ≤ record.totalInstanceCount
  types : ∀ other ∈ live, other.reservation = some id → other.instanceType = record.instanceType

/-- The invariant of a run. -/
structure Sound (state : State) : Prop extends Balanced config state where
  unused : ∀ id, state.rm.nextID ≤ id →
    state.rm.reservations id = none ∧ ∀ other ∈ state.live, other.reservation ≠ some id
  records : ∀ id record, state.rm.reservations id = some record → Backs config state.live id record

end

variable {config : Config} {state : State}

/-! ## Charges and counts -/

theorem Config.charge_nonneg (instanceType : String) : 0 ≤ config.charge instanceType :=
  ⟨Int.natCast_nonneg _, div_nonneg (Nat.cast_nonneg _) (by norm_num)⟩

theorem one_le_of_truncate (atLeast : 1 ≤ truncate value) : 1 ≤ value := by
  unfold truncate at atLeast
  split_ifs at atLeast with sign
  · exact_mod_cast Int.le_floor.1 atLeast
  · have negative : ⌈value⌉ ≤ 0 := Int.ceil_le.2 (by exact_mod_cast (not_le.1 sign).le)
    omega

theorem le_of_one_le_tdiv {size : Nat} (positive : 0 < size)
    (quotient : 1 ≤ amount.tdiv size) : (size : ℤ) ≤ amount := by
  rcases le_or_gt 0 amount with sign | sign
  · rw [Int.tdiv_eq_ediv_of_nonneg sign, Int.le_ediv_iff_mul_le (by omega)] at quotient
    omega
  · have opposite := Int.tdiv_nonneg (Int.neg_nonneg.2 sign.le) (Int.natCast_nonneg size)
    rw [Int.neg_tdiv] at opposite
    omega

variable {count : ℤ}

theorem one_le_of_liveMemGate
    (admitted : 1 ≤ liveMemGate config state.rm count instanceType reading) : 1 ≤ count := by
  unfold liveMemGate at admitted
  split_ifs at admitted
  · exact admitted
  · omega

/-- An instance that is admitted fits in what remains, as far as it is charged. -/
theorem remaining_of_canAllocateCount {vCPUs memMiB : Nat}
    (admitted : 1 ≤ canAllocateCount available allocated vCPUs memMiB 1 availGPU requiresGPU) :
    (0 < vCPUs → (vCPUs : ℤ) ≤ available.1 - allocated.1) ∧
      (0 < (memMiB / 1024 : ℚ) → (memMiB / 1024 : ℚ) ≤ available.2 - allocated.2) := by
  have within (least most : ℤ) : (if requiresGPU then min least most else least) ≤ least := by
    split_ifs
    · exact min_le_left least most
    · exact le_refl least
  unfold canAllocateCount at admitted
  split at admitted
  · omega
  have bounded := (le_min_iff.1 ((le_max_iff.1 admitted).resolve_right (by norm_num))).1
  obtain ⟨byMem, byCPU⟩ := le_min_iff.1 (bounded.trans (within _ _))
  refine ⟨fun charged => ?_, fun charged => ?_⟩
  · rw [if_pos charged] at byCPU
    exact le_of_one_le_tdiv charged byCPU
  · rw [if_pos charged] at byMem
    exact (one_le_div charged).1 (one_le_of_truncate byMem)

theorem Fits.mono (fits : Fits config used) (less : later ≤ used) : Fits config later where
  vCPU room := (add_le_add_right less.1 _).trans (fits.vCPU room)
  mem room := (add_le_add_right less.2 _).trans (fits.mem room)

theorem charge_fits (admitted : 1 ≤ (admitLocked config state.rm instanceType 1 availGPU reading).1)
    (fits : Fits config (state.rm.reservedCR + state.rm.allocated)) :
    Fits config (state.rm.reservedCR + (state.rm.allocated + config.charge instanceType)) := by
  obtain ⟨byCPU, byMem⟩ := remaining_of_canAllocateCount (one_le_of_liveMemGate admitted)
  simp only [Prod.fst_sub, Prod.snd_sub] at byCPU byMem
  refine ⟨fun room => ?_, fun room => ?_⟩
  · have before := fits.vCPU room
    simp only [Config.charge, Prod.fst_add] at before ⊢
    omega
  · have before := fits.mem room
    simp only [Config.charge, Prod.snd_add] at before ⊢
    rcases lt_or_ge 0 (config.memChargeMiB instanceType / 1024 : ℚ) with charged | free
    · linarith [byMem charged]
    · linarith

/-! ## Steps -/

variable {id : Nat}

theorem Backs.cons {launched : Instance} (backs : Backs config live id record)
    (other : launched.reservation ≠ some id) : Backs config (launched :: live) id record := by
  refine ⟨backs.perInstance, ?_, backs.counts, fun live member into => ?_⟩
  · rw [countP_cons_of_neg (by simpa using other)]
    exact backs.launched
  · rcases mem_cons.1 member with rfl | member
    · exact absurd into other
    · exact backs.types live member into

theorem Backs.erase (freed : Instance) (backs : Backs config live id record) :
    Backs config (live.erase freed) id record := by
  refine ⟨backs.perInstance, le_trans ?_ backs.launched, backs.counts, fun live member =>
    backs.types live (mem_of_mem_erase member)⟩
  exact_mod_cast erase_sublist.countP_le

variable (sound : Sound config state)

include sound

theorem Sound.used (stored : state.rm.reservations id = some record) : id < state.rm.nextID := by
  by_contra beyond
  cases (sound.unused id (not_lt.1 beyond)).1.symm.trans stored

/-- What changing one reservation has to keep. -/
theorem Sound.update (used : id < nextID) (later : state.rm.nextID ≤ nextID) (held : reservedCR =
      state.rm.reservedCR - unconsumed (state.rm.reservations id) + unconsumed changed)
    (charged : allocated = (⟨state.rm, live⟩ : State).charged config)
    (fits : Fits config (reservedCR + allocated))
    (unused : ∀ id, nextID ≤ id → ∀ other ∈ live, other.reservation ≠ some id)
    (self : ∀ record, changed = some record → Backs config live id record)
    (others : ∀ other record, other ≠ id → Backs config state.live other record →
      Backs config live other record) :
    Sound config
      ⟨⟨reservedCR, allocated, update state.rm.reservations id changed, nextID⟩, live⟩ where
  reservedCR := by
    have member := Finset.mem_range.2 used
    have same : ∑ other ∈ range nextID, unconsumed (state.rm.reservations other) =
        state.rm.reservedCR := by
      rw [sound.reservedCR]
      refine (sum_subset (range_mono later) fun other _ beyond => ?_).symm
      rw [(sound.unused other (not_lt.1 (beyond ∘ Finset.mem_range.2))).1, unconsumed]
    have composed := congrArg (fun held : Nat → Compute => ∑ other ∈ range nextID, held other)
      (comp_update unconsumed state.rm.reservations id changed)
    refine Eq.trans ?_ composed.symm
    rw [sum_update_of_mem member, sdiff_singleton_eq_erase, sum_erase_eq_sub member]
    apply held.trans
    rw [← same]
    exact add_comm _ _
  allocated := charged
  fits := fits
  unused other beyond := ⟨(update_of_ne (used.trans_le beyond).ne' _ _).trans
    (sound.unused other (later.trans beyond)).1, unused other beyond⟩
  records other record found := by
    by_cases same : other = id
    · subst same
      exact self record (by simpa only [update_self] using found)
    · refine others other record same (sound.records other record ?_)
      exact (update_of_ne same _ _).symm.trans found

/-- What both directions of a swap have in common. -/
theorem Sound.swap (stored : state.rm.reservations id = some record)
    (charged : (⟨state.rm, live⟩ : State).charged config =
      state.charged config + count • record.perInstance)
    (unused : ∀ id, state.rm.nextID ≤ id → ∀ other ∈ live, other.reservation ≠ some id)
    (self : Backs config live id { record with consumedCount := record.consumedCount + count })
    (others : ∀ other record, other ≠ id → Backs config state.live other record →
      Backs config live other record) :
    Sound config ⟨state.rm.swap id record count, live⟩ := by
  refine sound.update (sound.used stored) (le_refl _) ?_ ?_
    (sound.fits.mono (le_of_eq ?_)) unused ?_ others
  · rw [stored]
    simp only [unconsumed, sub_zsmul, add_zsmul]
    abel
  · exact (congrArg (· + _) sound.allocated).trans charged.symm
  · abel
  · rintro _ ⟨⟩
    exact self

theorem Sound.deallocate (member : freed ∈ state.live) :
    Sound config ⟨deallocate config state.rm freed.instanceType, state.live.erase freed⟩ where
  reservedCR := sound.reservedCR
  allocated := by
    have charged := sum_map_erase (fun live => config.charge live.instanceType) member
    exact (congrArg (· - _) (sound.allocated.trans charged.symm)).trans (add_sub_cancel_left _ _)
  unused id beyond := ⟨(sound.unused id beyond).1, fun other member =>
      (sound.unused id beyond).2 other (mem_of_mem_erase member)⟩
  records id record stored := (sound.records id record stored).erase freed
  fits := sound.fits.mono (add_le_add_right (sub_le_self _ (Config.charge_nonneg _)) _)

theorem Sound.allocate
    (admitted : 1 ≤ (admitLocked config state.rm instanceType 1 availGPU reading).1) :
    Sound config ⟨{ state.rm with allocated := state.rm.allocated + config.charge instanceType },
      ⟨instanceType, none⟩ :: state.live⟩ where
  reservedCR := sound.reservedCR
  allocated := (congrArg (· + _) sound.allocated).trans (add_comm _ _)
  unused id beyond := ⟨(sound.unused id beyond).1,
    List.forall_mem_cons.2 ⟨(nofun), (sound.unused id beyond).2⟩⟩
  records id record stored := (sound.records id record stored).cons nofun
  fits := charge_fits admitted sound.fits

theorem Sound.createReservation (positive : 0 < count) (room : count • config.charge instanceType ≤
      config.host - config.reserved - state.rm.reservedCR - state.rm.allocated) :
    Sound config ⟨{ state.rm with
          reservedCR := state.rm.reservedCR + count • config.charge instanceType
          reservations := Function.update state.rm.reservations state.rm.nextID
            (some ⟨accountID, instanceType, count, config.charge instanceType, 0⟩)
          nextID := state.rm.nextID + 1 }, state.live⟩ := by
  obtain ⟨free, none⟩ := sound.unused state.rm.nextID (le_refl _)
  refine sound.update (Nat.lt_succ_self _) (Nat.le_succ _) ?_ sound.allocated ?_
    (fun id beyond => (sound.unused id (Nat.le_of_succ_le beyond)).2) ?_ fun _ _ _ kept => kept
  · rw [free, unconsumed, unconsumed, sub_zero, sub_zero]
  · obtain ⟨vCPU, mem⟩ := room
    simp only [Prod.fst_sub, Prod.snd_sub] at vCPU mem
    refine ⟨fun _ => ?_, fun _ => ?_⟩
    · simp only [Prod.fst_add]
      omega
    · simp only [Prod.snd_add]
      linarith
  · rintro _ ⟨⟩
    refine ⟨rfl, ?_, positive.le, fun other member into => absurd into (none other member)⟩
    rw [countP_eq_zero.2 fun other member => by simpa using none other member]
    exact le_refl _

theorem Sound.cancelReservation (id : Nat) (accountID : String) :
    Sound config ⟨(cancelReservation state.rm id accountID).1, state.live⟩ := by
  unfold Capacity.cancelReservation
  split
  · exact sound
  next record stored =>
    split_ifs
    · exact sound
    have backs := sound.records id record stored
    refine sound.update (sound.used stored) (le_refl _) ?_ sound.allocated (sound.fits.mono ?_)
      (fun id beyond => (sound.unused id beyond).2) ?_ fun _ _ _ kept => kept
    · rw [stored]
      exact (add_zero _).symm
    · refine add_le_add_left (sub_le_self _ ?_) _
      rw [backs.perInstance]
      exact zsmul_nonneg (Config.charge_nonneg _) (sub_nonneg.2 backs.counts)
    · rintro _ ⟨⟩

theorem Sound.allocateFromReservation (stored : state.rm.reservations id = some record)
    (left : record.consumedCount < record.totalInstanceCount) :
    Sound config ⟨state.rm.swap id record 1, ⟨record.instanceType, some id⟩ :: state.live⟩ := by
  have backs := sound.records id record stored
  refine sound.swap stored ?_ (fun other beyond => ?_) ?_ fun other changed different kept => ?_
  · rw [one_zsmul, backs.perInstance]
    exact add_comm _ _
  · refine forall_mem_cons.2 ⟨?_, (sound.unused other beyond).2⟩
    rintro ⟨⟩
    exact absurd (sound.used stored) (not_lt.2 beyond)
  · refine ⟨backs.perInstance, ?_, left, ?_⟩
    · rw [countP_cons_of_pos (by simp)]
      exact_mod_cast add_le_add_left backs.launched 1
    · exact forall_mem_cons.2 ⟨fun _ => rfl, backs.types⟩
  · apply kept.cons
    rintro ⟨⟩
    exact different rfl

theorem Sound.releaseToReservation (member : freed ∈ state.live)
    (into : freed.reservation = some id) :
    Sound config
      ⟨releaseToReservation config state.rm id freed.instanceType, state.live.erase freed⟩ := by
  unfold Capacity.releaseToReservation
  split
  · exact sound.deallocate member
  next record stored =>
    split_ifs
    swap
    · exact sound.deallocate member
    have backs := sound.records id record stored
    refine sound.swap stored ?_ (fun other beyond live kept => ?_) ?_ fun _ _ _ kept =>
      kept.erase freed
    · have charged := sum_map_erase (fun live => config.charge live.instanceType) member
      rw [neg_one_zsmul, backs.perInstance, ← backs.types freed member into, ← sub_eq_add_neg]
      exact eq_sub_of_add_eq' charged
    · exact (sound.unused other beyond).2 live (mem_of_mem_erase kept)
    · refine ⟨backs.perInstance, ?_, by linarith [backs.counts], (backs.erase freed).types⟩
      have launched := backs.launched
      rw [countP_erase, if_pos ⟨member, decide_eq_true into⟩]
      change _ ≤ record.consumedCount + -1
      omega

theorem Sound.step {after : State}
    (stepped : Capacity.step config state action = some after) : Sound config after := by
  cases action with
  | allocate instanceType availGPU reading =>
    cases stepped
    unfold Capacity.allocate
    split_ifs with refused
    · exact sound
    · exact sound.allocate (not_lt.1 refused)
  | deallocate freed =>
    rw [Capacity.step, Option.ite_none_right_eq_some] at stepped
    cases stepped.2
    exact sound.deallocate stepped.1
  | createReservation accountID instanceType count =>
    rw [Capacity.step, Option.ite_none_right_eq_some] at stepped
    cases stepped.2
    unfold Capacity.createReservation
    dsimp only
    split_ifs with refused
    · exact sound
    · obtain ⟨vCPU, mem⟩ := not_or.1 refused
      exact sound.createReservation stepped.1 ⟨not_lt.1 vCPU, not_lt.1 mem⟩
  | cancelReservation id accountID =>
    cases stepped
    exact sound.cancelReservation id accountID
  | allocateFromReservation id accountID instanceType availGPU =>
    cases stepped
    unfold Capacity.allocateFromReservation
    split
    · exact sound
    next record stored =>
      split_ifs with foreign type full
      · exact sound
      · exact sound
      · exact sound
      · exact sound
      · cases not_not.1 type
        exact sound.allocateFromReservation stored (not_le.1 full)
  | releaseToReservation freed id =>
    rw [Capacity.step, Option.ite_none_right_eq_some] at stepped
    cases stepped.2
    exact sound.releaseToReservation stepped.1.1 stepped.1.2

theorem Sound.conserved : Conserved config state := by
  have counts (id : Nat) (record : Reservation) (stored : state.rm.reservations id = some record) :
      0 ≤ record.consumedCount ∧ record.consumedCount ≤ record.totalInstanceCount := by
    have backs := sound.records id record stored
    exact ⟨(Int.natCast_nonneg _).trans backs.launched, backs.counts⟩
  refine ⟨sound.toBalanced, ⟨config.reserved_nonneg, ?_, ?_⟩, counts⟩
  · rw [sound.reservedCR]
    refine Finset.sum_nonneg fun id _ => ?_
    cases stored : state.rm.reservations id with
    | none => exact le_refl _
    | some record =>
      refine zsmul_nonneg ?_ (sub_nonneg.2 (counts id record stored).2)
      rw [(sound.records id record stored).perInstance]
      exact Config.charge_nonneg _
  · rw [sound.allocated]
    refine sum_nonneg fun charge member => ?_
    obtain ⟨live, _, rfl⟩ := mem_map.1 member
    exact Config.charge_nonneg _

omit sound

/-- In every run the counters agree with what there is and fit in the host. -/
theorem capacity_conserved (config : Config) (actions : List Action) {state : State}
    (ran : run config actions = some state) : Conserved config state := by
  have sound : ∀ (actions : List Action) (before : State), Sound config before →
      actions.foldlM (step config) before = some state → Sound config state := by
    intro actions
    induction actions with
    | nil =>
      rintro before sound ⟨⟩
      exact sound
    | cons action rest induction =>
      intro before sound ran
      rw [foldlM_cons, Option.bind_eq_bind, Option.bind_eq_some_iff] at ran
      obtain ⟨after, stepped, ran⟩ := ran
      exact induction after (sound.step stepped) ran
  refine Sound.conserved (sound actions {}
    ⟨⟨rfl, rfl, ?_⟩, fun _ _ => ⟨rfl, fun _ none => ?_⟩, ?_⟩ ran)
  · exact ⟨fun room => by simpa using room, fun room => by simpa using room⟩
  · cases none
  · rintro _ _ ⟨⟩

/-- A host whose instances have two vCPUs and 2 GB each. -/
def small : Config where
  host := (8, 16)
  reserved := (1, 2)
  reserved_nonneg := ⟨by decide, by norm_num⟩
  catalog _ := ⟨2, 2048, false⟩
  nbdkitChargeMiB := 256

/--
An instance is launched into a reservation for two and another one beside it, the
reservation is cancelled, and the first instance is released afterwards.
-/
def booking : List Action :=
  [.createReservation "a" "t3.small" 2, .allocateFromReservation 0 "a" "t3.small" 0,
    .allocate "t3.small" 0 (some 16), .cancelReservation 0 "a",
    .releaseToReservation ⟨"t3.small", some 0⟩ 0]

theorem capacity_conserved_booking :
    ∃ state, run small booking = some state ∧ state.live = [⟨"t3.small", none⟩] ∧
      Conserved small state := by
  have played : (run small booking).map State.live = some [⟨"t3.small", none⟩] := by
    decide +kernel
  obtain ⟨state, ran, live⟩ := Option.map_eq_some_iff.1 played
  exact ⟨state, ran, live, capacity_conserved small booking ran⟩

end Spinifex.Capacity
