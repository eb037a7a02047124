import Spinifex.Go.Netip

/-!
# The two allocators of an external pool

An external pool hands out public addresses from a range of its configuration.
A second allocator takes the addresses of the gateway router ports from another
range, which is either configured explicitly or derived from the subnet of the
gateway.  Both ranges are computed on unsigned 32-bit integers.

The first allocator skips the explicit range and knows nothing of the derived
one, so the derived range has to stay clear of the pool's range by its own
computation.  It does, except where the network number is the last address of
the address space and the number after it wraps to zero.
-/

namespace Spinifex.Network.Pool

open Go Go.Netip Option Prod

/-- The part of `ExternalPoolConfig` both allocators read. -/
structure ExternalPoolConfig where
  name : String
  rangeStart : String
  rangeEnd : String
  gateway : String
  prefixLen : Int
  gwLrpRangeStart : String
  gwLrpRangeEnd : String
deriving DecidableEq, Repr

/-- The part of `PoolRecord` the allocator of public addresses reads. -/
structure PoolRecord where
  poolName : String
  rangeStart : String
  rangeEnd : String
  gwLrpRangeStart : String
  gwLrpRangeEnd : String
  /-- The addresses the `Allocated` map has a key for. -/
  allocated : List String
  cursor : String
deriving DecidableEq, Repr

/-- `rangesMatch`: whether a record carries the ranges a pool configures. -/
def rangesMatch (record : PoolRecord) (pool : ExternalPoolConfig) : Bool :=
  record.rangeStart = pool.rangeStart && record.rangeEnd = pool.rangeEnd &&
    record.gwLrpRangeStart = pool.gwLrpRangeStart &&
    record.gwLrpRangeEnd = pool.gwLrpRangeEnd

/-- `uint32ToIPv4` and the text of the result. -/
def addressText (address : Nat) : String :=
  String.ofList (formatIPv4 address)

/-! ## Public addresses -/

/-- How picking a public address ends without one. -/
inductive Failure where
  | invalidRange (rangeStart rangeEnd : String)
  | exhausted (poolName : String)
  /-- The remainder by a range size that wrapped to zero. -/
  | divideByZero
deriving DecidableEq, Repr

def Failure.text : Failure → String
  | .invalidRange rangeStart rangeEnd =>
    "invalid IP range: " ++ rangeStart ++ " - " ++ rangeEnd
  | .exhausted poolName =>
    "pool " ++ poolName ++ " exhausted: InsufficientAddressCapacity"
  | .divideByZero => "runtime error: integer divide by zero"

/-- The range the walk skips: both ends are set and are addresses. -/
def skippedRange (record : PoolRecord) : Option (Nat × Nat) :=
  if record.gwLrpRangeStart ≠ "" ∧ record.gwLrpRangeEnd ≠ "" then do
    let start ← parseIP4 record.gwLrpRangeStart
    let stop ← parseIP4 record.gwLrpRangeEnd
    return (start, stop)
  else
    none

/-- Whether an address lies in a range, if there is one. -/
def within (range : Option (Nat × Nat)) (address : Nat) : Bool :=
  match range with
  | none => false
  | some (start, stop) => start ≤ address && address ≤ stop

/-- Where the walk starts: one past a cursor that lies in the range. -/
def walkOffset (cursor : Option Nat) (start stop total : Nat) : Except Failure Nat :=
  match cursor with
  | none => .ok 0
  | some address =>
    if start ≤ address ∧ address ≤ stop then
      if total = 0 then .error .divideByZero else .ok (uint32 (address - start + 1) % total)
    else
      .ok 0

/-- The walk over the range, with the steps left and the steps taken. -/
def walk (record : PoolRecord) (start total offset : Nat) : Nat → Nat → Option Nat
  | 0, _ => none
  | left + 1, step =>
    let address := uint32 (start + uint32 (offset + step) % total)
    if within (skippedRange record) address = true ∨ addressText address ∈ record.allocated then
      walk record start total offset left (step + 1)
    else
      some address

/-- `nextAvailableIP`, up to the text of the address. -/
def nextAvailable (record : PoolRecord) : Except Failure Nat :=
  match parseIP4 record.rangeStart, parseIP4 record.rangeEnd with
  | some start, some stop =>
    if stop < start then
      .error (.invalidRange record.rangeStart record.rangeEnd)
    else
      let total := uint32 (stop - start + 1)
      match walkOffset (parseIP4 record.cursor) start stop total with
      | .error failure => .error failure
      | .ok offset =>
        match walk record start total offset total 0 with
        | some address => .ok address
        | none => .error (.exhausted record.poolName)
  | _, _ => .error (.invalidRange record.rangeStart record.rangeEnd)

/-- `nextAvailableIP`. -/
def nextAvailableIP (record : PoolRecord) : Except Failure String :=
  (nextAvailable record).map addressText

/-! ## Gateway addresses -/

/-- The prefix length both ranges are computed with. -/
def effectivePrefix (pool : ExternalPoolConfig) : Nat :=
  if pool.prefixLen ≤ 0 ∨ 32 < pool.prefixLen then 24 else pool.prefixLen.toNat

/-- The explicit range, if it is set and valid. -/
def explicitRange (pool : ExternalPoolConfig) : Option (Nat × Nat) :=
  if pool.gwLrpRangeStart ≠ "" ∨ pool.gwLrpRangeEnd ≠ "" then do
    let start ← parseIP4 pool.gwLrpRangeStart
    let stop ← parseIP4 pool.gwLrpRangeEnd
    if start ≤ stop then
      return (start, stop)
    else
      none
  else
    none

/-- The pool's own range, if both ends are set and are addresses. -/
def poolRange (pool : ExternalPoolConfig) : Option (Nat × Nat) :=
  if pool.rangeStart ≠ "" ∧ pool.rangeEnd ≠ "" then do
    let start ← parseIP4 pool.rangeStart
    let stop ← parseIP4 pool.rangeEnd
    return (start, stop)
  else
    none

/-- The derived range, moved below a pool range it overlaps. -/
def shiftBelow (pool : Option (Nat × Nat)) (start stop : Nat) : Option (Nat × Nat) :=
  match pool with
  | none => some (start, stop)
  | some (poolStart, poolStop) =>
    if poolStart ≤ stop ∧ start ≤ poolStop then
      if poolStart < 17 then none else some (poolStart - 16, poolStart - 1)
    else
      some (start, stop)

/-- The range kept strictly between network number and broadcast address. -/
def clamp (network broadcast start stop : Nat) : Option (Nat × Nat) :=
  let start := if start ≤ network then uint32 (network + 1) else start
  let stop := if broadcast ≤ stop then broadcast - 1 else stop
  if stop < start then none else some (start, stop)

/-- A range around the gateway without it: the part before the gateway if it
is the last address, otherwise the part after it. -/
def besideGateway (gateway start stop : Nat) : Nat × Nat :=
  if gateway = start then (uint32 (start + 1), stop)
  else if gateway = stop then (start, stop - 1)
  else (uint32 (gateway + 1), stop)

/-- The range without the gateway. -/
def avoidGateway (gateway start stop : Nat) : Option (Nat × Nat) :=
  if start ≤ gateway ∧ gateway ≤ stop then
    if (besideGateway gateway start stop).2 < (besideGateway gateway start stop).1 then
      none
    else
      some (besideGateway gateway start stop)
  else
    some (start, stop)

/-- The range derived from the subnet of the gateway. -/
def autoRange (pool : ExternalPoolConfig) : Option (Nat × Nat) := do
  let gateway ← parseIP4 pool.gateway
  let hosts := 2 ^ (32 - effectivePrefix pool)
  let network := gateway / hosts * hosts
  let broadcast := network + (hosts - 1)
  if broadcast < 17 then
    none
  else
    let (start, stop) ← shiftBelow (poolRange pool) (broadcast - 16) (broadcast - 1)
    let (start, stop) ← clamp network broadcast start stop
    avoidGateway gateway start stop

/-- `gwLrpRange`: the ends of the range and the prefix length. -/
def gwLrpRange (pool : ExternalPoolConfig) : Option (Nat × Nat × Nat) :=
  match explicitRange pool with
  | some (start, stop) => some (start, stop, effectivePrefix pool)
  | none =>
    (autoRange pool).map fun range => (range.1, range.2, effectivePrefix pool)

/-! ## What the walk returns -/

variable {address : Nat}

theorem parseIP4_lt (parsed : parseIP4 text = some address) :
    address < 4294967296 := by
  obtain ⟨addr, -, found⟩ := bind_eq_some_iff.1 parsed
  have bound := addr.value_lt
  split at found
  next family =>
    rw [family] at bound
    obtain rfl := some.inj found
    exact bound
  · split at found
    · obtain rfl := some.inj found
      exact Nat.mod_lt _ (by decide)
    · cases found

theorem parseIP4_addressText (bound : address < 4294967296) :
    parseIP4 (addressText address) = some address := by
  have text : (Addr.v4 address).text = addressText address := by
    exact congrArg (fun value => String.ofList (formatIPv4 value)) (Nat.mod_eq_of_lt bound)
  have read : parseAddr (addressText address) = some (Addr.v4 address) := by
    rw [← text]
    exact parseAddr_text rfl
  unfold parseIP4
  rw [read]
  exact congrArg some (Nat.mod_eq_of_lt bound)

theorem set_of_parseIP4 (parsed : parseIP4 text = some address) : text ≠ "" := by
  rintro rfl
  cases parsed

variable {record : PoolRecord}

/-- The walk stays in the range and outside what it skips. -/
theorem walk_eq_some (fits : start + total ≤ 4294967296)
    (positive : 0 < total) (found : walk record start total offset left step = some address) :
    start ≤ address ∧ address < start + total ∧ within (skippedRange record) address = false := by
  induction left generalizing step with
  | zero => cases found
  | succ left induction =>
    rw [walk] at found
    split at found
    · exact induction found
    next free =>
      have index : uint32 (offset + step) % total < total := Nat.mod_lt _ positive
      obtain rfl := some.inj found
      rw [uint32_of_lt (by omega)] at free ⊢
      refine ⟨by omega, by omega, ?_⟩
      exact Bool.eq_false_iff.2 fun inside => free (Or.inl inside)

/-- A public address lies in the pool's range and not in the skipped one. -/
theorem nextAvailable_eq_ok (found : nextAvailable record = .ok address) :
    ∃ start stop, parseIP4 record.rangeStart = some start ∧ parseIP4 record.rangeEnd = some stop ∧
      start ≤ address ∧ address ≤ stop ∧ within (skippedRange record) address = false := by
  unfold nextAvailable at found
  split at found
  next start stop first last =>
    refine ⟨start, stop, first, last, ?_⟩
    have bound := parseIP4_lt last
    split at found
    · cases found
    · dsimp only at found
      split at found
      · cases found
      · split at found
        next reached walked =>
          obtain rfl := Except.ok.inj found
          rcases Nat.eq_zero_or_pos (uint32 (stop - start + 1)) with
            empty | positive
          · simp [empty, walk] at walked
          · have size : uint32 (stop - start + 1) ≤ stop - start + 1 := Nat.mod_le _ _
            obtain ⟨lower, upper, outside⟩ := walk_eq_some (by omega) positive walked
            exact ⟨lower, by omega, outside⟩
        · cases found
  · cases found

/-! ## Where the derived range lies -/

variable {poolStart poolStop : Nat}

/--
A pool range that is ordered and starts somewhere is never overlapped, and only
a range above it stays where it was.
-/
theorem shiftBelow_disjoint
    (shifted : shiftBelow (some (poolStart, poolStop)) start stop = some (start', stop')) :
    stop' < poolStart ∨ (poolStop < start ∧ start' = start) := by
  unfold shiftBelow at shifted
  dsimp only at shifted
  split at shifted
  · split at shifted
    · cases shifted
    · obtain ⟨rfl, rfl⟩ := mk.inj (some.inj shifted)
      omega
  · obtain ⟨rfl, rfl⟩ := mk.inj (some.inj shifted)
    omega

variable {start stop : Nat}

section

variable (clamped : clamp network broadcast start stop = some (start', stop'))

include clamped

theorem clamp_eq_some :
    start' = (if start ≤ network then uint32 (network + 1) else start) ∧
      stop' = (if broadcast ≤ stop then broadcast - 1 else stop) := by
  unfold clamp at clamped
  by_cases empty : (if broadcast ≤ stop then broadcast - 1 else stop) <
    (if start ≤ network then uint32 (network + 1) else start)
  · simp [if_pos empty] at clamped
  · rw [if_neg empty] at clamped
    obtain ⟨first, last⟩ := mk.inj (some.inj clamped)
    exact ⟨first.symm, last.symm⟩

/-- Clamping never raises the end and keeps it below the broadcast address. -/
theorem clamp_stop (positive : 0 < broadcast) : stop' ≤ stop ∧ stop' < broadcast := by
  obtain ⟨-, rfl⟩ := clamp_eq_some clamped
  constructor <;> split <;> omega

/-- Clamping lowers the start only where the number after the network wraps. -/
theorem clamp_start (fits : network + 1 < 4294967296) : start ≤ start' := by
  obtain ⟨rfl, -⟩ := clamp_eq_some clamped
  rw [uint32_of_lt fits]
  split <;> omega

end

theorem besideGateway_narrows (bound : stop + 1 < 4294967296)
    (inside : start ≤ gateway ∧ gateway ≤ stop) :
    start ≤ (besideGateway gateway start stop).1 ∧ (besideGateway gateway start stop).2 ≤ stop := by
  unfold besideGateway
  rw [uint32_of_lt (by omega), uint32_of_lt (by omega)]
  split
  · simp
  · split
    · simp
    · omega

/-- Leaving out the gateway only narrows a range that ends early enough. -/
theorem avoidGateway_narrows (bound : stop + 1 < 4294967296)
    (avoided : avoidGateway gateway start stop = some (start', stop')) :
    start ≤ start' ∧ stop' ≤ stop := by
  unfold avoidGateway at avoided
  split at avoided
  next inside =>
    split at avoided
    · cases avoided
    · have narrows := besideGateway_narrows bound inside
      rwa [some.inj avoided] at narrows
  · obtain ⟨rfl, rfl⟩ := mk.inj (some.inj avoided)
    exact ⟨Nat.le_refl _, Nat.le_refl _⟩

variable {pool : ExternalPoolConfig} {start stop : Nat}

/--
The stages of the derived range: the shift below the pool's range, the clamp
into the subnet and the gateway left out.
-/
theorem autoRange_eq_some (derived : autoRange pool = some (start, stop)) :
    ∃ gateway network broadcast shifted clamped, parseIP4 pool.gateway = some gateway ∧
      network = gateway / 2 ^ (32 - effectivePrefix pool) * 2 ^ (32 - effectivePrefix pool) ∧
      broadcast = network + (2 ^ (32 - effectivePrefix pool) - 1) ∧ 17 ≤ broadcast ∧
      shiftBelow (poolRange pool) (broadcast - 16) (broadcast - 1) = some shifted ∧
      clamp network broadcast shifted.1 shifted.2 = some clamped ∧
      avoidGateway gateway clamped.1 clamped.2 = some (start, stop) := by
  unfold autoRange at derived
  simp only [bind_eq_bind, bind_eq_some_iff] at derived
  obtain ⟨gateway, parsed, rest⟩ := derived
  split at rest
  · cases rest
  next large =>
    obtain ⟨shifted, moved, rest⟩ := bind_eq_some_iff.1 rest
    obtain ⟨clamped, kept, avoided⟩ := bind_eq_some_iff.1 rest
    exact ⟨gateway, _, _, shifted, clamped, parsed, rfl, rfl,
      Nat.le_of_not_lt large, moved, kept, avoided⟩

/-! ## The two ranges together -/

/--
The configurations whose derived range starts at zero: the gateway is the last
address of the address space and its subnet has no other, so that the number
after the network wraps, and the pool's range ends before the sixteen addresses
the derivation starts from.
-/
def WrapsAround (pool : ExternalPoolConfig) : Prop :=
  explicitRange pool = none ∧ pool.prefixLen = 32 ∧ parseIP4 pool.gateway = some 4294967295 ∧
    ∃ start stop, poolRange pool = some (start, stop) ∧ start ≤ stop ∧ stop < 4294967279

theorem effectivePrefix_le (pool : ExternalPoolConfig) : effectivePrefix pool ≤ 32 := by
  unfold effectivePrefix
  split <;> omega

theorem prefixLen_of_effectivePrefix (whole : effectivePrefix pool = 32) : pool.prefixLen = 32 := by
  unfold effectivePrefix at whole
  split at whole <;> omega

/-- A network number that is the last address has a subnet of one address. -/
theorem whole_of_network (fits : bits ≤ 32)
    (last : gateway / 2 ^ (32 - bits) * 2 ^ (32 - bits) = 4294967295) :
    bits = 32 ∧ gateway = 4294967295 := by
  have exponent : 32 - bits = 0 := by
    by_contra positive
    have even : 2 ∣ 2 ^ (32 - bits) :=
      Nat.dvd_of_pow_dvd (Nat.pos_of_ne_zero positive) (Nat.dvd_refl _)
    have divides : 2 ∣ 4294967295 := last ▸ Nat.dvd_mul_left_of_dvd even _
    omega
  rw [exponent, Nat.pow_zero, Nat.div_one, Nat.mul_one] at last
  exact ⟨by omega, last⟩

/-- Outside the wrapping configurations the derived range avoids the pool's. -/
theorem autoRange_disjoint (explicit : explicitRange pool = none)
    (configured : poolRange pool = some (poolStart, poolStop)) (ordered : poolStart ≤ poolStop)
    (derived : autoRange pool = some (start, stop)) (wraps : ¬ WrapsAround pool) :
    stop < poolStart ∨ poolStop < start := by
  obtain ⟨gateway, network, broadcast, ⟨shiftedStart, shiftedStop⟩, ⟨clampedStart, clampedStop⟩,
    parsed, isNetwork, isBroadcast, large, moved, kept, avoided⟩ := autoRange_eq_some derived
  rw [configured] at moved
  have hosts : 0 < 2 ^ (32 - effectivePrefix pool) := Nat.pow_pos (by decide)
  have aligned : network + 2 ^ (32 - effectivePrefix pool) ≤ 2 ^ 32 :=
    isNetwork ▸ aligned_add_le (parseIP4_lt parsed)
  obtain ⟨lowered, below⟩ := clamp_stop kept (by omega)
  obtain ⟨later, earlier⟩ := avoidGateway_narrows (by omega) avoided
  by_cases fits : network + 1 < 4294967296
  · have raised := clamp_start kept fits
    have apart := shiftBelow_disjoint moved
    omega
  · -- The number after the network wraps, so only the end is kept in place.
    have last : network = 4294967295 := by omega
    obtain ⟨whole, isGateway⟩ := whole_of_network (effectivePrefix_le pool) (isNetwork ▸ last)
    have reaches : broadcast - 16 ≤ poolStop := by
      by_contra short
      refine wraps ⟨explicit, prefixLen_of_effectivePrefix whole,
        isGateway ▸ parsed, poolStart, poolStop, configured, ordered, ?_⟩
      omega
    have before := shiftBelow_disjoint moved
    omega

/-- The record of a pool from which nothing has been handed out. -/
def freshRecord (pool : ExternalPoolConfig) : PoolRecord where
  poolName := pool.name
  rangeStart := pool.rangeStart
  rangeEnd := pool.rangeEnd
  gwLrpRangeStart := pool.gwLrpRangeStart
  gwLrpRangeEnd := pool.gwLrpRangeEnd
  allocated := []
  cursor := ""

/-- The four texts a record shares with its pool. -/
theorem rangesMatch_iff :
    rangesMatch record pool = true ↔ record.rangeStart = pool.rangeStart ∧
      record.rangeEnd = pool.rangeEnd ∧ record.gwLrpRangeStart = pool.gwLrpRangeStart ∧
      record.gwLrpRangeEnd = pool.gwLrpRangeEnd := by
  simp [rangesMatch, and_assoc]

/-- The explicit range of a pool is the one the walk skips. -/
theorem skippedRange_of_explicitRange (carries : rangesMatch record pool = true)
    (explicit : explicitRange pool = some (start, stop)) :
    skippedRange record = some (start, stop) := by
  obtain ⟨-, -, first, last⟩ := rangesMatch_iff.1 carries
  unfold explicitRange at explicit
  split at explicit
  · simp only [bind_eq_bind, bind_eq_some_iff] at explicit
    obtain ⟨start', parsedStart, stop', parsedStop, kept⟩ := explicit
    split at kept
    · obtain ⟨rfl, rfl⟩ := mk.inj (some.inj kept)
      unfold skippedRange
      rw [first, last, if_pos ⟨set_of_parseIP4 parsedStart,
        set_of_parseIP4 parsedStop⟩, parsedStart, parsedStop]
      rfl
    · cases kept
  · cases explicit

/-- Without a valid explicit range the walk skips nothing. -/
theorem within_of_explicitRange
    (carries : rangesMatch record pool = true) (explicit : explicitRange pool = none)
    (address : Nat) : within (skippedRange record) address = false := by
  obtain ⟨-, -, first, last⟩ := rangesMatch_iff.1 carries
  cases skips : skippedRange record with
  | none => rfl
  | some range =>
    unfold skippedRange at skips
    rw [first, last] at skips
    split at skips
    next set =>
      simp only [bind_eq_bind, bind_eq_some_iff] at skips
      obtain ⟨start', parsedStart, stop', parsedStop, kept⟩ := skips
      obtain ⟨rfl, rfl⟩ := mk.inj (some.inj kept)
      unfold explicitRange at explicit
      rw [if_pos (Or.inl set.1), parsedStart, parsedStop] at explicit
      simp only [bind_eq_bind, bind_some] at explicit
      split at explicit
      · cases explicit
      · simp only [within, Bool.and_eq_false_iff, decide_eq_false_iff_not]
        omega
    · cases skips

/-- The pool's range as the walk reads it from the record. -/
theorem poolRange_of_parseIP4 (first : parseIP4 pool.rangeStart = some start)
    (last : parseIP4 pool.rangeEnd = some stop) : poolRange pool = some (start, stop) := by
  unfold poolRange
  rw [if_pos ⟨set_of_parseIP4 first, set_of_parseIP4 last⟩, first, last]
  rfl

theorem parseIP4_of_poolRange (configured : poolRange pool = some (start, stop)) :
    parseIP4 pool.rangeStart = some start ∧ parseIP4 pool.rangeEnd = some stop := by
  unfold poolRange at configured
  split at configured
  · simp only [bind_eq_bind, bind_eq_some_iff] at configured
    obtain ⟨start', first, stop', last, kept⟩ := configured
    obtain ⟨rfl, rfl⟩ := mk.inj (some.inj kept)
    exact ⟨first, last⟩
  · cases configured

/-- A fresh pool without an explicit range hands out its first address. -/
theorem nextAvailable_freshRecord (explicit : explicitRange pool = none)
    (configured : poolRange pool = some (start, stop)) (ordered : start ≤ stop)
    (below : stop < 4294967295) : nextAvailable (freshRecord pool) = .ok start := by
  obtain ⟨first, last⟩ := parseIP4_of_poolRange configured
  have size : uint32 (stop - start + 1) = stop - start + 1 := uint32_of_lt (by omega)
  have skips : within (skippedRange (freshRecord pool)) start = false :=
    within_of_explicitRange (rangesMatch_iff.2 ⟨rfl, rfl, rfl, rfl⟩) explicit start
  have walked : walk (freshRecord pool) start (stop - start + 1) 0 (stop - start + 1) 0 =
      some start := by
    have zero : uint32 0 = 0 := rfl
    have unallocated : (freshRecord pool).allocated = [] := rfl
    rw [walk, Nat.zero_add, zero, Nat.zero_mod, Nat.add_zero,
      uint32_of_lt (by omega), if_neg (by simp [skips, unallocated])]
  have empty : parseIP4 "" = none := by decide
  have cursor : parseIP4 (freshRecord pool).cursor = none := empty
  unfold nextAvailable
  rw [show (freshRecord pool).rangeStart = pool.rangeStart from rfl,
    show (freshRecord pool).rangeEnd = pool.rangeEnd from rfl, first, last]
  simp only [Nat.not_lt.2 ordered, if_false, size, cursor, walkOffset, walked]

/-- The derived range of a wrapping configuration starts at zero. -/
theorem autoRange_of_wrapsAround
    (wraps : WrapsAround pool) : autoRange pool = some (0, 4294967294) := by
  obtain ⟨-, whole, gateway, start, stop, configured, ordered, short⟩ := wraps
  have bits : effectivePrefix pool = 32 := by
    simp [effectivePrefix, whole]
  have moved : shiftBelow (some (start, stop)) 4294967279 4294967294 =
      some (4294967279, 4294967294) := by
    exact if_neg (by omega)
  unfold autoRange
  rw [gateway, bits, configured]
  simp [moved, clamp, avoidGateway, uint32]

/--
The two allocators of a pool never overlap exactly if the configuration does
not wrap around.
-/
theorem allocators_disjoint_iff (pool : ExternalPoolConfig) :
    (∀ record text address start stop prefixLen, rangesMatch record pool = true →
      nextAvailableIP record = .ok text → parseIP4 text = some address →
      gwLrpRange pool = some (start, stop, prefixLen) → ¬ (start ≤ address ∧ address ≤ stop)) ↔
      ¬ WrapsAround pool := by
  constructor
  · intro disjoint wraps
    have derived := autoRange_of_wrapsAround wraps
    obtain ⟨explicit, -, -, start, stop, configured, ordered, short⟩ := wraps
    have found := nextAvailable_freshRecord explicit configured ordered (by omega)
    refine disjoint (freshRecord pool) (addressText start) start 0 4294967294 (effectivePrefix pool)
      (rangesMatch_iff.2 ⟨rfl, rfl, rfl, rfl⟩) ?_
      (parseIP4_addressText (by omega)) ?_ ⟨by omega, by omega⟩
    · rw [nextAvailableIP, found]
      rfl
    · rw [gwLrpRange, explicit, derived]
      rfl
  · intro wraps record text address start stop prefixLen carries found read range inside
    obtain ⟨rangeStart, rangeEnd, -, -⟩ := rangesMatch_iff.1 carries
    have picked : nextAvailable record = .ok address := by
      unfold nextAvailableIP at found
      cases taken : nextAvailable record with
      | error failure =>
        rw [taken] at found
        cases found
      | ok value =>
        obtain ⟨_, _, _, last, _, upper, _⟩ := nextAvailable_eq_ok taken
        have bound := parseIP4_lt last
        rw [taken] at found
        obtain rfl := Except.ok.inj found
        rw [parseIP4_addressText (by omega)] at read
        rw [some.inj read]
    obtain ⟨poolStart, poolStop, first, last, lower, upper, outside⟩ := nextAvailable_eq_ok picked
    unfold gwLrpRange at range
    cases explicit : explicitRange pool with
    | some ends =>
      rw [explicit] at range
      obtain ⟨rfl, rfl, -⟩ := mk.inj (some.inj range)
      rw [skippedRange_of_explicitRange carries explicit] at outside
      simp [within, inside.1, inside.2] at outside
    | none =>
      rw [explicit] at range
      obtain ⟨⟨derivedStart, derivedStop⟩, derived, same⟩ := map_eq_some_iff.1 range
      obtain ⟨rfl, rfl, -⟩ := mk.inj same
      have configured : poolRange pool = some (poolStart, poolStop) :=
        poolRange_of_parseIP4 (rangeStart ▸ first) (rangeEnd ▸ last)
      have apart := autoRange_disjoint explicit configured (by omega) derived wraps
      omega

/--
A pool behind a gateway that is the last address of the address space.  The
addresses are written as mapped ones, whose first 32 bits agree, so the check
of the loaded configuration finds the range inside the gateway's subnet.
-/
def wrappedPool : ExternalPoolConfig where
  name := "wan"
  rangeStart := "::ffff:10.0.0.10"
  rangeEnd := "::ffff:10.0.0.20"
  gateway := "::ffff:255.255.255.255"
  prefixLen := 32
  gwLrpRangeStart := ""
  gwLrpRangeEnd := ""

/-- Its first public address lies in the range of the gateway ports. -/
theorem allocators_overlap :
    rangesMatch (freshRecord wrappedPool) wrappedPool = true ∧
      nextAvailableIP (freshRecord wrappedPool) = .ok "10.0.0.10" ∧
      parseIP4 "10.0.0.10" = some 167772170 ∧
      gwLrpRange wrappedPool = some (0, 4294967294, 32) := by
  refine ⟨by decide +kernel, ?_, by decide +kernel, by decide +kernel⟩
  rfl

end Spinifex.Network.Pool
