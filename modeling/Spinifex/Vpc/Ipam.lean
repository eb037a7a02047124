import Spinifex.Go.Netip
import Spinifex.State.KeyValue

/-!
# Addresses of a subnet

The record of a subnet lists the addresses handed out of its block.  An
allocation walks the block from its fifth address for one that is not listed; a
claim names the address it wants and checks it against the block by other means.
Both add an entry under compare-and-set, a release removes one.

The two range computations are compared with one notion of a usable address:
neither one of the first four of the block nor its last.
-/

namespace Spinifex.Vpc.Ipam

open Concurrency Go Go.Netip State Option Addr

/-! ## Records -/

/-- The package's own error values. -/
inductive Sentinel where
  | ipOutOfRange
  | ipInUse
deriving DecidableEq, Repr

/-- The text of each error value. -/
def Sentinel.text : Sentinel → String
  | .ipOutOfRange => "ip address not usable in subnet"
  | .ipInUse => "ip address already allocated"

/-- An error of the package. -/
abbrev Failure := State.Failure Sentinel

/-- An error value with a text after it. -/
def Sentinel.detail (sentinel : Sentinel) (text : String) : Failure :=
  ⟨[.own sentinel], sentinel.text ++ ": " ++ text⟩

/-- `IPEntry`: an address with its purpose and owner. -/
structure IPEntry where
  ip : String
  purpose : String
  ownerID : String
deriving DecidableEq, Repr

/-- `IPAMRecord`: the allocated addresses of a subnet. -/
structure IPAMRecord where
  subnetId : String
  cidrBlock : String
  allocated : List IPEntry
deriving DecidableEq, Repr

/-- The record an absent key starts from. -/
def IPAMRecord.zero : IPAMRecord := ⟨"", "", []⟩

def IPAMRecord.ips (record : IPAMRecord) : List String :=
  record.allocated.map IPEntry.ip

/-- The error of a block that does not parse. -/
def parseFailure (cidrBlock : String) : Failure :=
  ⟨[], "parse CIDR " ++ Failure.quoted cidrBlock⟩

/-- The error of a block without a free address. -/
def exhaustedFailure (cidrBlock : String) : Failure :=
  ⟨[], "subnet " ++ cidrBlock ++ " exhausted, no IPs available"⟩

/-! ## Ranges -/

/-- Whether an address is among the next addresses from a head on. -/
def amongHead (addr : Addr) : Nat → Option Addr → Bool
  | 0, _ => false
  | count + 1, head =>
    head == some addr || amongHead addr count (head.bind Addr.next)

/--
`isClaimableAddr`: inside the block, outside the reserved head, and not the
last address.
-/
def isClaimableAddr (block : Prefix) (addr : Addr) : Bool :=
  block.contains addr && !amongHead addr 4 (some block.masked.addr) && addr.next.any block.contains

/--
The walk of `nextAvailableIP`: as long as the next address is in the block, the
present one is a candidate.
-/
def walk (block : Prefix) (allocated : List String) :
    Nat → Option Addr → Option String
  | 0, _ => none
  | steps + 1, addr =>
    match addr, addr.bind Addr.next with
    | some candidate, some after =>
      if block.contains after then
        if candidate.text ∈ allocated then
          walk block allocated steps (some after)
        else
          some candidate.text
      else
        none
    | _, _ => none

/-- `nextAvailableIP`: the first free address after the reserved head. -/
def nextAvailableIP (record : IPAMRecord) : Except Failure String :=
  match parsePrefix record.cidrBlock with
  | none => .error (parseFailure record.cidrBlock)
  | some block =>
    match walk block record.ips block.size (block.masked.addr.skip 4) with
    | some ip => .ok ip
    | none => .error (exhaustedFailure record.cidrBlock)

/-! ## Mutations -/

/-- Only an absent record takes the caller's block. -/
def IPAMRecord.adopt (record : IPAMRecord) (subnetId cidrBlock : String) : IPAMRecord :=
  if record.cidrBlock = "" then
    { record with subnetId := subnetId, cidrBlock := cidrBlock }
  else
    record

def IPAMRecord.add (record : IPAMRecord) (entry : IPEntry) : IPAMRecord :=
  { record with allocated := record.allocated ++ [entry] }

/-- The mutation of `AllocateIP`. -/
def allocateMutation (subnetId cidrBlock purpose ownerID : String) (record : IPAMRecord) :
    Except Failure (IPAMRecord × Bool) :=
  let adopted := record.adopt subnetId cidrBlock
  match nextAvailableIP adopted with
  | .error failure => .error failure
  | .ok next => .ok (adopted.add ⟨next, purpose, ownerID⟩, true)

/-- The mutation of `ClaimIP`. -/
def claimMutation (subnetId cidrBlock purpose ownerID ip : String)
    (record : IPAMRecord) : Except Failure (IPAMRecord × Bool) :=
  let adopted := record.adopt subnetId cidrBlock
  if ip ∈ adopted.ips then
    .error (Sentinel.ipInUse.detail (ip ++ " already allocated in subnet " ++ subnetId))
  else
    .ok (adopted.add ⟨ip, purpose, ownerID⟩, true)

/-- The mutation of `ReleaseIP`: the first entry of the address goes. -/
def releaseMutation
    (subnetId ip : String) (record : IPAMRecord) : Except Failure (IPAMRecord × Bool) :=
  if ip ∈ record.ips then
    .ok ({ record with allocated := record.allocated.eraseP fun entry => entry.ip = ip },
        true)
  else
    .error ⟨[], "IP " ++ ip ++ " not allocated in subnet " ++ subnetId⟩

/-! ## Calls -/

/-- The calls ask for nothing besides the bucket. -/
abbrev Answer : Empty → Type := Empty.elim

/-- A program on the bucket of records. -/
abbrev Session := State.Session IPAMRecord Answer

/-- `ipamCASAttempts`. -/
def ipamCASAttempts : Nat := 50

/-- `ipamConfig`. -/
def ipamConfig : StoreConfig Sentinel where
  attempts := ipamCASAttempts
  exhausted := some fun key attempts =>
      ⟨[], "IPAM CAS exhausted for subnet " ++ key ++ " after " ++ toString attempts ++ " attempts"⟩

/-- The address of the last entry of a record. -/
def IPAMRecord.lastIP (record : IPAMRecord) : String :=
  (record.allocated.getLast?.map IPEntry.ip).getD ""

/--
`AllocateIP`.  The address that the closure leaves in the caller's variable is
the one it appended in its last run.
-/
def allocateIP (subnetId cidrBlock purpose ownerID : String) : Session (Except Failure String) := do
  match ←
    Store.upsertRecord ipamConfig subnetId IPAMRecord.zero
      (allocateMutation subnetId cidrBlock purpose ownerID) with
  | .error failure => return .error failure
  | .ok record => return .ok record.lastIP

/-- The address a claim asks for, checked against the block. -/
def claimedAddr (cidrBlock requestedIP : String) : Except Failure Addr :=
  match parseAddr requestedIP with
  | none =>
    .error (Sentinel.ipOutOfRange.detail
      (Failure.quoted requestedIP ++ " is not a valid IP address"))
  | some addr =>
    match parsePrefix cidrBlock with
    | none => .error (parseFailure cidrBlock)
    | some block =>
      if isClaimableAddr block addr then
        .ok addr
      else
        .error (Sentinel.ipOutOfRange.detail
          (addr.text ++ " is not a usable address in subnet " ++ cidrBlock))

/-- `ClaimIP`. -/
def claimIP (subnetId cidrBlock purpose ownerID requestedIP : String) :
    Session (Except Failure String) := do
  match claimedAddr cidrBlock requestedIP with
  | .error failure => return .error failure
  | .ok addr =>
    match ←
      Store.upsertRecord ipamConfig subnetId IPAMRecord.zero
        (claimMutation subnetId cidrBlock purpose ownerID addr.text) with
    | .error failure => return .error failure
    | .ok _ => return .ok addr.text

/-- `ReleaseIP`. -/
def releaseIP (subnetId ip : String) : Session (Except Failure Unit) := do
  match ← Store.mutate ipamConfig subnetId IPAMRecord.zero (releaseMutation subnetId ip) with
  | .ok _ => return .ok ()
  | .error failure =>
    if failure.is .recordNotFound then
      return .error ⟨[], "no IPAM record for subnet " ++ subnetId⟩
    else
      return .error failure

/-! ## Usable addresses -/

/--
A usable host address of a block: not one of the first four addresses and not
the last.
-/
structure Usable (block : Prefix) (addr : Addr) : Prop where
  family : addr.family = block.addr.family
  zone : addr.zone = ""
  above : block.first + 4 ≤ addr.value
  below : addr.value + 1 < block.first + block.size

theorem amongHead_none (addr : Addr) (count : Nat) : amongHead addr count none = false := by
  induction count with
  | zero => rfl
  | succ count induction => simpa [amongHead] using induction

theorem amongHead_iff :
    amongHead addr count (some head) = true ↔ addr.family = head.family ∧ addr.zone = head.zone ∧
      head.value ≤ addr.value ∧ addr.value < head.value + count := by
  induction count generalizing head with
  | zero =>
    simp only [amongHead, Bool.false_eq_true, false_iff]
    omega
  | succ count induction =>
    have first : (some head == some addr) = true ↔ addr = head := by
      simp only [beq_iff_eq, some.injEq]
      exact eq_comm
    simp only [amongHead, Bool.or_eq_true, first, bind_some]
    constructor
    · rintro (rfl | later)
      · exact ⟨rfl, rfl, Nat.le_refl _, by omega⟩
      · cases step : head.next with
        | none =>
          simp [step, amongHead_none] at later
        | some after =>
          rw [step] at later
          obtain ⟨family, value, zone⟩ := next_eq_some.1 step
          obtain ⟨family', zone', lower, upper⟩ := induction.1 later
          exact ⟨family'.trans family, zone'.trans zone, by omega, by omega⟩
    · rintro ⟨family, zone, lower, upper⟩
      rcases Nat.eq_or_lt_of_le lower with same | above
      · exact Or.inl (ext family same.symm zone)
      · right
        have bound := addr.value_lt
        rw [family] at bound
        let after : Addr := { head with value := head.value + 1, value_lt := by omega }
        have step : head.next = some after := next_eq_some.2 ⟨rfl, rfl, rfl⟩
        rw [step]
        refine induction.2 ⟨family, zone, above, ?_⟩
        change addr.value < head.value + 1 + count
        omega

variable {block : Prefix} {addr : Addr}

/-- The claim's check accepts exactly the usable addresses. -/
theorem isClaimableAddr_iff : isClaimableAddr block addr = true ↔ Usable block addr := by
  have whole := block.first_add_size_le
  have head : amongHead addr 4 (some block.masked.addr) = true ↔ addr.family = block.addr.family ∧
      addr.zone = block.addr.zone ∧ block.first ≤ addr.value ∧ addr.value < block.first + 4 :=
    amongHead_iff
  rw [block.zoneless] at head
  simp only [isClaimableAddr, Bool.and_eq_true, Bool.not_eq_true',
    ← Bool.not_eq_true, head, block.contains_iff, any_eq_true]
  constructor
  · rintro ⟨⟨⟨family, zone, lower, upper⟩, outside⟩, after, step, inside⟩
    obtain ⟨-, value, -⟩ := next_eq_some.1 step
    refine ⟨family, zone, ?_, by omega⟩
    by_contra reserved
    exact outside ⟨family, zone, lower, by omega⟩
  · rintro ⟨family, zone, above, below⟩
    refine ⟨⟨⟨family, zone, by omega, by omega⟩, ?_⟩, ?_⟩
    · rintro ⟨-, -, -, reserved⟩
      omega
    · have fits : addr.value + 1 < 2 ^ addr.family.width := by
        rw [family]
        omega
      let after : Addr := { addr with value := addr.value + 1, value_lt := fits }
      refine ⟨after, next_eq_some.2 ⟨rfl, rfl, rfl⟩, ?_⟩
      refine ⟨family, zone, ?_, below⟩
      change block.first ≤ addr.value + 1
      omega

/-! ## What an allocation finds -/

/-- An address of the block's family that the walk may reach from another. -/
structure Ahead (block : Prefix) (start addr : Addr) : Prop where
  family : addr.family = block.addr.family
  zone : addr.zone = ""
  after : start.value ≤ addr.value

/-- The walk finds the first free address before the last of the block. -/
theorem walk_eq_some (here : Ahead block start start)
    (walked : walk block allocated steps (some start) = some found) :
    ∃ candidate, Ahead block start candidate ∧ candidate.value + 1 < block.first + block.size ∧
      candidate.text = found ∧ found ∉ allocated ∧ ∀ earlier, Ahead block start earlier →
      earlier.value < candidate.value → earlier.text ∈ allocated := by
  induction steps generalizing start with
  | zero => cases walked
  | succ steps induction =>
    cases step : start.next with
    | none =>
      simp [walk, step] at walked
    | some after =>
      obtain ⟨family, value, zone⟩ := next_eq_some.1 step
      simp only [walk, bind_some, step] at walked
      split at walked
      next inside =>
        obtain ⟨-, -, -, last⟩ := block.contains_iff.1 inside
        split at walked
        next taken =>
          obtain ⟨candidate, ahead, below, text, free, earliest⟩ :=
            induction ⟨family.trans here.family, zone.trans here.zone, Nat.le_refl _⟩ walked
          refine ⟨candidate, ⟨ahead.family, ahead.zone, ?_⟩, below, text, free, ?_⟩
          · have := ahead.after
            omega
          · intro earlier reached before
            rcases Nat.eq_or_lt_of_le reached.after with same | above
            · have first : earlier = start := ext (reached.family.trans here.family.symm)
                  same.symm (reached.zone.trans here.zone.symm)
              rwa [first]
            · refine earliest earlier ⟨reached.family, reached.zone, ?_⟩ before
              omega
        next free =>
          obtain rfl := some.inj walked
          refine ⟨start, here, by omega, rfl, free, ?_⟩
          intro earlier reached before
          have := reached.after
          omega
      · cases walked

/-- With enough steps the walk misses no free address. -/
theorem walk_eq_none (here : Ahead block start start) (above : block.first ≤ start.value)
    (enough : block.first + block.size ≤ start.value + steps)
    (walked : walk block allocated steps (some start) = none) :
    ∀ candidate, Ahead block start candidate →
      candidate.value + 1 < block.first + block.size → candidate.text ∈ allocated := by
  induction steps generalizing start with
  | zero =>
    intro candidate ahead below
    have := ahead.after
    omega
  | succ steps induction =>
    intro candidate ahead below
    have whole := block.first_add_size_le
    have fits : start.value + 1 < 2 ^ start.family.width := by
      rw [here.family]
      have := ahead.after
      omega
    let after : Addr := { start with value := start.value + 1, value_lt := fits }
    have step : start.next = some after := next_eq_some.2 ⟨rfl, rfl, rfl⟩
    have inside : block.contains after = true := by
      refine block.contains_iff.2 ⟨here.family, here.zone, ?_, ?_⟩
      · change block.first ≤ start.value + 1
        omega
      · change start.value + 1 < block.first + block.size
        have := ahead.after
        omega
    simp only [walk, bind_some, step, if_pos inside] at walked
    split at walked
    next taken =>
      rcases Nat.eq_or_lt_of_le ahead.after with same | later
      · have first : candidate = start := ext (ahead.family.trans here.family.symm) same.symm
            (ahead.zone.trans here.zone.symm)
        rwa [first]
      · refine @induction after ⟨here.family, here.zone, Nat.le_refl _⟩ ?_ ?_ walked candidate
          ⟨ahead.family, ahead.zone, later⟩ below
        · change block.first ≤ start.value + 1
          omega
        · change block.first + block.size ≤ start.value + 1 + steps
          omega
    · cases walked

/-- Where the walk starts: at the fifth address of the block. -/
theorem skip_masked :
    block.masked.addr.skip 4 = some start ↔ start.family = block.addr.family ∧
      start.value = block.first + 4 ∧ start.zone = "" := by
  rw [skip_eq_some]
  change start.family = block.addr.family ∧ start.value = block.first + 4 ∧
    start.zone = block.addr.zone ↔ _
  rw [block.zoneless]

theorem skip_masked_of_usable
    (usable : Usable block addr) : ∃ start, block.masked.addr.skip 4 = some start := by
  have bound := addr.value_lt
  rw [usable.family] at bound
  have above := usable.above
  let start : Addr := { block.addr with value := block.first + 4, value_lt := by omega }
  exact ⟨start, skip_masked.2 ⟨rfl, rfl, block.zoneless⟩⟩

theorem walk_none (block : Prefix) (allocated : List String) (steps : Nat) :
    walk block allocated steps none = none := by
  cases steps with
  | zero | succ steps => rfl

/-- An allocation finds the first usable address that is not listed. -/
theorem nextAvailableIP_eq_ok (found : nextAvailableIP record = .ok ip) :
    ∃ block candidate, parsePrefix record.cidrBlock = some block ∧ Usable block candidate ∧
      candidate.text = ip ∧ ip ∉ record.ips ∧ ∀ earlier, Usable block earlier → earlier.value <
      candidate.value → earlier.text ∈ record.ips := by
  unfold nextAvailableIP at found
  split at found
  · cases found
  next block parsed =>
    split at found
    next text walked =>
      obtain rfl := Except.ok.inj found
      cases reached : block.masked.addr.skip 4 with
      | none =>
        simp [reached, walk_none] at walked
      | some start =>
        rw [reached] at walked
        obtain ⟨family, value, zone⟩ := skip_masked.1 reached
        obtain ⟨candidate, ahead, below, isText, free, earliest⟩ :=
          walk_eq_some ⟨family, zone, Nat.le_refl _⟩ walked
        refine ⟨block, candidate, parsed, ⟨ahead.family, ahead.zone, ?_, below⟩, isText, free, ?_⟩
        · rw [← value]
          exact ahead.after
        · intro earlier usable before
          refine earliest earlier ⟨usable.family, usable.zone, ?_⟩ before
          rw [value]
          exact usable.above
    · cases found

/-- The two errors of an allocation differ. -/
theorem parseFailure_ne_exhaustedFailure (left right : String) :
    parseFailure left ≠ exhaustedFailure right := by
  intro same
  have texts := congrArg (fun failure => failure.text.toList.head?) same
  simp [parseFailure, exhaustedFailure] at texts

/-- An allocation is exhausted exactly if every usable address is listed. -/
theorem nextAvailableIP_exhausted_iff :
    nextAvailableIP record = .error (exhaustedFailure record.cidrBlock) ↔
      ∃ block, parsePrefix record.cidrBlock = some block ∧ ∀ candidate,
        Usable block candidate → candidate.text ∈ record.ips := by
  unfold nextAvailableIP
  cases parsed : parsePrefix record.cidrBlock with
  | none =>
    simp only [Except.error.injEq, reduceCtorEq, false_and, exists_false, iff_false]
    exact parseFailure_ne_exhaustedFailure _ _
  | some block =>
    simp only [some.injEq, exists_eq_left']
    constructor
    · intro failed candidate usable
      split at failed
      · cases failed
      next walked =>
        obtain ⟨start, reached⟩ := skip_masked_of_usable usable
        obtain ⟨family, value, zone⟩ := skip_masked.1 reached
        rw [reached] at walked
        refine walk_eq_none ⟨family, zone, Nat.le_refl _⟩ (by omega) (by omega) walked candidate
          ⟨usable.family, usable.zone, ?_⟩ usable.below
        rw [value]
        exact usable.above
    · intro full
      split
      next ip walked =>
        exfalso
        have found : nextAvailableIP record = .ok ip := by
          simp only [nextAvailableIP, parsed, walked]
        obtain ⟨block', candidate, parsed', usable, text, free, -⟩ := nextAvailableIP_eq_ok found
        rw [parsed] at parsed'
        obtain rfl := some.inj parsed'
        exact free (text ▸ full candidate usable)
      · rfl

/-- On a block that parses, an allocation succeeds or is exhausted. -/
theorem nextAvailableIP_of_parsePrefix (parsed : parsePrefix record.cidrBlock = some block) :
    (∃ ip, nextAvailableIP record = .ok ip) ∨
      nextAvailableIP record = .error (exhaustedFailure record.cidrBlock) := by
  unfold nextAvailableIP
  rw [parsed]
  dsimp only
  split
  · exact Or.inl ⟨_, rfl⟩
  · exact Or.inr rfl

/-! ## The two ranges -/

/-- The usable addresses of a block before a given one. -/
def usableBefore (block : Prefix) (addr : Addr) : List Addr :=
  (List.range (addr.value - (block.first + 4))).filterMap fun index =>
    block.masked.addr.skip (4 + index)

theorem mem_usableBefore (usable : Usable block addr) :
    earlier ∈ usableBefore block addr ↔ Usable block earlier ∧ earlier.value < addr.value := by
  have below := usable.below
  unfold usableBefore
  simp only [List.mem_filterMap, List.mem_range, skip_eq_some]
  change (∃ index, index < addr.value - (block.first + 4) ∧ earlier.family = block.addr.family ∧
    earlier.value = block.first + (4 + index) ∧ earlier.zone = block.addr.zone) ↔ _
  rw [block.zoneless]
  constructor
  · rintro ⟨index, small, family, value, zone⟩
    exact ⟨⟨family, zone, by omega, by omega⟩, by omega⟩
  · rintro ⟨⟨family, zone, above, -⟩, before⟩
    exact ⟨earlier.value - (block.first + 4), by omega, family, by omega, zone⟩

/-- For the first family every usable address can be handed out. -/
theorem exists_nextAvailableIP
    (parsed : parsePrefix cidrBlock = some block) (family : block.addr.family = .v4)
    (usable : Usable block addr) :
    ∃ record : IPAMRecord, record.cidrBlock = cidrBlock ∧
      nextAvailableIP record = .ok addr.text := by
  let record : IPAMRecord :=
    { subnetId := ""
      cidrBlock := cidrBlock
      allocated := (usableBefore block addr).map fun earlier => ⟨earlier.text, "", ""⟩ }
  have ips : record.ips = (usableBefore block addr).map text := by
    simp [record, IPAMRecord.ips]
  have listed : ∀ candidate, Usable block candidate →
      (candidate.text ∈ record.ips ↔ candidate.value < addr.value) := by
    intro candidate isUsable
    rw [ips, List.mem_map]
    constructor
    · rintro ⟨earlier, member, text⟩
      obtain ⟨usable', before⟩ := (mem_usableBefore usable).1 member
      have read := parseAddr_text (usable'.family.trans family)
      rw [text, parseAddr_text (isUsable.family.trans family)] at read
      rwa [Option.some.inj read]
    · intro before
      exact ⟨candidate, (mem_usableBefore usable).2 ⟨isUsable, before⟩, rfl⟩
  refine ⟨record, rfl, ?_⟩
  have known : parsePrefix record.cidrBlock = some block := parsed
  rcases nextAvailableIP_of_parsePrefix known with ⟨ip, found⟩ | exhausted
  · obtain ⟨block', candidate, parsed', isUsable, text, free, earliest⟩ :=
      nextAvailableIP_eq_ok found
    rw [known] at parsed'
    obtain rfl := some.inj parsed'
    have notBefore : ¬ candidate.value < addr.value := by
      rwa [← listed candidate isUsable, text]
    have notAfter : ¬ addr.value < candidate.value := by
      intro before
      have := (listed addr usable).1 (earliest addr usable before)
      omega
    have same : candidate = addr := ext (isUsable.family.trans usable.family.symm) (by omega)
        (isUsable.zone.trans usable.zone.symm)
    rw [found, ← text, same]
  · obtain ⟨block', parsed', full⟩ := nextAvailableIP_exhausted_iff.1 exhausted
    rw [known] at parsed'
    obtain rfl := some.inj parsed'
    have := (listed addr usable).1 (full addr usable)
    omega

end Spinifex.Vpc.Ipam
