import Mathlib.Data.List.AList
import Spinifex.Go.Strings

/-!
# Hot-plug slots of an instance

An instance has one root port per interface its type allows beyond the first.
Its record keeps a free list of the ports and a map from the attached interfaces
to theirs.  The record is in order if the free slots together with the mapped
ones are the slots of the type, each once; every edit of the record is judged by
whether it keeps that.
-/

namespace Spinifex.Eni

open Go List

/-! ## Slots of a type -/

/-- `defaultMaxENIs`. -/
def defaultMaxENIs : Nat := 4

/-- `maxENIsByType`. -/
def maxENIsByType : List (String × Nat) :=
  [("m5.large", 3), ("m5.xlarge", 3), ("m5.2xlarge", 4), ("m5.4xlarge", 8)]

/-- `maxENIsByFamily`. -/
def maxENIsByFamily : List (String × Nat) :=
  [("t2", 3), ("t3", 3), ("t3a", 3), ("t4g", 3), ("m5", 15), ("m5a", 15),
    ("m6i", 15), ("m6a", 15), ("m6g", 8), ("m7i", 15), ("m7a", 15),
    ("m7g", 8), ("m8i", 15), ("m8a", 15), ("m8g", 8)]

variable (instanceType : String)

/-- `MaxENIsForType`: by type, else by family, else the default. -/
def maxENIsForType : Nat :=
  match maxENIsByType.lookup instanceType with
  | some count => count
  | none =>
    match instanceType.toList.span (· ≠ '.') with
    | (_, []) => defaultMaxENIs
    | (family, _ :: _) =>
      (maxENIsByFamily.lookup (String.ofList family)).getD defaultMaxENIs

/-- `HotPlugENISlotsForType`: the first interface takes no slot. -/
def hotPlugENISlotsForType : Nat :=
  maxENIsForType instanceType - 1

/-! ## Names -/

variable (slot : Nat)

/-- `eniNetdevID`. -/
def eniNetdevID : String :=
  "hostnet-eni-" ++ toString slot

/-- `eniDeviceID`. -/
def eniDeviceID : String :=
  "net-eni-" ++ toString slot

/-- `eniBusID`. -/
def eniBusID : String :=
  "hotplug-eni" ++ toString slot

/--
`TapDeviceName`: the interface's name without its leading part, cut to the length the
kernel allows.
-/
def tapDeviceName (eniID : String) : String :=
  let chars := eniID.toList
  let id := if "eni-".toList.isPrefixOf chars then chars.drop 4 else chars
  String.ofList (("tap".toList ++ id).take 15)

/-! ## The record -/

/-- `ENIRequests`. -/
structure ENIRequests where
  availableSlots : List Nat
  attachedByENIID : AList fun _ : String => Nat

namespace ENIRequests

variable {requests : ENIRequests} {eniID : String} {slot count : Nat}

/-- The slots attached interfaces are mapped to. -/
def mappedSlots (requests : ENIRequests) : List Nat :=
  requests.attachedByENIID.entries.map Sigma.snd

/-- The slot of an attached interface. -/
def slotOf (requests : ENIRequests) (eniID : String) : Option Nat :=
  requests.attachedByENIID.lookup eniID

/-- The free and the mapped slots together are the slots from one on. -/
def InOrder (count : Nat) (requests : ENIRequests) : Prop :=
  (requests.availableSlots ++ requests.mappedSlots).Perm (List.range' 1 count)

/-- An attach takes the first free slot. -/
def take (requests : ENIRequests) (eniID : String) (slot : Nat)
    (rest : List Nat) : ENIRequests where
  availableSlots := rest
  attachedByENIID := requests.attachedByENIID.insert eniID slot

/-- `releaseSlotLocked`. -/
def release (requests : ENIRequests) (eniID : String) (slot : Nat) : ENIRequests where
  availableSlots := requests.availableSlots ++ [slot]
  attachedByENIID := requests.attachedByENIID.erase eniID

/-- `AdoptENISlot`. -/
def adoptENISlot (requests : ENIRequests) (eniID : String) (slot : Nat) : ENIRequests :=
  if requests.slotOf eniID = some slot then
    requests
  else
    { availableSlots := requests.availableSlots.filter (· ≠ slot)
      attachedByENIID := requests.attachedByENIID.insert eniID slot }

/-- `ReleaseENISlot`. -/
def releaseENISlot (requests : ENIRequests) (eniID : String) : ENIRequests :=
  match requests.slotOf eniID with
  | none => requests
  | some slot => requests.release eniID slot

/-- `initENIRequests`: a new free list; the map is left alone. -/
def initENIRequests (requests : ENIRequests) (instanceType : String) : ENIRequests :=
  { requests with availableSlots := List.range' 1 (hotPlugENISlotsForType instanceType) }

/-- The record before the first launch. -/
def blank : ENIRequests := ⟨[], ∅⟩

/-! ## Edits that keep the order -/

/-- A mapped slot is one of the mapped slots. -/
theorem mem_mappedSlots :
    slot ∈ requests.mappedSlots ↔ ∃ eniID, requests.slotOf eniID = some slot := by
  unfold mappedSlots slotOf
  simp only [mem_map, Sigma.exists, exists_eq_right]
  exact exists_congr fun eniID => AList.mem_lookup_iff.symm

/-- The map of an attached interface: its slot and the rest. -/
theorem mappedSlots_perm (mapped : requests.slotOf eniID = some slot) :
    requests.mappedSlots.Perm (slot ::
      (requests.attachedByENIID.erase eniID).entries.map Sigma.snd) := by
  have member : eniID ∈ requests.attachedByENIID.entries.keys :=
    AList.lookup_isSome.1 (Option.isSome_iff_exists.2 ⟨slot, mapped⟩)
  obtain ⟨other, before, after, -, entries, erased⟩ := exists_of_kerase member
  have found : (⟨eniID, other⟩ : Sigma fun _ : String => Nat) ∈
      requests.attachedByENIID.entries := by
    rw [entries]
    exact mem_append_right _ mem_cons_self
  obtain rfl : other = slot := Option.some.inj ((AList.mem_lookup_iff.2 found).symm.trans mapped)
  change requests.mappedSlots.Perm
    (other :: (requests.attachedByENIID.entries.kerase eniID).map Sigma.snd)
  rw [erased, mappedSlots, entries]
  simp only [map_append, map_cons]
  exact perm_middle

section

variable (inOrder : InOrder count requests)

include inOrder

theorem InOrder.nodup : (requests.availableSlots ++ requests.mappedSlots).Nodup :=
  inOrder.nodup_iff.2 nodup_range'

/-- No two attached interfaces are mapped to one slot. -/
theorem InOrder.slotOf_injective
    {first second : String} (isFirst : requests.slotOf first = some slot)
    (isSecond : requests.slotOf second = some slot) : first = second := by
  by_contra different
  have distinct := (nodup_append.1 inOrder.nodup).2.1
  have perm := mappedSlots_perm isFirst
  have rest : slot ∈ (requests.attachedByENIID.erase first).entries.map Sigma.snd := by
    have kept : (requests.attachedByENIID.erase first).lookup second = some slot := by
      rwa [AList.lookup_erase_ne (Ne.symm different)]
    exact mem_map_of_mem (f := Sigma.snd) (AList.mem_lookup_iff.1 kept)
  exact (nodup_cons.1 (perm.nodup_iff.1 distinct)).1 rest

/-- A free slot is not mapped. -/
theorem InOrder.not_mapped_of_free
    (free : slot ∈ requests.availableSlots) : requests.slotOf eniID ≠ some slot := by
  intro mapped
  exact (nodup_append.1 inOrder.nodup).2.2 slot free slot (mem_mappedSlots.2 ⟨eniID, mapped⟩) rfl

/-- The free and the mapped slots are the slots of the type. -/
theorem InOrder.mem_iff :
    (slot ∈ requests.availableSlots ∨ ∃ eniID, requests.slotOf eniID = some slot) ↔
      1 ≤ slot ∧ slot ≤ count := by
  rw [← mem_mappedSlots, ← mem_append, List.Perm.mem_iff inOrder, mem_range'_1]
  omega

/-- Without a free slot every slot of the type is taken. -/
theorem InOrder.length_keys
    (none : requests.availableSlots = []) : requests.attachedByENIID.keys.length = count := by
  have lengths := inOrder.length_eq
  rw [none, nil_append, length_range'] at lengths
  rw [← lengths, mappedSlots, length_map, AList.keys, keys, length_map]

theorem InOrder.take (free : requests.availableSlots = slot :: rest)
    (unmapped : requests.slotOf eniID = none) : InOrder count (requests.take eniID slot rest) := by
  refine List.Perm.trans ?_ inOrder
  have fresh := AList.lookup_eq_none.1 unmapped
  unfold ENIRequests.take mappedSlots
  rw [AList.entries_insert_of_notMem fresh, free, map_cons]
  exact perm_middle

theorem InOrder.release
    (mapped : requests.slotOf eniID = some slot) : InOrder count (requests.release eniID slot) := by
  refine List.Perm.trans ?_ inOrder
  unfold ENIRequests.release
  rw [append_assoc]
  exact List.Perm.append_left _ (mappedSlots_perm mapped).symm

end

/-- The interface may take the slot: it has it, or both are free. -/
def Adoptable (requests : ENIRequests) (eniID : String) (slot : Nat) : Prop :=
  requests.slotOf eniID = some slot ∨ requests.slotOf eniID = none ∧ slot ∈ requests.availableSlots

theorem InOrder.adoptENISlot (inOrder : InOrder count requests)
    (adoptable : requests.Adoptable eniID slot) :
    InOrder count (requests.adoptENISlot eniID slot) := by
  unfold ENIRequests.adoptENISlot
  split
  · exact inOrder
  next other =>
    obtain ⟨unmapped, free⟩ := adoptable.resolve_left other
    refine List.Perm.trans ?_ inOrder
    have fresh := AList.lookup_eq_none.1 unmapped
    have distinct := (nodup_append.1 inOrder.nodup).1
    unfold mappedSlots
    rw [AList.entries_insert_of_notMem fresh, map_cons]
    apply perm_middle.trans
    rw [← cons_append]
    apply List.Perm.append_right _
    have erased := distinct.erase_eq_filter slot
    have taken := perm_cons_erase free
    rw [erased] at taken
    refine List.Perm.trans (List.Perm.of_eq ?_) taken.symm
    congr 1
    refine filter_congr fun other _ => ?_
    rw [Bool.eq_iff_iff]
    simp

/-- An adoption frees no slot. -/
theorem mem_of_mem_adoptENISlot (free : other ∈ (requests.adoptENISlot eniID slot).availableSlots) :
    other ∈ requests.availableSlots := by
  unfold ENIRequests.adoptENISlot at free
  split at free
  · exact free
  · exact mem_of_mem_filter free

/-- A release frees the slot of the interface. -/
theorem mem_releaseENISlot (free : slot ∈ (requests.releaseENISlot eniID).availableSlots) :
    slot ∈ requests.availableSlots ∨ requests.slotOf eniID = some slot := by
  unfold ENIRequests.releaseENISlot at free
  split at free
  · exact Or.inl free
  next own mapped =>
    rcases mem_append.1 free with before | last
    · exact Or.inl before
    · rw [mem_singleton.1 last]
      exact Or.inr mapped

theorem InOrder.releaseENISlot
    (inOrder : InOrder count requests) : InOrder count (requests.releaseENISlot eniID) := by
  unfold ENIRequests.releaseENISlot
  split
  · exact inOrder
  next slot mapped =>
    exact inOrder.release mapped

/-- A new free list is in order exactly over an empty map. -/
theorem inOrder_initENIRequests_iff {instanceType : String} :
    InOrder (hotPlugENISlotsForType instanceType) (requests.initENIRequests instanceType) ↔
      requests.attachedByENIID = ∅ := by
  unfold InOrder ENIRequests.initENIRequests
  constructor
  · intro perm
    have lengths := perm.length_eq
    rw [length_append, Nat.add_eq_left, mappedSlots, length_map] at lengths
    exact AList.ext (length_eq_zero_iff.1 lengths)
  · intro empty
    simp [mappedSlots, empty]

end ENIRequests

end Spinifex.Eni
