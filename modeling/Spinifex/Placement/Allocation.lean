import Mathlib.Algebra.BigOperators.Group.List.Basic
import Mathlib.Algebra.Order.BigOperators.Group.List
import Mathlib.Algebra.Order.Ring.Int
import Mathlib.Data.List.Sort

/-!
# Spreading a launch over the nodes

`spreadAllocate` first gives every node one instance and then gives each further
one to a node with the most spare capacity.  `Packing` is what the second loop
keeps: the nodes it was given, their bounds, one instance for every node, and
that no node with two or more has much less to spare than another one.
-/

namespace Spinifex.Placement.Allocation

open List

/-! ## The nodes of a launch -/

/-- What a node reports about one instance type. -/
structure TypeCapacity where
  name : String
  available : Int

/-- `NodeStatusResponse`. -/
structure NodeStatusResponse where
  node : String
  instanceTypes : List TypeCapacity

/-- `nodeAllocation`. -/
structure NodeAllocation where
  nodeID : String
  available : Int
  assigned : Int
deriving DecidableEq, Repr

/-- What stays the same of a node. -/
def NodeAllocation.identity (node : NodeAllocation) : String × Int :=
  (node.nodeID, node.available)

def NodeAllocation.remaining (node : NodeAllocation) : Int :=
  node.available - node.assigned

/-- A node with room and without instances. -/
structure NodeAllocation.Fresh (node : NodeAllocation) : Prop where
  available : 1 ≤ node.available
  assigned : node.assigned = 0

/--
`queryNodeCapacity` on the statuses that were gathered, with any way to shuffle.
The insertion sort is stable, so it is `SliceStable`.
-/
def queryNodeCapacity (shuffle : List NodeAllocation → List NodeAllocation)
    (instanceType : String) (statuses : List NodeStatusResponse) : List NodeAllocation :=
  let nodes := statuses.filterMap fun status =>
    if status.node = "" then
      none
    else
      (status.instanceTypes.find? fun capacity =>
          capacity.name = instanceType ∧ 1 ≤ capacity.available).map fun capacity =>
        ⟨status.node, capacity.available, 0⟩
  (shuffle nodes).insertionSort fun left right => left.available ≥ right.available

/-! ## `spreadAllocate` -/

/-- The first round: the nodes, and the instances left. -/
def firstRound : List NodeAllocation → Nat → List NodeAllocation × Nat
  | node :: nodes, remaining + 1 =>
    let (served, left) := firstRound nodes remaining
    ({ node with assigned := 1 } :: served, left)
  | nodes, remaining => (nodes, remaining)

/-- The search for the best node, from an index on. -/
def search (index : Nat) (best : Option (Nat × NodeAllocation)) :
    List NodeAllocation → Option (Nat × NodeAllocation)
  | [] => best
  | node :: nodes =>
    let bestRemaining := best.elim 0 (·.2.remaining)
    search (index + 1)
      (if node.remaining > bestRemaining then some (index, node)
      else if node.remaining = bestRemaining ∧ 0 < node.remaining ∧
          best.all (node.assigned < ·.2.assigned) then some (index, node)
      else best) nodes

/-- The second loop, with some instances left. -/
def pack : Nat → List NodeAllocation → List NodeAllocation
  | 0, nodes => nodes
  | remaining + 1, nodes =>
    match search 0 none nodes with
    | none => nodes
    | some (index, node) =>
      pack remaining (nodes.set index { node with assigned := node.assigned + 1 })

def spreadAllocate (nodes : List NodeAllocation) (count : Int) : List NodeAllocation :=
  let (served, remaining) := firstRound nodes count.toNat
  (pack remaining served).filter (0 < ·.assigned)

/-! ## The search -/

/-- What the search has found among the nodes it saw. -/
def Found (nodes : List NodeAllocation) : Option (Nat × NodeAllocation) → Prop
  | none => ∀ node ∈ nodes, node.remaining ≤ 0
  | some (index, best) => nodes[index]? = some best ∧ 0 < best.remaining ∧
    ∀ node ∈ nodes, node.remaining ≤ best.remaining

theorem found_search (seen : List NodeAllocation) (found : Found seen best)
    (nodes : List NodeAllocation) : Found (seen ++ nodes) (search seen.length best nodes) := by
  induction nodes generalizing seen best with
  | nil => simpa [search] using found
  | cons node nodes induction =>
    have step : seen ++ node :: nodes = (seen ++ [node]) ++ nodes := by simp
    have length : seen.length + 1 = (seen ++ [node]).length := by simp
    rw [step, search, length]
    apply induction
    cases best <;> grind [Found]

/-! ## The second loop -/

def total (field : NodeAllocation → Int) (nodes : List NodeAllocation) : Int :=
  (nodes.map field).sum

/-- What holds during the second loop, where some of the wanted instances are left. -/
structure Packing (wanted : Nat) (nodes packed : List NodeAllocation) (left : Nat) : Prop where
  same : packed.map (·.identity) = nodes.map (·.identity)
  within : ∀ node ∈ packed, 0 ≤ node.assigned ∧ 0 ≤ node.remaining
  all : left ≠ 0 → nodes.length ≤ wanted
  served : nodes.length ≤ wanted → ∀ node ∈ packed, 1 ≤ node.assigned
  level : ∀ node ∈ packed, 2 ≤ node.assigned →
    nodes.length ≤ wanted ∧ ∀ other ∈ packed, other.remaining ≤ node.remaining + 1

theorem total_available (same : packed.map (·.identity) = nodes.map (·.identity)) :
    total (·.available) packed = total (·.available) nodes := by
  have equal := congrArg (fun identities => (identities.map Prod.snd).sum) same
  simpa [total, NodeAllocation.identity, Function.comp_def] using equal

/-- The first round leaves what the second loop starts from. -/
theorem packing_firstRound (wanted : Nat) (fresh : ∀ node ∈ nodes, node.Fresh) :
    Packing wanted nodes (firstRound nodes wanted).1 (firstRound nodes wanted).2 ∧
      total (·.assigned) (firstRound nodes wanted).1 + (firstRound nodes wanted).2 = wanted ∧
      ∀ node ∈ (firstRound nodes wanted).1, node.assigned ≤ 1 := by
  fun_induction firstRound nodes wanted with
  | case1 node nodes remaining served left eq induction =>
    have here := fresh node mem_cons_self
    obtain ⟨⟨same, within, all, served, level⟩, sum, one⟩ :=
      induction fun node member => fresh node (mem_cons_of_mem _ member)
    refine ⟨⟨?_, ?_, ?_, ?_, ?_⟩, ?_, ?_⟩ <;>
      grind [NodeAllocation.remaining, NodeAllocation.identity, total, here.available]
  | case2 nodes remaining other =>
    -- either no instance or no node is left
    have short : remaining ≠ 0 → nodes = [] := by
      intro left
      cases nodes with
      | nil => rfl
      | cons node nodes => exact (other node nodes (remaining - 1) rfl (by omega)).elim
    have unassigned : total (·.assigned) nodes = 0 := by
      apply sum_eq_zero
      simpa using fun node member => (fresh node member).assigned
    have bounds : ∀ node ∈ nodes, 1 ≤ node.available ∧ node.assigned = 0 :=
      fun node member => ⟨(fresh node member).available, (fresh node member).assigned⟩
    refine ⟨⟨rfl, ?_, ?_, ?_, ?_⟩, by simpa using unassigned, ?_⟩ <;>
      grind [NodeAllocation.remaining]

/-- One more instance for a best node. -/
theorem packing_set (packing : Packing wanted nodes packed (left + 1))
    (found : Found packed (some (index, best))) :
    Packing wanted nodes (packed.set index { best with assigned := best.assigned + 1 }) left ∧
      total (·.assigned) (packed.set index { best with assigned := best.assigned + 1 }) =
        total (·.assigned) packed + 1 := by
  obtain ⟨place, spare, most⟩ := found
  obtain ⟨bound, rfl⟩ := List.getElem?_eq_some_iff.1 place
  have everyone := packing.all (by simp)
  have member := getElem_mem bound
  refine ⟨⟨?_, ?_, fun _ => everyone, fun _ => ?_, ?_⟩, ?_⟩
  · rw [← packing.same, map_set]
    apply ext_getElem?
    grind [NodeAllocation.identity]
  · intro node isNode
    rcases mem_or_eq_of_mem_set isNode with old | rfl
    · exact packing.within node old
    · grind [packing.within _ member, NodeAllocation.remaining]
  · intro node isNode
    rcases mem_or_eq_of_mem_set isNode with old | rfl
    · exact packing.served everyone node old
    · grind [packing.within _ member]
  · intro node isNode twice
    refine ⟨everyone, fun other isOther => ?_⟩
    rcases mem_or_eq_of_mem_set isNode with old | rfl
    · have level := (packing.level node old twice).2
      rcases mem_or_eq_of_mem_set isOther with before | rfl
      · exact level other before
      · grind [level _ member, NodeAllocation.remaining]
    · rcases mem_or_eq_of_mem_set isOther with before | rfl
      · grind [most other before, NodeAllocation.remaining]
      · grind
  · simp [total, map_set, sum_set', bound]

theorem packing_pack (packing : Packing wanted nodes packed left) :
    Packing wanted nodes (pack left packed) 0 ∧ total (·.assigned) (pack left packed) =
      min (total (·.assigned) packed + left) (total (·.available) nodes) := by
  induction left generalizing packed with
  | zero =>
    refine ⟨packing, ?_⟩
    have most : total (·.assigned) packed ≤ total (·.available) packed :=
      sum_le_sum fun node member => sub_nonneg.1 (packing.within node member).2
    rw [total_available packing.same] at most
    simpa [pack] using most
  | succ left induction =>
    have found : Found packed (search 0 none packed) := found_search [] (by simp [Found]) packed
    rw [pack]
    cases searched : search 0 none packed with
    | none =>
      rw [searched] at found
      have full : total (·.assigned) packed = total (·.available) packed := by
        refine congrArg sum (map_congr_left fun node member => ?_)
        grind [found node member, packing.within node member, NodeAllocation.remaining]
      rw [total_available packing.same] at full
      refine ⟨{ packing with all := by simp }, ?_⟩
      simp only [full]
      omega
    | some best =>
      rw [searched] at found
      obtain ⟨next, more⟩ := packing_set packing found
      obtain ⟨done, sum⟩ := induction next
      refine ⟨done, ?_⟩
      simp only [sum, more]
      omega

/-! ## The allocation -/

theorem total_filter (within : ∀ node ∈ nodes, 0 ≤ node.assigned) :
    total (·.assigned) (nodes.filter (0 < ·.assigned)) = total (·.assigned) nodes := by
  induction nodes with
  | nil => rfl
  | cons node nodes induction =>
    have rest := induction fun node member => within node (mem_cons_of_mem _ member)
    have here := within node mem_cons_self
    simp only [total, filter_cons] at rest ⊢
    split_ifs with assigned
    · simp [rest]
    · have none : node.assigned = 0 := by simpa using Int.le_antisymm (by simpa using assigned) here
      simp [rest, none]

/--
A launch places as many instances as it may and none beyond what a node offers.
If there are enough, every node gets one; no node gets two before; and a node
that gets two has, up to one instance, as much to spare as every other node.
-/
theorem spread_allocation_level (nodes : List NodeAllocation) (count : Int)
    (fresh : ∀ node ∈ nodes, node.Fresh) (nonneg : 0 ≤ count) :
    total (·.assigned) (spreadAllocate nodes count) = min count (total (·.available) nodes) ∧
    ((spreadAllocate nodes count).map (·.identity)).Sublist (nodes.map (·.identity)) ∧
    (∀ node ∈ spreadAllocate nodes count, 1 ≤ node.assigned ∧ node.assigned ≤ node.available) ∧
    (nodes.length ≤ count →
      (spreadAllocate nodes count).map (·.identity) = nodes.map (·.identity)) ∧
    ∀ node ∈ spreadAllocate nodes count, 2 ≤ node.assigned →
      (spreadAllocate nodes count).map (·.identity) = nodes.map (·.identity) ∧
        ∀ other ∈ spreadAllocate nodes count, other.remaining ≤ node.remaining + 1 := by
  obtain ⟨started, sum, -⟩ := packing_firstRound count.toNat fresh
  obtain ⟨packing, placed⟩ := packing_pack started
  rw [show spreadAllocate nodes count = (pack (firstRound nodes count.toNat).2
    (firstRound nodes count.toNat).1).filter (0 < ·.assigned) from rfl]
  generalize pack _ _ = packed at packing placed ⊢
  have everyone : nodes.length ≤ count.toNat →
      (packed.filter (0 < ·.assigned)).map (·.identity) = nodes.map (·.identity) := by
    intro enough
    rw [filter_eq_self.2 fun node member => by
      simpa using Int.lt_of_lt_of_le Int.zero_lt_one (packing.served enough node member)]
    exact packing.same
  refine ⟨?_, ?_, ?_, fun enough => everyone (by omega), ?_⟩
  · rw [total_filter fun node member => (packing.within node member).1, placed, sum]
    omega
  · rw [← packing.same]
    exact filter_sublist.map _
  · intro node member
    obtain ⟨member, assigned⟩ := mem_filter.1 member
    have within := (packing.within node member).2
    simp only [NodeAllocation.remaining, decide_eq_true_eq] at within assigned
    omega
  · intro node member twice
    obtain ⟨enough, level⟩ := packing.level node (mem_of_mem_filter member) twice
    exact ⟨everyone enough, fun other member => level other (mem_of_mem_filter member)⟩

/-- The nodes that are queried are fresh ones. -/
theorem fresh_queryNodeCapacity (shuffles : ∀ nodes, shuffle nodes ~ nodes)
    (member : node ∈ queryNodeCapacity shuffle instanceType statuses) : node.Fresh := by
  have listed := (shuffles _).mem_iff.1 ((perm_insertionSort _ _).mem_iff.1 member)
  obtain ⟨status, -, offers⟩ := mem_filterMap.1 listed
  split_ifs at offers
  obtain ⟨capacity, found, rfl⟩ := Option.map_eq_some_iff.1 offers
  have offered := find?_some found
  simp only [decide_eq_true_eq] at offered
  exact ⟨offered.2, rfl⟩

/-- Three nodes, one of which does not offer the type. -/
def statuses : List NodeStatusResponse :=
  [⟨"node-1", [⟨"t3.micro", 2⟩]⟩, ⟨"node-2", [⟨"t3.nano", 9⟩]⟩, ⟨"node-3", [⟨"t3.micro", 5⟩]⟩]

theorem spread_allocation_of_five :
    spreadAllocate (queryNodeCapacity id "t3.micro" statuses) 5 =
        [⟨"node-3", 5, 4⟩, ⟨"node-1", 2, 1⟩] ∧
      total (·.assigned) (spreadAllocate (queryNodeCapacity id "t3.micro" statuses) 5) =
        min 5 (total (·.available) (queryNodeCapacity id "t3.micro" statuses)) :=
  ⟨by decide +kernel, (spread_allocation_level _ 5
    (fun _ => fresh_queryNodeCapacity fun _ => .refl _) (by decide)).1⟩

end Spinifex.Placement.Allocation
