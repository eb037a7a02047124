import Mathlib.Data.Fintype.Basic
import Spinifex.Snapshots.Deletion

/-!
# Referenced data is not torn down

The theorem about all interleavings of the requests, and runs of the services
in which a write comes between a check and the write that relies on it.
-/

namespace Spinifex.Snapshots

open Concurrency Go State Discipline

namespace Sample

def account : String := "123456789012"

/-- A volume without an attachment. -/
def volume : Volume where
  volumeID := "vol-1"
  tenantID := account
  capacityGiB := 8
  state := .available
  attachedAt := none
  availabilityZone := "zone"
  attachedInstance := ""
  deviceName := ""
  volumeType := "gp3"
  iops := 3000
  tags := []
  providerHandle := "handle"
  modification := none
  createdAt := 0
  throughput := 125
  snapshotID := ""
  encrypted := false

def snapshot : Snapshot where
  snapshotID := "snap-1"
  volumeID := "vol-1"
  volumeSize := 8
  state := .completed
  progress := "100%"
  startTime := 0
  description := ""
  encrypted := false
  ownerID := account
  availabilityZone := "zone"
  tags := []
  providerHandle := "handle"

end Sample

open Sample

/-! ## All interleavings -/

section

variable {Index : Type}

/-- A stored document under a name that was never drawn. -/
theorem exists_inconsistent (estate : Estate Index) :
    ∃ broken : Estate Index, ¬ Consistent broken := by
  refine ⟨{ estate.putVolume volume with phase := fun _ => .free }, fun consistent => ?_⟩
  have stored : (estate.putVolume volume).volumes volume.home = some volume := by
    simp [Estate.putVolume]
  have recorded := consistent.volumeRecorded volume.home volume stored
  cases recorded

variable [DecidableEq Index]

/--
In every run in which no write comes between a check and the write that relies
on it, the provider is never asked to tear down a volume of which a snapshot is
stored, nor to delete a snapshot from which a volume was created that is stored
and not deleting.
-/
theorem provider_destroys_only_unreferenced_data
    {estate : Estate Index} {requests : Index → Request}
    {pool : Pool Index Call (Bucket.Reply Answer) (Estate Index) Outcome}
    (consistent : Consistent estate)
    (reached : (timely Index).Reachable (Pool.start estate fun index => (requests index).program)
      pool)
    {index : Index} {call : Call}
    (pending : (pool.thread index).pending = some call) : Allowed call pool.shared := by
  have inOrder : guard.PoolUpholds pool := by
    refine Discipline.reachable consistent ?_ reached.checked
    intro index
    refine (guards_request (requests index) consistent trivial).mono ?_ consistent
    intro _ _ _ _ before _ consistent
    exact keeps_setScan consistent none
  rcases Thread.pending_eq_some.1 pending with ⟨next, scheduled⟩
  rcases exists_inconsistent pool.shared with ⟨broken, wrong⟩
  cases call with
  | get _ | write _ _ _ | waits => trivial
  | ask op =>
    cases op with
    | deleteVolume _ _ | deleteSnapshot _ _ =>
      exact inOrder.permits scheduled (.ok ()) wrong
    | _ => trivial

end

/-! ## Schedules -/

section

variable {Index : Type} [DecidableEq Index]

/-- The answers of healthy surroundings; identifiers are chosen. -/
def works (index : Index) (drawn : String) :
    (op : Op) → Estate Index → Option (Answer op × Estate Index)
  | .getVolume key, before =>
    match before.volumes key with
    | some volume => some (.ok volume, before)
    | none => some (.error ⟨[.own .noSuchKey], ""⟩, before)
  | .putVolume volume, before => some (.acknowledged, before.putVolume volume)
  | .deleteVolumeDocument key, before => some (.ok (), before.removeVolume key)
  | .listVolumes clonesOf, before =>
    some (.ok before.keys, before.setScan index clonesOf)
  | .getSnapshot key, before =>
    match before.snapshots key with
    | some snapshot => some (.ok snapshot, before)
    | none => some (.error ⟨[.own .noSuchKey], ""⟩, before)
  | .putSnapshot snapshot, before => some (.acknowledged, before.putSnapshot snapshot)
  | .deleteSnapshotDocument key, before =>
    some (.ok (), before.removeSnapshot key)
  | .listAMIs, before => some (.ok ([], []), before)
  | .generateResourceID kind, before =>
    if before.phase (kind ++ "-" ++ drawn) = .free then
      some (kind ++ "-" ++ drawn, before.draft (kind ++ "-" ++ drawn) index)
    else
      none
  | .now, before => some (0, before)
  | .encryptionEnabled, before => some (.ok false, before)
  | .createVolume _, before => some (.ok (some "handle"), before)
  | .deleteVolume _ _, before => some (.ok (), before)
  | .createSnapshot _ _ _, before =>
    some (.ok (some ⟨.completed, "handle"⟩), before)
  | .copySnapshot _ _ _, before =>
    some (.ok (some ⟨.completed, "handle"⟩), before)
  | .deleteSnapshot _ _, before => some (.ok (), before.setScan index none)
  | .listObjects _, before => some (.ok [], before)
  | .deleteObject _, before => some (.ok (), before)

theorem works_sound {before after : Estate Index}
    (worked : works index drawn op before = some (reply, after)) :
    answer index op before reply after := by
  cases op with
  | getVolume key | getSnapshot key =>
    simp only [works] at worked
    split at worked
    next stored =>
      cases worked
      exact ⟨stored, rfl⟩
    next absent =>
      cases worked
      exact ⟨fun _ => absent, rfl⟩
  | generateResourceID kind =>
    simp only [works] at worked
    split at worked
    next fresh =>
      cases worked
      exact ⟨⟨drawn, rfl⟩, fresh, rfl⟩
    · cases worked
  | listVolumes clonesOf =>
    cases worked
    refine ⟨?_, rfl⟩
    rintro keys ⟨⟩
    exact before.complete
  | _ =>
    cases worked
    rfl

/-- The answers of a healthy bucket, and of the surroundings. -/
def serve (index : Index) :
    (call : Call) → Estate Index → String → Option (Bucket.Reply Answer call × Estate Index)
  | .get key, before, _ =>
    match before.snapRefs.cells key with
    | some version => some (.ok version, before)
    | none => some (.error .notFound, before)
  | .write key value expected, before, _ =>
    if expected = before.snapRefs.revision key then
      some (.ok (before.snapRefs.last + 1), before.setRefs (before.snapRefs.put key value))
    else
      some (.error .revisionMismatch, before)
  | .waits, before, _ => some (true, before)
  | .ask op, before, drawn => works index drawn op before

/-- The resolver of runs on healthy surroundings. -/
def scheduler (Index : Type) [DecidableEq Index] :
    (system Outcome :
      System Index Call (Bucket.Reply Answer) (Estate Index) Outcome).Resolver String where
  call := serve
  drift _ _ := none
  call_sound := by
    intro index call before drawn reply after served
    cases call with
    | get key =>
      simp only [serve] at served
      split at served
      next stored =>
        cases served
        exact ⟨stored, rfl⟩
      next absent =>
        cases served
        exact ⟨absent, rfl⟩
    | write key value expected =>
      simp only [serve] at served
      split at served
      next matching =>
        cases served
        exact ⟨_, ⟨matching, rfl, rfl⟩, rfl⟩
      · cases served
        exact ⟨_, rfl, rfl⟩
    | waits =>
      cases served
      rfl
    | ask op => exact works_sound served
  drift_sound := nofun

instance (estate : Estate Index) (volumeID : String) : Decidable (estate.Live volumeID) :=
  decidable_of_iff (∃ key ∈ estate.keys,
      key.id = volumeID ∧ ∃ volume ∈ estate.volumes key, volume.Live) <| by
    constructor
    · rintro ⟨⟨account, _⟩, _, rfl, volume, stored, live⟩
      exact ⟨account, volume, stored, live⟩
    · rintro ⟨account, volume, stored, live⟩
      refine ⟨⟨account, volumeID⟩, estate.complete _ ?_, rfl, volume, stored, live⟩
      rw [stored]
      exact Option.some_ne_none volume

instance [Fintype Index] (index : Index) (call : Call) (before : Estate Index)
    (reply : Bucket.Reply Answer call) : Decidable (Timely index call before reply) := by
  unfold Timely
  split <;> infer_instance

/-- The resolver of timely runs on healthy surroundings. -/
def timelyScheduler
    (Index : Type) [DecidableEq Index] [Fintype Index] : (timely Index).Resolver String :=
  (scheduler Index).restrict Timely

end

namespace Sample

/-- The requests of the sample runs. -/
inductive Actor where
  | deleter
  | creator
  | sweeper
deriving DecidableEq

instance : Fintype Actor where
  elems := {.deleter, .creator, .sweeper}
  complete actor := by cases actor <;> decide

/-- The volume alone. -/
def estate : Estate Actor where
  volumes key := if key = volume.home then some volume else none
  keys := [volume.home]
  complete := by
    intro key stored
    split at stored
    next same => simp [same]
    · exact absurd rfl stored
  snapshots _ := none
  snapRefs := .empty
  phase id := if id = "vol-1" then .recorded account else .free
  scans _ := none

/-- The volume, its snapshot, and the index that lists it. -/
def snapped : Estate Actor :=
  (estate.setRefs (Shelf.empty.put "vol-1" (some (some ["snap-1"])))).putSnapshot snapshot

/-- The volume is deleted, snapshotted and reclaimed. -/
def reclaimed : Actor → Request
  | .deleter => .deleteVolume (some "vol-1") account
  | .creator => .createSnapshot ⟨some "vol-1", none, []⟩ account
  | .sweeper => .sweep

/-- The snapshot is deleted while a volume is created from it. -/
def cloned : Actor → Request
  | .deleter => .deleteSnapshot (some "snap-1") account
  | .creator =>
    .createVolume "zone" (some ⟨none, some "zone", some "snap-1", none, none, none, []⟩) account
  | .sweeper => .sweep

/-- Some steps of one request. -/
def steps (count : Nat) (actor : Actor) : List (System.Move Actor String) :=
  List.replicate count (.thread actor "a")

theorem estate_consistent : Consistent estate := by
  have only : ∀ key stored, estate.volumes key = some stored →
          key = volume.home ∧ stored = volume := by
    intro key stored present
    simp only [estate, Option.ite_none_right_eq_some, Option.some.injEq] at present
    exact ⟨present.1, present.2.symm⟩
  constructor
  · intro key stored present
    rcases only key stored present with ⟨rfl, rfl⟩
    rfl
  · intro key stored present
    cases present
  · intro key stored present
    rcases only key stored present with ⟨rfl, rfl⟩
    rfl
  · intro key stored present
    cases present
  · intro volumeID snapshotID member
    cases member
  · intro key stored present
    cases present
  · intro key stored present
    rcases only key stored present with ⟨rfl, rfl⟩
    exact .inl rfl

end Sample

/-! ## Writes between a check and the write that relies on it -/

/--
A volume whose deletion was accepted is snapshotted, and the sweep is about to
tear it down.  A volume is created from a snapshot between the scan for such
volumes and the call that deletes the snapshot.
-/
theorem provider_destroys_referenced_data :
    (∃ pool, (system Outcome).Reachable (Pool.start estate fun actor =>
            (reclaimed actor).program) pool ∧
        (pool.thread .sweeper).pending = some (.ask (.deleteVolume "vol-1" "handle")) ∧
        (pool.shared.snapshots ⟨account, "snap-a"⟩).map
            (fun snapshot => (snapshot.volumeID, snapshot.state)) =
          some ("vol-1", .completed)) ∧
      ∃ pool, (system Outcome).Reachable
          (Pool.start snapped fun actor => (cloned actor).program) pool ∧
        (pool.thread .deleter).pending = some (.ask (.deleteSnapshot "snap-1" "handle")) ∧
        (pool.shared.volumes ⟨account, "vol-a"⟩).map
            (fun volume => (volume.snapshotID, volume.state)) =
          some ("snap-1", .available) := by
  constructor
  · have played : ((scheduler Actor).play (Pool.start estate fun actor => (reclaimed actor).program)
          [steps 5 .deleter, steps 8 .creator, steps 3 .sweeper].flatten).map
        (fun pool => ((pool.thread .sweeper).pending, (pool.shared.snapshots
          ⟨account, "snap-a"⟩).map fun snapshot => (snapshot.volumeID, snapshot.state))) =
        some (some (.ask (.deleteVolume "vol-1" "handle")), some ("vol-1", .completed)) :=
      rfl
    rcases (scheduler Actor).exists_of_play played with ⟨pool, reached, seen⟩
    simp only [Prod.mk.injEq] at seen
    exact ⟨pool, reached, seen⟩
  · have played : ((scheduler Actor).play (Pool.start snapped fun actor => (cloned actor).program)
          [steps 4 .deleter, steps 6 .creator].flatten).map
        (fun pool => ((pool.thread .deleter).pending,
            (pool.shared.volumes ⟨account, "vol-a"⟩).map fun volume =>
                  (volume.snapshotID, volume.state))) =
          some (some (.ask (.deleteSnapshot "snap-1" "handle")), some ("snap-1", .available)) :=
      rfl
    rcases (scheduler Actor).exists_of_play played with ⟨pool, reached, seen⟩
    simp only [Prod.mk.injEq] at seen
    exact ⟨pool, reached, seen⟩

/-- A deleted volume without snapshots is torn down in a timely run. -/
theorem provider_destroys_deleted_volume :
    ∃ pool, (timely Actor).Reachable
        (Pool.start estate fun actor => (reclaimed actor).program) pool ∧
      (pool.thread .sweeper).pending = some (.ask (.deleteVolume "vol-1" "handle")) ∧
      Allowed (.ask (.deleteVolume "vol-1" "handle")) pool.shared := by
  have played : ((timelyScheduler Actor).play
        (Pool.start estate fun actor => (reclaimed actor).program)
        [steps 5 .deleter, steps 3 .sweeper].flatten).map
      (fun pool => (pool.thread .sweeper).pending) =
      some (some (Bucket.Call.ask (.deleteVolume "vol-1" "handle"))) :=
    rfl
  rcases (timelyScheduler Actor).exists_of_play played with ⟨pool, reached, pending⟩
  exact ⟨pool, reached, pending, provider_destroys_only_unreferenced_data
      estate_consistent reached pending⟩

end Spinifex.Snapshots
