import Spinifex.Ebs.Writers

/-!
# One writer in the runs without overwritten claims

The statement about whole runs, and two attaches of one volume to two stopped
instances: one after the other, and both between the other's check and put.
-/

namespace Spinifex.Ebs

open Aws Concurrency Go Discipline

/-- An attach, or a detach that is not forced. -/
def Request.Ordinary : Request → Prop
  | .attachVolume _ _ => True
  | .detachVolume _ input => input.force.getD false = false
  | _ => False

/-- Ordinary requests of a cluster that is consistent at first. -/
structure AttachmentDeployment (Index : Type) extends Deployment Index where
  ordinary : ∀ index, (requests index).Ordinary
  consistent : Consistent initial

/-- What an instance holds is assigned to it. -/
theorem Cluster.Holds.assigned {id volumeID : String} (holds : cluster.Holds id volumeID)
    (consistent : Consistent cluster) : cluster.Assigned volumeID id := by
  rcases holds with inside | ⟨vm, stored, member⟩
  · exact consistent.inGuest id volumeID inside
  · apply consistent.listed id volumeID
    rwa [Cluster.listed_of_stopped stored]

section

variable {Index : Type} [DecidableEq Index]

/-- Every reachable cluster of those runs is consistent. -/
theorem AttachmentDeployment.reaches_consistent {deployment : AttachmentDeployment Index}
    (reached : (unclaimed Index).Reachable deployment.start pool) : Consistent pool.shared := by
  rcases System.Reachable.observed reached fun _ : String => none with ⟨held, observed⟩
  have inOrder : InOrder (deployment.initial, fun _ => (none : Option Index)) :=
    ⟨deployment.consistent, fun _ _ _ => rfl⟩
  have upheld : (exclusion Index).PoolUpholds ⟨(pool.shared, held), pool.thread⟩ := by
    refine reachable inOrder (fun index => ?_) observed
    have ordinary := deployment.ordinary index
    cases request : deployment.requests index with
    | attachVolume account input =>
      exact upholds_andThen inOrder (orderly_attachVolume input account inOrder trivial)
          fun _ _ _ _ => settles_unchanged fun _ => rfl
    | detachVolume account input =>
      rw [request] at ordinary
      exact upholds_andThen inOrder
          (orderly_detachVolume account ordinary inOrder trivial)
          fun _ _ _ _ => settles_unchanged fun _ => rfl
    | _ =>
      rw [request] at ordinary
      cases ordinary
  exact upheld.invariant.consistent

/--
No two instances hold a volume, and the document of a volume that an instance
holds is in use by it, in every run in which each claim finds the document
still available.
-/
theorem AttachmentDeployment.volume_has_one_writer_unclaimed
    (deployment : AttachmentDeployment Index) {pool : RequestPool Index}
    (reached : (unclaimed Index).Reachable deployment.start pool) :
    (∀ left right volumeID, pool.shared.Holds left volumeID →
      pool.shared.Holds right volumeID → left = right) ∧
    ∀ id volumeID, pool.shared.Holds id volumeID → ∃ volume,
      pool.shared.documents volume.key = some volume ∧
        volume.volumeID = volumeID ∧ volume.HeldBy id := by
  have consistent := deployment.reaches_consistent reached
  refine ⟨fun left right volumeID first second => ?_, ?_⟩
  · exact Cluster.assigned_unique consistent
        (first.assigned consistent) (second.assigned consistent)
  · intro id volumeID holds
    exact holds.assigned consistent

end

/-! ## Schedules -/

instance (mutate : VM → VM) (update : Update) : Decidable (update.Straight mutate) := by
  rcases update with ⟨⟩ <;> unfold Update.Straight <;> infer_instance

instance {Index : Type} (index : Index) (op : Op)
    (before : Cluster Index) (reply : Reply op) : Decidable (Unclaimed index op before reply) := by
  rcases op with ⟨⟩ <;> unfold Unclaimed <;> infer_instance

/-- The resolver of the runs without overwritten claims. -/
def unclaimedScheduler {Index : Type} : (unclaimed Index).Resolver Choice :=
  (scheduler Index).restrict Unclaimed

namespace Sample

variable {Index : Type}

theorem cluster_listed (id : String) : (cluster Index).listed id = [] := by
  unfold Cluster.listed cluster
  dsimp only
  split_ifs <;> rfl

theorem cluster_stored
    (stored : (cluster Index).documents key = some found) : key = volume.key ∧ found = volume := by
  unfold cluster at stored
  dsimp only at stored
  split_ifs at stored with same
  cases stored
  exact ⟨same, rfl⟩

theorem cluster_consistent (Index : Type) : Consistent (cluster Index) where
  keyed key found stored := by
    rw [(cluster_stored stored).1, (cluster_stored stored).2]
  unique first second storedFirst storedSecond _ := by
    rw [(cluster_stored storedFirst).2, (cluster_stored storedSecond).2]
  listed id volumeID member := by
    simp [cluster_listed] at member
  distinct id := by
    rw [cluster_listed]
    exact List.nodup_nil
  apart _ _ := rfl
  idle _ _ := rfl
  inGuest _ _ := nofun

/-- Attaches of one volume to the two stopped instances. -/
def attaches : AttachmentDeployment Bool where
  requests first := .attachVolume account
    ⟨some "vol-1", some (if first then "i-1" else "i-2"), none⟩
  initial := cluster Bool
  ordinary _ := trivial
  consistent := cluster_consistent Bool

/-- The record of a stopped instance that lists the volume. -/
def holding : VM :=
  addVolumeToRecord "vol-1" "/dev/sdf" false stopped

/-- What a successful attach returns. -/
def attachment (id : String) : VolumeAttachment :=
  ⟨"vol-1", some id, some "/dev/sdf", none, .attaching⟩

theorem holds_of_holding {shared : Cluster Index} {id : String}
    (stored : shared.stopped id = some holding) : shared.Holds id "vol-1" :=
  .inr ⟨holding, stored, by decide⟩

end Sample

open Sample

/--
Both attaches have read the document as available when they put their claims,
and both records list the volume when all calls have returned.
-/
theorem racing_attaches_give_volume_two_holders :
    ∃ pool, (system Bool).Reachable attaches.start pool ∧
      (pool.thread true).result = some (.attached (.ok (attachment "i-1"))) ∧
      (pool.thread false).result = some (.attached (.ok (attachment "i-2"))) ∧
      pool.shared.Holds "i-1" "vol-1" ∧
      pool.shared.Holds "i-2" "vol-1" ∧
      (pool.shared.documents volume.key).map Volume.attachedInstance = some "i-1" := by
  have played : ((scheduler Bool).play attaches.start
        [steps 5 true, steps 9 false, steps 4 true].flatten).map
      (fun pool => ((pool.thread true).result, (pool.thread false).result,
        pool.shared.stopped "i-1", pool.shared.stopped "i-2",
        (pool.shared.documents volume.key).map Volume.attachedInstance)) =
      some (some (.attached (.ok (attachment "i-1"))), some (.attached (.ok (attachment "i-2"))),
        some holding, some holding,
        some "i-1") :=
    rfl
  rcases (scheduler Bool).exists_of_play played with ⟨pool, reached, seen⟩
  simp only [Prod.mk.injEq] at seen
  rcases seen with ⟨first, second, one, two, named⟩
  exact ⟨pool, reached, first, second, holds_of_holding one, holds_of_holding two, named⟩

/-- The second attach reads the claim of the first. -/
theorem attach_of_claimed_volume_is_refused :
    ∃ pool, (unclaimed Bool).Reachable attaches.start pool ∧ pool.shared.Holds "i-1" "vol-1" ∧
      (pool.thread false).result = some (.attached (.error .volumeInUse)) ∧
      ∀ id, pool.shared.Holds id "vol-1" → id = "i-1" := by
  have played : (unclaimedScheduler.play attaches.start [steps 9 true, steps 5 false].flatten).map
      (fun pool => (pool.shared.stopped "i-1", (pool.thread false).result)) =
      some (some holding, some (.attached (.error .volumeInUse))) :=
    rfl
  rcases unclaimedScheduler.exists_of_play played with ⟨pool, reached, seen⟩
  simp only [Prod.mk.injEq] at seen
  have holds := holds_of_holding seen.1
  exact ⟨pool, reached, holds, seen.2, fun id other =>
      (attaches.volume_has_one_writer_unclaimed reached).1 id "i-1" "vol-1" other holds⟩

end Spinifex.Ebs
