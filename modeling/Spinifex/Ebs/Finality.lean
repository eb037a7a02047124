import Spinifex.Ebs.Deletion
import Spinifex.Ebs.Schedule

/-!
# Deletion is final in undisturbed runs

The statement about whole runs, a run in which nothing is lost and every
writer reads the deletion, and a run of two requests, one after the other, in
which a forced detach makes a deleted volume available again.
-/

namespace Spinifex.Ebs

open Aws Concurrency Go

section

variable {Index : Type} [DecidableEq Index]

/-- Every request of a deployment keeps deletions final. -/
theorem Deployment.upholds_finality {deployment : Deployment Index}
    (reached : (undisturbed Index).Reachable deployment.start pool) :
    (finality Index).PoolUpholds pool := by
  refine Discipline.reachable trivial (fun index => ?_) reached
  refine (preserves_program (deployment.requests index) Index index
      deployment.initial).mono (fun result seen _ _ => ?_) trivial
  intro before _ _
  exact ⟨fun key => .refl _, fun _ _ => trivial, trivial⟩

/--
Once a document records a deletion, every document stored under its key does,
none is stored after its removal, and an attach of the volume that begins
later fails.
-/
theorem Deployment.deletion_is_final_undisturbed
    (deployment : Deployment Index) {pool later : RequestPool Index} {key : Key} {volume : Volume}
    (reached : (undisturbed Index).Reachable deployment.start pool)
    (stored : pool.shared.documents key = some volume) (deleted : volume.Deleted)
    (continued : (undisturbed Index).Reachable pool later) :
    (∀ document, later.shared.documents key = some document → document.Deleted) ∧
    (later.shared.documents key = none → ∀ final,
      (undisturbed Index).Reachable later final → final.shared.documents key = none) ∧
    ∀ index account input, key = ⟨account, input.volumeID.getD ""⟩ →
      pool.thread index = .running (Request.attachVolume account input).program →
        ∀ attachment, later.thread index ≠ .returned (.attached (.ok attachment)) := by
  have upheld := deployment.upholds_finality reached
  have gone : Gone (pool.shared.documents key) := by
    rintro document found
    rw [stored] at found
    cases found
    exact deleted
  have followed := upheld.later continued
  refine ⟨?_, ?_, ?_⟩
  · exact (followed.1 key).gone gone
  · intro absent final ended
    exact ((followed.2.later ended).1 key).absent absent
  · rintro index account input rfl waiting attachment returned
    have refused :
        (finality Index).Upholds index (fun outcome _ => ∃ code, outcome = .attached (.error code))
          (Request.attachVolume account input).program
          pool.shared := by
      refine Discipline.upholds_bind.2
          ((refuses_attachVolume input account Index index trivial gone).mono ?_ trivial)
      rintro _ _ _ ⟨code, rfl⟩
      exact ⟨code, rfl⟩
    rcases upheld.follow (fun _ _ _ _ _ met => met) waiting refused continued with
      ⟨rest, running, _⟩ | ⟨outcome, _, ended, ⟨code, rfl⟩, _⟩
    · cases returned.symm.trans running
    · cases returned.symm.trans ended

end

/-! ## Schedules of undisturbed runs -/

instance {Index : Type} (index : Index) (op : Op)
    (before : Cluster Index) (reply : Reply op) :
    Decidable (Undisturbed index op before reply) := by
  rcases op with ⟨_, ⟨⟩⟩ | _ <;> unfold Undisturbed <;> infer_instance

/-- The resolver of undisturbed runs. -/
def undisturbedScheduler {Index : Type} : (undisturbed Index).Resolver Choice :=
  (scheduler Index).restrict Undisturbed

/-! ## A forced detach after a deletion -/

namespace Sample

/-- A deletion, a forced detach and an attach. -/
inductive Caller where
  | deleter
  | detacher
  | attacher
deriving DecidableEq

/-- Three requests for the one volume of the small cluster. -/
def deletion : Deployment Caller where
  requests
    | .deleter => .deleteVolume account (some "vol-1")
    | .detacher =>
      .detachVolume account ⟨some "vol-1", some "i-3", none, some true⟩
    | .attacher => .attachVolume account ⟨some "vol-1", some "i-1", none⟩
  initial := cluster Caller

end Sample

open Sample

/--
The deletion has returned when a forced detach naming an instance that does
not answer makes the volume available again.
-/
theorem forced_detach_revives_deleted_volume :
    ∃ pool later, (system Caller).Reachable deletion.start pool ∧
      (system Caller).Reachable pool later ∧
      (pool.thread .deleter).result = some (.deleted (.ok ())) ∧
      (pool.shared.documents volume.key).map
          (fun volume => (volume.state, volume.attachedInstance)) =
        some (.deleting, "") ∧
      (later.shared.documents volume.key).map Volume.state = some .available := by
  have played : (((scheduler Caller).play deletion.start (steps 5 .deleter)).bind fun middle =>
        ((scheduler Caller).play middle (steps 7 .detacher)).map fun last =>
            (((middle.thread .deleter).result, (middle.shared.documents volume.key).map
                fun volume => (volume.state, volume.attachedInstance)),
              (last.shared.documents volume.key).map Volume.state)) =
        some ((some (.deleted (.ok ())), some (.deleting, "")), some .available) :=
    rfl
  rcases (scheduler Caller).exists_of_play_play played with
    ⟨pool, later, reached, continued, before, after⟩
  exact ⟨pool, later, reached, continued, congrArg Prod.fst before, congrArg Prod.snd before, after⟩

/-- An attach after the deletion finds it. -/
theorem attach_after_deletion_is_refused :
    ∃ pool later, (undisturbed Caller).Reachable deletion.start pool ∧
      (undisturbed Caller).Reachable pool later ∧
      pool.shared.documents volume.key = some (volume.attach .deleting "" "" none) ∧
      (later.thread .attacher).result = some (.attached (.error .volumeInUse)) ∧
      (∀ document, later.shared.documents volume.key = some document → document.Deleted) := by
  have played : ((undisturbedScheduler.play deletion.start (steps 5 .deleter)).bind fun middle =>
        (undisturbedScheduler.play middle (steps 5 .attacher)).map fun last =>
            (middle.shared.documents volume.key, (last.thread .attacher).result)) =
        some (some (volume.attach .deleting "" "" none), some (.attached (.error .volumeInUse))) :=
    rfl
  rcases undisturbedScheduler.exists_of_play_play played with
    ⟨pool, later, reached, continued, stored, returned⟩
  exact ⟨pool, later, reached, continued, stored, returned,
      (deletion.deletion_is_final_undisturbed reached stored ⟨rfl, rfl⟩ continued).1⟩

end Spinifex.Ebs
