import Spinifex.Ebs.Deletion
import Spinifex.Ebs.Frame
import Spinifex.Ebs.Schedule

/-!
# Histories of requests

Requests made one at a time, each run to its end before the next one starts.
In every history a detach that names an instance, and a terminate of an
instance, keeps the attachments of every other instance, as long as the
records and the request name only volumes that are the instance's to release.
A forced detach that names the wrong instance does not. -/

namespace Spinifex.Ebs

open Aws Concurrency Go

section

variable {Index : Type}

/-- One request and the clusters before and after it. -/
structure Turn (Index : Type) where
  request : Request
  before : Cluster Index
  after : Cluster Index

/-- Requests made one at a time, from a cluster on. -/
inductive History (index : Index) : Cluster Index → List (Turn Index) → Prop where
  | nil {initial : Cluster Index} : History index initial []
  | cons {request : Request} {before after : Cluster Index}
    {outcome : Outcome} {turns : List (Turn Index)}
    (run : (system Index).Executes index request.program before outcome after)
    (rest : History index after turns) :
    History index before (⟨request, before, after⟩ :: turns)

/-- The request is a detach that names the instance, or a terminate of it. -/
def Request.Names (id : String) : Request → Prop
  | .detachVolume _ input => input.instanceID = some id ∧ id ≠ ""
  | .terminateInstance _ named => named = id
  | _ => False

/--
A record of the instance lists no volume of another instance among those the
request is about, and neither is the volume of a forced detach one.
-/
def Request.Rightful (id : String) (before : Cluster Index) : Request → Prop
  | .detachVolume account input =>
    before.Releasable id (input.volumeID.getD "") ∧ (input.force = some true →
      before.Yields id account (input.volumeID.getD ""))
  | .terminateInstance _ _ => ∀ volumeID, before.Releasable id volumeID
  | _ => True

/-! ## Every history -/

variable {cluster : Cluster Index}

theorem Cluster.Keyed.putDocument (keyed : cluster.Keyed) (volume : Volume) :
    (cluster.putDocument volume).Keyed := by
  intro key other
  simp only [Cluster.putDocument, Function.update_apply]
  split
  next same =>
    rintro ⟨⟩
    exact same.symm
  · exact keyed key other

theorem Cluster.Keyed.removeDocument (keyed : cluster.Keyed) (removed : Key) :
    (cluster.removeDocument removed).Keyed := by
  intro key other
  simp only [Cluster.removeDocument, Function.update_apply]
  split
  · rintro ⟨⟩
  · exact keyed key other

variable {before after : Cluster Index} {index : Index}

/-- No call stores a document under another key than its own. -/
theorem Cluster.Keyed.perform (keyed : before.Keyed)
    (performed : Ebs.perform index op before reply after) : after.Keyed := by
  cases becomes_of_perform performed with
  | putDocument seen volume => exact keyed.putDocument volume
  | removeDocument key => exact keyed.removeDocument key
  | _ => exact keyed

theorem Cluster.Keyed.executes
    (keyed : before.Keyed) (run : (system Index).Executes index program before result after) :
    after.Keyed := by
  refine run.invariant (fun before after drifted keyed => ?_)
      (fun _ _ _ _ keyed performed => keyed.perform performed) keyed
  unfold Cluster.Keyed
  rwa [Drift.documents drifted]

/-- One request keeps the attachments of the other instances. -/
theorem Request.keepsOthers {request : Request} {id : String}
    (names : request.Names id) (rightful : request.Rightful id before) (keyed : before.Keyed)
    (run : (system Index).Executes index request.program before outcome after) :
    before.KeepsOthers id after := by
  have narrow : Narrow index id before request.program fun _ => True := by
    cases request with
    | detachVolume account input =>
      exact System.confined_bind (narrow_detachVolume names.1 names.2 rightful.1 rightful.2)
          fun _ _ => narrow_pure trivial
    | terminateInstance account named =>
      cases names
      exact System.confined_bind ((narrow index id before).terminateInstance rightful account)
        fun _ _ => narrow_pure trivial
    | _ => cases names
  exact (narrow _ _ _ (.refl keyed) run).1.keepsOthers

/--
In every history a detach that names an instance, or a terminate of one,
changes an attachment only on a document that names the instance, and leaves
the document of a volume that is attached to another instance as it is.
-/
theorem release_keeps_other_attachments
    {index : Index} {initial : Cluster Index} {turns : List (Turn Index)} (keyed : initial.Keyed)
    (history : History index initial turns) :
    ∀ turn ∈ turns, ∀ id, turn.request.Names id →
      turn.request.Rightful id turn.before → turn.before.KeepsOthers id turn.after := by
  induction history with
  | nil => nofun
  | cons run rest induction =>
    intro turn member id names rightful
    cases member with
    | head => exact Request.keepsOthers names rightful keyed run
    | tail _ later =>
      exact induction (keyed.executes run) turn later id names rightful

end

/-! ## Two histories -/

namespace Sample

/-- Attach the volume to the first instance. -/
def attachFirst : Request :=
  .attachVolume account ⟨some "vol-1", some "i-1", none⟩

/-- Detach the volume from an instance, by force or not. -/
def detachFrom (id : String) (force : Bool) : Request :=
  .detachVolume account ⟨some "vol-1", some id, none, some force⟩

/-- A request all of whose calls work, run alone. -/
def alone (request : Request) (before : Cluster Unit) : Option (Outcome × Cluster Unit) :=
  (scheduler Unit).alone () request.program before (List.replicate 20 .works)

/-- The cluster after such a request. -/
def afterwards (request : Request) (before : Cluster Unit) : Cluster Unit :=
  (alone request before).elim before Prod.snd

/-- Two requests, the second made when the first has ended. -/
def twoTurns (first second : Request) : List (Turn Unit) :=
  let middle := afterwards first (cluster Unit)
  [⟨first, cluster Unit, middle⟩, ⟨second, middle, afterwards second middle⟩]

theorem executes_afterwards (ended : (alone request before).isSome) :
    ∃ outcome, (system Unit).Executes () request.program before outcome
      (afterwards request before) := by
  rcases Option.isSome_iff_exists.1 ended with ⟨⟨outcome, after⟩, ran⟩
  refine ⟨outcome, ?_⟩
  rw [afterwards, ran]
  exact (scheduler Unit).alone_sound ran

theorem history_twoTurns {first second : Request} (firstEnded : (alone first (cluster Unit)).isSome)
    (secondEnded : (alone second (afterwards first (cluster Unit))).isSome) :
    History () (cluster Unit) (twoTurns first second) := by
  rcases executes_afterwards firstEnded with ⟨_, firstRun⟩
  rcases executes_afterwards secondEnded with ⟨_, secondRun⟩
  exact .cons firstRun (.cons secondRun .nil)

theorem cluster_keyed : (cluster Unit).Keyed := by
  intro key volume found
  simp only [cluster] at found
  split at found
  next same =>
    cases found
    exact same.symm
  · cases found

end Sample

open Sample

/--
A forced detach names an instance that does not exist.  No node answers, so
the gateway clears the document, which names another instance.
-/
theorem forced_detach_clears_attachment_of_another_instance :
    History () (cluster Unit) (twoTurns attachFirst (detachFrom "i-3" true)) ∧
      ∃ turn ∈ twoTurns attachFirst (detachFrom "i-3" true),
        turn.request.Names "i-3" ∧ (turn.before.documents volume.key).map
              (fun volume => (volume.state, volume.attachedInstance)) =
            some (.inUse, "i-1") ∧
          (turn.after.documents volume.key).map
              (fun volume => (volume.state, volume.attachedInstance)) =
            some (.available, "") := by
  refine ⟨history_twoTurns rfl rfl, _, .tail _ (.head _), ⟨rfl, nofun⟩, rfl, rfl⟩

/-- A detach that names another instance is refused. -/
theorem detach_naming_another_instance_keeps_attachment :
    ((afterwards attachFirst (cluster Unit)).documents volume.key).map Volume.attachedInstance =
        some "i-1" ∧
      (afterwards attachFirst (cluster Unit)).KeepsOthers "i-2"
        (afterwards (detachFrom "i-2" false) (afterwards attachFirst (cluster Unit))) := by
  refine ⟨rfl, ?_⟩
  have history : History () (cluster Unit) (twoTurns attachFirst (detachFrom "i-2" false)) :=
    history_twoTurns rfl rfl
  refine release_keeps_other_attachments cluster_keyed history _
      (.tail _ (.head _)) "i-2" ⟨rfl, nofun⟩ ⟨?_, nofun⟩
  rintro vm (stored | stored)
  · cases stored
    nofun
  · cases stored

end Spinifex.Ebs
