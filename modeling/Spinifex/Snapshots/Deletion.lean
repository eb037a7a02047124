import Spinifex.Snapshots.Creation

/-!
# Destroying snapshots and volumes

The deletion of a snapshot, which scans all volume documents first, and the
sweep that tears deleted volumes down.
-/

namespace Spinifex.Snapshots

open Concurrency Go State Discipline Program List

variable {Index : Type} {index : Index}

/-! ## What the requests know -/

/-- The request looks for clones, and those left are known or listed. -/
def Sighted (index : Index) (snapshotID : String) (known : Volume → Prop)
    (unread : List Key) (estate : Estate Index) : Prop :=
  estate.scans index = some snapshotID ∧ ∀ key volume, estate.volumes key = some volume →
    volume.Live → volume.snapshotID = snapshotID → known volume ∨ key ∈ unread

variable {estate : Estate Index}

theorem Sighted.mono (sighted : Sighted index snapshotID known unread estate)
    (implies : ∀ volume, known volume → wider volume) :
    Sighted index snapshotID wider unread estate :=
  ⟨sighted.1, fun key volume stored live clone =>
    (sighted.2 key volume stored live clone).imp_left (implies volume)⟩

/-- Reading one listed document leaves the others. -/
theorem Sighted.read (sighted : Sighted index snapshotID known (key :: unread) estate)
    (found : ∀ volume, estate.volumes key = some volume → known volume) :
    Sighted index snapshotID known unread estate := by
  refine ⟨sighted.1, ?_⟩
  intro other volume stored live clone
  rcases sighted.2 other volume stored live clone with met | listed
  · exact .inl met
  · rcases mem_cons.1 listed with rfl | listed
    · exact .inl (found volume stored)
    · exact .inr listed

/-- The request looks for clones, and there are none. -/
def Cloneless (index : Index) (snapshotID : String) (estate : Estate Index) : Prop :=
  Sighted index snapshotID (fun _ => False) [] estate

theorem Cloneless.allowed (cloneless : Cloneless index snapshotID estate)
    (handle : String) : Allowed (.ask (.deleteSnapshot snapshotID handle)) estate := by
  intro key volume stored live clone
  rcases cloneless.2 key volume stored live clone with
    nothing | listed
  · exact nothing
  · cases listed

variable {volumes : List Volume}

/-- What a sweep knows of the documents it has read. -/
def Reclaimable (volumes : List Volume) (estate : Estate Index) : Prop :=
  ∀ volume ∈ volumes, ¬ volume.Live → Doomed volume.tenantID volume.volumeID estate

theorem Reclaimable.evolves {before after : Estate Index} (reclaimable : Reclaimable volumes before)
    (evolved : Evolves before after) : Reclaimable volumes after :=
  fun volume member dead => (reclaimable volume member dead).evolves evolved

/-- A stored document can be reclaimed if it is a deleting one. -/
theorem Consistent.reclaimable (consistent : Consistent estate)
    (stored : estate.volumes key = some volume) : Reclaimable [volume] estate := by
  intro other member dead
  cases mem_singleton.1 member
  have home := consistent.volumeHome key volume stored
  have known := consistent.volumeRecorded key volume stored
  rw [← home] at known stored
  refine ⟨known, ?_⟩
  intro later present live
  cases stored.symm.trans present
  exact dead live

variable [DecidableEq Index]

/-! ## Deleting snapshots -/

theorem sighted_lasting (snapshotID : String) (known : Volume → Prop)
    (unread : List Key) : Lasting index (Sighted index snapshotID known unread) := by
  intro before after relied _ met
  refine ⟨relied.spares.scans.trans met.1, ?_⟩
  intro key volume stored live clone
  exact met.2 key volume (relied.spares.clones snapshotID met.1 key volume stored live clone)
      live clone

/-- Reading all listed documents finds every clone. -/
theorem guards_fetchClones (keys : List Key) :
    Guards index (Sighted index snapshotID known keys)
      (fetchDocuments .listPartial keys) fun result state =>
        result.2 = [] → Sighted index snapshotID (fun volume => known volume ∨ volume ∈ result.1) []
          state := by
  induction keys generalizing known with
  | nil => exact ensures_pure fun _ met _ => Sighted.mono met fun _ => .inl
  | cons key keys induction =>
    have read :
        Guards index (Sighted index snapshotID known (key :: keys)) (ask (.getVolume key))
          fun (fetched : Except Failure Volume) state =>
            Sighted index snapshotID known (key :: keys) state ∧
              Reads (state.volumes key) fetched :=
      guards_read trivial (sighted_lasting _ _ _) fun _ _ _ met ran => ⟨met, ran.1⟩
    refine ensures_bind read fun fetched => ?_
    cases fetched with
    | ok document =>
      refine ensures_then (@induction fun volume => known volume ∨ volume = document) ?_
          fun result => ensures_pure fun _ met complete => ?_
      · rintro state ⟨sighted, read⟩
        have stored : state.volumes key = some document := read
        apply Sighted.read (Sighted.mono sighted fun _ => .inl)
        intro volume present
        exact .inr (Option.some.inj (present.symm.trans stored))
      · apply Sighted.mono (met complete)
        rintro volume ((met | rfl) | member)
        · exact .inl met
        · exact .inr mem_cons_self
        · exact .inr (mem_cons_of_mem _ member)
    | error failure =>
      by_cases absent : isNoSuchKey failure = true
      · refine ensures_then (@induction known) ?_ fun result => ?_
        · rintro state ⟨sighted, read⟩
          have missing : state.volumes key = none := read absent
          refine Sighted.read sighted fun volume present => ?_
          cases missing.symm.trans present
        · dsimp only
          rw [if_pos ⟨rfl, absent⟩]
          exact ensures_pure fun _ met => met
      · refine ensures_then (@induction fun _ => True) (fun state met =>
              Sighted.read (Sighted.mono met.1 fun _ _ => trivial) fun _ _ => trivial)
            fun result => ?_
        dsimp only
        rw [if_neg fun both => absent both.2]
        exact ensures_pure fun _ _ => nofun

theorem guards_collectClones :
    Guards index Always (collectDocuments .listPartial (some snapshotID))
      fun result state => ∀ volumes, result = .ok (volumes, []) →
        Sighted index snapshotID (fun volume => volume ∈ volumes) [] state := by
  have listing : Guards index Always (ask (.listVolumes (some snapshotID)))
      fun (listed : Except Failure (List Key)) state =>
          ∀ keys, listed = .ok keys → Sighted index snapshotID (fun _ => False) keys state := by
    apply ensures_request (Stable.const True)
    intro before reply after consistent _ performed
    rcases (performed trivial).1 with ⟨complete, rfl⟩
    refine ⟨keeps_setScan consistent _, ?_⟩
    intro keys answered
    refine ⟨Function.update_self .., ?_⟩
    intro key volume stored _ _
    refine .inr (complete keys answered key ?_)
    rw [show before.volumes key = some volume from stored]
    exact Option.some_ne_none _
  refine ensures_bind listing (either (fun _ => ?_) fun keys => ?_)
  · refine ensures_pure fun _ _ => ?_
    rintro volumes ⟨⟩
  refine ensures_then (guards_fetchClones keys) (fun _ met => met keys rfl)
      fun result => ensures_pure fun _ met => ?_
  rintro volumes ⟨⟩
  exact Sighted.mono (met rfl) fun _ found => found.resolve_left id

/-- A scan that finds nothing was complete. -/
theorem guards_snapshotInUseByVolumes :
    Guards index Always (snapshotInUseByVolumes snapshotID account)
      fun result state => result = .ok none → Cloneless index snapshotID state := by
  refine ensures_bind guards_collectClones fun collected => ?_
  match collected with
  | .error failure => exact ensures_pure fun _ _ => nofun
  | .ok (volumes, unreadable) =>
    dsimp only
    split
    · exact ensures_pure fun _ _ => nofun
    split
    · exact ensures_pure fun _ _ => nofun
    split
    · exact ensures_pure fun _ _ => nofun
    next unfound readable =>
      refine ensures_pure fun _ met _ => ?_
      have empty : clones snapshotID volumes = [] := not_not.1 unfound
      have sighted := met volumes (by rw [not_not.1 readable])
      refine ⟨sighted.1, ?_⟩
      intro key volume stored live clone
      rcases sighted.2 key volume stored live clone with
        found | listed
      · have member : volume ∈ clones snapshotID volumes := by simp [clones, found, clone, live]
        simp [empty] at member
      · exact .inr listed

theorem quiet_amiInUseBySnapshot (snapshotID account : String) :
    (amiInUseBySnapshot snapshotID account).Only Quiet := by
  refine only_bind (quiet_ask trivial) fun listed => ?_
  match listed with
  | .error failure => exact only_pure _
  | .ok (snapshots, unreadable) =>
    dsimp only
    split
    · exact only_pure _
    split
    all_goals exact only_pure _

theorem quiet_sweepObjects (keys : List String) : (sweepObjects keys).Only Quiet := by
  induction keys with
  | nil => exact only_pure _
  | cons key keys induction =>
    refine only_bind (quiet_ask trivial) fun deleted => ?_
    refine only_bind induction fun rest => ?_
    cases deleted <;> exact only_pure _

variable {account snapshotID : String}

/-- A document that could be removed is gone. -/
theorem guards_deleteSnapshotDocument :
    Guards index (Recorded account snapshotID)
      (deleteSnapshotDocument account snapshotID) fun removed state =>
        removalFailed removed = false → Gone account snapshotID state := by
  unfold deleteSnapshotDocument
  split
  next failure invalid =>
    refine ensures_pure fun _ _ removed => ?_
    unfold partitionedKey at invalid
    split_ifs at invalid
    all_goals
      cases invalid
      cases removed
  next key valid =>
    cases partitionedKey_eq_ok valid
    apply ensures_request (recorded_lasting account snapshotID)
    intro before reply after consistent known performed
    have ran := (performed trivial).1
    cases reply with
    | ok done =>
      subst after
      exact ⟨keeps_removeSnapshot _ consistent, fun _ => ⟨known, Function.update_self ..⟩⟩
    | error failure =>
      have ends : if isNoSuchKey failure then
            before.snapshots ⟨account, snapshotID⟩ = none ∧ after = before
          else
            after = before ∨ after = before.removeSnapshot ⟨account, snapshotID⟩ :=
        ran
      split_ifs at ends with absent
      · rcases ends with ⟨missing, rfl⟩
        exact ⟨.refl consistent, fun _ => ⟨known, missing⟩⟩
      · have wrong : removalFailed (.error failure) ≠ false := by
          simp [removalFailed, absent]
        rcases ends with rfl | rfl
        · exact ⟨.refl consistent, fun removed => absurd removed wrong⟩
        · exact ⟨keeps_removeSnapshot _ consistent, fun removed => absurd removed wrong⟩

/-- The snapshot is recorded, and no live volume was created from it. -/
def Expendable (index : Index) (account snapshotID : String) (estate : Estate Index) : Prop :=
  Cloneless index snapshotID estate ∧ Recorded account snapshotID estate

theorem expendable_lasting : Lasting index (Expendable index account snapshotID) :=
  (sighted_lasting snapshotID _ []).and (recorded_lasting account snapshotID)

/-- The provider's deletion, after a scan that found no clone. -/
theorem guards_destroySnapshot :
    Guards index (Expendable index account snapshotID)
      (destroySnapshot account cfg snapshotID) Anything := by
  have deleted : Guards index (Expendable index account snapshotID)
      (ask (.deleteSnapshot snapshotID cfg.providerHandle))
      fun _ => Recorded account snapshotID := by
    apply ensures_request expendable_lasting
    rintro before reply after consistent ⟨cloneless, known⟩ performed
    have done : after = before.setScan index none := (performed (Cloneless.allowed cloneless _)).1
    subst after
    exact ⟨keeps_setScan consistent none, known⟩
  refine ensures_bind deleted (either (fun _ => guards_return _) fun done => ?_)
  refine ensures_bind (guards_quiet (quiet_ask trivial) (recorded_lasting account snapshotID))
      fun listed => ?_
  cases listed with
  | error failure => exact guards_return _
  | ok objects =>
    refine ensures_bind (guards_quiet (quiet_sweepObjects objects)
          (recorded_lasting account snapshotID))
        fun swept => ?_
    cases swept with
    | false => exact guards_return _
    | true =>
      refine ensures_bind guards_deleteSnapshotDocument fun removed => ?_
      split
      · exact guards_return _
      next succeeded =>
        exact ensures_then (guards_removeSnapshotRef (fun _ gone => .inr ⟨account, gone⟩)
              (gone_lasting account snapshotID) fun _ _ met => met)
            (fun _ met => met (by simpa using succeeded))
            fun _ => guards_return _

theorem guards_deleteUncloned :
    Guards index (fun state => volumeErr = none → Expendable index account snapshotID state)
      (deleteUncloned account cfg snapshotID volumeErr) Anything := by
  have asked := quiet_amiInUseBySnapshot snapshotID account
  cases volumeErr with
  | some error =>
    refine ensures_then (guards_quiet asked (Stable.const True))
        (fun _ _ => trivial) fun amiInUse => ?_
    match amiInUse with
    | .ok true => exact guards_return _
    | .ok false => exact guards_return _
    | .error amiErr => exact guards_return _
  | none =>
    refine ensures_then (guards_quiet asked expendable_lasting)
        (fun _ met => met rfl) fun amiInUse => ?_
    match amiInUse with
    | .ok true => exact guards_return _
    | .error amiErr => exact guards_return _
    | .ok false => exact guards_destroySnapshot

theorem guards_deleteSnapshot {snapshotID : Option String} :
    Guards index Always (deleteSnapshot snapshotID account) Anything := by
  unfold deleteSnapshot
  split
  · exact guards_return _
  next snapshotID =>
    split
    · exact guards_return _
    refine ensures_bind guards_getSnapshotConfig (either (fun _ => guards_return _) fun cfg => ?_)
    dsimp only
    split
    · exact guards_return _
    have scanned : Guards index (Recorded account snapshotID)
        (snapshotInUseByVolumes snapshotID account)
        fun result state => result = .ok none → Expendable index account snapshotID state := by
      intro state consistent known
      refine (guards_snapshotInUseByVolumes consistent trivial).evolves.mono ?_ consistent
      intro result later _ met unused
      exact ⟨met.1 unused, met.2.recorded _ _ known⟩
    refine ensures_then scanned (fun _ met => met cfg rfl) fun inUse => ?_
    rcases inUse with error | _ | name
    · refine guards_deleteUncloned.given fun _ _ => ?_
      rintro ⟨⟩
    · exact guards_deleteUncloned.given fun _ met _ => met rfl
    · dsimp only
      split
      all_goals exact guards_return _

/-! ## The reclaim sweep -/

theorem reclaimable_lasting (volumes : List Volume) : Lasting index (Reclaimable volumes) :=
  fun _ _ relied _ met => Reclaimable.evolves met relied.evolves

theorem guards_fetchDoomed (mode : ListMode) (keys : List Key) :
    Guards index Always (fetchDocuments mode keys) fun result => Reclaimable result.1 := by
  induction keys with
  | nil =>
    refine ensures_pure fun _ _ => ?_
    rintro volume ⟨⟩
  | cons key keys induction =>
    have read :
        Guards index Always (ask (.getVolume key)) fun (fetched : Except Failure Volume) state =>
            ∀ volume, fetched = .ok volume → Reclaimable [volume] state := by
      refine guards_read trivial (Stable.const True) ?_
      rintro state reply consistent _ ⟨found, _⟩ volume rfl
      exact consistent.reclaimable found
    refine ensures_bind read fun fetched state consistent met => ?_
    have rest : guard.Upholds index (fun result later => Reclaimable result.1 later ∧
        Evolves state later) (fetchDocuments mode keys) state :=
      (induction consistent trivial).evolves
    refine upholds_andThen consistent rest fun result later _ outcome => ?_
    cases fetched with
    | ok document =>
      apply upholds_done.2
      intro volume member
      rcases mem_cons.1 member with rfl | member
      · exact Reclaimable.evolves (met volume rfl) outcome.2 volume (mem_singleton.2 rfl)
      · exact outcome.1 volume member
    | error failure =>
      dsimp only
      split
      all_goals exact upholds_done.2 outcome.1

theorem guards_collectDoomed :
    Guards index Always (collectDocuments .listTolerant none)
      fun result state => ∀ found, result = .ok found → Reclaimable found.1 state := by
  have listing : Guards index Always (ask (.listVolumes none)) Anything := by
    apply ensures_request (Stable.const True)
    intro before reply after consistent _ performed
    rcases (performed trivial).1 with ⟨_, rfl⟩
    exact ⟨keeps_setScan consistent none, trivial⟩
  refine ensures_bind listing (either (fun _ => ?_) fun keys => ?_)
  · refine ensures_pure fun _ _ => ?_
    rintro found ⟨⟩
  refine ensures_bind (guards_fetchDoomed _ keys) fun result => ensures_pure fun _ met => ?_
  rintro found ⟨⟩
  exact met

/-- Removing the document of a volume that is torn down. -/
theorem guards_deleteVolumeDocument {account volumeID : String}
    (doomed : ∀ state : Estate Index, Reclaimable volumes state → Doomed account volumeID state) :
    Guards index (Reclaimable volumes) (deleteVolumeDocument account volumeID)
      fun _ => Reclaimable volumes := by
  unfold deleteVolumeDocument
  split
  · exact ensures_pure fun _ met => met
  next key valid =>
    cases partitionedKey_eq_ok valid
    apply ensures_request (reclaimable_lasting volumes)
    intro before reply after consistent met performed
    have removal : guard.Keeps index before (before.removeVolume ⟨account, volumeID⟩) :=
      keeps_removeVolume consistent (doomed before met)
    have ran := (performed trivial).1
    have ends : after = before ∨ after = before.removeVolume ⟨account, volumeID⟩ := by
      cases reply with
      | ok done => exact .inr ran
      | error failure =>
        have either : if isNoSuchKey failure then
              before.volumes ⟨account, volumeID⟩ = none ∧ after = before
            else
              after = before ∨ after = before.removeVolume ⟨account, volumeID⟩ :=
          ran
        split_ifs at either
        · exact .inl either.2
        · exact either
    rcases ends with rfl | rfl
    · exact ⟨.refl consistent, met⟩
    · exact ⟨removal, Reclaimable.evolves met removal.evolves⟩

theorem guards_reclaim (volumes : List Volume) (reclaimed : Nat) :
    Guards index (Reclaimable volumes) (reclaim volumes reclaimed) Anything := by
  induction volumes generalizing reclaimed with
  | nil => exact guards_return _
  | cons volume volumes induction =>
    have rest (count : Nat) :
        Guards index (Reclaimable (volume :: volumes)) (reclaim volumes count) Anything :=
      (induction count).given fun _ met other member => met other (mem_cons_of_mem _ member)
    refine ensures_bind (guards_quiet ⟨trivial, fun _ => trivial⟩
          (reclaimable_lasting (volume :: volumes)))
        fun waited => ?_
    cases waited with
    | false => exact guards_return _
    | true =>
      rw [if_pos rfl]
      split
      · exact rest reclaimed
      next deleting =>
        have doomed : ∀ state : Estate Index, Reclaimable (volume :: volumes) state →
            Doomed volume.tenantID volume.volumeID state :=
          fun state met => met volume mem_cons_self deleting
        refine ensures_bind (guards_deleteVolumeData (reclaimable_lasting (volume :: volumes))
              fun state consistent met => consistent.not_live_of_doomed (doomed state met))
            fun deleted => ?_
        cases deleted with
        | error failure => exact rest reclaimed
        | ok done =>
          refine ensures_bind (guards_deleteVolumeDocument doomed) fun removed => ?_
          cases removed with
          | ok done => exact rest (reclaimed + 1)
          | error failure =>
            dsimp only
            split
            · exact rest (reclaimed + 1)
            · exact rest reclaimed

theorem guards_sweep : Guards index Always sweep Anything := by
  refine ensures_bind guards_collectDoomed fun collected => ?_
  match collected with
  | .error failure => exact guards_return _
  | .ok (volumes, unreadable) =>
    exact (guards_reclaim volumes 0).given fun _ met => met (volumes, unreadable) rfl

/-! ## All interleavings -/

theorem guards_map (guards : Guards index Always program Anything) :
    Guards index Always (convert <$> program) Anything :=
  ensures_bind guards fun _ => guards_return _

theorem guards_request (request : Request) : Guards index Always request.program Anything := by
  cases request with
  | createVolume zone input account => exact guards_map guards_createVolume
  | deleteVolume volumeID account => exact guards_map guards_deleteVolume
  | createSnapshot input account => exact guards_map guards_createSnapshot
  | copySnapshot input account => exact guards_map guards_copySnapshot
  | deleteSnapshot snapshotID account => exact guards_map guards_deleteSnapshot
  | sweep => exact ensures_bind guards_sweep fun _ => guards_return _

end Spinifex.Snapshots
