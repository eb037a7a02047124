import Spinifex.Snapshots.Rules

/-!
# Creating volumes and snapshots

The requests that create volumes and snapshots, and the one that marks a
volume for deletion, one lemma for each of their programs.
-/

namespace Spinifex.Snapshots

open Concurrency Go State Discipline Program Stable

variable {Index : Type} [DecidableEq Index] {index : Index}

/-- Nothing is known. -/
abbrev Always : Estate Index → Prop :=
  fun _ => True

/-- Nothing is promised. -/
abbrev Anything {Result : Type} : Result → Estate Index → Prop :=
  fun _ _ => True

theorem guards_return (result : Result) : Guards index pre (pure result) Anything :=
  ensures_trivial

/-! ## The provider's deletions -/

variable {volumeID : String}

/-- Tearing down a volume that is not live. -/
theorem guards_deleteVolumeData (lasting : Lasting index pre)
    (dead : ∀ state, Consistent state → pre state → ¬ state.Live volumeID) :
    Guards index pre (ask (.deleteVolume volumeID handle)) fun _ => pre := by
  apply ensures_request lasting
  intro before reply after consistent met performed
  have allowed := consistent.unreferenced (dead before consistent met) handle
  have same : after = before := (performed allowed).1
  subst after
  exact ⟨.refl consistent, met⟩

/-! ## Creating volumes -/

/-- The snapshot a volume is created from has been recorded. -/
def Sourced (snapshotID : String) (estate : Estate Index) : Prop :=
  snapshotID = "" ∨ ∃ account, Recorded account snapshotID estate

theorem sourced_lasting (snapshotID : String) : Lasting index (Sourced snapshotID) :=
  fun _ _ relied _ met => source_mono relied.evolves.recorded met

/-- The request may record a volume of that name and source. -/
def Allocated (index : Index) (volumeID snapshotID : String) (estate : Estate Index) : Prop :=
  Drafted index volumeID estate ∧ Sourced snapshotID estate

theorem allocated_lasting (volumeID snapshotID : String) :
    Lasting index (Allocated index volumeID snapshotID) :=
  (drafted_lasting volumeID).and (sourced_lasting snapshotID)

/-- A name drawn at random has not been used. -/
theorem guards_generateResourceID (named : kind ≠ "") (lasting : Lasting index pre)
    (kept : ∀ state id, state.phase id = .free → pre state → pre (state.draft id index)) :
    Guards index pre (ask (.generateResourceID kind)) fun id state =>
      (Drafted index id state ∧ pre state) ∧ id ≠ "" := by
  apply ensures_request lasting
  intro before reply after consistent met performed
  rcases (performed trivial).1 with ⟨⟨drawn, rfl⟩, fresh, rfl⟩
  refine ⟨keeps_draft consistent fresh, ⟨Function.update_self .., kept _ _ fresh met⟩, ?_⟩
  simp [named]

theorem guards_abandonVolume :
    Guards index (Drafted index volumeID) (abandonVolume volumeID handle) Anything :=
  ensures_bind (guards_deleteVolumeData (drafted_lasting volumeID)
      fun _ consistent own => consistent.not_live_of_drafted own)
    fun _ => guards_return _

/-- A put either stores the document, in time, or does nothing. -/
theorem guards_stores (lasting : Lasting index pre)
    (refused : ∀ state failure, pre state → post (.error failure) state)
    (stores : ∀ before (reply : WriteReply Failure), Consistent before → pre before →
      reply.stored = true → Timely index (.ask (.putVolume volume)) before reply →
      guard.Keeps index before (before.putVolume volume) ∧
        post reply.result (before.putVolume volume)) :
    Guards index pre (putVolume volume) post := by
  unfold putVolume
  split
  · exact ensures_pure fun _ met => refused _ _ met
  have put : Guards index pre (ask (.putVolume volume))
      fun (reply : WriteReply Failure) => post reply.result := by
    apply ensures_request lasting
    rintro before reply after consistent met performed
    obtain ⟨done, timely⟩ := performed trivial
    cases stored : WriteReply.stored reply with
    | true =>
      obtain rfl : after = before.putVolume volume := done.trans (if_pos stored)
      exact stores before reply consistent met stored timely
    | false =>
      obtain rfl : after = before := done.trans (if_neg (by simp [stored]))
      cases reply with
      | acknowledged => cases stored
      | failed failure => exact ⟨.refl consistent, refused _ _ met⟩
  exact ensures_bind put fun reply => ensures_pure fun _ met => met

theorem guards_putVolume (live : volume.Live) :
    Guards index (Allocated index volume.volumeID volume.snapshotID)
      (putVolume volume) fun written state =>
        written ≠ .ok () → Drafted index volume.volumeID state := by
  apply guards_stores (allocated_lasting _ _) (fun _ _ met _ => met.1)
  rintro before reply consistent ⟨own, sourced⟩ stored timely
  obtain ⟨truthful, unscanned⟩ := (if_pos live).mp timely
  rw [truthful stored]
  exact ⟨keeps_putVolume consistent own sourced unscanned, fun failed => absurd rfl failed⟩

theorem guards_recordVolume (live : volume.Live) :
    Guards index (Allocated index volume.volumeID volume.snapshotID)
      (recordVolume volume) Anything := by
  refine ensures_bind (guards_quiet (quiet_ask trivial) (allocated_lasting _ _))
      (either (fun _ => guards_abandonVolume.given fun _ met => met.1) fun encrypted => ?_)
  have stays : { volume with encrypted := encrypted }.Live := live
  exact ensures_bind (guards_putVolume stays)
    (either (fun _ => guards_abandonVolume.given fun _ met => met nofun)
      fun done => guards_return _)

theorem guards_allocateVolume :
    Guards index (Allocated index volumeID source.snapshotID)
      (allocateVolume zone account tags source size iops throughput now volumeID) Anything := by
  refine ensures_bind (guards_quiet (quiet_ask trivial) (allocated_lasting _ _)) fun created => ?_
  rcases created with failure | _ | handle
  · exact guards_return _
  · exact guards_return _
  · refine (guards_recordVolume ?_).given fun _ met => met
    simp [Volume.Live]

theorem guards_readSource :
    Guards index Always (readSource snapshotID account) fun found state =>
      ∀ source, found = .ok source → Sourced source.snapshotID state := by
  unfold readSource
  extract_lets name
  split
  · refine ensures_pure fun _ _ => ?_
    rintro source ⟨⟩
    exact .inl rfl
  · refine ensures_bind (guards_getSnapshot (const True)) fun found => ?_
    cases found with
    | error failure =>
      refine ensures_pure fun _ _ => ?_
      rintro source ⟨⟩
    | ok snapshot =>
      rintro state consistent met source ⟨⟩
      exact .inr ⟨account, consistent.snapshotRecorded _ _ (met.2 snapshot rfl)⟩

theorem guards_createVolume :
    Guards index Always (createVolume zone input account) Anything := by
  unfold createVolume
  cases input with
  | none => exact guards_return _
  | some input =>
    dsimp only
    split
    · exact guards_return _
    split
    · exact guards_return _
    split
    · exact guards_return _
    split
    · exact guards_return _
    refine ensures_bind guards_readSource (either (fun _ => guards_return _) fun source => ?_)
    dsimp only
    split
    · exact guards_return _
    refine ensures_then (guards_quiet (quiet_ask trivial) (sourced_lasting source.snapshotID))
        (fun _ sourced => sourced source rfl) fun now => ?_
    refine ensures_bind (guards_generateResourceID (by decide)
          (sourced_lasting source.snapshotID) ?_)
        fun volumeID => ?_
    · intro state id fresh known
      exact source_mono (fun _ _ => recorded_update (by simp [fresh])) known
    split
    · exact guards_return _
    split
    · exact guards_return _
    exact guards_allocateVolume.given fun _ met => met.1

/-! ## Deleting volumes -/

theorem guards_markDeleting (dead : ¬ volume.Live) :
    Guards index (fun state => Recorded volume.tenantID volume.volumeID state ∧
      Sourced volume.snapshotID state) (putVolume volume) Anything := by
  refine guards_stores ((recorded_lasting volume.tenantID volume.volumeID).and
      (sourced_lasting volume.snapshotID)) (fun _ _ _ => trivial) ?_
  rintro before reply consistent ⟨known, sourced⟩ _ timely
  exact ⟨keeps_markDeleting consistent dead known sourced ((if_neg dead).mp timely), trivial⟩

theorem guards_updateVolumeState :
    Guards index Always (updateVolumeState account volumeID .deleting "" "") Anything := by
  refine ensures_bind (guards_getVolume (const True))
    (either (fun _ => guards_return _) fun volume => ?_)
  have dead : ¬ (volume.attach .deleting "" "" none).Live := fun live => live rfl
  have untimed : Guards index (fun state => Recorded volume.tenantID volume.volumeID state ∧
      Sourced volume.snapshotID state) (pure none : Session (Option Int)) fun attachedAt state =>
          attachedAt = none ∧ Recorded volume.tenantID volume.volumeID state ∧
            Sourced volume.snapshotID state :=
    ensures_pure fun _ met => ⟨rfl, met⟩
  intro state consistent met
  have stored := met.2 volume rfl
  have home := consistent.volumeHome _ _ stored
  have known := consistent.volumeRecorded _ _ stored
  rw [← home] at known
  refine ensures_bind untimed (fun attachedAt => ?_) consistent
      ⟨known, consistent.cloned _ _ stored⟩
  rintro state consistent ⟨rfl, met⟩
  refine ensures_bind (guards_markDeleting dead) (fun written => ?_) consistent met
  cases written <;> exact guards_return _

theorem quiet_checkVolumeHasNoSnapshots (volumeID : String) :
    (checkVolumeHasNoSnapshots volumeID).Only Quiet := by
  refine only_bind ?_ fun found => ?_
  · refine only_bind ⟨trivial, fun _ => only_pure _⟩ fun found => ?_
    rcases found with failure | ⟨_ | snapshots, revision⟩
    · dsimp only
      split
      all_goals exact only_pure _
    · exact only_pure _
    · exact only_pure _
  · rcases found with failure | _ | _
    all_goals exact only_pure _

theorem guards_deleteVolume :
    Guards index Always (deleteVolume volumeID account) Anything := by
  unfold deleteVolume
  extract_lets name
  split
  · exact guards_return _
  refine ensures_bind (guards_getVolume (const True)) (either (fun _ => ?_) fun volume => ?_)
  · dsimp only
    split
    all_goals exact guards_return _
  dsimp only
  split
  · exact guards_return _
  split
  · exact guards_return _
  split
  · exact guards_return _
  refine ensures_then (guards_quiet (quiet_checkVolumeHasNoSnapshots name) (const True))
      (fun _ _ => trivial) fun checked => ?_
  cases checked with
  | error error => exact guards_return _
  | ok done =>
    refine ensures_bind guards_updateVolumeState fun written => ?_
    cases written <;> exact guards_return _

/-! ## Creating snapshots -/

/-- Giving up a snapshot that was not recorded. -/
theorem guards_abandonSnapshot (named : snapshotID ≠ "") :
    Guards index (Drafted index snapshotID) (do
        let _ ← ask (.deleteSnapshot snapshotID handle)
        return result : Session (Except APIError Snapshot))
      Anything := by
  have deleted : Guards index (Drafted index snapshotID)
      (ask (.deleteSnapshot snapshotID handle)) Anything := by
    apply ensures_request (drafted_lasting snapshotID)
    intro before reply after consistent own performed
    have done : after = before.setScan index none :=
      (performed (consistent.uncloned own named handle)).1
    subst after
    exact ⟨keeps_setScan consistent none, trivial⟩
  exact ensures_bind deleted fun _ => guards_return _

theorem guards_putSnapshot :
    Guards index (Listed index snapshot.snapshotID snapshot.volumeID)
      (putSnapshot snapshot) fun written state =>
        written ≠ .ok () → Drafted index snapshot.snapshotID state := by
  unfold putSnapshot
  split
  · exact ensures_pure fun _ own _ => own.1
  have put : Guards index (Listed index snapshot.snapshotID snapshot.volumeID)
      (ask (.putSnapshot snapshot)) fun (reply : WriteReply Failure) state =>
        reply.result ≠ .ok () → Drafted index snapshot.snapshotID state := by
    apply ensures_request (listed_lasting _ _)
    intro before reply after consistent own performed
    obtain ⟨done, truthful⟩ := performed trivial
    cases stored : WriteReply.stored reply with
    | true =>
      obtain rfl : after = before.putSnapshot snapshot := done.trans (if_pos stored)
      obtain rfl : reply = .acknowledged := truthful stored
      exact ⟨keeps_putSnapshot consistent own, fun failed => absurd rfl failed⟩
    | false =>
      obtain rfl : after = before := done.trans (if_neg (by simp [stored]))
      exact ⟨.refl consistent, fun _ => own.1⟩
  exact ensures_bind put fun reply => ensures_pure fun _ met => met

/-- The request has drawn a name for its snapshot. -/
def Named (index : Index) (id : String) (estate : Estate Index) : Prop :=
  Drafted index id estate ∧ id ≠ ""

theorem named_lasting (id : String) : Lasting index (Named index id) :=
  (drafted_lasting id).and (const (id ≠ ""))

theorem guards_snapshotID : Guards index Always (ask (.generateResourceID "snap")) (Named index) :=
  (guards_generateResourceID (by decide) (const True)
    fun _ _ _ met => met).gives fun _ _ met => ⟨met.1.1, met.2⟩

/-- A snapshot is listed before its document is stored. -/
theorem guards_recordSnapshot :
    Guards index (Named index snapshot.snapshotID) (recordSnapshot snapshot) Anything := by
  rintro state consistent ⟨own, named⟩
  refine ensures_bind guards_addSnapshotRef (fun added => ?_) consistent own
  cases added with
  | error failure =>
    exact (guards_abandonSnapshot named).given fun _ met => met.1
  | ok done =>
    refine ensures_then guards_putSnapshot (fun _ met => met.2 done rfl) fun written => ?_
    cases written with
    | ok done => exact guards_return _
    | error failure =>
      exact ensures_then (guards_removeSnapshotRef (fun _ own => .inl own)
            (drafted_lasting snapshot.snapshotID) fun _ _ met => met)
          (fun _ met => met nofun)
          fun _ => guards_abandonSnapshot named

theorem guards_createSnapshot :
    Guards index Always (createSnapshot input account) Anything := by
  unfold createSnapshot
  split
  · exact guards_return _
  split
  · exact guards_return _
  refine ensures_bind guards_snapshotID fun snapshotID => ?_
  refine ensures_bind (guards_getVolume (named_lasting snapshotID))
    (either (fun _ => guards_return _) fun volume => ?_)
  dsimp only
  split
  · exact guards_return _
  split
  · exact guards_return _
  split
  · exact guards_return _
  refine ensures_then (guards_quiet (quiet_ask trivial) (named_lasting snapshotID))
      (fun _ met => met.1) fun created => ?_
  rcases created with failure | _ | created
  · exact guards_return _
  · exact guards_return _
  · exact ensures_bind (guards_quiet (quiet_ask trivial) (named_lasting snapshotID))
        fun now => guards_recordSnapshot.given fun _ met => met

theorem guards_getSnapshotConfig :
    Guards index Always (getSnapshotConfig account snapshotID)
      fun found state => ∀ snapshot, found = .ok snapshot → Recorded account snapshotID state := by
  refine ensures_bind (guards_getSnapshot (const True)) fun found => ?_
  cases found with
  | ok cfg =>
    rintro state consistent met snapshot ⟨⟩
    exact consistent.snapshotRecorded _ _ (met.2 cfg rfl)
  | error failure =>
    dsimp only
    split
    all_goals
      refine ensures_pure fun _ _ => ?_
      rintro snapshot ⟨⟩

theorem guards_copySnapshot :
    Guards index Always (copySnapshot input account) Anything := by
  unfold copySnapshot
  split
  · exact guards_return _
  split
  · exact guards_return _
  refine ensures_bind guards_getSnapshotConfig (either (fun _ => guards_return _) fun source => ?_)
  dsimp only
  split
  · exact guards_return _
  refine ensures_then guards_snapshotID (fun _ _ => trivial) fun snapshotID => ?_
  refine ensures_bind (guards_quiet (quiet_ask trivial) (named_lasting snapshotID)) fun copied => ?_
  rcases copied with failure | _ | copied
  · exact guards_return _
  · exact guards_return _
  · exact ensures_bind (guards_quiet (quiet_ask trivial) (named_lasting snapshotID))
        fun now => guards_recordSnapshot.given fun _ met => met

end Spinifex.Snapshots
