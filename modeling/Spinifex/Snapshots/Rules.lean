import Spinifex.Snapshots.Steps
import Spinifex.State.Retry

/-!
# Rules for the services' programs

What a request learns from reading a document, and what the index lists after
one of its changes.
-/

namespace Spinifex.Snapshots

open Concurrency Go State Discipline

variable {Index : Type} [DecidableEq Index] {index : Index}
    {pre : Estate Index → Prop}

/-! ## Quiet calls -/

/-- The call changes nothing. -/
def Op.Quiet : Op → Prop
  | .putVolume _ | .deleteVolumeDocument _ | .listVolumes _
  | .putSnapshot _ | .deleteSnapshotDocument _
  | .generateResourceID _ | .deleteVolume _ _ | .deleteSnapshot _ _ => False
  | _ => True

/-- The call changes nothing. -/
def Quiet : Call → Prop
  | .write _ _ _ => False
  | .ask op => op.Quiet
  | _ => True

variable {call : Call} {before after : Estate Index} {reply : Bucket.Reply Answer call}

theorem quiet_performed (quiet : Quiet call)
    (performed : ((timely Index).checked Allowed).perform index call before reply after) :
    after = before ∧ perform index call before reply after := by
  cases call with
  | write key value expected => exact quiet.elim
  | get key => exact ⟨(performed trivial).1.2, (performed trivial).1⟩
  | waits => exact ⟨(performed trivial).1, (performed trivial).1⟩
  | ask op =>
    cases op with
    | putVolume _ | deleteVolumeDocument _ | listVolumes _
      | putSnapshot _ | deleteSnapshotDocument _
      | generateResourceID _ | deleteVolume _ _
      | deleteSnapshot _ _ => exact quiet.elim
    | getVolume _ | getSnapshot _ => exact ⟨(performed trivial).1.2, (performed trivial).1⟩
    | _ => exact ⟨(performed trivial).1, (performed trivial).1⟩

/-- A program of quiet calls keeps what lasts. -/
theorem guards_quiet (only : program.Only Quiet)
    (lasting : Lasting index pre) : Guards index pre program fun _ => pre := by
  intro seen _ holds
  refine upholds_only ?_ only lasting holds
  intro call before reply after quiet consistent performed
  obtain ⟨rfl, -⟩ := quiet_performed quiet performed
  exact ⟨.refl consistent, .refl _⟩

/-- One quiet call, and what its reply says. -/
theorem guards_read (quiet : Quiet call) (lasting : Lasting index pre)
    (learned : ∀ state reply, Consistent state → pre state →
      perform index call state reply state → post reply state) :
    Guards index pre (Program.request call) post := by
  apply ensures_request lasting
  intro before reply after consistent met performed
  obtain ⟨rfl, ran⟩ := quiet_performed quiet performed
  exact ⟨.refl consistent, learned _ reply consistent met ran⟩

theorem quiet_ask (quiet : op.Quiet) : (ask op : Session (Answer op)).Only Quiet :=
  ⟨quiet, fun _ => trivial⟩

/-! ## Reading documents -/

variable {account : String}

/-- A document that could be read is the stored one. -/
theorem guards_getVolume (lasting : Lasting index pre) :
    Guards index pre (getVolume account volumeID)
      (Achieves pre fun volume state => state.volumes ⟨account, volumeID⟩ = some volume) := by
  unfold getVolume
  split
  · exact ensures_pure fun _ => achieves_error
  next key valid =>
    cases partitionedKey_eq_ok valid
    refine guards_read trivial lasting ?_
    rintro state reply _ met ⟨read, _⟩
    refine ⟨met, ?_⟩
    rintro volume rfl
    exact read

variable {snapshotID : String}

theorem guards_getSnapshot (lasting : Lasting index pre) :
    Guards index pre (getSnapshot account snapshotID) (Achieves pre fun snapshot state =>
        state.snapshots ⟨account, snapshotID⟩ = some snapshot) := by
  unfold getSnapshot
  split
  · exact ensures_pure fun _ => achieves_error
  next key valid =>
    cases partitionedKey_eq_ok valid
    refine guards_read trivial lasting ?_
    rintro state reply _ met ⟨read, _⟩
    refine ⟨met, ?_⟩
    rintro snapshot rfl
    exact read

/-! ## Changing the index -/

/-- What was read of a volume's list, to be changed at a revision. -/
def ReadAt (volumeID : String) (snapshots : List String) (revision : Nat)
    (estate : Estate Index) : Prop :=
  revision = 0 ∧ snapshots = [] ∨ ∃ earlier : Shelf String (Stored (List String)),
    earlier.Evolves estate.snapRefs ∧ earlier.cells volumeID = some ⟨some snapshots, revision⟩

theorem readAt_lasting (volumeID : String) (snapshots : List String)
    (revision : Nat) : Lasting index (ReadAt volumeID snapshots revision) := by
  rintro before after relied _ (absent | ⟨earlier, evolved, read⟩)
  · exact .inl absent
  · exact .inr ⟨earlier, evolved.trans relied.evolves.refs, read⟩

omit [DecidableEq Index] in
/-- A list whose revision is still the one read is the one read. -/
theorem ReadAt.listed (read : ReadAt volumeID snapshots revision estate)
    (expected : revision = estate.snapRefs.revision volumeID) :
    estate.listed volumeID = snapshots := by
  rcases read with ⟨rfl, rfl⟩ | ⟨earlier, evolved, stored⟩
  · have absent := Shelf.absent_of_revision expected
    rw [Estate.listed, Shelf.value_eq_none absent]
    rfl
  · have kept := evolved.unchanged stored expected
    rw [Estate.listed, Shelf.value_eq_some kept]
    rfl

/-- A property of the documents and the names alone. -/
def Indifferent (pre : Estate Index → Prop) : Prop :=
  ∀ estate refs, pre estate → pre (estate.setRefs refs)

variable {volumeID : String}

section

variable {value : Option (Stored (List String))}
    {snapshots : List String} {revision : Nat}
    (lasting : Lasting index pre) (indifferent : Indifferent pre)
    (removed : ∀ state, pre state → ∀ id ∈ snapshots,
      id ∈ (value.bind fun list => list).getD [] ∨ Removable index id state)
    (decoded : ∀ list, value = some list → list ≠ none)

include lasting indifferent removed decoded

/-- One conditional write of a volume's list. -/
theorem guards_write :
    Guards index (fun state => pre state ∧ ReadAt volumeID snapshots revision state)
      (Program.request (Bucket.Call.write volumeID value revision : Call))
      fun (reply : Except Bucket.Fault Nat) state => pre state ∧ ∀ fresh, reply = .ok fresh →
        state.listed volumeID = (value.bind fun list => list).getD [] := by
  apply ensures_request (lasting.and (readAt_lasting volumeID snapshots revision))
  rintro before reply after consistent ⟨met, read⟩ performed
  rcases performed trivial with ⟨⟨refs, written, rfl⟩, timely⟩
  rcases written.cases with ⟨rfl, failed⟩ | ⟨expected, rfl⟩
  · refine ⟨.refl consistent, met, ?_⟩
    intro fresh answered
    exact absurd answered (failed fresh)
  · refine ⟨?_, indifferent _ _ met, ?_⟩
    · have listed := read.listed expected
      refine keeps_setRefs consistent ?_ ?_
      · match value with
        | none => exact .inr nofun
        | some none => exact absurd rfl (decoded none rfl)
        | some (some list) => exact timely expected
      · rw [listed]
        exact removed before met
    · intro fresh _
      exact listed_setRefs_self volumeID value

/-- A conditional write through the bucket's handle. -/
theorem guards_keyWrite :
    Guards index (fun state => pre state ∧ ReadAt volumeID snapshots revision state)
      (KeyValue.write volumeID value revision : Session (Except Failure Nat))
      (Achieves pre fun _ state =>
        state.listed volumeID = (value.bind fun list => list).getD []) := by
  refine ensures_bind (guards_write lasting indifferent removed decoded) fun reply => ?_
  cases reply with
  | ok fresh =>
    exact ensures_pure fun _ met => achieves_ok met.1 (met.2 fresh rfl)
  | error fault => exact ensures_failed

end

/-- A read through the bucket's handle. -/
theorem guards_keyGet (lasting : Lasting index pre) :
    Guards index pre (KeyValue.get volumeID :
        Session (Except Failure (Version (Stored (List String)))))
      fun found state => pre state ∧ ∀ snapshots revision, found = .ok ⟨some snapshots, revision⟩ →
        ReadAt volumeID snapshots revision state := by
  have read : Guards index pre (Program.request (Bucket.Call.get volumeID : Call))
      fun (reply : Except Bucket.Fault (Version (Stored (List String)))) state =>
          pre state ∧ ∀ version, reply = .ok version →
            state.snapRefs.cells volumeID = some version := by
    refine guards_read trivial lasting ?_
    rintro state reply _ met ⟨answered, _⟩
    refine ⟨met, ?_⟩
    rintro version rfl
    exact answered
  refine ensures_bind read fun reply => ensures_pure fun state met => ?_
  refine ⟨met.1, ?_⟩
  intro snapshots revision found
  cases reply with
  | ok version =>
    cases found
    exact .inr ⟨_, .refl _, met.2 _ rfl⟩
  | error fault => cases found

/-- What a change of a volume's list may do. -/
structure Edits (index : Index) (pre : Estate Index → Prop)
    (done : List String → Estate Index → Prop) (volumeID : String)
    (mutate : List String → Except Failure (List String × Bool)) : Prop where
  removed : ∀ state snapshots changed, pre state → mutate snapshots = .ok (changed, true) →
    ∀ id ∈ snapshots, id ∈ changed ∨ Removable index id state
  written : ∀ state snapshots changed, pre state → mutate snapshots = .ok (changed, true) →
    state.listed volumeID = changed → done changed state
  kept : ∀ state snapshots changed,
    pre state → mutate snapshots = .ok (changed, false) → done changed state

section

variable {volumeID : String} {done : List String → Estate Index → Prop}
    {mutate : List String → Except Failure (List String × Bool)}

theorem guards_commitMutation (edits : Edits index pre done volumeID mutate)
    (lasting : Lasting index pre) (indifferent : Indifferent pre) :
    Guards index (fun state => pre state ∧ ReadAt volumeID snapshots revision state)
      (commitMutation volumeID snapshots revision mutate : Session (Except Failure (List String)))
      (Achieves pre done) := by
  unfold commitMutation
  match mutated : mutate snapshots with
  | .error failure => exact ensures_failed
  | .ok (changed, false) =>
    refine ensures_pure fun state met => achieves_ok met.1 ?_
    exact edits.kept state snapshots changed met.1 mutated
  | .ok (changed, true) =>
    dsimp only
    rw [KeyValue.create_or_update]
    refine ensures_bind (guards_keyWrite lasting indifferent
          (fun state met => edits.removed state snapshots changed met mutated)
          (by simp))
        fun reply => ?_
    cases reply with
    | error failure => exact ensures_failed
    | ok fresh =>
      refine ensures_pure fun state met => achieves_ok met.1 ?_
      exact edits.written state snapshots changed met.1 mutated (met.2 fresh rfl)

/-- The loop that changes a volume's list. -/
theorem guards_update (edits : Edits index pre done volumeID mutate)
    (lasting : Lasting index pre) (indifferent : Indifferent pre) :
    Guards index pre (State.update volumeID cfg [] mutate :
        Session (Except Failure (List String)))
      (Achieves pre done) := by
  refine ensures_retryLoop (fun _ _ => achieves_error_iff) ?_
    (guards_quiet ⟨trivial, fun _ => trivial⟩ lasting) _ _
  refine ensures_bind (guards_keyGet lasting) fun found => ?_
  match found with
  | .ok ⟨some snapshots, revision⟩ =>
    exact (guards_commitMutation edits lasting indifferent).given
        fun _ met => ⟨met.1, met.2 snapshots revision rfl⟩
  | .ok ⟨none, _⟩ => exact ensures_failed
  | .error failure =>
    dsimp only
    split
    · exact (guards_commitMutation edits lasting indifferent).given
          fun _ met => ⟨met.1, .inl ⟨rfl, rfl⟩⟩
    · split
      · split
        all_goals exact ensures_failed
      · exact ensures_failed

end

/-! ## The index -/

/-- A snapshot that could be added is listed. -/
theorem guards_addSnapshotRef :
    Guards index (Drafted index snapshotID) (addSnapshotRef volumeID snapshotID)
      (Achieves (Drafted index snapshotID) fun _ state =>
        Listed index snapshotID volumeID state) := by
  have edits : Edits index (Drafted index snapshotID)
      (fun _ state => Listed index snapshotID volumeID state)
      volumeID
      fun snapshots => .ok (snapshots ++ [snapshotID], true) := by
    constructor
    · rintro state snapshots _ _ ⟨⟩ id member
      exact .inl (List.mem_append_left _ member)
    · rintro state snapshots _ own ⟨⟩ listed
      refine ⟨own, ?_⟩
      rw [listed]
      exact List.mem_append_right _ (List.mem_singleton.2 rfl)
    · rintro state snapshots _ _ ⟨⟩
  have upserted : Guards index (Drafted index snapshotID)
      (Store.upsert snapshotRefsConfig volumeID []
        fun snapshots => .ok (snapshots ++ [snapshotID], true) :
        Session (Except Failure Unit))
      (Achieves (Drafted index snapshotID) fun _ state =>
          Listed index snapshotID volumeID state) := by
    refine ensures_bind (guards_update edits (drafted_lasting snapshotID) fun _ _ met => met)
        fun result => ?_
    cases result with
    | error failure => exact ensures_failed
    | ok changed =>
      exact ensures_pure fun _ met => achieves_ok met.1 (met.2 changed rfl)
  exact ensures_bind upserted (either (fun _ => ensures_failed)
      fun done => ensures_pure fun _ met => met)

theorem guards_dropEmptySnapshotRefs (lasting : Lasting index pre) (indifferent : Indifferent pre) :
    Guards index pre (dropEmptySnapshotRefs volumeID) fun _ => pre := by
  have read : Guards index pre (Store.get volumeID : Session (Except Failure (List String × Nat)))
      (Achieves pre fun found state => ReadAt volumeID found.1 found.2 state) := by
    refine ensures_bind (guards_keyGet lasting) fun found => ?_
    match found with
    | .ok ⟨some snapshots, revision⟩ =>
      exact ensures_pure fun _ met => achieves_ok met.1 (met.2 snapshots revision rfl)
    | .ok ⟨none, _⟩ => exact ensures_failed
    | .error failure =>
      dsimp only
      split
      all_goals exact ensures_failed
  refine ensures_bind read fun found => ?_
  match found with
  | .error failure =>
    dsimp only
    split
    all_goals exact ensures_left
  | .ok (snapshots, revision) =>
    dsimp only
    split
    · exact ensures_left
    next unlisted =>
      have deleted : Guards index (fun state =>
              pre state ∧ ReadAt volumeID snapshots revision state)
            (KeyValue.delete volumeID revision : Session (Except Failure Nat))
            (Achieves pre fun _ state => state.listed volumeID = []) := by
        refine guards_keyWrite lasting indifferent ?_ nofun
        intro _ _ id member
        simp [not_not.1 unlisted] at member
      have compared : Guards index (fun state =>
              pre state ∧ ReadAt volumeID snapshots revision state)
            (Store.compareAndDelete volumeID revision : Session (Except Failure Unit))
            fun _ => pre := by
        refine ensures_bind deleted fun reply => ?_
        cases reply with
        | ok fresh => exact ensures_left
        | error failure =>
          dsimp only
          split
          all_goals exact ensures_left
      refine ensures_then compared (fun _ met => ⟨met.1, met.2 (snapshots, revision) rfl⟩)
          fun reply => ?_
      cases reply with
      | ok done => exact ensures_pure fun _ met => met
      | error failure =>
        dsimp only
        split
        all_goals exact ensures_pure fun _ met => met

/-- A snapshot that may be taken out of the index. -/
theorem guards_removeSnapshotRef (removable : ∀ state, pre state → Removable index snapshotID state)
    (lasting : Lasting index pre) (indifferent : Indifferent pre) :
    Guards index pre (removeSnapshotRef volumeID snapshotID) fun _ => pre := by
  have edits : Edits index pre (fun _ _ => True) volumeID (withoutSnapshot snapshotID) := by
    refine ⟨?_, fun _ _ _ _ _ _ => trivial, fun _ _ _ _ _ => trivial⟩
    intro state snapshots changed met mutated id member
    simp only [withoutSnapshot, Except.ok.injEq, Prod.mk.injEq] at mutated
    by_cases same : id = snapshotID
    · rw [same]
      exact .inr (removable state met)
    · rw [← mutated.1]
      exact .inl (List.mem_filter.2 ⟨member, decide_eq_true same⟩)
  refine ensures_bind (guards_update edits lasting indifferent)
    (either (fun _ => ?_) fun filtered => ?_)
  · dsimp only
    split
    all_goals exact ensures_left
  dsimp only
  split
  · exact (guards_dropEmptySnapshotRefs lasting indifferent).given fun _ met => met.1
  · exact ensures_left

end Spinifex.Snapshots
