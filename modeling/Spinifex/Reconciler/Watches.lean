import Mathlib.Data.List.Induction
import Mathlib.Logic.Function.Basic

/-!
# The watchers of a reconcile loop

A resync opens a watcher for every bucket that a source names and drops those
that none names any more.  The open watchers are tracked by the bucket alone,
so a second source on a bucket gets no watcher of its own: its keys are covered
only if its filter selects no more than the one that was opened.
-/

namespace Spinifex.Reconciler

open List

/-- What `Buckets` returns: the names, each with whether its watch opens. -/
abbrev Enumeration : Type :=
  Except String (List (String × Bool))

/-- A resync in progress: the open watchers with their filters, and `wanted`. -/
structure Sweep (Filter : Type) where
  active : String → Option Filter
  wanted : String → Bool

section

variable {Filter : Type}

/-- The loop body of `resync` for one bucket of a source. -/
def watchBucket (filter : Filter) (sweep : Sweep Filter) (bucket : String × Bool) :
    Sweep Filter where
  active := if (sweep.active bucket.1).isNone && bucket.2 then
      Function.update sweep.active bucket.1 (some filter)
    else
      sweep.active
  wanted := Function.update sweep.wanted bucket.1 true

/-- The loop body of `resync` for one source. -/
def watchSource (sweep : Sweep Filter) (source : Filter × Enumeration) : Sweep Filter :=
  match source.2 with
  | .error _ =>
    { sweep with wanted := fun name => sweep.wanted name || (sweep.active name).isSome }
  | .ok buckets => buckets.foldl (watchBucket source.1) sweep

/-- The loop of `resync` over the sources. -/
def sweep
    (sources : List (Filter × Enumeration)) (active : String → Option Filter) : Sweep Filter :=
  sources.foldl watchSource ⟨active, fun _ => false⟩

/-- `watchSet.resync`. -/
def resync (sources : List (Filter × Enumeration)) (active : String → Option Filter)
    (name : String) : Option Filter :=
  if (sweep sources active).wanted name then (sweep sources active).active name else none

/-- The open watchers after some resyncs, by what the sources answered. -/
def watchers (filters : List Filter) (calls : List (List Enumeration)) : String → Option Filter :=
  calls.foldl (fun active call => resync (filters.zip call) active) fun _ => none

/-! ## Within one resync -/

/-- Watchers stay as they are and wanted buckets stay wanted. -/
structure Extends (before after : Sweep Filter) : Prop where
  active : ∀ name filter, before.active name = some filter → after.active name = some filter
  wanted : ∀ name, before.wanted name = true → after.wanted name = true

theorem extends_foldl {body : Sweep Filter → Item → Sweep Filter}
    (step : ∀ before item, Extends before (body before item))
    (items : List Item) (before : Sweep Filter) : Extends before (items.foldl body before) := by
  refine foldlRecOn items body ⟨fun _ _ => id, fun _ => id⟩ ?_
  intro reached extended item _
  exact ⟨fun name filter found =>
        (step reached item).active name filter (extended.active _ _ found),
      fun name wanted => (step reached item).wanted name (extended.wanted _ wanted)⟩

theorem extends_watchBucket (filter : Filter) (before : Sweep Filter) (bucket : String × Bool) :
    Extends before (watchBucket filter before bucket) := by
  constructor
  · intro name other found
    simp only [watchBucket]
    split
    next opened =>
      rwa [Function.update_of_ne]
      rintro rfl
      simp [found] at opened
    · exact found
  · intro name wanted
    by_cases same : name = bucket.1 <;> simp [watchBucket, same, wanted]

theorem extends_watchSource (before : Sweep Filter) (source : Filter × Enumeration) :
    Extends before (watchSource before source) := by
  rcases source with ⟨filter, failure | buckets⟩
  · refine ⟨fun _ _ => id, fun name wanted => ?_⟩
    simp [watchSource, wanted]
  · exact extends_foldl (extends_watchBucket filter) buckets before

variable {sources : List (Filter × Enumeration)} {active : String → Option Filter}
    {filter opened : Filter} {buckets : List (String × Bool)} {name : String}

/-- A bucket that a source names is wanted, and watched if its watch opens. -/
theorem watched_of_mem (source : (filter, .ok buckets) ∈ sources)
    (listed : (name, true) ∈ buckets) :
    (sweep sources active).wanted name = true ∧
      ∃ opened, (sweep sources active).active name = some opened := by
  rcases append_of_mem source with ⟨before, after, rfl⟩
  rcases append_of_mem listed with ⟨early, late, rfl⟩
  simp only [sweep, foldl_append, foldl_cons, watchSource]
  generalize early.foldl (watchBucket filter) _ = opening
  have here := extends_foldl (extends_watchBucket filter) late
    (watchBucket filter opening (name, true))
  have rest := extends_foldl extends_watchSource after
    (late.foldl (watchBucket filter) (watchBucket filter opening (name, true)))
  constructor
  · exact rest.wanted name (here.wanted name (by simp [watchBucket]))
  · cases found : opening.active name with
    | none =>
      refine ⟨filter, rest.active name _ (here.active name _ ?_)⟩
      simp [watchBucket, found]
    | some other =>
      refine ⟨other, rest.active name _ (here.active name _ ?_)⟩
      simp [watchBucket, found]

/-- Every watcher was there before or is one of a source that names it. -/
theorem active_sweep (found : (sweep sources active).active name = some opened) :
    active name = some opened ∨
      ∃ buckets opens, (opened, .ok buckets) ∈ sources ∧ (name, opens) ∈ buckets := by
  refine foldlRecOn sources watchSource
      (motive := fun reached => reached.active name = some opened → _)
      .inl ?_ found
  rintro reached earlier ⟨filter, failure | buckets⟩ member found
  · exact earlier found
  refine foldlRecOn buckets (watchBucket filter)
      (motive := fun reached => reached.active name = some opened → _)
      earlier ?_ found
  intro reached earlier bucket listed found
  simp only [watchBucket] at found
  split at found
  · by_cases same : name = bucket.1
    · subst same
      rw [Function.update_self] at found
      cases found
      exact .inr ⟨buckets, bucket.2, member, listed⟩
    · exact earlier (by rwa [Function.update_of_ne same] at found)
  · exact earlier found

/-- If every enumeration succeeds, only named buckets are wanted. -/
theorem wanted_sweep (clean : ∀ source ∈ sources, ∃ buckets, source.2 = .ok buckets)
    (wanted : (sweep sources active).wanted name = true) :
    ∃ filter buckets opens, (filter, .ok buckets) ∈ sources ∧ (name, opens) ∈ buckets := by
  refine foldlRecOn sources watchSource (motive := fun reached => reached.wanted name = true → _)
      (fun wrong => by cases wrong) ?_ wanted
  rintro reached earlier ⟨filter, answer⟩ member wanted
  rcases clean _ member with ⟨buckets, rfl⟩
  refine foldlRecOn buckets (watchBucket filter)
      (motive := fun reached => reached.wanted name = true → _)
      earlier ?_ wanted
  intro reached earlier bucket listed wanted
  by_cases same : name = bucket.1
  · subst same
    exact ⟨filter, buckets, bucket.2, member, listed⟩
  · apply earlier
    rwa [← Function.update_of_ne same true reached.wanted]

/-- A failed enumeration keeps every watcher there is. -/
theorem wanted_of_failed {failure : String} (failed : (filter, .error failure) ∈ sources)
    (found : active name = some opened) : (sweep sources active).wanted name = true := by
  rcases append_of_mem failed with ⟨before, after, rfl⟩
  rw [sweep, foldl_append, foldl_cons]
  apply (extends_foldl extends_watchSource after _).wanted name
  have kept := extends_foldl extends_watchSource before ⟨active, fun _ => false⟩
  simp [watchSource, kept.active name opened found]

end

/-! ## Histories -/

section

variable {Filter Key : Type} (filters : List Filter)

/-- A source with this filter names a bucket. -/
def Names (call : List Enumeration) (filter : Filter) (name : String) : Prop :=
  ∃ buckets opens, (filter, .ok buckets) ∈ filters.zip call ∧ (name, opens) ∈ buckets

/-- Every enumeration and every open succeeds. -/
def Clean (call : List Enumeration) : Prop :=
  ∀ source ∈ filters.zip call,
    ∃ buckets, source.2 = .ok buckets ∧ ∀ bucket ∈ buckets, bucket.2 = true

variable {filters} {calls : List (List Enumeration)} {last : List Enumeration}
    {name : String} {opened : Filter}

/-- The watchers after one more resync, by its sweep. -/
theorem watchers_concat_eq_some :
    watchers filters (calls ++ [last]) name = some opened ↔
      (sweep (filters.zip last) (watchers filters calls)).wanted name = true ∧
        (sweep (filters.zip last) (watchers filters calls)).active name = some opened := by
  simp [watchers, resync]

/-- Every watcher is one of a source that named its bucket at some time. -/
theorem exists_names_of_watchers (found : watchers filters calls name = some opened) :
    ∃ call ∈ calls, Names filters call opened name := by
  induction calls using reverseRecOn with
  | nil => cases found
  | append_singleton calls last induction =>
    rw [watchers_concat_eq_some] at found
    rcases active_sweep found.2 with earlier | ⟨buckets, opens, named⟩
    · rcases induction earlier with ⟨call, member, named⟩
      exact ⟨call, mem_append_left _ member, named⟩
    · exact ⟨last, by simp, buckets, opens, named⟩

/--
If sources that ever name one bucket select the same keys, a resync without a
failure covers what the sources name.  Without that condition, no watcher
remains on a bucket that no source names and a failed enumeration removes none.
-/
theorem named_buckets_watched (selects : Filter → Key → Prop) :
    (Clean filters last →
      ((∀ call ∈ calls ++ [last], ∀ filter other name, Names filters last filter name →
          Names filters call other name → ∀ key, selects filter key → selects other key) →
        ∀ filter name key, Names filters last filter name → selects filter key →
          ∃ opened, watchers filters (calls ++ [last]) name = some opened ∧ selects opened key) ∧
      ∀ name opened, watchers filters (calls ++ [last]) name = some opened →
        ∃ filter, Names filters last filter name) ∧
    ((∃ source ∈ filters.zip last, ∃ failure, source.2 = .error failure) →
      ∀ name opened, watchers filters calls name = some opened →
        watchers filters (calls ++ [last]) name = some opened) := by
  refine ⟨fun clean => ⟨?_, ?_⟩, ?_⟩
  · intro agree filter name key named selected
    rcases id named with ⟨buckets, opens, member, listed⟩
    rcases clean _ member with ⟨_, ⟨⟩, opening⟩
    cases opening _ listed
    rcases @watched_of_mem _ _ (watchers filters calls) _ _ _ member listed
      with ⟨wanted, opened, found⟩
    have after := watchers_concat_eq_some.2 ⟨wanted, found⟩
    rcases exists_names_of_watchers after with ⟨call, within, openedBy⟩
    exact ⟨opened, after, agree call within _ _ _ named openedBy key selected⟩
  · intro name opened found
    rw [watchers_concat_eq_some] at found
    refine wanted_sweep (fun source member => ?_) found.1
    exact (clean source member).imp fun _ => And.left
  · rintro ⟨⟨filter, _⟩, member, failure, rfl⟩ name opened found
    have kept := extends_foldl extends_watchSource (filters.zip last)
      ⟨watchers filters calls, fun _ => false⟩
    exact watchers_concat_eq_some.2 ⟨wanted_of_failed member found, kept.active name opened found⟩

end

namespace Sample

/-- The filter of a prefix selects every key that begins with it. -/
def below (filter key : String) : Bool :=
  filter.toList.dropLast.isPrefixOf key.toList

/-- The two sources of the zone realizer. -/
def filters : List String :=
  ["zone.>", "rrsets.>"]

/-- Both name the one bucket and its watch opens. -/
def call : List Enumeration :=
  [.ok [("route53", true)], .ok [("route53", true)]]

end Sample

open Sample

/-- The keys of the second filter on a bucket have no watcher. -/
theorem second_filter_unwatched :
    Clean filters call ∧ Names filters call "rrsets.>" "route53" ∧
      below "rrsets.>" "rrsets.1.Z1" = true ∧
      watchers filters [call] "route53" = some "zone.>" ∧
      below "zone.>" "rrsets.1.Z1" = false := by
  refine ⟨?_, ⟨_, true, .tail _ (.head _), .head _⟩, by decide, rfl, by decide⟩
  simp [Clean, filters, call]

/-- Two sources of one filter share a bucket over a failed and a clean resync. -/
theorem named_buckets_watched_shared :
    ∃ opened, watchers ["zone.>", "zone.>"] [[.ok [("route53", true)], .error "timeout"], call]
      "route53" = some opened ∧ below opened "zone.1.Z1" = true := by
  have same : ∀ call filter name,
      Names ["zone.>", "zone.>"] call filter name → filter = "zone.>" := by
    rintro call filter name ⟨_, _, member, _⟩
    simpa using (of_mem_zip member).1
  refine ((@named_buckets_watched _ _ ["zone.>", "zone.>"]
      [[.ok [("route53", true)], .error "timeout"]] call
      (fun filter key => below filter key = true)).1 ?_).1 ?_
      "zone.>" "route53" "zone.1.Z1" ⟨_, true, .tail _ (.head _), .head _⟩ (by decide)
  · simp [Clean, call]
  · intro call _ filter other name named others key selected
    rwa [same _ _ _ others, ← same _ _ _ named]

end Spinifex.Reconciler
