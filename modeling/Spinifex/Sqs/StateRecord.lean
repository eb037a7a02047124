import Mathlib.Logic.Function.Basic
import Spinifex.Sqs.Store

/-!
# State records

The per-message record a receive, a visibility change and a delete rewrite.
Reading fails closed: a record that is no object, has a field of the wrong
type, no version or no state, or is in flight with a field missing, is
unavailable; a newer version or an unknown state is not this release's.
Writing keeps every member the release does not know.

A record read from what this release wrote has no foreign members.  For such
plain records the encoding is computed once, `Lifecycle.written`, and
`decodeState_written_iff` says exactly which of them are read back.
-/

namespace Spinifex.Sqs

open Go Json.Raw List

/-- The values of a record's state. -/
inductive Status where
  | inflight
  | moving
  | deleted
  | expired
  | moved
deriving DecidableEq, Repr

def Status.text : Status → String
  | .inflight => "inflight"
  | .moving => "moving"
  | .deleted => "deleted"
  | .expired => "expired"
  | .moved => "moved"

/-- The state a stored text stands for. -/
def Status.ofText : String → Option Status
  | "inflight" => some .inflight
  | "moving" => some .moving
  | "deleted" => some .deleted
  | "expired" => some .expired
  | "moved" => some .moved
  | _ => none

/-- The states a message does not leave. -/
def Status.isTerminal : Status → Bool
  | .deleted | .expired | .moved => true
  | .inflight | .moving => false

@[simp]
theorem Status.ofText_text (status : Status) : Status.ofText status.text = some status := by
  cases status <;> rfl

theorem Status.inflight_of_not_terminal {status : Status} (live : status.isTerminal = false)
    (settled : status ≠ .moving) : status = .inflight := by
  cases status <;> simp_all [isTerminal]

/-- The schema version of the records a claim writes. -/
def stateVersion : Int := 1

/--
The lifecycle fields of a record: version `v`, state `s`, receive count `c`,
receipt generation `g`, deadline `d`, last receive `r`, first receive `f`.
-/
structure Lifecycle where
  v : Int
  s : Status
  c : Nat
  g : Nat
  d : Int
  r : Int
  f : Int
deriving DecidableEq, Repr

/-- The state record: its lifecycle fields and every stored member. -/
structure StateRecord extends Lifecycle where
  raw : Json.Members
deriving DecidableEq, Repr

/-! ## Reading -/

/-- The members that decode into a field of the record. -/
inductive Field where
  | v | s | c | g | d | r | f
deriving DecidableEq, Repr

/-- The field a key names; Go matches keys up to simple case folding. -/
def Field.ofKey : String → Option Field
  | "v" | "V" => some .v
  | "s" | "S" | "ſ" => some .s
  | "c" | "C" => some .c
  | "g" | "G" => some .g
  | "d" | "D" => some .d
  | "r" | "R" => some .r
  | "f" | "F" => some .f
  | _ => none

/-- The anonymous struct a record is decoded into. -/
structure Known where
  v : Option Int
  s : Option String
  c : Nat
  g : Nat
  d : Int
  r : Int
  f : Int

/-- The struct before decoding. -/
def Known.zero : Known :=
  ⟨none, none, 0, 0, 0, 0, 0⟩

/-- Decode one value into one field. -/
def Known.set (known : Known) (raw : Json.Raw) : Field → Option Known
  | .v =>
    (raw.orClear Json.Raw.toInt64).map fun value => { known with v := value }
  | .s =>
    (raw.orClear Json.Raw.toText).map fun value => { known with s := value }
  | .c =>
    (raw.orKeep Json.Raw.toUint64 known.c).map fun value => { known with c := value }
  | .g =>
    (raw.orKeep Json.Raw.toUint64 known.g).map fun value => { known with g := value }
  | .d =>
    (raw.orKeep Json.Raw.toInt64 known.d).map fun value => { known with d := value }
  | .r =>
    (raw.orKeep Json.Raw.toInt64 known.r).map fun value => { known with r := value }
  | .f =>
    (raw.orKeep Json.Raw.toInt64 known.f).map fun value => { known with f := value }

/-- Decode the members in order; a later one overrides an earlier one. -/
def Known.read : Known → Json.Members → Option Known
  | known, [] => some known
  | known, (key, raw) :: rest =>
    match Field.ofKey key with
    | none => known.read rest
    | some field => (known.set raw field).bind fun next => next.read rest

/-- What an in-flight record may not be without. -/
def Lifecycle.incomplete (record : Lifecycle) : Bool :=
  record.c = 0 || record.g = 0 || record.d ≤ 0 ||
    record.r ≤ 0 || record.f ≤ 0 || record.f > record.r

/-- `decodeState`: read a stored state record. -/
def decodeState (value : Json.Document) : Except Failure StateRecord :=
  match value with
  | none =>
    .error (Sentinel.unavailable.because "state record is not a JSON object")
  | some members =>
    match Known.zero.read members with
    | none => .error (Sentinel.unavailable.because "state record field")
    | some known =>
      let version := known.v.getD 0
      if version < 1 then
        .error (Sentinel.unavailable.because "state record has no valid version")
      else if version > stateVersion then
        .error Sentinel.notOurs.failure
      else
        match known.s with
        | none =>
          .error (Sentinel.unavailable.because "state record has no state")
        | some text =>
          match Status.ofText text with
          | none => .error Sentinel.notOurs.failure
          | some status =>
            let record : StateRecord :=
              { v := version, s := status
                c := known.c, g := known.g
                d := known.d, r := known.r, f := known.f
                raw := Json.toMap members }
            if status = .inflight ∧ record.incomplete then
              .error (Sentinel.unavailable.because "in-flight state record is incomplete")
            else
              .ok record

/-! ## Writing -/

/-- The keys the release writes itself. -/
def stateKnown : List String :=
  ["v", "s", "c", "g", "d", "r", "f"]

/-- The members the release writes, in the order it sets them. -/
def StateRecord.fields (record : StateRecord) : Json.Members :=
  [("v", .integer record.v), ("s", .string record.s.text),
    ("c", .integer record.c), ("g", .integer record.g),
    ("d", .integer record.d), ("r", .integer record.r),
    ("f", .integer record.f)]

/-- `stateRecord.encode`: the known fields over the preserved members. -/
def StateRecord.encode (record : StateRecord) : Json.Document :=
  some (Json.insertAll record.fields
    (record.raw.filter fun member => !stateKnown.contains member.1))

/-! ## Plain records -/

/-- The record has no member the release does not write itself. -/
def StateRecord.Plain (record : StateRecord) : Prop :=
  ∀ member ∈ record.raw, member.1 ∈ stateKnown

/-- The encoding of a plain record, in key order. -/
def Lifecycle.written (record : Lifecycle) : Json.Members :=
  [("c", .integer record.c), ("d", .integer record.d),
    ("f", .integer record.f), ("g", .integer record.g),
    ("r", .integer record.r), ("s", .string record.s.text),
    ("v", .integer record.v)]

theorem StateRecord.encode_of_plain
    {record : StateRecord} (plain : record.Plain) : record.encode = some record.written := by
  have noForeign : (record.raw.filter fun member => !stateKnown.contains member.1) = [] := by
    rw [filter_eq_nil_iff]
    intro member inRaw
    simpa using plain member inRaw
  unfold encode
  rw [noForeign]
  simp +decide only [Json.insertAll, Json.insert, fields, Lifecycle.written, foldl_cons, foldl_nil,
    if_true, if_false]

theorem Lifecycle.written_injective : Function.Injective Lifecycle.written := by
  intro left right sameWritten
  simp only [written, cons.injEq, Prod.mk.injEq, true_and,
    string.injEq, integer.injEq, and_true] at sameWritten
  rcases sameWritten with ⟨sameC, sameD, sameF, sameG, sameR, sameText, sameV⟩
  have sameParsed := congrArg Status.ofText sameText
  rw [Status.ofText_text, Status.ofText_text] at sameParsed
  cases left
  cases sameParsed
  cases Int.ofNat.inj sameC
  cases Int.ofNat.inj sameG
  cases sameD
  cases sameF
  cases sameR
  cases sameV
  rfl

/-- The record that reading back a plain record's encoding gives. -/
def Lifecycle.stored (record : Lifecycle) : StateRecord :=
  ⟨record, record.written⟩

variable (record : Lifecycle)

theorem Lifecycle.plain_stored : record.stored.Plain := by
  intro member inWritten
  simp only [stored, written, mem_cons, not_mem_nil, or_false] at inWritten
  rcases inWritten with
    rfl | rfl | rfl | rfl | rfl | rfl | rfl <;>
  simp [stateKnown]

/-- Every number of the record fits the Go field it is decoded into. -/
def Lifecycle.Fits (record : Lifecycle) : Prop :=
  (minInt64 ≤ record.v ∧ record.v ≤ maxInt64) ∧ (record.c ≤ maxUint64 ∧ record.g ≤ maxUint64) ∧
    (minInt64 ≤ record.d ∧ record.d ≤ maxInt64) ∧ (minInt64 ≤ record.r ∧ record.r ≤ maxInt64) ∧
    (minInt64 ≤ record.f ∧ record.f ≤ maxInt64)

instance (record : Lifecycle) : Decidable record.Fits :=
  inferInstanceAs (Decidable (_ ∧ _))

/-- The struct that decoding a plain record's encoding fills. -/
def Lifecycle.known (record : Lifecycle) : Known :=
  { v := some record.v, s := some record.s.text
    c := record.c, g := record.g
    d := record.d, r := record.r, f := record.f }

private theorem toUint64_integer (value : Nat) :
    (Json.Raw.integer value).toUint64 = if value ≤ maxUint64 then some value else none := by
  have castLe : ((value : Int) ≤ (maxUint64 : Int)) ↔ value ≤ maxUint64 := Int.ofNat_le
  simp [Json.Raw.toUint64, castLe]

private theorem bind_map_if [Decidable condition] (value : Value) (set : Value → Next)
    (rest : Next → Option Result) :
    (((if condition then some value else none).map set).bind rest) =
      if condition then rest (set value) else none := by
  split <;> rfl

theorem Lifecycle.read_written :
    Known.zero.read record.written = if record.Fits then some record.known else none := by
  simp only [written, Known.read, Field.ofKey, Known.set, orClear, orKeep, toInt64, toInteger,
    toUint64_integer, toText, bind_map_if, Option.map_map, Option.map_some, Option.bind_some]
  by_cases fits : record.Fits
  · rcases id fits with ⟨version, ⟨count, generation⟩, deadline, receive, first⟩
    simp [fits, version, count, generation, deadline, receive, first, known]
  · rw [if_neg fits]
    split_ifs with count deadline first generation receive version
    · exact absurd ⟨version, ⟨count, generation⟩, deadline, receive, first⟩ fits
    all_goals rfl

theorem Lifecycle.toMap_written : Json.toMap record.written = record.written := by
  simp +decide only [Json.toMap, Json.insertAll, Json.insert,
    written, foldl_cons, foldl_nil, if_false]

/-- The record is one that this release reads back. -/
structure Lifecycle.Readable (record : Lifecycle) : Prop where
  version : record.v = stateVersion
  fits : record.Fits
  complete : record.s = .inflight → record.incomplete = false

variable {record : Lifecycle}

/-- Which plain records are read back, and as what. -/
theorem decodeState_written_iff {read : StateRecord} :
    decodeState (some record.written) = .ok read ↔ record.Readable ∧ read = record.stored := by
  simp only [decodeState, record.read_written, record.toMap_written]
  constructor
  · intro decoded
    by_cases fits : record.Fits
    · simp only [fits, if_true, Lifecycle.known, Option.getD_some, Status.ofText_text] at decoded
      split_ifs at decoded with below above refused
      simp only [stateVersion] at above
      cases decoded
      refine ⟨⟨?_, fits, ?_⟩, rfl⟩
      · simp only [stateVersion]
        omega
      · intro inflight
        cases missing : record.incomplete with
        | false => rfl
        | true => exact absurd ⟨inflight, missing⟩ refused
    · rw [if_neg fits] at decoded
      cases decoded
  · rintro ⟨readable, rfl⟩
    have version := readable.version
    simp only [readable.fits, if_true, Lifecycle.known,
      Option.getD_some, Status.ofText_text, version]
    rw [if_neg (by decide), if_neg (by decide), if_neg]
    · simp only [Lifecycle.stored, ← version]
    · rintro ⟨inflight, missing⟩
      have complete : record.incomplete = true := missing
      simp [readable.complete inflight] at complete

theorem decodeState_written (readable : record.Readable) :
    decodeState (some record.written) = .ok record.stored :=
  decodeState_written_iff.2 ⟨readable, rfl⟩

/-- An in-flight record that is read back has every field in order. -/
theorem Lifecycle.Readable.ordered (readable : record.Readable) (inflight : record.s = .inflight) :
    0 < record.c ∧ 0 < record.g ∧ 0 < record.d ∧ 0 < record.f ∧ record.f ≤ record.r := by
  have complete := readable.complete inflight
  simp only [Lifecycle.incomplete, Bool.or_eq_false_iff, decide_eq_false_iff_not] at complete
  omega

end Spinifex.Sqs
