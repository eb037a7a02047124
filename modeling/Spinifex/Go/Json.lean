import Spinifex.Go.Basic

/-!
# JSON objects as the services store them

A stored document is looked at through its top-level members only.  A member's
value keeps what decoding into a Go field can tell apart: the scalars, and the
text of anything else.  Bytes that are no JSON object, `null` included, are all
refused in the same way and are one case here.

Members of a document that was decoded into a map, or encoded from one, are in
key order and have distinct keys.
-/

namespace Spinifex.Go.Json

/-- A member's value. -/
inductive Raw where
  | null
  | bool (value : Bool)
  | integer (value : Int)
  | decimal (text : String)
  | string (value : String)
  | nested (text : String)
deriving DecidableEq, Repr

/-- The members of an object in the order of the text. -/
abbrev Members := List (String × Raw)

/-- Bytes in a store: an object's members, or no object at all. -/
abbrev Document := Option Members

/-- Set one key of a map kept in key order. -/
def insert (key : String) (raw : Raw) : Members → Members
  | [] => [(key, raw)]
  | (first, value) :: rest =>
    if key = first then
      (key, raw) :: rest
    else if key < first then
      (key, raw) :: (first, value) :: rest
    else
      (first, value) :: insert key raw rest

/-- Set several keys, one after the other. -/
def insertAll (members : Members) (map : Members) : Members :=
  members.foldl (fun map member => insert member.1 member.2 map) map

/-- Decode an object into a map: of several equal keys the last one counts. -/
def toMap (members : Members) : Members :=
  insertAll members []

/-- Decode a value into an integer field of the given range. -/
def Raw.toInteger (low high : Int) : Raw → Option Int
  | .integer value => if low ≤ value ∧ value ≤ high then some value else none
  | _ => none

/-- Decode a value into an unsigned field. -/
def Raw.toUint64 : Raw → Option Nat
  | .integer value =>
    if 0 ≤ value ∧ value ≤ maxUint64 then some value.toNat else none
  | _ => none

/-- Decode a value into a signed field. -/
def Raw.toInt64 : Raw → Option Int :=
  Raw.toInteger minInt64 maxInt64

/-- Decode a value into a string field. -/
def Raw.toText : Raw → Option String
  | .string value => some value
  | _ => none

/-- Decoding `null` leaves a field that is no pointer as it was. -/
def Raw.orKeep {Value : Type} (decode : Raw → Option Value) (old : Value) : Raw → Option Value
  | .null => some old
  | raw => decode raw

/-- Decoding `null` clears a pointer field. -/
def Raw.orClear {Value : Type} (decode : Raw → Option Value) : Raw → Option (Option Value)
  | .null => some none
  | raw => (decode raw).map some

end Spinifex.Go.Json
