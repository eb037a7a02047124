import Mathlib.Data.Int.Basic
import Mathlib.Data.List.Basic

/-!
# Go values the services compute with

Fixed-width integers are unbounded ones with the wrap-around written out.
Decimal texts are read as the standard library reads them in base ten, range
checks included.  An error is a text and the sentinels found by unwrapping it,
which is what `errors.Is` looks at.
-/

namespace Spinifex.Go

/-! ## Fixed-width integers -/

/-- The largest signed 64-bit integer. -/
def maxInt64 : Int := 9223372036854775807

/-- The smallest signed 64-bit integer. -/
def minInt64 : Int := -9223372036854775808

/-- The largest unsigned 64-bit integer. -/
def maxUint64 : Nat := 18446744073709551615

/-- The signed 64-bit integer an arithmetic result wraps to. -/
def int64 (value : Int) : Int :=
  value.bmod 18446744073709551616

/-- The unsigned 32-bit integer an arithmetic result wraps to. -/
def uint32 (value : Nat) : Nat :=
  value % 4294967296

theorem uint32_of_lt (bound : value < 4294967296) : uint32 value = value :=
  Nat.mod_eq_of_lt bound

theorem int64_of_fits
    (above : minInt64 ≤ value) (below : value ≤ maxInt64) : int64 value = value := by
  unfold minInt64 at above
  unfold maxInt64 at below
  unfold int64
  rw [Int.bmod_def]
  split <;> omega

/-! ## Decimal texts -/

/-- The value of a digit string after the digits already read. -/
def digitsFrom : Nat → List Char → Option Nat
  | value, [] => some value
  | value, digit :: rest =>
    if '0' ≤ digit ∧ digit ≤ '9' then
      digitsFrom (10 * value + (digit.toNat - '0'.toNat)) rest
    else
      none

/-- The value of a non-empty digit string. -/
def digits : List Char → Option Nat
  | [] => none
  | text => digitsFrom 0 text

/-- `strconv.ParseUint` in base ten at 64 bits. -/
def parseUint (text : String) : Option Nat :=
  (digits text.toList).filter (· ≤ maxUint64)

/-- A decimal integer with an optional sign. -/
def signedDigits : List Char → Option Int
  | '-' :: rest => (digits rest).map fun value => -(value : Int)
  | '+' :: rest => (digits rest).map Int.ofNat
  | text => (digits text).map Int.ofNat

/-- `strconv.ParseInt` in base ten at 64 bits, and `strconv.Atoi`. -/
def parseInt (text : String) : Option Int :=
  (signedDigits text.toList).filter fun value => minInt64 ≤ value ∧ value ≤ maxInt64

/-! ## Durations -/

/-- A `time.Duration`: nanoseconds. -/
abbrev Duration := Int

def second : Duration := 1000000000

def hour : Duration := 3600 * second

/-- `Duration.Milliseconds`, which rounds towards zero. -/
def milliseconds (duration : Duration) : Int :=
  duration.tdiv 1000000

/-! ## Errors -/

/-- An error: the sentinels it wraps and its text. -/
structure Failure (Sentinel : Type) where
  sentinels : List Sentinel
  text : String
deriving DecidableEq, Repr

namespace Failure

variable {Sentinel : Type}

/-- `errors.Is`. -/
def is [DecidableEq Sentinel] (failure : Failure Sentinel) (sentinel : Sentinel) : Bool :=
  decide (sentinel ∈ failure.sentinels)

/-- `fmt.Errorf` with a wrapped error and a text after it. -/
def detail (failure : Failure Sentinel) (text : String) : Failure Sentinel where
  sentinels := failure.sentinels
  text := failure.text ++ ": " ++ text

/-- `fmt.Errorf` with two wrapped errors. -/
def wrap (failure cause : Failure Sentinel) : Failure Sentinel where
  sentinels := failure.sentinels ++ cause.sentinels
  text := failure.text ++ ": " ++ cause.text

/-- A text as the `%q` verb prints it when nothing needs escaping. -/
def quoted (text : String) : String :=
  "\"" ++ text ++ "\""

end Failure

/-- A sequence of checks succeeds only if its first one does. -/
theorem bind_eq_ok {next : First → Except Error Second} (bound : (first >>= next) = .ok result) :
    ∃ value, first = .ok value ∧ next value = .ok result := by
  cases first with
  | error failure => cases bound
  | ok value => exact ⟨value, rfl, bound⟩

/-- `strings.Contains`, on the runes of a text. -/
def contains (part : List Char) : List Char → Bool
  | [] => part.isEmpty
  | rune :: text => part.isPrefixOf (rune :: text) || contains part text

end Spinifex.Go
