import Mathlib.Algebra.Group.Nat.Defs
import Spinifex.Go.Basic

/-!
# Texts

What the standard library does with texts: white space around a text, lower
case, quoted forms and decimal numbers.  A printed number is read back by the
decimal readers.
-/

namespace Spinifex.Go

/-! ## White space, case and quotes -/

variable (rune : Char)

/-- `unicode.IsSpace`. -/
def isSpace : Bool :=
  rune.toNat ∈ [0x85, 0xA0, 0x1680, 0x2028, 0x2029, 0x202f, 0x205f, 0x3000] || (9 ≤
    rune.toNat && rune.toNat ≤ 13) || rune = ' ' || (0x2000 ≤ rune.toNat && rune.toNat ≤ 0x200a)

variable (text : String)

/-- `strings.TrimSpace`. -/
def trimSpace : String :=
  String.ofList (text.toList.dropWhile isSpace |>.reverse.dropWhile isSpace
    |>.reverse)

/--
`unicode.ToLower`, on the letters whose lower case is a plain one: besides the
capitals these are the dotted capital and the sign of the absolute degree.
-/
def lowerRune : Char :=
  if rune.toNat = 0x130 then
    'i'
  else if rune.toNat = 0x212a then 'k' else rune.toLower

/-- `strings.ToLower`. -/
def toLower : String :=
  text.map lowerRune

/-- The escaped form of a rune within quotes. -/
def quoteRune : List Char :=
  match rune with
  | '"' => ['\\', '"']
  | '\\' => ['\\', '\\']
  | '\n' => ['\\', 'n']
  | '\r' => ['\\', 'r']
  | '\t' => ['\\', 't']
  | rune => [rune]

/-- `strconv.Quote`, on texts without other control characters. -/
def quote : String :=
  String.ofList ('"' :: text.toList.flatMap quoteRune ++ ['"'])

/-! ## Decimal texts -/

theorem digitsFrom_of_isDigit {text : List Char} (plain : ∀ rune ∈ text, rune.isDigit = true)
    (value : Nat) : digitsFrom value text = some (Nat.ofDigitChars 10 text value) := by
  induction text generalizing value with
  | nil => rfl
  | cons digit rest induction =>
    have isDigit := plain digit (List.mem_cons_self ..)
    have bounds : '0' ≤ digit ∧ digit ≤ '9' := by
      simpa [Char.isDigit, Char.le_def] using isDigit
    rw [digitsFrom, if_pos bounds, Nat.ofDigitChars_cons]
    exact induction (fun rune member => plain rune (.tail _ member)) _

/-- A printed number is read back. -/
theorem digits_toDigits (value : Nat) : digits (Nat.toDigits 10 value) = some value := by
  have plain : ∀ rune ∈ Nat.toDigits 10 value, rune.isDigit = true :=
    fun rune member => Nat.isDigit_of_mem_toDigits (by decide) (by decide) member
  have read := digitsFrom_of_isDigit plain 0
  rw [Nat.ofDigitChars_toDigits (by decide) (by decide)] at read
  unfold digits
  split
  next empty =>
    exact absurd empty Nat.toDigits_ne_nil
  · exact read

theorem repr_injective : Function.Injective Nat.repr := by
  intro first second same
  have read := congrArg (fun text => Nat.ofDigitChars 10 text.toList 0) same
  simpa [Nat.repr_eq_ofList_toDigits, Nat.ofDigitChars_toDigits] using read

variable (value : Int)

/-- The text `%d` gives a number. -/
def decimal : String :=
  match value with
  | .ofNat value => Nat.repr value
  | .negSucc value => "-" ++ Nat.repr (value + 1)

theorem decimal_toList :
    (decimal value).toList = if value < 0 then
        '-' :: Nat.toDigits 10 value.natAbs
      else
        Nat.toDigits 10 value.natAbs := by
  cases value with
  | ofNat value => simp [decimal, Nat.repr_eq_ofList_toDigits]
  | negSucc value =>
    simp [decimal, Nat.repr_eq_ofList_toDigits, Int.negSucc_lt_zero]

/-- A printed integer is read back. -/
theorem signedDigits_decimal : signedDigits (decimal value).toList = some value := by
  rw [decimal_toList]
  split
  · rw [signedDigits, digits_toDigits]
    exact congrArg some (show -(value.natAbs : Int) = value by omega)
  · have unsigned : ∀ rune ∈ Nat.toDigits 10 value.natAbs, rune.isDigit = true :=
      fun rune member => Nat.isDigit_of_mem_toDigits (by decide) (by decide) member
    have read := digits_toDigits value.natAbs
    unfold signedDigits
    split
    next shape =>
      rw [shape] at unsigned
      exact absurd (unsigned '-' (.head _)) (by decide)
    next shape =>
      rw [shape] at unsigned
      exact absurd (unsigned '+' (.head _)) (by decide)
    · rw [read]
      exact congrArg some (show (value.natAbs : Int) = value by omega)

end Spinifex.Go
