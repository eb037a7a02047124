import Mathlib.Data.Nat.Digits.Lemmas
import Spinifex.Go.Basic

/-!
# Base64 without padding, and integers in bytes

Bytes and letters are the digits of one number in base 256 and base 64, the
letters with zero bits after the last byte.
-/

namespace Spinifex.Go

abbrev Byte : Type :=
  Fin 256

/-- The conversion of an integer. -/
def toByte (value : Nat) : Byte :=
  Fin.ofNat 256 value

/-- The letters of `RawURLEncoding`. -/
def letter (digit : Nat) : Byte :=
  toByte
    ("ABCDEFGHIJKLMNOPQRSTUVWXYZabcdefghijklmnopqrstuvwxyz0123456789-_".toList.getD digit 'A').toNat

/-- `EncodeToString`. -/
def encodeToString (bytes : List Byte) : List Byte :=
  let size := (4 * bytes.length + 2) / 3
  let value := Nat.ofDigits 256 (bytes.map Fin.val).reverse
  ((Nat.digitsAppend 64 size (value * 4 ^ (3 * size - 4 * bytes.length))).map letter).reverse

/-- `DecodeString`: line ends are skipped, and so are the bits after the last byte, which a
strict encoding wants to be zero. -/
def decodeString (strict : Bool) (text : List Byte) : Option (List Byte) := do
  let digits ← (text.reverse.filter fun byte => byte ≠ 13 ∧ byte ≠ 10).mapM fun byte =>
    (List.range 64).find? fun digit => letter digit = byte
  let size := 3 * digits.length / 4
  let unit := 4 ^ (3 * digits.length - 4 * size)
  guard (digits.length % 4 ≠ 1 ∧ (strict → Nat.ofDigits 64 digits % unit = 0))
  return ((Nat.digitsAppend 256 size (Nat.ofDigits 64 digits / unit)).map (Fin.ofNat 256)).reverse

theorem read_letters {digits : List Nat} (small : ∀ digit ∈ digits, digit < 64) :
    ((digits.map letter).filter fun byte => byte ≠ 13 ∧ byte ≠ 10).mapM (fun byte =>
      (List.range 64).find? fun digit => letter digit = byte) = some digits := by
  have letters : ∀ digit < 64, letter digit ≠ 13 ∧ letter digit ≠ 10 ∧
      ((List.range 64).find? fun other => letter other = letter digit) = some digit := by
    decide +kernel
  induction digits with
  | nil => rfl
  | cons digit rest induction =>
    obtain ⟨here, later⟩ := List.forall_mem_cons.1 small
    rw [List.map_cons, List.filter_cons_of_pos (by simp [letters digit here]), List.mapM_cons,
      induction later, (letters digit here).2.2]
    rfl

/-- The number written in letters has as many digits as there are letters. -/
theorem encoded_lt {digits : List Nat} {length size : Nat}
    (valid : digits.length = length ∧ ∀ digit ∈ digits, digit < 256)
    (size_eq : (4 * length + 2) / 3 = size) :
    Nat.ofDigits 256 digits * 4 ^ (3 * size - 4 * length) < 64 ^ size := by
  calc
    _ < 256 ^ length * 4 ^ (3 * size - 4 * length) :=
      Nat.mul_lt_mul_of_pos_right
        (valid.1 ▸ Nat.ofDigits_lt_base_pow_length (by decide) valid.2) (by simp)
    _ = 64 ^ size := by
      rw [show 256 = 4 ^ 4 from rfl, show 64 = 4 ^ 3 from rfl, ← pow_mul, ← pow_mul, ← pow_add,
        show 4 * length + (3 * size - 4 * length) = 3 * size by omega]

theorem decodeString_encodeToString (strict : Bool) (bytes : List Byte) :
    decodeString strict (encodeToString bytes) = some bytes := by
  generalize digits_eq : (bytes.map Fin.val).reverse = digits
  have valid : digits.length = bytes.length ∧ ∀ digit ∈ digits, digit < 256 := by
    simp [← digits_eq]
  generalize size_eq : (4 * bytes.length + 2) / 3 = size
  have bound := encoded_lt valid size_eq
  have back : Nat.digitsAppend 256 bytes.length (Nat.ofDigits 256 digits) = digits :=
    (Nat.setInvOn_digitsAppend_ofDigits (by decide) _).1 valid
  have length := Nat.length_digitsAppend (by decide) size bound
  have value := (Nat.setInvOn_digitsAppend_ofDigits (by decide) size).2 bound
  rw [decodeString, encodeToString, digits_eq, size_eq, List.reverse_reverse,
    read_letters fun _ => Nat.lt_of_mem_digitsAppend (by decide) _ _]
  simp only [Option.bind_eq_bind, Option.bind_some, length, value,
    show 3 * size / 4 = bytes.length by omega, Nat.mul_div_cancel _ (Nat.pow_pos four_pos),
    back]
  simp [show size % 4 ≠ 1 by omega, ← digits_eq, Function.comp_def]

/-! ## Integers -/

section

variable (width : Nat)

/-- An unsigned integer in bytes, the highest first. -/
def bigEndian (value : Fin (256 ^ width)) : List Byte :=
  ((Nat.digitsAppend 256 width value).map (Fin.ofNat 256)).reverse

/-- The integer in some bytes. -/
def ofBigEndian (bytes : List Byte) : Fin (256 ^ width) :=
  Fin.ofNat _ (Nat.ofDigits 256 (bytes.map Fin.val).reverse)

variable {width}

@[simp]
theorem length_bigEndian (value : Fin (256 ^ width)) : (bigEndian width value).length = width := by
  simp [bigEndian, Nat.length_digitsAppend (by decide) width value.isLt]

@[simp]
theorem ofBigEndian_bigEndian (value : Fin (256 ^ width)) :
    ofBigEndian width (bigEndian width value) = value := by
  have digits : (Nat.digitsAppend 256 width value).map (Fin.val ∘ Fin.ofNat 256) =
      Nat.digitsAppend 256 width value := by
    refine (List.map_congr_left fun digit member => ?_).trans (List.map_id _)
    exact Nat.mod_eq_of_lt (Nat.lt_of_mem_digitsAppend (by decide) _ _ member)
  have back := (Nat.setInvOn_digitsAppend_ofDigits (by decide : 1 < 256) width).2 value.isLt
  simp only [ofBigEndian, bigEndian, List.map_reverse, List.map_map, List.reverse_reverse, digits,
    back]
  exact Fin.ofNat_val_eq_self value

end

end Spinifex.Go
