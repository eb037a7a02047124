import Mathlib.Algebra.Group.Nat.Defs
import Spinifex.Go.Basic

/-!
# Internet addresses and prefixes

Addresses of both families as the standard library's `netip` package has them:
a number below two to the family's width, and a zone for the second family.
Texts are read and printed as the library does, with the dotted form of four
octets for the first family and the colon form with one run of zero groups left
out for the second.

A prefix contains the addresses that agree with it on its leading bits.  That
set is the interval `[first, last]`, which is how every range computation of a
client can be compared with membership.
-/

namespace Spinifex.Go.Netip

open List

/-! ## Addresses -/

/-- The two address families. -/
inductive Family where
  | v4
  | v6
deriving DecidableEq, Repr

/-- `Addr.BitLen`. -/
def Family.width : Family → Nat
  | .v4 => 32
  | .v6 => 128

/--
A valid address.  The invalid address of the library is the absence of one, and
only addresses of the second family have a zone.
-/
structure Addr where
  family : Family
  value : Nat
  zone : String
  value_lt : value < 2 ^ family.width
  zone_v4 : family = .v4 → zone = ""
deriving DecidableEq

@[ext]
theorem Addr.ext
    {left right : Addr} (family : left.family = right.family) (value : left.value = right.value)
    (zone : left.zone = right.zone) : left = right := by
  cases left
  subst family value zone
  rfl

/-- The address of the first family with the given number. -/
def Addr.v4 (value : Nat) : Addr where
  family := .v4
  value := value % 2 ^ 32
  zone := ""
  value_lt := Nat.mod_lt _ (by decide)
  zone_v4 _ := rfl

/-- The address of the second family with the given number and zone. -/
def Addr.v6 (value : Nat) (zone : String) : Addr where
  family := .v6
  value := value % 2 ^ 128
  zone := zone
  value_lt := Nat.mod_lt _ (by decide)
  zone_v4 impossible := by cases impossible

theorem Addr.v4_value (addr : Addr) (family : addr.family = .v4) : Addr.v4 addr.value = addr := by
  have bound := addr.value_lt
  rw [family] at bound
  ext1
  · exact family.symm
  · exact Nat.mod_eq_of_lt bound
  · exact (addr.zone_v4 family).symm

/-- `Addr.Next`: the address after this one, invalid after the last. -/
def Addr.next (addr : Addr) : Option Addr :=
  if fits : addr.value + 1 < 2 ^ addr.family.width then
    some { addr with value := addr.value + 1, value_lt := fits }
  else
    none

theorem Addr.next_eq_some {addr after : Addr} :
    addr.next = some after ↔
      after.family = addr.family ∧ after.value = addr.value + 1 ∧ after.zone = addr.zone := by
  unfold Addr.next
  constructor
  · intro reached
    split at reached
    · obtain rfl := Option.some.inj reached
      exact ⟨rfl, rfl, rfl⟩
    · cases reached
  · rintro ⟨family, value, zone⟩
    have bound := after.value_lt
    rw [family, value] at bound
    rw [dif_pos bound]
    congr 1
    exact Addr.ext family.symm value.symm zone.symm

/-- The address `steps` after this one, as repeated `Addr.Next` reaches it. -/
def Addr.skip : Nat → Addr → Option Addr
  | 0, addr => some addr
  | steps + 1, addr => addr.next.bind (Addr.skip steps)

theorem Addr.skip_eq_some {addr after : Addr} :
    addr.skip steps = some after ↔
      after.family = addr.family ∧ after.value = addr.value + steps ∧ after.zone = addr.zone := by
  induction steps generalizing addr with
  | zero =>
    rw [Addr.skip, Option.some.injEq]
    constructor
    · rintro rfl
      exact ⟨rfl, rfl, rfl⟩
    · rintro ⟨family, value, zone⟩
      exact Addr.ext family.symm value.symm zone.symm
  | succ steps induction =>
    rw [Addr.skip, Option.bind_eq_some_iff]
    constructor
    · rintro ⟨middle, first, rest⟩
      obtain ⟨family, value, zone⟩ := Addr.next_eq_some.1 first
      obtain ⟨family', value', zone'⟩ := induction.1 rest
      exact ⟨family'.trans family, by omega, zone'.trans zone⟩
    · rintro ⟨family, value, zone⟩
      have bound := after.value_lt
      rw [family] at bound
      let middle : Addr := { addr with value := addr.value + 1, value_lt := by omega }
      refine ⟨middle, Addr.next_eq_some.2 ⟨rfl, rfl, rfl⟩, ?_⟩
      refine induction.2 ⟨family, ?_, zone⟩
      change after.value = addr.value + 1 + steps
      omega

/-! ## Texts of the first family -/

/-- A decimal field without leading zeros and at most `bound`. -/
def plainDecimal (bound : Nat) (text : List Char) : Option Nat :=
  (digits text).filter fun value => value ≤ bound ∧ (text.length = 1 ∨ text.head? ≠ some '0')

theorem plainDecimal_octet :
    ∀ value < 256, plainDecimal 255 (Nat.toDigits 10 value) = some value := by
  decide +kernel

/-- The address four octets stand for. -/
def ofOctets (a b c d : Nat) : Nat :=
  ((a * 256 + b) * 256 + c) * 256 + d

/-- `parseIPv4`: four octets separated by dots. -/
def parseIPv4 (text : List Char) : Option Nat :=
  match text.splitOn '.' with
  | [a, b, c, d] => do
      let a ← plainDecimal 255 a
      let b ← plainDecimal 255 b
      let c ← plainDecimal 255 c
      let d ← plainDecimal 255 d
      return ofOctets a b c d
  | _ => none

/-- The four octets of an address, the leading one first. -/
def octets (value : Nat) : List Nat :=
  [value / 16777216, value / 65536 % 256, value / 256 % 256, value % 256]

/-- The dotted form of an address of the first family. -/
def formatIPv4 (value : Nat) : List Char :=
  ['.'].intercalate ((octets value).map (Nat.toDigits 10))

theorem dot_notMem_toDigits (value : Nat) : '.' ∉ Nat.toDigits 10 value := by
  intro member
  have digit := Nat.isDigit_of_mem_toDigits (by decide) (by decide) member
  exact absurd digit (by decide)

variable {value : Nat}

/-- What is printed is read back. -/
theorem parseIPv4_formatIPv4
    (bound : value < 2 ^ 32) : parseIPv4 (formatIPv4 value) = some value := by
  have fields : (formatIPv4 value).splitOn '.' = (octets value).map (Nat.toDigits 10) := by
    refine splitOn_intercalate '.' ?_ (by simp [octets])
    intro field member
    obtain ⟨octet, -, rfl⟩ := mem_map.1 member
    exact dot_notMem_toDigits octet
  have first := plainDecimal_octet (value / 16777216) (by omega)
  have second := plainDecimal_octet (value / 65536 % 256) (by omega)
  have third := plainDecimal_octet (value / 256 % 256) (by omega)
  have fourth := plainDecimal_octet (value % 256) (by omega)
  unfold parseIPv4
  rw [fields]
  simp only [octets, map_cons, map_nil, first, second, third, fourth]
  apply congrArg some
  unfold ofOctets
  omega

/-! ## Texts of the second family -/

def hexDigit (digit : Char) : Option Nat :=
  if '0' ≤ digit ∧ digit ≤ '9' then
    some (digit.toNat - '0'.toNat)
  else if 'a' ≤ digit ∧ digit ≤ 'f' then
    some (digit.toNat - 'a'.toNat + 10)
  else if 'A' ≤ digit ∧ digit ≤ 'F' then some (digit.toNat - 'A'.toNat + 10) else none

/-- A group of one to four hexadecimal digits. -/
def hexGroup (text : List Char) : Option Nat :=
  if 1 ≤ text.length ∧ text.length ≤ 4 then
    text.foldlM (fun value digit => (hexDigit digit).map (16 * value + ·)) 0
  else
    none

/--
The groups of one side of an address.  Only the last field of the address may
be in the dotted form, which stands for two groups.
-/
def groups (dotted : Bool) : List (List Char) → Option (List Nat)
  | [] => some []
  | [field] =>
    if dotted ∧ '.' ∈ field then
      (parseIPv4 field).map fun value => [value / 65536, value % 65536]
    else
      (hexGroup field).map ([·])
  | field :: rest => do
      let first ← hexGroup field
      let others ← groups dotted rest
      return first :: others

/-- The texts around the first pair of adjacent colons. -/
def ellipsis : List Char → Option (List Char × List Char)
  | ':' :: ':' :: rest => some ([], rest)
  | rune :: rest => (ellipsis rest).map fun sides => (rune :: sides.1, sides.2)
  | [] => none

/-- The fields of one side of the pair of colons, none if it is empty. -/
def sideFields (text : List Char) : List (List Char) :=
  if text.isEmpty then [] else text.splitOn ':'

/-- The eight groups of an address of the second family. -/
def ipv6Groups (text : List Char) : Option (List Nat) :=
  match ellipsis text with
  | none =>
    (groups true (text.splitOn ':')).filter fun found => found.length = 8
  | some (before, after) => do
      let left ← groups false (sideFields before)
      let right ← groups true (sideFields after)
      if left.length + right.length < 8 then
        return left ++ List.replicate (8 - (left.length + right.length)) 0 ++ right
      else
        none

/-- The number eight groups stand for. -/
def ofGroups (found : List Nat) : Nat :=
  found.foldl (fun value group => 65536 * value + group) 0

/-- `parseIPv6`: an address with an optional zone after a percent sign. -/
def parseIPv6 (text : List Char) : Option Addr :=
  let address := text.takeWhile (· != '%')
  let zone := (text.drop address.length).drop 1
  if '%' ∈ text ∧ zone.isEmpty then
    none
  else
    (ipv6Groups address).map fun found => Addr.v6 (ofGroups found) (String.ofList zone)

/-- The eight groups of a number, the leading one first. -/
def groupsOf (value : Nat) : List Nat :=
  (List.range 8).map fun index => value / 65536 ^ (7 - index) % 65536

/-- The first of the longest runs of at least two zero groups. -/
def zeroRun (found : List Nat) : Option (Nat × Nat) :=
  (List.range found.length).foldl (fun best start =>
      let length := ((found.drop start).takeWhile (· == 0)).length
      if 2 ≤ length ∧ (best.map Prod.snd).getD 0 < length then some (start, length) else best)
    none

/-- Groups in hexadecimal, separated by colons. -/
def hexFields (found : List Nat) : List Char :=
  [':'].intercalate (found.map (Nat.toDigits 16))

/-- The colon form of an address of the second family. -/
def formatIPv6 (value : Nat) : List Char :=
  let found := groupsOf value
  match zeroRun found with
  | none => hexFields found
  | some (start, length) =>
    hexFields (found.take start) ++ [':', ':'] ++ hexFields (found.drop (start + length))

/-! ## Texts of addresses -/

/-- `Addr.Is4In6`: an address of the first family mapped into the second. -/
def Addr.is4In6 (addr : Addr) : Bool :=
  addr.family = .v6 && addr.value / 2 ^ 32 = 65535

/-- `ParseAddr`: the first dot or colon decides the family. -/
def parseAddr (text : String) : Option Addr :=
  match text.toList.find? fun rune => rune ∈ ['.', ':', '%'] with
  | some '.' => (parseIPv4 text.toList).map Addr.v4
  | some ':' => parseIPv6 text.toList
  | _ => none

/-- `Addr.String`. -/
def Addr.text (addr : Addr) : String :=
  match addr.family with
  | .v4 => String.ofList (formatIPv4 addr.value)
  | .v6 =>
    let body := if addr.is4In6 then
        "::ffff:".toList ++ formatIPv4 (addr.value % 2 ^ 32)
      else
        formatIPv6 addr.value
    if addr.zone = "" then String.ofList body else String.ofList body ++ "%" ++ addr.zone

/-- `net.ParseIP` followed by `IP.To4`. -/
def parseIP4 (text : String) : Option Nat :=
  (parseAddr text).bind fun addr => if addr.family = .v4 then
      some addr.value
    else if addr.zone = "" ∧ addr.is4In6 then some (addr.value % 2 ^ 32) else none

theorem Addr.text_v4 {addr : Addr}
    (family : addr.family = .v4) : addr.text = String.ofList (formatIPv4 addr.value) := by
  unfold Addr.text
  rw [family]

variable {rune : Char}

theorem toDigits_isDigit (member : rune ∈ Nat.toDigits 10 value) : rune.isDigit = true :=
  Nat.isDigit_of_mem_toDigits (by decide) (by decide) member

theorem find_formatIPv4 (value : Nat) :
    (formatIPv4 value).find? (fun rune => rune ∈ ['.', ':', '%']) = some '.' := by
  have silent : (Nat.toDigits 10 (value / 16777216)).find? (fun rune => rune ∈ ['.', ':', '%']) =
      none := by
    refine find?_eq_none.2 ?_
    intro rune member found
    have digit := toDigits_isDigit member
    simp only [mem_cons, not_mem_nil, or_false, decide_eq_true_eq] at found
    rcases found with rfl | rfl | rfl <;> exact absurd digit (by decide)
  have shape : formatIPv4 value = Nat.toDigits 10 (value / 16777216) ++ '.' ::
      ['.'].intercalate ((octets value).tail.map (Nat.toDigits 10)) := by
    simp [formatIPv4, octets, intercalate]
  rw [shape, find?_append, silent]
  rfl

/-- What is printed for the first family is read back. -/
theorem parseAddr_text {addr : Addr}
    (family : addr.family = .v4) : parseAddr addr.text = some addr := by
  have bound := addr.value_lt
  rw [family] at bound
  unfold parseAddr
  rw [Addr.text_v4 family, String.toList_ofList, find_formatIPv4]
  rw [parseIPv4_formatIPv4 bound]
  exact congrArg some (addr.v4_value family)

/-! ## Prefixes -/

/-- An aligned block of a power of two ends within the space it divides. -/
theorem aligned_add_le (bound : value < 2 ^ width) :
    value / 2 ^ (width - bits) * 2 ^ (width - bits) + 2 ^ (width - bits) ≤ 2 ^ width := by
  obtain ⟨blocks, whole⟩ : 2 ^ (width - bits) ∣ 2 ^ width := Nat.pow_dvd_pow 2 (Nat.sub_le _ _)
  generalize 2 ^ (width - bits) = size at whole ⊢
  rw [whole] at bound ⊢
  have index : value / size < blocks := Nat.div_lt_of_lt_mul bound
  calc value / size * size + size
      = size * (value / size + 1) := by rw [Nat.mul_comm, Nat.mul_succ]
    _ ≤ size * blocks := Nat.mul_le_mul_left _ index

/-- A valid prefix: an address without a zone and a number of leading bits. -/
structure Prefix where
  addr : Addr
  bits : Nat
  bits_le : bits ≤ addr.family.width
  zoneless : addr.zone = ""
deriving DecidableEq

namespace Prefix

variable (block : Prefix)

/-- The number of addresses of a prefix. -/
def size : Nat :=
  2 ^ (block.addr.family.width - block.bits)

/-- The number of the first address of a prefix. -/
def first : Nat :=
  block.addr.value / block.size * block.size

/-- `Prefix.Contains`: agreement on the leading bits. -/
def contains (addr : Addr) : Bool :=
  addr.family = block.addr.family && addr.zone = "" &&
    addr.value / block.size = block.addr.value / block.size

/-- The addresses of a prefix are those of an interval. -/
theorem contains_iff {addr : Addr} :
    block.contains addr = true ↔
      addr.family = block.addr.family ∧ addr.zone = "" ∧ block.first ≤ addr.value ∧
        addr.value < block.first + block.size := by
  have positive : 0 < block.size := Nat.pow_pos (by decide)
  simp only [contains, first, Bool.and_eq_true, decide_eq_true_eq, and_assoc]
  refine and_congr_right fun _ => and_congr_right fun _ => ?_
  rw [Nat.div_eq_iff positive]
  omega

/-- A prefix ends within the address space. -/
theorem first_add_size_le : block.first + block.size ≤ 2 ^ block.addr.family.width :=
  aligned_add_le block.addr.value_lt

/-- `Prefix.Masked`: the prefix with its other bits cleared. -/
def masked : Prefix where
  addr :=
    { block.addr with
      value := block.first
      value_lt := Nat.lt_of_le_of_lt (Nat.div_mul_le_self _ _) block.addr.value_lt }
  bits := block.bits
  bits_le := block.bits_le
  zoneless := block.zoneless

/-- `Prefix.String`. -/
def text : String :=
  block.addr.text ++ "/" ++ Nat.repr block.bits

end Prefix

/-- The prefix of an address without a zone, if the bits are in range. -/
def prefixFrom (addr : Addr) (bits : Nat) : Option Prefix :=
  if fits : bits ≤ addr.family.width ∧ addr.zone = "" then
    some ⟨addr, bits, fits.1, fits.2⟩
  else
    none

/-- The texts around the last slash. -/
def cutSlash (text : List Char) : Option (List Char × List Char) :=
  if '/' ∈ text then
    let after := (text.reverse.takeWhile (· != '/')).reverse
    some (text.take (text.length - after.length - 1), after)
  else
    none

/-- `ParsePrefix`. -/
def parsePrefix (text : String) : Option Prefix := do
  let (address, bits) ← cutSlash text.toList
  let addr ← parseAddr (String.ofList address)
  let bits ← plainDecimal addr.family.width bits
  prefixFrom addr bits

theorem plainDecimal_bits : ∀ bits ≤ 32, plainDecimal 32 (Nat.toDigits 10 bits) = some bits := by
  decide +kernel

theorem cutSlash_append
    (plain : '/' ∉ bits) : cutSlash (address ++ '/' :: bits) = some (address, bits) := by
  have after : ((address ++ '/' :: bits).reverse.takeWhile (· != '/')).reverse = bits := by
    rw [reverse_append, reverse_cons, append_assoc, takeWhile_append_of_pos]
    · simp
    · intro rune member
      have : rune ≠ '/' := by
        rintro rfl
        exact plain (mem_reverse.1 member)
      simpa using this
  unfold cutSlash
  rw [if_pos (by simp)]
  simp only [after]
  congr 2
  rw [length_append, length_cons,
    show address.length + (bits.length + 1) - bits.length - 1 = address.length by omega,
    take_left]

variable (value : Nat)

theorem slash_notMem_toDigits : '/' ∉ Nat.toDigits 10 value := by
  intro member
  exact absurd (toDigits_isDigit member) (by decide)

/-- What is printed for a prefix of the first family is read back. -/
theorem parsePrefix_text
    (family : block.addr.family = .v4) : parsePrefix block.text = some block := by
  have fits := block.bits_le
  rw [family] at fits
  have shape : block.text.toList = block.addr.text.toList ++ '/' :: Nat.toDigits 10 block.bits := by
    simp [Prefix.text, Nat.repr_eq_ofList_toDigits]
  unfold parsePrefix
  rw [shape, cutSlash_append (slash_notMem_toDigits _)]
  simp only [Option.bind_eq_bind, Option.bind_some, String.ofList_toList, parseAddr_text family]
  rw [family, show Family.v4.width = 32 from rfl, plainDecimal_bits block.bits fits]
  simp only [Option.bind_some, prefixFrom]
  rw [dif_pos ⟨block.bits_le, block.zoneless⟩]

theorem formatIPv4_rune {value : Nat} (member : rune ∈ formatIPv4 value) :
    rune.isDigit = true ∨ rune = '.' := by
  simp only [formatIPv4, octets, map_cons, map_nil, intercalate_cons_cons, intercalate_singleton,
    mem_append, mem_singleton] at member
  rcases member with ((member | dot) | ((member | dot) | ((member | dot) | member)))
  all_goals first
    | exact .inl (toDigits_isDigit member)
    | exact .inr dot

theorem toDigits_isAlphanum : ∀ rune ∈ Nat.toDigits 16 value, rune.isAlphanum = true := by
  have digits : ∀ digit < 16, (Nat.digitChar digit).isAlphanum = true := by
    decide
  induction value using Nat.strongRecOn with
  | ind value induction =>
    rcases Nat.lt_or_ge value 16 with small | large
    · rw [Nat.toDigits_of_lt_base small]
      simpa using digits value small
    · rw [Nat.toDigits_of_base_le (by decide) large]
      intro rune member
      rcases mem_append.1 member with member | member
      · exact induction (value / 16) (by omega) rune member
      · obtain rfl := mem_singleton.1 member
        exact digits _ (Nat.mod_lt _ (by decide))

/-- What the texts of addresses and prefixes without a zone are made of. -/
def Rune (rune : Char) : Prop :=
  rune.isAlphanum = true ∨ rune = '.' ∨ rune = ':' ∨ rune = '/'

theorem rune_formatIPv4 : ∀ rune ∈ formatIPv4 value, Rune rune := by
  intro rune member
  rcases formatIPv4_rune member with digit | rfl
  · exact .inl (by simp [Char.isAlphanum, digit])
  · exact .inr (.inl rfl)

theorem rune_hexFields (found : List Nat) : ∀ rune ∈ hexFields found, Rune rune := by
  unfold hexFields
  induction found with
  | nil => simp
  | cons first rest induction =>
    cases rest with
    | nil =>
      intro rune member
      exact .inl (toDigits_isAlphanum first rune (by simpa using member))
    | cons second rest =>
      rw [map_cons, map_cons, intercalate_cons_cons]
      intro rune member
      simp only [mem_append, mem_singleton] at member
      rcases member with (member | rfl) | member
      · exact .inl (toDigits_isAlphanum first rune member)
      · exact .inr (.inr (.inl rfl))
      · exact induction rune (by simpa using member)

theorem rune_formatIPv6 : ∀ rune ∈ formatIPv6 value, Rune rune := by
  unfold formatIPv6
  dsimp only
  split
  · exact rune_hexFields _
  · intro rune member
    simp only [mem_append, mem_cons, not_mem_nil, or_false, or_self] at member
    rcases member with (member | rfl) | member
    · exact rune_hexFields _ rune member
    · exact .inr (.inr (.inl rfl))
    · exact rune_hexFields _ rune member

theorem Addr.text_rune {addr : Addr}
    (zoneless : addr.zone = "") : ∀ rune ∈ addr.text.toList, Rune rune := by
  unfold Addr.text
  split
  · rw [String.toList_ofList]
    exact rune_formatIPv4 _
  · rw [if_pos zoneless, String.toList_ofList]
    have mapped : ∀ rune ∈ "::ffff:".toList, Rune rune := by
      simp [Rune]
    split
    · exact forall_mem_append.2 ⟨mapped, rune_formatIPv4 _⟩
    · exact rune_formatIPv6 _

/-- What the text of a prefix is made of. -/
theorem Prefix.text_rune (block : Prefix) : ∀ rune ∈ block.text.toList, Rune rune := by
  intro rune member
  simp only [Prefix.text, String.toList_append, mem_append,
    Nat.repr_eq_ofList_toDigits, String.toList_ofList] at member
  rcases member with (member | slash) | member
  · exact Addr.text_rune block.zoneless rune member
  · exact .inr (.inr (.inr (by simpa using slash)))
  · exact .inl (by simp [Char.isAlphanum, toDigits_isDigit member])

/-- What the text of a prefix of the first family is made of. -/
theorem Prefix.text_rune_v4 {block : Prefix} (family : block.addr.family = .v4)
    (member : rune ∈ block.text.toList) : rune.isDigit = true ∨ rune = '.' ∨ rune = '/' := by
  simp only [Prefix.text, Addr.text_v4 family, String.toList_append, String.toList_ofList,
    Nat.repr_eq_ofList_toDigits, mem_append] at member
  rcases member with (member | slash) | member
  · rcases formatIPv4_rune member with digit | dot
    · exact .inl digit
    · exact .inr (.inl dot)
  · exact .inr (.inr (by simpa using slash))
  · exact .inl (toDigits_isDigit member)

/-! ## Networks -/

/-- `net.ParseCIDR`: the network, with the bits after the prefix cleared. -/
def parseCIDR (text : String) : Option Prefix :=
  match text.toList.span (· ≠ '/') with
  | (_, []) => none
  | (address, _ :: mask) => do
      let addr ← parseAddr (String.ofList address)
      let bits ← digits mask
      let block ← prefixFrom addr bits
      return block.masked

/-- `IPNet.IP.To4` with the bits of the mask that are left. -/
def Prefix.to4 (net : Prefix) : Option Prefix :=
  if net.addr.family = .v4 then
    some net
  else if net.addr.is4In6 then prefixFrom (Addr.v4 net.addr.value) (net.bits - 96) else none

/-- `IPNet.String`. -/
def Prefix.netText (net : Prefix) : String :=
  (net.to4.getD net).text

theorem Prefix.to4_family {net four : Prefix}
    (found : net.to4 = some four) : four.addr.family = .v4 := by
  unfold Prefix.to4 at found
  split at found
  next family =>
    obtain rfl := Option.some.inj found
    exact family
  · split at found
    · unfold prefixFrom at found
      split at found
      · obtain rfl := Option.some.inj found
        rfl
      · cases found
    · cases found

end Spinifex.Go.Netip
