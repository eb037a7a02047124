import Spinifex.Go.Encoding

/-!
# Wildcards of filter values

A filter value is a pattern of bytes: `*` stands for any bytes, `?` for any one
byte and a backslash for the byte after it.  `matchWildcard` scans the value once
and goes back only to the last `*`.  The position in the pattern is the rest of
the pattern, and likewise for the value.
-/

namespace Spinifex.Aws.Filters

open List Go

def star : Byte := ⟨42, by decide⟩

def question : Byte := ⟨63, by decide⟩

def backslash : Byte := ⟨92, by decide⟩

/-- The bytes a pattern stands for. -/
inductive Matches : List Byte → List Byte → Prop where
  | nil : Matches [] []
  | star (skipped : List Byte) (rest : Matches pattern value) :
    Matches (star :: pattern) (skipped ++ value)
  | any (byte : Byte) (rest : Matches pattern value) :
    Matches (question :: pattern) (byte :: value)
  | escaped (byte : Byte) (rest : Matches pattern value) :
    Matches (backslash :: byte :: pattern) (byte :: value)
  | trailing : Matches [backslash] [backslash]
  | literal (plain : byte ∉ [star, question, backslash]) (rest : Matches pattern value) :
    Matches (byte :: pattern) (byte :: value)

/-- `patternWidth`, of the pattern from the token on. -/
def patternWidth : List Byte → Nat
  | token :: _ :: _ => if token = backslash then 2 else 1
  | _ => 1

/-- `matchesByte`, of the pattern from the token on; no byte matches at its end. -/
def matchesByte : List Byte → Byte → Bool
  | token :: next :: _, byte =>
    if token = backslash then next = byte else token = question || token = byte
  | [token], byte => token = question || token = byte
  | [], _ => false

/-- The last `*` before a place in the pattern and the value: what follows it in
the pattern, and the value from the byte after those it stands for. -/
structure Star (pattern value : List Byte) where
  after : List Byte
  left : List Byte
  patternBehind : pattern.length ≤ after.length
  valueBehind : value.length ≤ left.length

/-- The loop of `MatchWildcard`, from a place in the pattern and the value. -/
def scan (pattern value : List Byte) (last : Option (Star pattern value)) : Bool :=
  match value, last with
  | [], _ => (pattern.dropWhile (· = star)).isEmpty
  | byte :: rest, last =>
    if pattern.head? = some star then
      scan pattern.tail (byte :: rest) (some ⟨pattern.tail, byte :: rest, le_rfl, le_rfl⟩)
    else if matchesByte pattern byte then
      scan (pattern.drop (patternWidth pattern)) rest (last.map fun last =>
        ⟨last.after, last.left, by grind [last.patternBehind], by grind [last.valueBehind]⟩)
    else match last with
      | some last =>
        scan last.after last.left.tail (some ⟨last.after, last.left.tail, le_rfl, le_rfl⟩)
      | none => false
-- A new star shortens what follows the last one; going back shortens what is left for it.
termination_by
  (last.elim (pattern.length + 1) (·.after.length), last.elim 0 (·.left.length), value.length)
decreasing_by
  · cases pattern with
    | nil => simp at *
    | cons token pattern =>
      cases last with
      | none => grind
      | some last => grind [last.patternBehind]
  · cases last with
    | none => grind
    | some last => grind
  · grind [last.valueBehind]

/-- `MatchWildcard`. -/
def matchWildcard (pattern value : List Byte) : Bool :=
  if pattern = [star] then true
  else if ¬ pattern.any (· ∈ [star, question, backslash]) then pattern = value
  else scan pattern value none

theorem matches_star_iff :
    Matches (star :: pattern) value ↔ ∃ count, Matches pattern (value.drop count) := by
  constructor
  · intro matched
    generalize same : star :: pattern = text at matched
    cases matched with
    | star skipped rest =>
      cases same
      exact ⟨skipped.length, by simpa using rest⟩
    | literal plain => simp_all
    | _ => cases same
  · rintro ⟨count, rest⟩
    simpa using Matches.star (value.take count) rest

theorem matches_nil_iff :
    Matches pattern [] ↔ (pattern.dropWhile (· = star)).isEmpty = true := by
  induction pattern with
  | nil => simp [Matches.nil]
  | cons token pattern induction =>
    by_cases starred : token = star
    · simp [starred, matches_star_iff, induction]
    · simp only [dropWhile_cons, starred, decide_false, Bool.false_eq_true, if_false,
        isEmpty_cons, iff_false]
      generalize same : token :: pattern = text
      intro matched
      generalize empty : ([] : List Byte) = value at matched
      cases matched with
      | star => simp_all
      | nil => cases same
      | _ => cases empty

@[simp]
theorem patternWidth_of_ne (plain : token ≠ backslash) : patternWidth (token :: pattern) = 1 := by
  cases pattern <;> simp [patternWidth, plain]

@[simp]
theorem matchesByte_of_ne (plain : token ≠ backslash) :
    matchesByte (token :: pattern) byte = (token = question || token = byte) := by
  cases pattern <;> simp [matchesByte, plain]

/-- A pattern that does not start with a star takes one byte for its first token. -/
theorem matches_cons_iff (bare : pattern.head? ≠ some star) :
    Matches pattern (byte :: value) ↔
      matchesByte pattern byte = true ∧ Matches (pattern.drop (patternWidth pattern)) value := by
  constructor
  · intro matched
    generalize same : byte :: value = text at matched
    cases matched with
    | nil => cases same
    | star => simp at bare
    | trailing => cases same; simp [matchesByte, patternWidth, Matches.nil]
    | escaped _ rest => cases same; simpa [matchesByte, patternWidth] using rest
    | any _ rest =>
      have plain : question ≠ backslash := by decide
      cases same
      simpa [plain] using rest
    | literal plain rest =>
      cases same
      simp_all
  · rintro ⟨matched, rest⟩
    cases pattern with
    | nil => cases matched
    | cons token pattern =>
      by_cases escape : token = backslash
      · subst escape
        cases pattern with
        | nil =>
          obtain rfl : byte = backslash := by
            simpa [matchesByte, question, backslash, eq_comm] using matched
          cases rest
          exact .trailing
        | cons next pattern => simp_all [matchesByte, patternWidth, Matches.escaped]
      · by_cases any : token = question
        · simp_all [Matches.any]
        · simp_all [Matches.literal]

theorem matches_tail (bare : pattern.head? ≠ some star) (takes : matchesByte pattern byte = true)
    (matched : Matches pattern value) :
    Matches (pattern.drop (patternWidth pattern)) value.tail := by
  cases value with
  | nil =>
    cases pattern with
    | nil => cases takes
    | cons => simp_all [matches_nil_iff]
  | cons => exact ((matches_cons_iff bare).1 matched).2

/-- The last star gives a match if it stands for more bytes than it does now. -/
def Later : Option (Star pattern value) → Prop
  | some last => ∃ count, Matches last.after (last.left.drop (count + 1))
  | none => False

/-- Whatever more bytes the last star takes, what then matches after it matches from
this place as many bytes later. -/
def Covered : Option (Star pattern value) → Prop
  | some last => ∀ count,
    Matches last.after (last.left.drop count) → Matches pattern (value.drop count)
  | none => True

theorem matches_or_later_iff : Matches pattern value ∨
    Later (some (⟨pattern, value, le_rfl, le_rfl⟩ : Star pattern value)) ↔
      Matches (star :: pattern) value := by
  rw [matches_star_iff]
  constructor
  · rintro (matched | ⟨count, matched⟩)
    · exact ⟨0, matched⟩
    · exact ⟨count + 1, matched⟩
  · rintro ⟨count, matched⟩
    cases count with
    | zero => exact .inl matched
    | succ count => exact .inr ⟨count, matched⟩

/-- The scan finds the matches from its place and those its last star gives later. -/
theorem scan_iff {last : Option (Star pattern value)} (covered : Covered last) :
    scan pattern value last = true ↔ Matches pattern value ∨ Later last := by
  fun_induction scan pattern value last with
  | case1 pattern last =>
    rw [← matches_nil_iff]
    constructor
    · exact .inl
    · rintro (matched | later)
      · exact matched
      · cases last with
        | none => cases later
        | some last =>
          obtain ⟨count, matched⟩ := later
          simpa using covered _ matched
  | case2 pattern byte rest starred last induction =>
    obtain ⟨pattern, rfl⟩ := head?_eq_some_iff.1 starred
    rw [induction fun _ => id, matches_or_later_iff, tail_cons]
    constructor
    · exact .inl
    · rintro (matched | later)
      · exact matched
      · cases last with
        | none => cases later
        | some last =>
          -- The new star stands for the bytes that the last one would take in addition.
          obtain ⟨count, matched⟩ := later
          obtain ⟨more, remaining⟩ := matches_star_iff.1 (covered _ matched)
          exact matches_star_iff.2 ⟨count + 1 + more, by rwa [drop_drop] at remaining⟩
  | case3 pattern byte rest bare takes last induction =>
    rw [matches_cons_iff bare, induction]
    · cases last <;> simp [takes, Later]
    · cases last with
      | none => trivial
      | some last =>
        intro count matched
        simpa using matches_tail bare takes (covered count matched)
  | case4 pattern byte rest bare unmatched last induction =>
    rw [induction fun _ => id, matches_or_later_iff, matches_star_iff, matches_cons_iff bare]
    simp [unmatched, Later]
  | case5 pattern byte rest bare unmatched =>
    simp [matches_cons_iff bare, unmatched, Later]

theorem scan_none_iff : scan pattern value none = true ↔ Matches pattern value := by
  rw [scan_iff (show Covered none from trivial)]
  exact or_iff_left id

theorem matches_iff_eq (plain : ∀ token ∈ pattern, token ∉ [star, question, backslash]) :
    Matches pattern value ↔ pattern = value := by
  induction pattern generalizing value with
  | nil =>
    constructor
    · rintro ⟨⟩
      rfl
    · rintro rfl
      exact .nil
  | cons token pattern induction =>
    cases value with
    | nil => simp_all [matches_nil_iff]
    | cons byte value =>
      rw [matches_cons_iff (by simp_all)]
      simp_all

/-- A value matches exactly if the pattern stands for it, and neither of the
shortcuts changes the answer of the scan. -/
theorem matchWildcard_iff (pattern value : List Byte) :
    (matchWildcard pattern value = true ↔ Matches pattern value) ∧
      matchWildcard pattern value = scan pattern value none := by
  have same : matchWildcard pattern value = true ↔ Matches pattern value := by
    unfold matchWildcard
    split_ifs with all literal
    · simpa [all] using matches_star_iff.2 ⟨value.length, by simp [Matches.nil]⟩
    · exact scan_none_iff
    · rw [decide_eq_true_iff, matches_iff_eq (by simpa using literal)]
  exact ⟨same, Bool.eq_iff_iff.2 (same.trans scan_none_iff.symm)⟩

end Spinifex.Aws.Filters
