import Mathlib.Data.List.Infix
import Mathlib.Data.List.TakeWhile

/-!
# Host and path patterns

A listener rule selects requests by a host or path pattern with the wildcards
`*` and `?`.  `wildcardMatch` turns the pattern into one of HAProxy's matches of
a literal.  The match accepts every string the pattern stands for exactly if
what is left of the pattern has no wildcard inside; the patterns for which that
is so are listed by `Plain`.
-/

namespace Spinifex.Elbv2

open List

/-- The conditions whose values are patterns. -/
inductive PatternField where
  | hostHeader
  | pathPattern
deriving DecidableEq, Repr

/-- The runes of `ruleHostPathRegex`. -/
def ruleHostPathRune (rune : Char) : Bool :=
  rune.isAlphanum || rune ∈ ['*', '?', '.', '_', '/', '-']

/-- `MaxConditionValueLen`. -/
def maxConditionValueLen : Nat := 128

/-- `validRuleStringValue`, of a class of runes. -/
def validRuleStringValue (allowed : Char → Bool) (value : String) : Bool :=
  value ≠ "" && decide (value.utf8ByteSize ≤ maxConditionValueLen) && value.toList.all allowed

/-- The flag of a match: `sub`, `end`, `beg` or `str`. -/
inductive MatchFlag where
  | sub
  | ending
  | beg
  | str
deriving DecidableEq, Repr

def isWild (rune : Char) : Bool :=
  rune = '*' || rune = '?'

/-- `strings.Trim` of the wildcards. -/
def trimWild (value : List Char) : List Char :=
  ((value.dropWhile isWild).reverse.dropWhile isWild).reverse

/-- `wildcardMatch`. -/
def wildcardMatch (value : List Char) : MatchFlag × List Char :=
  let hasLead := value.head? = some '*'
  let hasTrail := value.getLast? = some '*'
  if hasLead ∧ hasTrail ∧ 2 < value.length then
    (.sub, value.tail.dropLast)
  else if hasLead ∧ 1 < value.length then
    (.ending, value.tail)
  else if hasTrail ∧ 1 < value.length then
    (.beg, value.dropLast)
  else if value.any isWild then (.sub, trimWild value) else (.str, value)

/-! ## What the patterns and the matches stand for -/

/-- Hosts are compared without regard to case, paths as they are. -/
def PatternField.fold : PatternField → Char → Char
  | .hostHeader => Char.toLower
  | .pathPattern => id

/-- The strings a pattern stands for. -/
inductive Glob (fold : Char → Char) : List Char → List Char → Prop where
  | nil : Glob fold [] []
  | star {pattern text : List Char} (skipped : List Char)
    (rest : Glob fold pattern text) :
    Glob fold ('*' :: pattern) (skipped ++ text)
  | any {pattern text : List Char} (rune : Char)
    (rest : Glob fold pattern text) :
    Glob fold ('?' :: pattern) (rune :: text)
  | same {pattern text : List Char} {rune other : Char}
    (literal : isWild rune = false) (alike : fold other = fold rune)
    (rest : Glob fold pattern text) :
    Glob fold (rune :: pattern) (other :: text)

/-- The strings a match of a literal accepts. -/
def MatchFlag.Accepts (fold : Char → Char) (literal text : List Char) :
    MatchFlag → Prop
  | .sub => literal.map fold <:+: text.map fold
  | .ending => literal.map fold <:+ text.map fold
  | .beg => literal.map fold <+: text.map fold
  | .str => text.map fold = literal.map fold

/-- The strings HAProxy accepts for a pattern. -/
def Served (field : PatternField) (value text : List Char) : Prop :=
  (wildcardMatch value).1.Accepts field.fold (wildcardMatch value).2 text

instance (field : PatternField) (value text : List Char) : Decidable (Served field value text) := by
  unfold Served MatchFlag.Accepts
  split <;> infer_instance

/-- A text without wildcards. -/
def Free (text : List Char) : Prop :=
  ∀ rune ∈ text, isWild rune = false

/-- The pattern has no wildcard but a star at its start, its end or both. -/
def StarEnded (value : List Char) : Prop :=
  ∃ word, Free word ∧ (value = '*' :: word ∨ value = word ++ ['*'] ∨ value = '*' :: word ++ ['*'])

/-- No match is missed, and none is added where only the ends are open. -/
structure Faithful (field : PatternField) (value : List Char) : Prop where
  served : ∀ text, Glob field.fold value text → Served field value text
  exactly : StarEnded value → ∀ text, Served field value text → Glob field.fold value text

/-- The patterns with one word, after which nothing is left to interpret. -/
inductive Plain : List Char → Prop where
  | between {word : List Char} (free : Free word) (some : word ≠ []) :
    Plain ('*' :: word ++ ['*'])
  | ends {word : List Char} (free : Free word) (some : word ≠ []) :
    Plain ('*' :: word)
  | begins {word : List Char} (free : Free word) (some : word ≠ []) :
    Plain (word ++ ['*'])
  | star : Plain ['*']
  | within {left word right : List Char} (free : Free word)
    (before : ∀ rune ∈ left, isWild rune = true)
    (after : ∀ rune ∈ right, isWild rune = true)
    (lead : (left ++ word ++ right).head? ≠ some '*')
    (trail : (left ++ word ++ right).getLast? ≠ some '*') :
    Plain (left ++ word ++ right)

/-! ## Patterns and their parts -/

section

variable {fold : Char → Char} {pattern text word : List Char}

theorem glob_append :
    Glob fold (pattern ++ rest) text ↔ ∃ left right, text = left ++ right ∧ Glob fold pattern left ∧
      Glob fold rest right := by
  constructor
  · intro glob
    induction pattern generalizing text with
    | nil => exact ⟨[], text, rfl, .nil, glob⟩
    | cons rune pattern induction =>
      cases glob with
      | star skipped tail =>
        obtain ⟨left, right, rfl, front, back⟩ := induction tail
        refine ⟨skipped ++ left, right, ?_, .star skipped front, back⟩
        rw [append_assoc]
      | any other tail =>
        obtain ⟨left, right, rfl, front, back⟩ := induction tail
        exact ⟨other :: left, right, rfl, .any other front, back⟩
      | same literal alike tail =>
        obtain ⟨left, right, rfl, front, back⟩ := induction tail
        exact ⟨_ :: left, right, rfl, .same literal alike front, back⟩
  · rintro ⟨left, right, rfl, front, back⟩
    induction front with
    | nil => exact back
    | star skipped tail induction =>
      rw [append_assoc]
      exact .star skipped induction
    | any other tail induction => exact .any other induction
    | same literal alike tail induction => exact .same literal alike induction

theorem glob_free (free : Free word) : Glob fold word text ↔ text.map fold = word.map fold := by
  induction word generalizing text with
  | nil =>
    constructor
    · intro glob
      cases glob
      rfl
    · intro same
      rw [map_eq_nil_iff.1 same]
      exact .nil
  | cons rune word induction =>
    have literal : isWild rune = false := free rune (mem_cons_self ..)
    have rest : Free word := fun other member => free other (mem_cons_of_mem _ member)
    constructor
    · intro glob
      cases glob with
      | star skipped tail | any other tail => simp [isWild] at literal
      | same _ alike tail =>
        rw [map_cons, map_cons, alike, (induction rest).1 tail]
    · intro same
      cases text with
      | nil => simp at same
      | cons other text =>
        obtain ⟨alike, same⟩ := cons.inj same
        exact .same literal alike ((induction rest).2 same)

theorem glob_star (text : List Char) : Glob fold ['*'] text := by
  have glob : Glob fold ['*'] (text ++ []) := .star text .nil
  rwa [append_nil] at glob

theorem glob_star_append :
    Glob fold ('*' :: pattern) text ↔
      ∃ left right, text = left ++ right ∧ Glob fold pattern right := by
  constructor
  · intro glob
    cases glob with
    | star skipped rest => exact ⟨skipped, _, rfl, rest⟩
    | same literal => simp [isWild] at literal
  · rintro ⟨left, right, rfl, rest⟩
    exact .star left rest

section

variable (free : Free word)

include free

theorem glob_ends : Glob fold ('*' :: word) text ↔ word.map fold <:+ text.map fold := by
  rw [glob_star_append]
  constructor
  · rintro ⟨left, right, rfl, rest⟩
    rw [map_append, (glob_free free).1 rest]
    exact suffix_append _ _
  · rintro ⟨front, split⟩
    obtain ⟨left, right, rfl, -, same⟩ := map_eq_append_iff.1 split.symm
    exact ⟨left, right, rfl, (glob_free free).2 same⟩

theorem glob_begins : Glob fold (word ++ ['*']) text ↔ word.map fold <+: text.map fold := by
  rw [glob_append]
  constructor
  · rintro ⟨left, right, rfl, front, -⟩
    rw [map_append, (glob_free free).1 front]
    exact prefix_append _ _
  · rintro ⟨back, split⟩
    obtain ⟨left, right, rfl, same, -⟩ := map_eq_append_iff.1 split.symm
    exact ⟨left, right, rfl, (glob_free free).2 same, glob_star right⟩

theorem glob_between :
    Glob fold ('*' :: word ++ ['*']) text ↔ word.map fold <:+: text.map fold := by
  rw [cons_append, glob_star_append]
  constructor
  · rintro ⟨left, right, rfl, rest⟩
    rw [map_append]
    exact ((glob_begins free).1 rest).isInfix.trans (suffix_append _ _).isInfix
  · rintro ⟨front, back, split⟩
    rw [append_assoc] at split
    obtain ⟨left, right, rfl, -, same⟩ := map_eq_append_iff.1 split.symm
    exact ⟨left, right, rfl, (glob_begins free).2 ⟨back, same.symm⟩⟩

/-- A word of a pattern is in every string the pattern stands for. -/
theorem infix_of_glob
    (glob : Glob fold (left ++ word ++ right) text) : word.map fold <:+: text.map fold := by
  obtain ⟨front, back, rfl, inside, -⟩ := glob_append.1 glob
  obtain ⟨before, same, rfl, -, literal⟩ := glob_append.1 inside
  refine ⟨before.map fold, back.map fold, ?_⟩
  rw [← (glob_free free).1 literal]
  simp

end

/-- What a pattern stands for when its wildcards are filled in. -/
def filled (pattern : List Char) : List Char :=
  pattern.filterMap fun rune =>
    if rune = '*' then none else if rune = '?' then some 'a' else some rune

theorem glob_filled (pattern : List Char) : Glob fold pattern (filled pattern) := by
  induction pattern with
  | nil => exact .nil
  | cons rune pattern induction =>
    by_cases star : rune = '*'
    · subst star
      exact .star [] induction
    by_cases mark : rune = '?'
    · subst mark
      exact .any 'a' induction
    · rw [show filled (rune :: pattern) = rune :: filled pattern by
        simp [filled, star, mark]]
      exact .same (by simp [isWild, star, mark]) rfl induction

theorem free_filled (pattern : List Char) : Free (filled pattern) := by
  intro rune member
  obtain ⟨other, -, same⟩ := mem_filterMap.1 member
  split at same
  · cases same
  next star =>
    split at same
    · cases same
      rfl
    next mark =>
      cases same
      simp [isWild, star, mark]

end

/-! ## What is left of a pattern -/

theorem trimWild_split (value : List Char) :
    ∃ left right, value = left ++ trimWild value ++ right ∧
      (∀ rune ∈ left, isWild rune = true) ∧ ∀ rune ∈ right, isWild rune = true := by
  refine ⟨value.takeWhile isWild,
    ((value.dropWhile isWild).reverse.takeWhile isWild).reverse, ?_, ?_, ?_⟩
  · rw [append_assoc, trimWild, ← reverse_append, takeWhile_append_dropWhile, reverse_reverse,
      takeWhile_append_dropWhile]
  · exact fun rune member => mem_takeWhile_imp member
  · exact fun rune member => mem_takeWhile_imp (mem_reverse.1 member)

variable {left text : List Char}

theorem dropWhile_wild (before : ∀ rune ∈ left, isWild rune = true)
    (free : ∀ rune ∈ text.head?, isWild rune = false) : (left ++ text).dropWhile isWild = text := by
  rw [dropWhile_append_of_pos before]
  cases text with
  | nil => rfl
  | cons rune text => simp [free rune rfl]

variable {word : List Char}

theorem trimWild_within (free : Free word)
    (before : ∀ rune ∈ left, isWild rune = true) (after : ∀ rune ∈ right, isWild rune = true) :
    trimWild (left ++ word ++ right) = word := by
  have wild : ∀ rune ∈ right.reverse, isWild rune = true :=
    fun rune member => after rune (mem_reverse.1 member)
  cases word with
  | nil =>
    have all : ∀ rune ∈ left ++ right, isWild rune = true := by
      intro rune member
      rcases mem_append.1 member with first | second
      · exact before rune first
      · exact after rune second
    rw [trimWild, append_nil, dropWhile_eq_nil_iff.2 all]
    rfl
  | cons rune word =>
    have first : isWild rune = false := free rune (mem_cons_self ..)
    rw [trimWild, append_assoc, dropWhile_wild before (by simpa),
      reverse_append, dropWhile_wild wild, reverse_reverse]
    intro last isLast
    rw [head?_reverse] at isLast
    exact free last (mem_of_getLast? isLast)

theorem Free.notMem (free : Free word) : '*' ∉ word :=
  fun member => absurd (free '*' member) (by decide)

theorem wildcardMatch_between (some : word ≠ []) :
    wildcardMatch ('*' :: word ++ ['*']) = (.sub, word) := by
  have long := length_pos_iff.2 some
  have last : ('*' :: word ++ ['*']).getLast? = .some '*' := getLast?_concat ..
  unfold wildcardMatch
  rw [if_pos ⟨rfl, last, by simpa using long⟩]
  simp

theorem wildcardMatch_ends (some : word ≠ []) (trail : word.getLast? ≠ .some '*') :
    wildcardMatch ('*' :: word) = (.ending, word) := by
  have long := length_pos_iff.2 some
  rw [← getLast?_cons_of_ne_nil some] at trail
  unfold wildcardMatch
  rw [if_neg fun met => trail met.2.1, if_pos ⟨rfl, by simpa using long⟩]
  rfl

theorem wildcardMatch_begins (some : word ≠ []) (lead : word.head? ≠ .some '*') :
    wildcardMatch (word ++ ['*']) = (.beg, word) := by
  have long := length_pos_iff.2 some
  rw [← @List.head?_append_of_ne_nil _ _ ['*'] some] at lead
  unfold wildcardMatch
  rw [if_neg fun met => lead met.1, if_neg fun met => lead met.1,
    if_pos ⟨getLast?_concat .., by simpa using long⟩]
  simp

theorem Free.head? (free : Free word) : word.head? ≠ some '*' :=
  fun isFirst => free.notMem (mem_of_head? isFirst)

theorem Free.getLast? (free : Free word) : word.getLast? ≠ some '*' :=
  fun isLast => free.notMem (mem_of_getLast? isLast)

variable {value : List Char}

/-- A pattern without a star at its ends. -/
theorem wildcardMatch_closed (lead : value.head? ≠ some '*') (trail : value.getLast? ≠ some '*') :
    wildcardMatch value = if value.any isWild then (.sub, trimWild value) else (.str, value) := by
  unfold wildcardMatch
  rw [if_neg fun met => lead met.1, if_neg fun met => lead met.1, if_neg fun met => trail met.1]

/-- The literal is free of wildcards only for the plain patterns. -/
theorem plain_of_free (free : Free (wildcardMatch value).2) : Plain value := by
  by_cases lead : value.head? = some '*'
  · obtain ⟨rest, rfl⟩ := head?_eq_some_iff.1 lead
    rcases eq_or_ne rest [] with rfl | some
    · exact .star
    by_cases trail : rest.getLast? = .some '*'
    · obtain ⟨word, rfl⟩ := getLast?_eq_some_iff.1 trail
      rcases eq_or_ne word [] with rfl | some
      · exact absurd (free '*' (mem_singleton_self _)) (by decide)
      rw [← cons_append, wildcardMatch_between some] at free
      exact .between free some
    · rw [wildcardMatch_ends some trail] at free
      exact .ends free some
  · by_cases trail : value.getLast? = some '*'
    · obtain ⟨word, rfl⟩ := getLast?_eq_some_iff.1 trail
      have some : word ≠ [] := by
        rintro rfl
        exact lead rfl
      rw [head?_append_of_ne_nil _ some] at lead
      rw [wildcardMatch_begins some lead] at free
      exact .begins free some
    · rw [wildcardMatch_closed lead trail] at free
      split at free
      · obtain ⟨left, right, split, before, after⟩ := trimWild_split value
        rw [split] at lead trail ⊢
        exact .within free before after lead trail
      · have whole : Plain ([] ++ value ++ []) :=
          .within free (by simp) (by simp) (by simpa) (by simpa)
        simpa using whole

/-! ## The matches -/

theorem isWild_eq_false (above : 63 < rune.toNat) : isWild rune = false := by
  simp only [isWild, Bool.or_eq_false_iff, decide_eq_false_iff_not]
  constructor <;> rintro rfl <;> revert above <;> decide

theorem isWild_fold (field : PatternField) (rune : Char) :
    isWild (field.fold rune) = isWild rune := by
  cases field with
  | pathPattern => rfl
  | hostHeader =>
    change isWild rune.toLower = isWild rune
    unfold Char.toLower
    split
    next upper =>
      have lower : 65 ≤ rune.val.toNat := UInt32.le_iff_toNat_le.1 upper.1
      have bound : rune.val.toNat ≤ 90 := UInt32.le_iff_toNat_le.1 upper.2
      have shifted : (rune.val + ('a'.val - 'A'.val)).toNat = rune.val.toNat + 32 := by
        rw [UInt32.toNat_add]
        exact Nat.mod_eq_of_lt (by change _ + 32 < _; omega)
      refine (isWild_eq_false ?_).trans (isWild_eq_false ?_).symm
      · change 63 < (rune.val + ('a'.val - 'A'.val)).toNat
        omega
      · change 63 < rune.val.toNat
        omega
    · rfl

theorem infix_of_accepts {flag : MatchFlag}
    (accepts : flag.Accepts fold literal text) : literal.map fold <:+: text.map fold := by
  cases flag with
  | sub => exact accepts
  | ending => exact List.IsSuffix.isInfix accepts
  | beg => exact List.IsPrefix.isInfix accepts
  | str => rw [show text.map fold = literal.map fold from accepts]

variable {field : PatternField}

/-- A literal with a wildcard is in no string without one. -/
theorem free_of_served (plain : Free text) (served : Served field value text) :
    Free (wildcardMatch value).2 := by
  intro rune member
  have inside := (infix_of_accepts served).subset (mem_map_of_mem member)
  obtain ⟨other, isThere, same⟩ := mem_map.1 inside
  rw [← isWild_fold field, ← same, isWild_fold]
  exact plain other isThere

theorem served_of_glob (plain : Plain value) (glob : Glob field.fold value text) :
    Served field value text := by
  unfold Served
  cases plain with
  | between free some =>
    rw [wildcardMatch_between some]
    exact (glob_between free).1 glob
  | ends free some =>
    rw [wildcardMatch_ends some free.getLast?]
    exact (glob_ends free).1 glob
  | begins free some =>
    rw [wildcardMatch_begins some free.head?]
    exact (glob_begins free).1 glob
  | star => exact nil_infix
  | @within left word right free before after lead trail =>
    rw [wildcardMatch_closed lead trail]
    split
    · rw [trimWild_within free before after]
      exact infix_of_glob free glob
    next closed =>
      have free : Free (left ++ word ++ right) := fun rune member => by
        simpa using fun wild => closed (any_eq_true.2 ⟨rune, member, wild⟩)
      exact (glob_free free).1 glob

theorem glob_of_served (plain : Plain value) (open_ : StarEnded value)
    (served : Served field value text) : Glob field.fold value text := by
  obtain ⟨word, free, ends⟩ := open_
  unfold Served at served
  rcases eq_or_ne word [] with rfl | some
  · rcases ends with rfl | rfl | rfl
    · exact glob_star text
    · exact glob_star text
    · have empty : Served field ['*', '*'] [] := served_of_glob plain (.star [] (.star [] .nil))
      exact absurd (suffix_nil.1 empty) (cons_ne_nil _ _)
  · rcases ends with rfl | rfl | rfl
    · rw [wildcardMatch_ends some free.getLast?] at served
      exact (glob_ends free).2 served
    · rw [wildcardMatch_begins some free.head?] at served
      exact (glob_begins free).2 served
    · rw [wildcardMatch_between some] at served
      exact (glob_between free).2 served

/--
The match of a host or path pattern misses no string the pattern stands for, and
adds none if only the pattern's ends are open, exactly for the plain patterns.
-/
theorem pattern_match_faithful_iff (field : PatternField) (value : List Char) :
    Faithful field value ↔ Plain value := by
  constructor
  · intro faithful
    apply plain_of_free
    exact free_of_served (free_filled value) (faithful.served _ (glob_filled value))
  · intro plain
    exact ⟨fun _ => served_of_glob plain, fun open_ _ => glob_of_served plain open_⟩

/-- An accepted pattern with a star inside misses a path it stands for. -/
theorem inner_star_misses_path :
    validRuleStringValue ruleHostPathRune "/a*b" = true ∧
      Glob PatternField.pathPattern.fold "/a*b".toList "/axb".toList ∧
        ¬Served .pathPattern "/a*b".toList "/axb".toList := by
  refine ⟨by decide, ?_, by decide⟩
  exact .same rfl rfl (.same rfl rfl (.star ['x'] (.same rfl rfl .nil)))

end Spinifex.Elbv2
