import Mathlib.Data.List.MinMax
import Spinifex.Go.Netip
import Spinifex.Go.Strings

/-!
# Match expressions and access control lists of logical switches

A match expression is a conjunction written as text: a term is a flag, or a
field compared with a constant or with a set of constants.  It is read word by
word.  A conjunction that contains a term that cannot be read matches nothing.

The texts of an access control list are built by joining the texts of their
terms, so what such a text matches is computed term by term; nothing else about
reading is needed to reason about a list.  A packet is decided by the entry of
highest priority that applies to it, and is let through if there is none.
-/

namespace Spinifex.Ovn

open Go Go.Netip List

/-! ## Terms -/

/-- What a field is compared with. -/
inductive Constant where
  | number (value : Int)
  | block (block : Prefix)
  | portGroup (name : String)
  | addressSet (name : String)
  | name (text : String)
deriving DecidableEq

/-- How a field is compared. -/
inductive Relation where
  | eq
  | ne
  | ge
  | le
deriving DecidableEq, Repr

/-- How a relation is written. -/
def Relation.sign : Relation → String
  | .eq => "=="
  | .ne => "!="
  | .ge => ">="
  | .le => "<="

/-- A conjunct of a match expression. -/
inductive Term where
  | flag (name : String)
  | compare (field : String) (relation : Relation) (constants : List Constant)
deriving DecidableEq

/--
What is known of a packet at a port.  A field it does not have is absent, and no
comparison of an absent field holds.
-/
structure Facts where
  flag : String → Bool
  number : String → Option Int
  address : String → Option Addr
  inPortGroup : String → String → Bool
  inAddressSet : String → Addr → Bool
  name : String → Option String := fun _ => none

namespace Facts

variable (facts : Facts)

/-- A field has the value of a constant, or one the constant stands for. -/
def equals (field : String) : Constant → Bool
  | .number value => (facts.number field).any (· = value)
  | .block block => (facts.address field).any block.contains
  | .portGroup name => facts.inPortGroup field name
  | .addressSet name => (facts.address field).any (facts.inAddressSet name)
  | .name text => (facts.name field).any (· = text)

/-- The packet has the field. -/
def has (field : String) : Bool :=
  (facts.number field).isSome || (facts.address field).isSome || (facts.name field).isSome

/-- A number field is on one side of a constant. -/
def ordered (field : String) (side : Int → Int → Bool) : Constant → Bool
  | .number bound => (facts.number field).any (side bound)
  | _ => false

/-- What a term says of a packet. -/
def holds : Term → Bool
  | .flag name => facts.flag name
  | .compare field .eq constants => constants.any (facts.equals field)
  | .compare field .ne constants =>
    facts.has field && constants.all fun constant => !facts.equals field constant
  | .compare field .ge constants =>
    constants.any (facts.ordered field fun bound value => bound ≤ value)
  | .compare field .le constants =>
    constants.any (facts.ordered field fun bound value => value ≤ bound)

end Facts

/-! ## Reading -/

/--
Which integers a switch can read as constants: at least those a port may have.
-/
structure Dialect where
  reads : Int → Bool
  reads_port : ∀ value : Int, 0 ≤ value → value < 65536 → reads value = true

/-- The dialect that reads every integer. -/
def Dialect.arithmetic : Dialect where
  reads _ := true
  reads_port _ _ _ := rfl

namespace Dialect

variable (dialect : Dialect)

/-- The name after its opening quote; names have no escaped runes. -/
def readName (word : List Char) : Option Constant :=
  if word.getLast? = some '"' ∧ word.dropLast.all fun rune => rune ≠ '"' && rune ≠ '\\' then
    some (.name (String.ofList word.dropLast))
  else
    none

def readConstant : List Char → Option Constant
  | '@' :: name => some (.portGroup (String.ofList name))
  | '$' :: name => some (.addressSet (String.ofList name))
  | '"' :: word => readName word
  | word =>
    if '/' ∈ word then
      (parsePrefix (String.ofList word)).map .block
    else
      ((signedDigits word).filter dialect.reads).map .number

/-- The members of a set after its opening brace. -/
def setWords : List (List Char) → Option (List (List Char))
  | [] => none
  | [word] => if word.getLast? = some '}' then some [word.dropLast] else none
  | word :: rest =>
    if word.getLast? = some ',' then (setWords rest).map (word.dropLast :: ·) else none

/-- A constant or a set of constants. -/
def readConstants : List (List Char) → Option (List Constant)
  | ('{' :: word) :: rest =>
    (setWords (word :: rest)).bind fun words => words.mapM dialect.readConstant
  | [word] => (dialect.readConstant word).map ([·])
  | _ => none

/-- A comparison sign. -/
def readRelation : List Char → Option Relation
  | ['=', '='] => some .eq
  | ['!', '='] => some .ne
  | ['>', '='] => some .ge
  | ['<', '='] => some .le
  | _ => none

def readTerm : List (List Char) → Option Term
  | [name] => some (.flag (String.ofList name))
  | field :: relation :: constants => do
      let relation ← readRelation relation
      let constants ← dialect.readConstants constants
      return .compare (String.ofList field) relation constants
  | [] => none

def words (text : String) : List (List Char) :=
  text.toList.splitOn ' '

def readMatch (text : String) : Option (List Term) :=
  ((words text).splitOn ['&', '&']).mapM dialect.readTerm

/-- A packet matches an expression that can be read and whose terms hold. -/
def isMatch (facts : Facts) (text : String) : Bool :=
  (dialect.readMatch text).any fun terms => terms.all facts.holds

/-- The text of one term, read and evaluated. -/
def conjunct (facts : Facts) (text : String) : Bool :=
  (dialect.readTerm (words text)).any facts.holds

/-! ## Conjunctions -/

/-- The text of a term does not contain the sign that joins terms. -/
def Whole (text : String) : Prop :=
  '&' ∉ text.toList

variable {text : String} {word : List Char}

theorem mem_of_mem_words (found : word ∈ words text)
    (member : rune ∈ word) : rune ∈ text.toList := by
  have joined : [' '].intercalate (words text) = text.toList := intercalate_splitOn ' '
  rw [← joined]
  generalize words text = split at found
  induction split with
  | nil => cases found
  | cons first rest induction =>
    cases rest with
    | nil =>
      obtain rfl := mem_singleton.1 found
      simpa using member
    | cons second rest =>
      rw [intercalate_cons_cons]
      rcases mem_cons.1 found with rfl | found
      · exact mem_append_left _ (mem_append_left _ member)
      · exact mem_append_right _ (induction found)

theorem Whole.sign (whole : Whole text) : ['&', '&'] ∉ words text :=
  fun found => whole (mem_of_mem_words found (.head _))

theorem words_ne_nil (text : String) : words text ≠ [] :=
  splitOn_ne_nil ' ' text.toList

theorem words_join_cons (first second : String) (rest : List String) :
    words (" && ".intercalate (first :: second :: rest)) =
      words first ++ ['&', '&'] :: words (" && ".intercalate (second :: rest)) := by
  have text : (" && ".intercalate (first :: second :: rest)).toList =
      first.toList ++ ' ' :: (['&', '&'] ++ ' ' ::
        (" && ".intercalate (second :: rest)).toList) := by
    simp [String.toList_intercalate]
  unfold words
  rw [text, splitOn_append_cons_self, splitOn_append_cons_self]
  rfl

/-- Joined terms are taken apart again. -/
theorem groups_join (nonempty : parts ≠ []) (whole : ∀ part ∈ parts, Whole part) :
    (words (" && ".intercalate parts)).splitOn ['&', '&'] = parts.map words := by
  induction parts with
  | nil => exact absurd rfl nonempty
  | cons first rest induction =>
    have firstWhole := (whole first (.head _)).sign
    cases rest with
    | nil => exact splitOn_eq_singleton firstWhole
    | cons second rest =>
      have tail := induction (by simp) fun part member => whole part (.tail _ member)
      rw [words_join_cons, splitOn_append_cons_self_of_not_mem firstWhole, tail]
      rfl

variable {Word Read : Type}

theorem any_mapM (read : Word → Option Read) (holds : Read → Bool) (words : List Word) :
    (words.mapM read).any (fun terms => terms.all holds) =
      words.all fun word => (read word).any holds := by
  induction words with
  | nil => rfl
  | cons word rest induction =>
    rw [mapM_cons, all_cons, ← induction]
    cases read word with
    | none => rfl
    | some term =>
      cases rest.mapM read with
      | none => simp
      | some terms => rfl

theorem exists_of_mapM {read : Word → Option Read} {words : List Word} {all : List Read}
    (found : words.mapM read = some all) (member : one ∈ all) :
    ∃ word ∈ words, read word = some one := by
  induction words generalizing all with
  | nil =>
    obtain rfl := Option.some.inj found
    cases member
  | cons word rest induction =>
    rw [mapM_cons] at found
    obtain ⟨first, head, found⟩ := Option.bind_eq_some_iff.1 found
    obtain ⟨others, tail, found⟩ := Option.bind_eq_some_iff.1 found
    obtain rfl := Option.some.inj found
    rcases mem_cons.1 member with rfl | member
    · exact ⟨word, .head _, head⟩
    · obtain ⟨other, present, read⟩ := induction tail member
      exact ⟨other, .tail _ present, read⟩

variable (facts : Facts) (value : Int) (block : Prefix)

/-- A joined text matches if each of its terms does. -/
theorem isMatch_join (nonempty : parts ≠ []) (whole : ∀ part ∈ parts, Whole part) :
    dialect.isMatch facts (" && ".intercalate parts) = parts.all (dialect.conjunct facts) := by
  unfold isMatch readMatch
  rw [groups_join nonempty whole, any_mapM, all_map]
  rfl

/-! ## Single terms -/

/-- A text without spaces and signs that join terms. -/
def Plain (word : List Char) : Prop :=
  ∀ rune ∈ word, rune ≠ ' ' ∧ rune ≠ '&'

instance (word : List Char) : Decidable (Plain word) :=
  List.decidableBAll _ _

theorem Plain.space (plain : Plain word) : ' ' ∉ word :=
  fun member => (plain ' ' member).1 rfl

theorem Plain.whole (plain : Plain text.toList) : Whole text :=
  fun member => (plain '&' member).2 rfl

theorem words_plain (plain : Plain text.toList) : words text = [text.toList] :=
  splitOn_eq_singleton plain.space

/-- A flag. -/
theorem conjunct_flag (plain : Plain name.toList) :
    dialect.conjunct facts name = facts.flag name := by
  unfold conjunct
  rw [words_plain plain]
  simp [readTerm, Facts.holds]

def comparison (field : String) (relation : Relation) (text : String) : String :=
  field ++ " " ++ relation.sign ++ " " ++ text

variable {relation : Relation} {field : String}

theorem words_comparison (plain : Plain field.toList) :
    words (comparison field relation text) =
      field.toList :: relation.sign.toList :: words text := by
  have shape : (comparison field relation text).toList = field.toList ++ ' ' ::
      (relation.sign.toList ++ ' ' :: text.toList) := by
    simp [comparison]
  have sign : ' ' ∉ relation.sign.toList := by cases relation <;> decide
  unfold words
  rw [shape, splitOn_append_cons_self_of_not_mem plain.space,
    splitOn_append_cons_self_of_not_mem sign]

theorem whole_comparison (fieldWhole : Whole field)
    (textWhole : Whole text) : Whole (comparison field relation text) := by
  have sign : '&' ∉ relation.sign.toList := by cases relation <;> decide
  unfold Whole at fieldWhole textWhole ⊢
  simp [comparison, fieldWhole, textWhole, sign]

/-- A comparison is read with the constants its text stands for. -/
theorem readTerm_comparison (plain : Plain field.toList) :
    dialect.readTerm (words (comparison field relation text)) =
      (dialect.readConstants (words text)).map (.compare field relation) := by
  have sign : readRelation relation.sign.toList = some relation := by
    cases relation <;> decide
  rw [words_comparison plain]
  obtain ⟨word, rest, split⟩ := exists_cons_of_ne_nil (words_ne_nil text)
  rw [split]
  simp only [readTerm, sign, Option.bind_eq_bind, Option.bind_some, String.ofList_toList]
  cases dialect.readConstants (word :: rest) <;> rfl

/-- A comparison holds of the constants its text stands for. -/
theorem conjunct_comparison (plain : Plain field.toList) :
    dialect.conjunct facts (comparison field relation text) =
      (dialect.readConstants (words text)).any fun constants =>
        facts.holds (.compare field relation constants) := by
  unfold conjunct
  rw [dialect.readTerm_comparison plain]
  cases dialect.readConstants (words text) <;> rfl

/-- A text that is no name and no set. -/
def Literal (word : List Char) : Prop :=
  ∀ rune ∈ word, rune ≠ '{' ∧ rune ≠ '@' ∧ rune ≠ '$' ∧ rune ≠ '"'

theorem readConstant_literal (literal : Literal word) :
    dialect.readConstant word = if '/' ∈ word then
        (parsePrefix (String.ofList word)).map .block
      else
        ((signedDigits word).filter dialect.reads).map .number := by
  unfold readConstant
  split
  · exact absurd rfl (literal '@' (.head _)).2.1
  · exact absurd rfl (literal '$' (.head _)).2.2.1
  · exact absurd rfl (literal '"' (.head _)).2.2.2
  · rfl

theorem readConstants_literal (literal : Literal word) :
    dialect.readConstants [word] = (dialect.readConstant word).map ([·]) := by
  unfold readConstants
  split
  next shape =>
    obtain ⟨rfl, -⟩ := cons.inj shape
    exact absurd rfl (literal '{' (.head _)).1
  next shape =>
    obtain ⟨rfl, -⟩ := cons.inj shape
    rfl
  next shape =>
    exact absurd rfl (shape word)

/-! ## Constants -/

theorem decimal_rune {value : Int}
    (member : rune ∈ (decimal value).toList) : rune.isDigit = true ∨ rune = '-' := by
  rw [decimal_toList] at member
  split at member
  · rcases mem_cons.1 member with rfl | member
    · exact .inr rfl
    · exact .inl (toDigits_isDigit member)
  · exact .inl (toDigits_isDigit member)

theorem plain_decimal : Plain (decimal value).toList := by
  intro rune member
  rcases decimal_rune member with digit | rfl
  · refine ⟨?_, ?_⟩ <;> rintro rfl <;> exact absurd digit (by decide)
  · decide

theorem literal_decimal : Literal (decimal value).toList := by
  intro rune member
  rcases decimal_rune member with digit | rfl
  · refine ⟨?_, ?_, ?_, ?_⟩ <;> rintro rfl <;>
      exact absurd digit (by decide)
  · decide

/-- A number is read if the dialect reads it. -/
theorem readConstant_decimal :
    dialect.readConstant (decimal value).toList =
      if dialect.reads value then some (.number value) else none := by
  have slash : '/' ∉ (decimal value).toList := by
    intro member
    rcases decimal_rune member with digit | impossible
    · exact absurd digit (by decide)
    · exact absurd impossible (by decide)
  rw [readConstant_literal dialect (literal_decimal value), if_neg slash, signedDigits_decimal]
  cases reads : dialect.reads value <;> simp [Option.filter, reads]

theorem plain_block : Plain block.text.toList := by
  intro rune member
  rcases block.text_rune rune member with plain | rfl | rfl | rfl
  · refine ⟨?_, ?_⟩ <;> rintro rfl <;> exact absurd plain (by decide)
  · decide
  · decide
  · decide

theorem literal_block : Literal block.text.toList := by
  intro rune member
  rcases block.text_rune rune member with plain | rfl | rfl | rfl
  · refine ⟨?_, ?_, ?_, ?_⟩ <;> rintro rfl <;>
      exact absurd plain (by decide)
  · decide
  · decide
  · decide

/-- The text of a block is read as a prefix. -/
theorem readConstant_text :
    dialect.readConstant block.text.toList = (parsePrefix block.text).map .block := by
  have slash : '/' ∈ block.text.toList := by simp [Prefix.text]
  rw [readConstant_literal dialect (literal_block block), if_pos slash, String.ofList_toList]

/-- A block of addresses of the first family is read back. -/
theorem readConstant_block {block : Prefix} (family : block.addr.family = .v4) :
    dialect.readConstant block.text.toList = some (.block block) := by
  rw [readConstant_text, parsePrefix_text family]
  rfl

/-! ## Comparisons with one constant -/

section

variable (facts : Facts) {field : String} {relation : Relation} (plain : Plain field.toList)

include plain

/-- A comparison with a number holds if the number can be read. -/
theorem conjunct_number (value : Int) :
    dialect.conjunct facts (comparison field relation (decimal value)) =
      (dialect.reads value && facts.holds (.compare field relation [.number value])) := by
  rw [conjunct_comparison dialect facts plain, words_plain (plain_decimal value),
    readConstants_literal dialect (literal_decimal value), readConstant_decimal]
  cases dialect.reads value <;> rfl

/-- A comparison with a block. -/
theorem conjunct_block {block : Prefix} (family : block.addr.family = .v4) :
    dialect.conjunct facts (comparison field relation block.text) =
      facts.holds (.compare field relation [.block block]) := by
  rw [conjunct_comparison dialect facts plain, words_plain (plain_block block),
    readConstants_literal dialect (literal_block block), readConstant_block dialect family]
  rfl

variable {name : String}

/-- A comparison with a port group. -/
theorem conjunct_portGroup (namePlain : Plain name.toList) :
    dialect.conjunct facts (comparison field relation ("@" ++ name)) =
      facts.holds (.compare field relation [.portGroup name]) := by
  have whole : Plain ("@" ++ name).toList := by
    rw [String.toList_append]
    exact forall_mem_cons.2 ⟨by decide, namePlain⟩
  simp [conjunct_comparison dialect facts plain, words_plain whole, readConstants, readConstant]

/-- A comparison with an address set. -/
theorem conjunct_addressSet (namePlain : Plain name.toList) :
    dialect.conjunct facts (comparison field relation ("$" ++ name)) =
      facts.holds (.compare field relation [.addressSet name]) := by
  have whole : Plain ("$" ++ name).toList := by
    rw [String.toList_append]
    exact forall_mem_cons.2 ⟨by decide, namePlain⟩
  simp [conjunct_comparison dialect facts plain, words_plain whole, readConstants, readConstant]

end

/-! ## Sets -/

def setText (members : List String) : String :=
  "\x7b" ++ ", ".intercalate members ++ "\x7d"

theorem setWords_members (nonempty : members ≠ [])
    (plain : ∀ member ∈ members, Plain member.toList) :
    setWords (words (", ".intercalate members ++ "\x7d")) = some (members.map String.toList) := by
  induction members with
  | nil => exact absurd rfl nonempty
  | cons first rest induction =>
    have firstPlain := plain first (.head _)
    cases rest with
    | nil =>
      have single : words (first ++ "\x7d") = [first.toList ++ ['}']] := by
        unfold words
        rw [splitOn_eq_singleton]
        · simp
        · simpa using firstPlain.space
      simp [single, setWords]
    | cons second rest =>
      have tail := induction (by simp) fun member found => plain member (.tail _ found)
      have split : words (", ".intercalate (first :: second :: rest) ++ "\x7d") =
          (first.toList ++ [',']) :: words (", ".intercalate (second :: rest) ++ "\x7d") := by
        have shape : (", ".intercalate (first :: second :: rest) ++ "\x7d").toList =
            (first.toList ++ [',']) ++ ' ' ::
              (", ".intercalate (second :: rest) ++ "\x7d").toList := by
          simp [String.toList_intercalate]
        have space : ' ' ∉ first.toList ++ [','] := by
          simpa using firstPlain.space
        unfold words
        rw [shape, splitOn_append_cons_self_of_not_mem space]
      obtain ⟨word, others, found⟩ := exists_cons_of_ne_nil
          (words_ne_nil (", ".intercalate (second :: rest) ++ "\x7d"))
      rw [split]
      rw [found] at tail ⊢
      rw [setWords, tail]
      · simp
      · simp

/-- A set is read member by member. -/
theorem readConstants_set (nonempty : members ≠ [])
    (plain : ∀ member ∈ members, Plain member.toList) :
    dialect.readConstants (words (setText members)) =
      (members.map String.toList).mapM dialect.readConstant := by
  have shape : (setText members).toList = '{' :: (", ".intercalate members ++ "\x7d").toList := by
    simp [setText]
  have split : words (setText members) = (words (", ".intercalate members ++ "\x7d")).modifyHead
      (cons '{') := by
    unfold words
    rw [shape, splitOn_cons_eq_if_modifyHead]
    rfl
  obtain ⟨word, others, found⟩ := exists_cons_of_ne_nil
      (words_ne_nil (", ".intercalate members ++ "\x7d"))
  have read := setWords_members nonempty plain
  rw [found] at read
  rw [split, found, modifyHead_cons, readConstants, read]
  rfl

/-- A comparison with a set of blocks. -/
theorem conjunct_blocks (plain : Plain field.toList) {blocks : List Prefix}
    (nonempty : blocks ≠ []) (families : ∀ block ∈ blocks, block.addr.family = .v4) :
    dialect.conjunct facts (comparison field relation (setText (blocks.map Prefix.text))) =
      facts.holds (.compare field relation (blocks.map .block)) := by
  have read : ((blocks.map Prefix.text).map String.toList).mapM dialect.readConstant =
      some (blocks.map Constant.block) := by
    clear nonempty
    induction blocks with
    | nil => rfl
    | cons block rest induction =>
      have tail := induction fun other member => families other (.tail _ member)
      rw [map_cons, map_cons, mapM_cons,
        readConstant_block dialect (families block (.head _)), tail]
      rfl
  rw [conjunct_comparison dialect facts plain,
    readConstants_set dialect (by simpa using nonempty), read]
  · rfl
  · intro text member
    obtain ⟨block, found, rfl⟩ := mem_map.1 member
    exact plain_block block

/-- Equality with a set of numbers is equality with one of them. -/
theorem exists_of_conjunct_numbers
    {facts : Facts} (plain : Plain field.toList) {values : List Int} (nonempty : values ≠ [])
    (matched : dialect.conjunct facts (comparison field .eq (setText (values.map decimal))) =
      true) :
    ∃ value ∈ values, facts.number field = some value := by
  rw [conjunct_comparison dialect facts plain,
    readConstants_set dialect (by simpa using nonempty)] at matched
  · obtain ⟨constants, read, holds⟩ := (Option.any_eq_true ..).1 matched
    obtain ⟨constant, member, equal⟩ := any_eq_true.1 holds
    obtain ⟨word, found, one⟩ := exists_of_mapM read member
    rw [map_map] at found
    obtain ⟨value, present, rfl⟩ := mem_map.1 found
    refine ⟨value, present, ?_⟩
    rw [Function.comp_apply, readConstant_decimal] at one
    split at one
    · obtain rfl := Option.some.inj one
      obtain ⟨number, known, same⟩ := (Option.any_eq_true ..).1 equal
      rw [known, of_decide_eq_true same]
    · cases one
  · intro text member
    obtain ⟨value, -, rfl⟩ := mem_map.1 member
    exact plain_decimal value

theorem whole_set (whole : ∀ member ∈ members, Whole member) : Whole (setText members) := by
  have inner : Whole (", ".intercalate members) := by
    induction members with
    | nil => simp [Whole]
    | cons first rest induction =>
      have firstWhole := whole first (.head _)
      have tail := induction fun member found => whole member (.tail _ found)
      cases rest with
      | nil => simpa using firstWhole
      | cons second rest =>
        unfold Whole at firstWhole tail ⊢
        simp only [String.toList_intercalate, map_cons, intercalate_cons_cons, mem_append,
          not_or] at tail ⊢
        exact ⟨⟨firstWhole, by decide⟩, tail⟩
  unfold Whole at inner ⊢
  simpa [setText] using inner

end Dialect

/-! ## Access control lists -/

/-- The direction of a packet at a port of a logical switch. -/
inductive Direction where
  | toLport
  | fromLport
deriving DecidableEq, Repr

/-- What an entry does with the packets it decides. -/
inductive Action where
  | allow
  | allowRelated
  | drop
  | reject
deriving DecidableEq, Repr

/-- An action lets packets through. -/
def Action.permits : Action → Bool
  | .allow => true
  | .allowRelated => true
  | .drop => false
  | .reject => false

/-- How a logged entry is reported. -/
inductive Severity where
  | alert
  | warning
  | notice
  | info
  | debug
deriving DecidableEq, Repr

/-- An entry of an access control list; `expression` is what it matches. -/
structure ACLSpec where
  direction : Direction
  priority : Nat
  expression : String
  action : Action
  name : String := ""
  log : Bool := false
  severity : Option Severity := none
deriving DecidableEq, Repr

section

variable (dialect : Dialect) (facts : Facts) (direction : Direction)

/-- An entry applies to a packet. -/
def ACLSpec.applies (acl : ACLSpec) : Bool :=
  acl.direction = direction && dialect.isMatch facts acl.expression

/-- The entry that decides a packet: the highest priority that applies. -/
def decision (acls : List ACLSpec) : Option ACLSpec :=
  (acls.filter (ACLSpec.applies dialect facts direction)).argmax ACLSpec.priority

/-- A list lets a packet through. -/
def allows (acls : List ACLSpec) : Bool :=
  match decision dialect facts direction acls with
  | none => true
  | some acl => acl.action.permits

variable {dialect facts direction}

/-- If all that could decide a packet agree, that is the decision. -/
theorem allows_eq (member : acl ∈ acls) (applies : acl.applies dialect facts direction = true)
    (agreed : ∀ other ∈ acls, other.applies dialect facts direction = true →
      acl.priority ≤ other.priority → other.action.permits = verdict) :
    allows dialect facts direction acls = verdict := by
  have found : acl ∈ acls.filter (ACLSpec.applies dialect facts direction) :=
    mem_filter.2 ⟨member, applies⟩
  unfold allows
  cases decided : decision dialect facts direction acls with
  | none =>
    simp [argmax_eq_none.1 decided] at found
  | some other =>
    have most := le_of_mem_argmax found decided
    obtain ⟨otherMember, otherApplies⟩ := mem_filter.1 (argmax_mem decided)
    exact agreed other otherMember otherApplies most

end

end Spinifex.Ovn
