import Mathlib.Data.Finset.Card
import Mathlib.Data.List.Lex
import Mathlib.Order.Fin.Basic
import Spinifex.Go.Encoding

/-!
# Paged listings

A page starts at the key its token names and ends before the key of the next
token.  Whatever happens to the listing between the calls, following the tokens
returns no item twice, and every item that was there all the time.
-/

namespace Spinifex.Aws.Paging

open Go

/-- Marks a token as issued here. -/
def tokenPrefix : List Byte :=
  "spx-page-v1:".toList.map fun rune => ⟨rune.toNat % 256, Nat.mod_lt _ (by decide)⟩

/-- `ErrInvalidToken`. -/
def invalidToken : String :=
  "paging: token was not issued by this service"

/-- `Request`: no cap for a limit of zero or less. -/
structure Request where
  limit : Int
  resume : List Byte

/-- `EncodeToken`. -/
def encodeToken (key : List Byte) : List Byte :=
  encodeToString (tokenPrefix ++ key)

/-- `DecodeToken`: the empty token is the start. -/
def decodeToken (token : List Byte) : Except String (List Byte) :=
  if token = [] then
    .ok []
  else
    match (decodeString false token).bind tokenPrefix.isPrefixOf? with
    | none | some [] => .error invalidToken
    | some key => .ok key

variable {Item : Type} (key : Item → List Byte)

/-- The items from the first key not below one, which for the empty key is all of them. -/
def rest (items : List Item) (resume : List Byte) : List Item :=
  (items.mergeSort fun first second => key first ≤ key second).dropWhile fun item =>
    key item < resume

/-- The token for the items left, if there are some. -/
def tokenFor : Option Item → List Byte
  | none => []
  | some next => encodeToken (key next)

/-- `Page`: without a limit, or with one that all items fit in, no item is next. -/
def page (items : List Item) (request : Request) : List Item × List Byte :=
  let rest := rest key items request.resume
  let limit := if request.limit ≤ 0 then rest.length else request.limit.toNat
  (rest.take limit, tokenFor key rest[limit]?)

/-- A call for a page of a listing. -/
def call (limit : Int) (items : List Item) (token : List Byte) :
    Except String (List Item × List Byte) :=
  (decodeToken token).map fun resume => page key items ⟨limit, resume⟩

/-- What the calls have returned that follow the tokens, and the token of the next one, if the
last page carried one. -/
inductive Reaches (limit : Int) (snapshots : Nat → List Item) :
    Nat → List Item → Option (List Byte) → Prop where
  | start : Reaches limit snapshots 0 [] (some [])
  | next {count : Nat} {returned items : List Item} {token following : List Byte}
      (reached : Reaches limit snapshots count returned (some token))
      (answered : call key limit (snapshots count) token = .ok (items, following)) :
      Reaches limit snapshots (count + 1) (returned ++ items)
        (if following = [] then none else some following)

/-- Each key is above the ones before it. -/
def Ordered (list : List Item) : Prop :=
  list.Pairwise fun first second => key first < key second

/-! ## Tokens -/

theorem encodeToken_ne_nil (key : List Byte) : encodeToken key ≠ [] := by
  intro empty
  have read := decodeString_encodeToString false (tokenPrefix ++ key)
  rw [← encodeToken, empty] at read
  exact List.append_ne_nil_of_left_ne_nil (show tokenPrefix ≠ [] by decide) key
    (by simpa [decodeString, Nat.digitsAppend] using read)

theorem decodeToken_encodeToken {key : List Byte} (named : key ≠ []) :
    decodeToken (encodeToken key) = .ok key := by
  have cut : tokenPrefix.isPrefixOf? (tokenPrefix ++ key) = some key :=
    List.isPrefixOf?_eq_some_iff_append_eq.2 rfl
  rw [decodeToken, if_neg (encodeToken_ne_nil key), encodeToken, decodeString_encodeToString,
    Option.bind_some, cut]
  cases key with
  | nil => exact absurd rfl named
  | cons first rest => rfl

/-! ## One page -/

section

variable {key} {items : List Item} {resume : List Byte} {limit : Int}

/-- What is left of a list in order, from a key on. -/
theorem mem_dropWhile (ordered : Ordered key list) :
    item ∈ list.dropWhile (fun item => key item < resume) ↔ item ∈ list ∧ resume ≤ key item := by
  induction list with
  | nil => simp
  | cons first rest induction =>
    obtain ⟨above, ordered⟩ := List.pairwise_cons.1 ordered
    by_cases below : key first < resume
    · rw [List.dropWhile_cons_of_pos (by simpa using below), induction ordered, List.mem_cons]
      refine ⟨fun found => ⟨.inr found.1, found.2⟩, fun found => ⟨found.1.resolve_left ?_, found.2⟩⟩
      rintro rfl
      exact not_le_of_gt below found.2
    · rw [List.dropWhile_cons_of_neg (by simpa using below)]
      refine ⟨fun member => ⟨member, (not_lt.1 below).trans ?_⟩, And.left⟩
      rcases List.mem_cons.1 member with rfl | later
      · exact le_rfl
      · exact (above item later).le

/-- The items from a key on, each once. -/
theorem rest_spec (unique : (items.map key).Nodup) : Ordered key (rest key items resume) ∧
    ∀ item, item ∈ rest key items resume ↔ item ∈ items ∧ resume ≤ key item := by
  generalize sorted_eq : items.mergeSort (fun first second => key first ≤ key second) = sorted
  have reordered : sorted.Perm items := sorted_eq ▸ List.mergeSort_perm ..
  have weak : sorted.Pairwise fun first second => decide (key first ≤ key second) := by
    rw [← sorted_eq]
    apply List.pairwise_mergeSort
    · simpa using fun first second third => le_trans
    · simpa using fun first second => le_total (key first) (key second)
  have ordered : Ordered key sorted :=
    weak.imp₂ (fun _ _ below => lt_of_le_of_ne (of_decide_eq_true below))
      (List.pairwise_map.1 ((reordered.map key).nodup_iff.2 unique))
  rw [rest, sorted_eq]
  refine ⟨ordered.sublist (List.dropWhile_sublist _), fun item => ?_⟩
  rw [mem_dropWhile ordered, reordered.mem_iff]

/-- What is taken of a list in order lies below what comes next. -/
theorem mem_take (ordered : Ordered key list) :
    item ∈ list.take count ↔ item ∈ list ∧ ∀ next ∈ list[count]?, key item < key next := by
  induction list generalizing count with
  | nil => simp
  | cons first rest induction =>
    obtain ⟨above, ordered⟩ := List.pairwise_cons.1 ordered
    cases count with
    | zero => grind
    | succ count =>
      rw [List.take_succ_cons, List.mem_cons, List.mem_cons, List.getElem?_cons_succ,
        induction ordered]
      refine ⟨?_, fun found => found.1.imp_right fun later => ⟨later, found.2⟩⟩
      rintro (rfl | ⟨later, below⟩)
      · exact ⟨.inl rfl, fun next here => above next (List.mem_of_getElem? here)⟩
      · exact ⟨.inr later, below⟩

/-- A page has the items from the key asked for up to the one that its token names. -/
theorem page_spec (unique : (items.map key).Nodup) (positive : 1 ≤ limit) {answer : List Item}
    {token : List Byte} (answered : page key items ⟨limit, resume⟩ = (answer, token)) :
    Ordered key answer ∧ ∃ bound, token = tokenFor key bound ∧ (∀ item, item ∈ answer ↔
        (item ∈ items ∧ resume ≤ key item) ∧ ∀ next ∈ bound, key item < key next) ∧
      ∀ next ∈ bound, next ∈ items ∧ ∃ item, item ∈ answer := by
  obtain ⟨ordered, found⟩ := @rest_spec _ _ _ resume unique
  rw [page, if_neg (show ¬limit ≤ 0 by omega)] at answered
  obtain ⟨rfl, rfl⟩ := Prod.mk.inj answered
  refine ⟨ordered.sublist (List.take_sublist ..), _, rfl, fun item => ?_, fun next next_eq => ?_⟩
  · rw [mem_take ordered, found]
  · have member := List.mem_of_getElem? next_eq
    refine ⟨((found next).1 member).1, List.exists_mem_of_ne_nil _ fun empty => ?_⟩
    rcases List.take_eq_nil_iff.1 empty with zero | empty
    · exact absurd (Int.toNat_eq_zero.1 zero) (not_le.2 positive)
    · simp [empty] at member

end

/-! ## Following the tokens -/

/-- The listing at each call: its items have different names. -/
structure History where
  items : Nat → List Item
  unique : ∀ call, ((items call).map key).Nodup
  named : ∀ call, ∀ item ∈ items call, key item ≠ []

variable {key}

/-- Everything below a key has been returned, of the items that all calls could see. -/
structure Progress (history : History key) (count : Nat) (returned : List Item)
    (bound : Option (List Byte)) : Prop where
  ordered : Ordered key returned
  below : ∀ item ∈ returned, ∀ next ∈ bound, key item < next
  covers : ∀ (version : Nat → Item) name, (∀ call < count,
    version call ∈ history.items call ∧ key (version call) = name) → (∀ next ∈ bound, name < next) →
      ∃ call < count, version call ∈ returned

variable {history : History key} {limit : Int} {count : Nat} {returned : List Item}
  {token resume : List Byte}

/-- The next call is answered, and moves the progress to the key of its token. -/
theorem Progress.next (progress : Progress history count returned (some resume))
    (positive : 1 ≤ limit) (decoded : decodeToken token = .ok resume) : ∃ items bound,
      call key limit (history.items count) token = .ok (items, tokenFor key bound) ∧
      Progress history (count + 1) (returned ++ items) (bound.map key) ∧
      ∀ next ∈ bound, next ∈ history.items count ∧
        ∃ other ∈ history.items count, resume ≤ key other ∧ key other < key next := by
  obtain ⟨ordered, bound, following, found, named⟩ :=
    @page_spec _ _ _ resume _ (history.unique count) positive _ _ rfl
  have moved : ∀ next ∈ bound, next ∈ history.items count ∧
      ∃ other ∈ history.items count, resume ≤ key other ∧ key other < key next := by
    intro next next_eq
    obtain ⟨here, other, member⟩ := named next next_eq
    obtain ⟨⟨listed, above⟩, early⟩ := (found other).1 member
    exact ⟨here, other, listed, above, early next next_eq⟩
  refine ⟨_, bound, ?_, ⟨List.pairwise_append.2 ⟨progress.ordered, ordered, ?_⟩, ?_, ?_⟩, moved⟩
  · rw [call, decoded, ← following]
    rfl
  · exact fun first early second late => (progress.below first early resume rfl).trans_le
      ((found second).1 late).1.2
  · intro item member _ next_mem
    obtain ⟨next, next_eq, rfl⟩ := Option.map_eq_some_iff.1 next_mem
    rcases List.mem_append.1 member with before | now
    · obtain ⟨-, other, -, above, early⟩ := moved next next_eq
      exact (progress.below item before resume rfl).trans (above.trans_lt early)
    · exact ((found item).1 now).2 next next_eq
  · intro version name listed named
    by_cases early : name < resume
    · obtain ⟨call, bound, found⟩ := progress.covers version name
        (fun call bound => listed call (by omega)) (by simpa using early)
      exact ⟨call, by omega, List.mem_append_left _ found⟩
    · obtain ⟨here, rfl⟩ := listed count count.lt_succ_self
      exact ⟨count, count.lt_succ_self, List.mem_append_right _
        ((found _).2 ⟨⟨here, not_lt.1 early⟩, by simpa using named⟩)⟩

theorem Reaches.progress (positive : 1 ≤ limit) {token : Option (List Byte)}
    (reached : Reaches key limit history.items count returned token) :
    ∃ bound, token.map decodeToken = bound.map .ok ∧ Progress history count returned bound := by
  induction reached with
  | start => exact ⟨some [], rfl, .nil, by simp, by simp⟩
  | @next count returned items token following reached answered induction =>
    obtain ⟨bound, decoded, progress⟩ := induction
    obtain ⟨resume, rfl, same⟩ := Option.map_eq_some_iff.1 decoded.symm
    obtain ⟨_, bound, called, progress, named⟩ := progress.next positive same.symm
    obtain ⟨rfl, rfl⟩ := Prod.mk.inj (Except.ok.inj (answered.symm.trans called))
    refine ⟨_, ?_, progress⟩
    cases bound with
    | none => rfl
    | some item =>
      have decoded := decodeToken_encodeToken (history.named count item (named item rfl).1)
      simp [tokenFor, encodeToken_ne_nil, decoded]

/-- The keys from one on, at a call. -/
def remaining (history : History key) (count : Nat) (resume : List Byte) : Finset (List Byte) :=
  ((history.items count).map key).toFinset.filter (resume ≤ ·)

theorem card_remaining_le : (remaining history count resume).card ≤ (history.items count).length :=
  (Finset.card_filter_le ..).trans ((List.toFinset_card_le _).trans (List.length_map _).le)

/-- Once no key is added, each page leaves fewer keys. -/
theorem ends_or_advances (positive : 1 ≤ limit) {start : Nat}
    (settled : ∀ call ≥ start, (history.items (call + 1)).map key ⊆ (history.items call).map key)
    (count : Nat) : (∃ count returned, Reaches key limit history.items count returned none) ∨
      ∃ returned token resume, Reaches key limit history.items count returned (some token) ∧
        decodeToken token = .ok resume ∧ Progress history count returned (some resume) ∧
        (start ≤ count → (remaining history count resume).card + (count - start) ≤
          (history.items start).length) := by
  induction count with
  | zero =>
    refine .inr ⟨[], [], [], .start, rfl, ⟨.nil, by simp, by simp⟩, fun early => ?_⟩
    rw [Nat.le_zero.1 early]
    exact card_remaining_le
  | succ count induction =>
    obtain ended | ⟨returned, token, resume, reached, decoded, progress, few⟩ := induction
    · exact .inl ended
    · obtain ⟨items, bound, called, progress, named⟩ := progress.next positive decoded
      have reached := reached.next called
      cases bound with
      | none => exact .inl ⟨_, _, reached⟩
      | some item =>
        obtain ⟨member, other, here, early, earlier⟩ := named item rfl
        rw [tokenFor, if_neg (encodeToken_ne_nil _)] at reached
        refine .inr ⟨_, _, _, reached,
          decodeToken_encodeToken (history.named count item member), progress, fun late => ?_⟩
        rcases Nat.lt_or_eq_of_le late with late | rfl
        · have fewer : (remaining history (count + 1) (key item)).card <
              (remaining history count resume).card := by
            refine Finset.card_lt_card
              (Finset.ssubset_iff_of_subset (fun name => ?_) |>.2 ⟨key other, ?_, ?_⟩)
            · simp only [remaining, Finset.mem_filter, List.mem_toFinset]
              exact fun listed => ⟨settled count (by omega) listed.1,
                (early.trans earlier.le).trans listed.2⟩
            · simpa [remaining, early] using ⟨other, here, rfl⟩
            · simp [remaining, earlier]
          have few := few (by omega)
          omega
        · rw [Nat.sub_self]
          exact card_remaining_le

/-- Every call is answered, with increasing keys and a token that names an item left; the calls
return each item that stays listed, and end once no item is added. -/
theorem pages_complete (history : History key) {limit : Int} (positive : 1 ≤ limit) :
    (∀ count returned token, Reaches key limit history.items count returned (some token) →
      ∃ items following, call key limit (history.items count) token = .ok (items, following) ∧
        (following = [] ∨ ∃ item ∈ history.items count, (∀ found ∈ items, key found < key item) ∧
          following = encodeToken (key item) ∧ decodeToken following = .ok (key item))) ∧
    (∀ count returned token, Reaches key limit history.items count returned token →
      Ordered key returned ∧ (token = none → ∀ (version : Nat → Item) name, (∀ call < count,
        version call ∈ history.items call ∧ key (version call) = name) →
          ∃ call < count, version call ∈ returned)) ∧
    ∀ start, (∀ call ≥ start, (history.items (call + 1)).map key ⊆ (history.items call).map key) →
      ∃ count returned, Reaches key limit history.items count returned none := by
  refine ⟨fun count returned token reached => ?_, fun count returned token reached => ?_,
    fun start settled => ?_⟩
  · obtain ⟨bound, decoded, progress⟩ := reached.progress positive
    obtain ⟨resume, rfl, same⟩ := Option.map_eq_some_iff.1 decoded.symm
    obtain ⟨items, bound, called, progress, named⟩ := progress.next positive same.symm
    refine ⟨items, _, called, ?_⟩
    cases bound with
    | none => exact .inl rfl
    | some item =>
      have listed := (named item rfl).1
      exact .inr ⟨item, listed,
        fun found member => progress.below found (by simp [member]) _ rfl, rfl,
        decodeToken_encodeToken (history.named count item listed)⟩
  · obtain ⟨bound, decoded, progress⟩ := reached.progress positive
    refine ⟨progress.ordered, ?_⟩
    rintro rfl version name listed
    obtain rfl := Option.map_eq_none_iff.1 decoded.symm
    exact progress.covers version name listed (by simp)
  · obtain ended | ⟨_, _, _, -, -, -, few⟩ :=
      ends_or_advances positive settled (start + (history.items start).length + 1)
    · exact ended
    · have few := few (by omega)
      omega

theorem pages_complete_pair : ∃ count returned,
    Reaches (fun rune : Byte => [rune]) 1 (fun _ => [2, 1]) count returned none :=
  (pages_complete ⟨fun _ => [2, 1], by simp, by simp⟩ le_rfl).2.2 0 fun _ _ => List.Subset.refl _

end Spinifex.Aws.Paging
