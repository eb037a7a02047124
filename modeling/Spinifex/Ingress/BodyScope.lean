import Spinifex.Go.Strings

/-!
# The identifiers of a JSON request body

The authorization gate looks identifiers up in a body by lower-case name, and
refuses a body that names a field ambiguously; the handler decodes the same body
into a struct, where names match up to case, a repeated object is merged and a
repeated `null` skipped.  Where both accept a body, they see the same identifiers.
-/

namespace Spinifex.BodyScope

open Go

/-- A JSON value; a number or a truth value is some `other` value. -/
inductive Value where
  | null
  | other
  | string (value : String)
  | array (items : List Value)
  | object (members : List (String × Value))

mutual

/-- Some object in the value has a name twice. -/
def Value.repeats : Value → Bool
  | .array items => repeatsItems items
  | .object members => !decide (members.map Prod.fst).Nodup || repeatsMembers members
  | _ => false

/-- Some object in the items of an array has a name twice. -/
def repeatsItems : List Value → Bool
  | [] => false
  | item :: rest => item.repeats || repeatsItems rest

/-- Some object in the members of an object has a name twice. -/
def repeatsMembers : List (String × Value) → Bool
  | [] => false
  | (_, value) :: rest => value.repeats || repeatsMembers rest

end

/-! ## The gate -/

/-- `Scope`: the fields of a body by lower-case name. -/
abbrev Scope := List (String × Value)

/-- `ErrAmbiguousBody`. -/
def ambiguousBody : String :=
  "bodyscope: body names a field ambiguously"

/-- A name with a rune above `unicode.MaxASCII`. -/
def nonASCII (name : String) : Bool :=
  name.toList.any fun rune => 127 < rune.toNat

/-- The fields of an object's members. -/
def fieldsOf (members : List (String × Value)) : Scope :=
  members.map fun member => (toLower member.1, member.2)

/-- `Parse`, where a body that is no JSON is `none` and an empty one, which the gate and the
handler take as they take `null`, is `null`. -/
def parse : Option Value → Except String Scope
  | none => .ok []
  | some value =>
    if value.repeats then
      .error ambiguousBody
    else
      match value with
      | .object members =>
        if members.any (fun member => nonASCII member.1) ∨
            ¬((fieldsOf members).map Prod.fst).Nodup then
          .error ambiguousBody
        else
          .ok (fieldsOf members)
      | _ => .ok []

/-- A value decoded into a new string. -/
def Value.text : Value → Option String
  | .null => some ""
  | .string value => some value
  | _ => none

/-- A value decoded into a new slice of strings. -/
def Value.texts : Value → Option (List String)
  | .null => some []
  | .array items => items.mapM Value.text
  | _ => none

/-- `Scope.String`. -/
def Scope.string (scope : Scope) (names : List String) : String :=
  (names.findSome? fun name =>
    ((scope.lookup (toLower name)).bind Value.text).filter (· ≠ "")).getD ""

/-- `Scope.Strings`. -/
def Scope.strings (scope : Scope) (names : List String) : List String :=
  (names.findSome? fun name =>
    (((scope.lookup (toLower name)).bind Value.texts).map (List.filter (· ≠ ""))).filter
      (· ≠ [])).getD []

/-- `Scope.Object`. -/
def Scope.object (scope : Scope) : List String → Except String Scope
  | [] => .ok []
  | name :: names =>
    match scope.lookup (toLower name) with
    | none => Scope.object scope names
    | some value => do
      let nested ← parse (some value)
      if nested = [] then Scope.object scope names else .ok nested

/-! ## The handler -/

/-- A field on the way to an identifier: its name, the names of the fields beside it, the name
the gate looks it up by, and whether a `null` clears it, as it does a pointer or a slice. -/
structure Field where
  name : String
  others : List String
  asked : String
  clears : Bool

/-- Field matching: by the exact name, or else up to the case that `fold` removes. -/
def Field.takes (fold : String → String) (field : Field) (key : String) : Bool :=
  key ∉ field.others && fold key = fold field.name

/-- Decode a value into the field, where it holds some strings; `below` reads all but `null`. -/
def Field.read (field : Field) (below : List String → Value → Option (List String))
    (held : List String) : Value → Option (List String)
  | .null => some (if field.clears then [] else held)
  | value => below held value

/-- Decode a value into a struct with the field. -/
def Field.decode (fold : String → String) (field : Field)
    (below : List String → Value → Option (List String)) (held : List String) :
    Value → Option (List String)
  | .null => some held
  | .object members =>
    members.foldlM (fun held member =>
      if field.takes fold member.1 then field.read below held member.2 else some held) held
  | _ => none

/-- The identifier is one string or a list of them. -/
inductive Leaf where
  | text
  | texts

/-- Decode a value into the identifier. -/
def Leaf.decode : Leaf → Value → Option (List String)
  | .text, value => value.text.map ([·])
  | .texts, value => value.texts

/-- Decode a value into a struct, down the hops to the identifier's field. -/
def decode (fold : String → String) (leaf : Leaf) (field : Field) :
    List Field → List String → Value → Option (List String)
  | [] => field.decode fold fun _ => leaf.decode
  | hop :: hops => hop.decode fold (decode fold leaf field hops)

/-- The identifiers the handler reads of a body, `none` where it refuses the body. -/
def handlerValues (fold : String → String) (leaf : Leaf) (hops : List Field) (field : Field)
    (body : Option Value) : Option (List String) :=
  body.bind fun value => (decode fold leaf field hops [] value).map (List.filter (· ≠ ""))

/-- The identifiers a resolver reads in a scope, down the hops to the identifier's field. -/
def resolve (leaf : Leaf) (field : Field) : List Field → Scope → Except String (List String)
  | [], scope =>
    match leaf with
    | .text => .ok ([scope.string [field.asked]].filter (· ≠ ""))
    | .texts => .ok (scope.strings [field.asked])
  | hop :: hops, scope => do resolve leaf field hops (← scope.object [hop.asked])

/-- The identifiers the gate reads of a body. -/
def gateValues (leaf : Leaf) (hops : List Field) (field : Field) (body : Option Value) :
    Except String (List String) := do
  resolve leaf field hops (← parse body)

/-- `fold` is, on names within ASCII, what tells them apart up to case. -/
def FoldsCase (fold : String → String) : Prop :=
  ∀ first second, nonASCII first = false → nonASCII second = false →
    (fold first = fold second ↔ toLower first = toLower second)

/-- A field has a name within ASCII, by which the gate asks up to case, and which differs from
the others by more than case. -/
def Field.Regular (fold : String → String) (field : Field) : Prop :=
  nonASCII field.name = false ∧ toLower field.asked = toLower field.name ∧
    ∀ other ∈ field.others, fold other ≠ fold field.name

/-! ## Agreement -/

section

variable {fold : String → String} {leaf : Leaf} {field : Field}

/-- A fold over members of which at most one is taken. -/
theorem foldlM_unique {takes : String → Bool} {read : Held → Value → Option Held}
    (unique : ((fieldsOf members).map Prod.fst).Nodup)
    (taken : ∀ member ∈ members, takes member.1 = true ↔ toLower member.1 = name) (held : Held) :
    members.foldlM (fun held member => if takes member.1 then read held member.2 else some held)
        held =
      match (fieldsOf members).lookup name with
      | none => some held
      | some value => read held value := by
  induction members generalizing held with
  | nil => rfl
  | cons member rest induction =>
    obtain ⟨fresh, unique⟩ : toLower member.1 ∉ (fieldsOf rest).map Prod.fst ∧
        ((fieldsOf rest).map Prod.fst).Nodup := List.nodup_cons.1 unique
    have here := taken member (.head _)
    have later := induction unique fun other among => taken other (.tail _ among)
    simp only [List.foldlM_cons]
    by_cases same : toLower member.1 = name
    · have absent : (fieldsOf rest).lookup name = none := by
        refine List.lookup_eq_none_iff.2 fun pair among => bne_iff_ne.2 fun equal => ?_
        rw [same.trans equal] at fresh
        exact fresh (List.mem_map_of_mem among)
      simp only [absent] at later
      rw [if_pos (here.2 same), show fieldsOf (member :: rest) = (toLower member.1, member.2) ::
        fieldsOf rest from rfl, same, List.lookup_cons_self]
      show (read held member.2 >>= fun held => _) = read held member.2
      cases read held member.2 with
      | none => rfl
      | some held => exact later held
    · rw [if_neg (mt here.1 same)]
      have next : (name == toLower member.1) = false := by simpa using Ne.symm same
      simpa [fieldsOf, List.lookup_cons, next] using later held

theorem parse_object (parsed : parse (some (.object members)) = .ok scope) :
    scope = fieldsOf members ∧ ((fieldsOf members).map Prod.fst).Nodup ∧
      ∀ member ∈ members, nonASCII member.1 = false := by
  simp only [parse] at parsed
  split at parsed
  · cases parsed
  · split at parsed
    · cases parsed
    next clear =>
      cases parsed
      simp only [not_or, not_not, Bool.not_eq_true, List.any_eq_false] at clear
      exact ⟨rfl, clear.2, fun member among => by simpa using clear.1 member among⟩

theorem object_single (scope : Scope) (name : String) :
    scope.object [name] = parse (some ((scope.lookup (toLower name)).getD .null)) := by
  simp only [Scope.object]
  cases scope.lookup (toLower name) with
  | none => rfl
  | some value =>
    show (parse (some value) >>= fun nested => _) = parse (some value)
    cases parse (some value) with
    | error failure => rfl
    | ok nested => by_cases empty : nested = [] <;> simp [empty, bind, Except.bind]

/-- What a struct's decode leaves in the field, by what the gate finds under its name. -/
theorem Field.decode_parsed (folds : FoldsCase fold) (regular : field.Regular fold) {value : Value}
    {held : List String} (parsed : parse (some value) = .ok scope)
    (decoded : field.decode fold below [] value = some held) :
    field.read below [] ((scope.lookup (toLower field.asked)).getD .null) = some held := by
  have cleared : field.read below [] .null = some [] := by simp [Field.read]
  cases value with
  | null =>
    cases parsed
    exact cleared.trans decoded
  | other | string _ | array _ => cases decoded
  | object members =>
    obtain ⟨rfl, unique, ascii⟩ := parse_object parsed
    have taken : ∀ member ∈ members, field.takes fold member.1 = true ↔
        toLower member.1 = toLower field.asked := by
      intro member among
      obtain ⟨plain, asked, distinct⟩ := regular
      rw [asked, ← folds _ _ (ascii member among) plain, Field.takes, Bool.and_eq_true,
        decide_eq_true_iff, decide_eq_true_iff]
      exact and_iff_right_of_imp fun same other => distinct _ other same
    simp only [Field.decode, foldlM_unique unique taken] at decoded
    cases found : (fieldsOf members).lookup (toLower field.asked) with
    | none => exact cleared.trans (by simpa [found] using decoded)
    | some value => simpa [found] using decoded

/-- The identifier itself. -/
theorem resolve_leaf (decoded : field.read (fun _ => leaf.decode) []
      ((scope.lookup (toLower field.asked)).getD .null) = some held) :
    resolve leaf field [] scope = .ok (held.filter (· ≠ "")) := by
  simp only [resolve, Scope.string, Scope.strings, List.findSome?_cons, List.findSome?_nil]
  generalize scope.lookup (toLower field.asked) = found at decoded ⊢
  rcases found with - | value
  · cases leaf <;> simp_all [Field.read]
  cases leaf with
  | text =>
    cases value with
    | null => simp_all [Field.read, Value.text, Option.filter]
    | string text =>
      cases decoded
      by_cases empty : text = "" <;> simp [Value.text, Option.filter, empty]
    | _ => cases decoded
  | texts =>
    have texts : value.texts = some held := by
      cases value <;> simp_all [Field.read, Value.texts, Leaf.decode]
    simp only [Option.bind_some, texts, Option.map_some]
    cases held.filter (· ≠ "") <;> rfl

/-- What the gate reads is what the resolver reads in the parsed body. -/
theorem parse_of_gateValues (resolved : gateValues leaf hops field body = .ok gate) :
    ∃ scope, parse body = .ok scope ∧ resolve leaf field hops scope = .ok gate := by
  unfold gateValues at resolved
  cases parsed : parse body with
  | error failure =>
    rw [parsed] at resolved
    cases resolved
  | ok scope => exact ⟨scope, rfl, by simpa [parsed, bind, Except.bind] using resolved⟩

theorem values_eq (folds : FoldsCase fold) (last : field.Regular fold)
    (regular : ∀ hop ∈ hops, hop.Regular fold)
    (parsed : parse (some value) = .ok scope)
    (resolved : resolve leaf field hops scope = .ok gate)
    (decoded : decode fold leaf field hops [] value = some held) :
    gate = held.filter (· ≠ "") := by
  induction hops generalizing value scope with
  | nil =>
    have read := resolve_leaf (Field.decode_parsed folds last parsed decoded)
    exact Except.ok.inj (resolved.symm.trans read)
  | cons hop hops induction =>
    have read := Field.decode_parsed folds (regular hop (.head _)) parsed decoded
    have below : decode fold leaf field hops [] .null = some [] := by cases hops <;> rfl
    rw [resolve, object_single] at resolved
    obtain ⟨scope, parsed, resolved⟩ := parse_of_gateValues resolved
    apply induction (fun hop among => regular hop (.tail _ among)) parsed resolved
    rw [← read]
    cases (Option.getD _ _ : Value) <;> simp [Field.read, below]

end

/-- Where the gate and the handler accept a body, they see the same identifiers. -/
theorem gate_matches_handler (fold : String → String) (folds : FoldsCase fold) (leaf : Leaf)
    (hops : List Field) (regular : ∀ hop ∈ hops, hop.Regular fold) (field : Field)
    (last : field.Regular fold) (body : Option Value) (gate handler : List String)
    (resolved : gateValues leaf hops field body = .ok gate)
    (decoded : handlerValues fold leaf hops field body = some handler) : gate = handler := by
  obtain ⟨value, rfl, read⟩ := Option.bind_eq_some_iff.1 decoded
  obtain ⟨held, taken, rfl⟩ := Option.map_eq_some_iff.1 read
  obtain ⟨scope, parsed, resolved⟩ := parse_of_gateValues resolved
  exact values_eq folds last regular parsed resolved taken

/-- The body spells the field in another case. -/
theorem gate_matches_handler_upper :
    ∃ gate handler, gateValues .text [] ⟨"ID", [], "id", true⟩
        (some (.object [("ID", .string "m")])) = .ok gate ∧
      handlerValues toLower .text [] ⟨"ID", [], "id", true⟩
        (some (.object [("ID", .string "m")])) = some handler ∧ gate = handler := by
  have upper : toLower "ID" = "id" := String.toList_injective (by simp [toLower]; decide)
  have lower : toLower "id" = "id" := String.toList_injective (by simp [toLower]; decide)
  have parsed : parse (some (.object [("ID", .string "m")])) = .ok [("id", .string "m")] := by
    rw [parse, if_neg (by simp [Value.repeats, repeatsMembers])]
    show ite _ _ _ = _
    rw [if_neg (by simp [fieldsOf, nonASCII])]
    simp [fieldsOf, upper]
  have taken : Field.takes toLower ⟨"ID", [], "id", true⟩ "ID" = true :=
    Bool.and_eq_true_iff.2 ⟨by simp, decide_eq_true rfl⟩
  refine ⟨["m"], ["m"], ?resolved, ?decoded, gate_matches_handler toLower (fun _ _ _ _ => Iff.rfl)
    .text [] (by simp) _ ⟨by simp [nonASCII], lower.trans upper.symm, by simp⟩ _ _ _ ?resolved
    ?decoded⟩
  case resolved =>
    simp [gateValues, parsed, resolve, Scope.string, lower, Value.text, Option.filter, bind,
      Except.bind]
  case decoded =>
    rw [handlerValues, Option.bind_some, decode, Field.decode, List.foldlM_cons, if_pos taken]
    rfl

end Spinifex.BodyScope
