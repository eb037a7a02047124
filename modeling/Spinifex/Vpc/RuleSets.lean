import Mathlib.Data.List.Induction
import Spinifex.Vpc.SecurityGroups

/-!
# What each request does to a set of rules

A record is well formed if its rules are sound, no two rules of a side have the
same permission, no two rules have the same identifier, and no side is over the
limit.  A request keeps this unless it authorizes the same permission twice or
draws an identifier that is taken.  Rules are matched by the text of their key;
on sound rules the key determines the permission, so a request touches exactly
the rules it names.
-/

namespace Spinifex.Vpc

open Go Go.Netip List Except SecurityGroupRecord SGRule

/-! ## Keys -/

/-- What makes two rules the same permission. -/
@[ext]
structure Identity where
  permKey : PermKey
  cidrIp : String
  cidrIpv6 : String
  sourceSG : String
deriving DecidableEq, Repr

def SGRule.identity (rule : SGRule) : Identity where
  permKey := Vpc.permKey rule
  cidrIp := rule.cidrIp
  cidrIpv6 := rule.cidrIpv6
  sourceSG := rule.sourceSG

/-- The text of a permission. -/
def Identity.key (identity : Identity) : String :=
  identity.permKey.ipProtocol ++ ":" ++ decimal identity.permKey.fromPort ++ ":" ++
    decimal identity.permKey.toPort ++ ":" ++ identity.cidrIp ++ ":" ++
    identity.cidrIpv6 ++ ":" ++ identity.sourceSG

theorem sgRuleKey_eq (rule : SGRule) : sgRuleKey rule = rule.identity.key := by
  unfold sgRuleKey Identity.key identity permKey
  by_cases every : rule.ipProtocol = allProtocols
  · simp only [if_pos every]
  · simp only [if_neg every]

/-- A text before the first colon is determined. -/
theorem cut_first
    {first second rest others : List Char} (plainFirst : ':' ∉ first) (plainSecond : ':' ∉ second)
    (same : first ++ ':' :: rest = second ++ ':' :: others) : first = second ∧ rest = others := by
  induction first generalizing second with
  | nil =>
    cases second with
    | nil => exact ⟨rfl, (cons.inj same).2⟩
    | cons rune second =>
      have head := (cons.inj same).1
      exact absurd (head ▸ mem_cons_self ..) plainSecond
  | cons rune first induction =>
    cases second with
    | nil =>
      have head := (cons.inj same).1
      exact absurd (head ▸ mem_cons_self ..) plainFirst
    | cons other second =>
      obtain ⟨head, tail⟩ := cons.inj same
      obtain ⟨rfl, rfl⟩ := induction (fun member => plainFirst (.tail _ member))
          (fun member => plainSecond (.tail _ member)) tail
      exact ⟨by rw [head], rfl⟩

theorem colon_notMem_decimal (value : Int) : ':' ∉ (decimal value).toList := by
  rw [decimal_toList]
  intro member
  split at member
  · rcases mem_cons.1 member with sign | member
    · exact absurd sign (by decide)
    · exact absurd (toDigits_isDigit member) (by decide)
  · exact absurd (toDigits_isDigit member) (by decide)

theorem decimal_injective {first second : Int}
    (same : (decimal first).toList = (decimal second).toList) : first = second := by
  have read := signedDigits_decimal first
  rw [same, signedDigits_decimal] at read
  exact (Option.some.inj read).symm

/-- The texts of a sound rule that have no colon. -/
theorem SGRule.Sound.colons {rule : SGRule} (sound : rule.Sound) :
    ':' ∉ rule.ipProtocol.toList ∧ ':' ∉ rule.cidrIp.toList ∧ ':' ∉ rule.sourceSG.toList := by
  obtain ⟨protocol, source, has⟩ := sound.wellFormed
  refine ⟨?_, ?_, ?_⟩
  · simp only [canonicalIPProtocols, mem_cons, not_mem_nil, or_false] at protocol
    rcases protocol with same | same | same | same <;> rw [same] <;> decide
  · cases source with
    | ipv4 block =>
      obtain ⟨family, text, -⟩ := has
      rw [text]
      intro member
      rcases Prefix.text_rune_v4 family member with digit | dot | slash
      · exact absurd digit (by decide)
      · exact absurd dot (by decide)
      · exact absurd slash (by decide)
    | ipv6 | group id => simp [has.1]
  · cases source with
    | ipv4 block => simp [has.2.2.2]
    | ipv6 => simp [has.2.2]
    | group id =>
      obtain ⟨-, -, named, valid⟩ := has
      obtain ⟨suffix, shape, runes⟩ := isSGID_shape valid
      rw [named, shape]
      intro member
      simp only [mem_cons] at member
      rcases member with impossible | impossible | impossible | member
      · exact absurd impossible (by decide)
      · exact absurd impossible (by decide)
      · exact absurd impossible (by decide)
      · exact absurd (runes ':' member) (by decide)

/-- On sound rules the key determines the permission. -/
theorem SGRule.Sound.identity_eq
    {first second : SGRule} (soundFirst : first.Sound) (soundSecond : second.Sound)
    (same : sgRuleKey first = sgRuleKey second) : first.identity = second.identity := by
  obtain ⟨protocolFirst, cidrFirst, groupFirst⟩ := soundFirst.colons
  obtain ⟨protocolSecond, cidrSecond, groupSecond⟩ := soundSecond.colons
  have protocol (rule : SGRule) : rule.identity.permKey.ipProtocol = rule.ipProtocol := by
    unfold identity permKey
    split <;> rfl
  have shape (rule : SGRule) : (sgRuleKey rule).toList = rule.ipProtocol.toList ++ ':' ::
      ((decimal rule.identity.permKey.fromPort).toList ++ ':' ::
        ((decimal rule.identity.permKey.toPort).toList ++ ':' :: (rule.cidrIp.toList ++ ':' ::
          (rule.cidrIpv6.toList ++ ':' :: rule.sourceSG.toList)))) := by
    rw [sgRuleKey_eq, Identity.key, protocol]
    simp [identity]
  have texts := congrArg String.toList same
  rw [shape, shape] at texts
  obtain ⟨protocols, texts⟩ := cut_first protocolFirst protocolSecond texts
  obtain ⟨froms, texts⟩ := cut_first (colon_notMem_decimal _) (colon_notMem_decimal _) texts
  obtain ⟨tos, texts⟩ := cut_first (colon_notMem_decimal _) (colon_notMem_decimal _) texts
  obtain ⟨cidrs, texts⟩ := cut_first cidrFirst cidrSecond texts
  -- The address of the other family may contain colons, the group may not.
  have reversed := congrArg reverse texts
  simp only [reverse_append, reverse_cons, append_assoc, singleton_append] at reversed
  obtain ⟨groups, sixes⟩ :=
    cut_first (by simpa using groupFirst) (by simpa using groupSecond) reversed
  have keys : first.identity.permKey = second.identity.permKey := by
    have names : first.ipProtocol = second.ipProtocol := String.toList_inj.1 protocols
    rw [← protocol, ← protocol second] at names
    exact PermKey.ext names (decimal_injective froms) (decimal_injective tos)
  have cidrIps : first.cidrIp = second.cidrIp := String.toList_inj.1 cidrs
  have cidrIpv6s : first.cidrIpv6 = second.cidrIpv6 := String.toList_inj.1 (reverse_injective sixes)
  have sourceSGs : first.sourceSG = second.sourceSG :=
    String.toList_inj.1 (reverse_injective groups)
  exact Identity.ext keys cidrIps cidrIpv6s sourceSGs

/-! ## Well-formed records -/

def SecurityGroupRecord.ruleIds (record : SecurityGroupRecord) : List String :=
  (record.ingressRules ++ record.egressRules).map SGRule.ruleId

structure SecurityGroupRecord.WellFormed (record : SecurityGroupRecord) : Prop where
  sound : ∀ egress, ∀ rule ∈ record.side egress, rule.Sound
  identities : ∀ egress, ((record.side egress).map SGRule.identity).Nodup
  ids : record.ruleIds.Nodup
  bounded : ∀ egress, (record.side egress).length ≤ maxRulesPerSGSide

namespace SecurityGroupRecord

variable {record : SecurityGroupRecord} {egress : Bool} {rules : List SGRule}

/-- A record stays well formed if the replaced side is. -/
theorem WellFormed.withSide (wellFormed : record.WellFormed) (sound : ∀ rule ∈ rules, rule.Sound)
    (identities : (rules.map identity).Nodup) (ids : (record.withSide egress rules).ruleIds.Nodup)
    (bounded : rules.length ≤ maxRulesPerSGSide) : (record.withSide egress rules).WellFormed := by
  have sides (other : Bool) : (record.withSide egress rules).side other = rules ∨
      (record.withSide egress rules).side other = record.side other := by
    by_cases same : other = egress
    · exact .inl (same ▸ record.side_withSide egress rules)
    · obtain rfl : other = !egress := by
        cases other <;> cases egress <;> simp_all
      exact .inr (record.side_withSide_not egress rules)
  refine ⟨?_, ?_, ids, ?_⟩
  · intro other
    rcases sides other with same | same <;> rw [same]
    · exact sound
    · exact wellFormed.sound other
  · intro other
    rcases sides other with same | same <;> rw [same]
    · exact identities
    · exact wellFormed.identities other
  · intro other
    rcases sides other with same | same <;> rw [same]
    · exact bounded
    · exact wellFormed.bounded other

theorem ruleIds_append :
    (record.withSide egress (record.side egress ++ rules)).ruleIds.Perm
      (record.ruleIds ++ rules.map ruleId) := by
  cases egress with
  | false =>
    simp only [ruleIds, withSide, side, Bool.false_eq_true, if_false, map_append, append_assoc]
    exact List.Perm.append_left _ perm_append_comm
  | true => simp [ruleIds, withSide, side]

theorem ruleIds_sublist (sublist : rules.Sublist (record.side egress)) :
    (record.withSide egress rules).ruleIds.Sublist record.ruleIds := by
  cases egress with
  | false => exact (List.Sublist.append_right sublist record.egressRules).map _
  | true => exact (List.Sublist.append_left sublist record.ingressRules).map _

theorem ruleIds_congr (same : rules.map ruleId = (record.side egress).map ruleId) :
    (record.withSide egress rules).ruleIds = record.ruleIds := by
  cases egress <;> simpa [ruleIds, withSide, side] using same

/-- The rules of a side have different identifiers. -/
theorem WellFormed.side_ids (wellFormed : record.WellFormed) (egress : Bool) :
    ((record.side egress).map ruleId).Nodup := by
  have ids := wellFormed.ids
  rw [ruleIds, map_append] at ids
  cases egress with
  | false => exact ids.of_append_left
  | true => exact ids.of_append_right

end SecurityGroupRecord

/-! ## Plans -/

section

variable {surroundings : Surroundings} {groups : Groups}

theorem load_eq_ok (found : load surroundings groups groupId = .ok loaded) :
    groupId = some loaded.1 ∧ groups.lookup loaded.1 = some loaded.2 := by
  unfold load at found
  split at found
  · cases found
  · split at found
    · cases found
    · split at found
      · cases found
      next record read =>
        obtain rfl := ok.inj found
        unfold get at read
        split at read
        · exact ⟨rfl, read⟩
        · cases read

/-- A plan is about the group its request names. -/
structure Planned (groups : Groups) (groupId : Option String) (plan : Plan)
    (before : SecurityGroupRecord) : Prop where
  named : groupId = some plan.groupId
  found : groups.lookup plan.groupId = some before

/-- The record after a plan was carried out. -/
def Plan.after (plan : Plan) (before : SecurityGroupRecord) : SecurityGroupRecord :=
  plan.record.getD before

variable {rules : List SGRule}

theorem refuseTaken_eq_ok {keys : List String}
    (passed : refuseTaken keys rules = .ok result) : ∀ rule ∈ rules, sgRuleKey rule ∉ keys := by
  unfold refuseTaken at passed
  split at passed
  · cases passed
  next none =>
    simpa using find?_eq_none.1 none

variable {egress : Bool} {plan : Plan} {input : AuthorizeInput}

/-- What an authorize request adds. -/
theorem authorizePlan_eq_ok (planned : authorizePlan surroundings groups egress input = .ok plan) :
    ∃ before parsed, Planned groups input.groupId plan before ∧
      ipPermissionsToSGRules input.ipPermissions .authorize surroundings.draw = .ok parsed ∧
      (∀ rule ∈ applySGRuleTags parsed input.tags,
        sgRuleKey rule ∉ (before.side egress).map sgRuleKey) ∧
      (before.side egress).length + (applySGRuleTags parsed input.tags).length ≤ maxRulesPerSGSide ∧
      plan.after before = before.withSide egress
        (before.side egress ++ applySGRuleTags parsed input.tags) := by
  obtain ⟨loaded, found, planned⟩ := bind_eq_ok planned
  obtain ⟨_, -, planned⟩ := bind_eq_ok planned
  obtain ⟨parsed, read, planned⟩ := bind_eq_ok planned
  obtain ⟨_, -, planned⟩ := bind_eq_ok planned
  obtain ⟨_, taken, planned⟩ := bind_eq_ok planned
  obtain ⟨_, few, planned⟩ := bind_eq_ok planned
  obtain rfl := ok.inj planned
  obtain ⟨named, present⟩ := load_eq_ok found
  exact ⟨loaded.2, parsed, ⟨named, present⟩, mapError_eq_ok read,
      refuseTaken_eq_ok taken, Nat.not_lt.1 (refuse_eq_ok few), rfl⟩

/-! ## Authorize -/

theorem map_applySGRuleTags
    (untagged : ∀ (rule : SGRule) tags, value { rule with tags } = value rule)
    (rules : List SGRule) (tags : List (String × String)) :
    (applySGRuleTags rules tags).map value = rules.map value := by
  unfold applySGRuleTags
  split
  · rfl
  · rw [map_map]
    exact map_congr_left fun rule _ => untagged rule tags

theorem sound_applySGRuleTags (sound : ∀ rule ∈ rules, rule.Sound)
    (tags : List (String × String)) : ∀ rule ∈ applySGRuleTags rules tags, rule.Sound := by
  unfold applySGRuleTags
  split
  · exact sound
  · intro rule member
    obtain ⟨plain, found, rfl⟩ := mem_map.1 member
    exact (sound plain found).of_bare rfl

/-- What the rules of an authorize request must not do: repeat a permission
or an identifier, or take an identifier of the record. -/
structure Authorizable (parsed : List SGRule) (before : SecurityGroupRecord) : Prop where
  distinct : (parsed.map SGRule.identity).Nodup
  drawn : (parsed.map SGRule.ruleId).Nodup
  fresh : ∀ rule ∈ parsed, rule.ruleId ∉ before.ruleIds

variable {before : SecurityGroupRecord}

theorem authorize_wellFormed (planned : authorizePlan surroundings groups egress input = .ok plan)
    (found : groups.lookup plan.groupId = some before) (wellFormed : before.WellFormed)
    (authorizable : ∀ parsed,
      ipPermissionsToSGRules input.ipPermissions .authorize surroundings.draw = .ok parsed →
        Authorizable parsed before) :
    (plan.after before).WellFormed := by
  obtain ⟨record, parsed, ⟨-, present⟩, read, untaken, few, after⟩ := authorizePlan_eq_ok planned
  obtain ⟨distinct, drawn, fresh⟩ := authorizable parsed read
  cases present.symm.trans found
  have identities : (applySGRuleTags parsed input.tags).map identity = parsed.map identity :=
    map_applySGRuleTags (fun _ _ => rfl) parsed input.tags
  have ids : (applySGRuleTags parsed input.tags).map ruleId = parsed.map ruleId :=
    map_applySGRuleTags (fun _ _ => rfl) parsed input.tags
  rw [after]
  refine wellFormed.withSide ?_ ?_ ?_ ?_
  · intro rule member
    rcases mem_append.1 member with member | member
    · exact wellFormed.sound egress rule member
    · exact sound_applySGRuleTags (sound_of_permissions read) input.tags rule member
  · rw [map_append]
    apply (wellFormed.identities egress).append (identities ▸ distinct)
    intro identity old new
    obtain ⟨oldRule, oldMember, rfl⟩ := mem_map.1 old
    obtain ⟨newRule, newMember, same⟩ := mem_map.1 new
    refine untaken newRule newMember (mem_map.2 ⟨oldRule, oldMember, ?_⟩)
    rw [sgRuleKey_eq, sgRuleKey_eq, same]
  · rw [ruleIds_append.nodup_iff, ids]
    apply wellFormed.ids.append drawn
    intro id old new
    obtain ⟨rule, member, rfl⟩ := mem_map.1 new
    exact fresh rule member old
  · rwa [length_append]

/-! ## Revoke -/

/-- The rules a revoke request names, by permission or by identifier. -/
def RevokeInput.names (input : RevokeInput) (named : List SGRule) (rule : SGRule) : Prop :=
  rule.identity ∈ named.map SGRule.identity ∨
    (rule.ruleId ≠ "" ∧ some rule.ruleId ∈ input.securityGroupRuleIds)

instance (input : RevokeInput) (named : List SGRule) (rule : SGRule) :
    Decidable (input.names named rule) :=
  inferInstanceAs (Decidable (_ ∨ _))

variable {id : String}

theorem resolveRuleID_eq_ok (resolved : resolveRuleID rules id = .ok rule) :
    rule ∈ rules ∧ rule.ruleId = id := by
  unfold resolveRuleID at resolved
  split at resolved
  next other found =>
    obtain rfl := ok.inj resolved
    refine ⟨mem_reverse.1 (mem_of_find?_eq_some found), ?_⟩
    simpa using find?_some found
  · cases resolved

theorem resolveRuleIDsToRemove_eq_ok
    (found : resolveRuleIDsToRemove existing ruleIDs = .ok resolved) :
    (∀ rule ∈ resolved, rule ∈ existing ∧ rule.ruleId ≠ "" ∧ some rule.ruleId ∈ ruleIDs) ∧
      ∀ id, id ≠ "" → some id ∈ ruleIDs →
        ∃ rule ∈ resolved, rule ∈ existing ∧ rule.ruleId = id := by
  have listed (id : String) : id ∈ (ruleIDs.filterMap fun entry => entry).filter (· ≠ "") ↔
      some id ∈ ruleIDs ∧ id ≠ "" := by
    simp
  refine ⟨?_, ?_⟩
  · intro rule member
    obtain ⟨id, present, resolvedOne⟩ := (mapM_eq_ok found).1 rule member
    obtain ⟨existed, rfl⟩ := resolveRuleID_eq_ok resolvedOne
    obtain ⟨given, nonempty⟩ := (listed _).1 present
    exact ⟨existed, nonempty, given⟩
  · intro id nonempty given
    obtain ⟨rule, member, resolvedOne⟩ := (mapM_eq_ok found).2 id ((listed id).2 ⟨given, nonempty⟩)
    exact ⟨rule, member, resolveRuleID_eq_ok resolvedOne⟩

variable {input : RevokeInput}

/-- What a revoke request removes. -/
theorem revokePlan_eq_ok (planned : revokePlan surroundings groups egress input = .ok plan) :
    ∃ before named resolved, Planned groups input.groupId plan before ∧
      ipPermissionsToSGRules input.ipPermissions .revoke surroundings.draw = .ok named ∧
      resolveRuleIDsToRemove (before.side egress) input.securityGroupRuleIds = .ok resolved ∧
      plan.after before = before.withSide egress
        (removeSGRules (before.side egress) (named ++ resolved)) := by
  obtain ⟨loaded, found, planned⟩ := bind_eq_ok planned
  obtain ⟨named, read, planned⟩ := bind_eq_ok planned
  obtain ⟨resolved, byID, planned⟩ := bind_eq_ok planned
  obtain ⟨given, present⟩ := load_eq_ok found
  dsimp only at planned byID
  split at planned
  next nothing =>
    obtain rfl := ok.inj planned
    refine ⟨loaded.2, named, resolved, ⟨given, present⟩, mapError_eq_ok read, byID, ?_⟩
    have kept :
        removeSGRules (loaded.2.side egress) (named ++ resolved) = loaded.2.side egress := by
      rw [nothing]
      simp [removeSGRules]
    rw [kept]
    cases egress <;> rfl
  · obtain ⟨_, -, planned⟩ := bind_eq_ok planned
    obtain rfl := ok.inj planned
    exact ⟨loaded.2, named, resolved, ⟨given, present⟩, mapError_eq_ok read, byID, rfl⟩

/-- The rules removed are the rules named. -/
theorem removeSGRules_eq_filter
    {existing named resolved : List SGRule} (sound : ∀ rule ∈ existing, rule.Sound)
    (identities : (existing.map identity).Nodup) (namedSound : ∀ rule ∈ named, rule.Sound)
    (byID : resolveRuleIDsToRemove existing input.securityGroupRuleIds = .ok resolved)
    (ids : (existing.map ruleId).Nodup) :
    removeSGRules existing (named ++ resolved) =
      existing.filter fun rule => ¬input.names named rule := by
  obtain ⟨fromExisting, allIDs⟩ := resolveRuleIDsToRemove_eq_ok byID
  refine filter_congr fun rule member => ?_
  refine decide_eq_decide.2 (not_congr ?_)
  rw [map_append, mem_append]
  refine or_congr ?_ ?_
  · simp only [mem_map]
    refine exists_congr fun other => and_congr_right fun found => ?_
    constructor
    · exact fun same => (namedSound other found).identity_eq (sound rule member) same
    · intro same
      rw [sgRuleKey_eq, sgRuleKey_eq, same]
  · constructor
    · intro found
      obtain ⟨other, resolvedMember, same⟩ := mem_map.1 found
      obtain ⟨existed, nonempty, given⟩ := fromExisting other resolvedMember
      have identity := (sound other existed).identity_eq (sound rule member) same
      obtain rfl := inj_on_of_nodup_map identities existed member identity
      exact ⟨nonempty, given⟩
    · rintro ⟨nonempty, given⟩
      obtain ⟨other, resolvedMember, existed, same⟩ := allIDs rule.ruleId nonempty given
      obtain rfl := inj_on_of_nodup_map ids existed member same
      exact mem_map_of_mem resolvedMember

theorem revoke_wellFormed (planned : revokePlan surroundings groups egress input = .ok plan)
    (found : groups.lookup plan.groupId = some before)
    (wellFormed : before.WellFormed) : (plan.after before).WellFormed := by
  obtain ⟨record, named, resolved, ⟨-, present⟩, -, -, after⟩ := revokePlan_eq_ok planned
  obtain rfl := Option.some.inj (present.symm.trans found)
  have kept : (removeSGRules (record.side egress) (named ++ resolved)).Sublist
      (record.side egress) :=
    filter_sublist
  rw [after]
  refine wellFormed.withSide ?_ ?_ ?_ ?_
  · exact fun rule member => wellFormed.sound egress rule (kept.subset member)
  · exact (wellFormed.identities egress).sublist (kept.map _)
  · exact wellFormed.ids.sublist (ruleIds_sublist kept)
  · exact Nat.le_trans kept.length_le (wellFormed.bounded egress)

/-! ## Descriptions -/

/-- A rule without its description. -/
def SGRule.undescribed (rule : SGRule) : SGRule :=
  { rule with description := "" }

theorem SGRule.kept_of_undescribed {rule other : SGRule}
    (same : rule.undescribed = other.undescribed) :
    rule.ruleId = other.ruleId ∧ rule.tags = other.tags := by
  simp only [undescribed, mk.injEq] at same
  tauto

/-- Rules of which only those named got other descriptions. -/
structure Described (named : SGRule → Prop) (rules out : List SGRule) : Prop where
  length : out.length = rules.length
  each : ∀ (index : Nat) (rule : SGRule), rules[index]? = some rule → ∃ new,
    out[index]? = some new ∧ new.undescribed = rule.undescribed ∧ (¬named rule → new = rule)

theorem Described.refl (named : SGRule → Prop) (rules : List SGRule) :
    Described named rules rules where
  length := rfl
  each _ rule found := ⟨rule, found, rfl, fun _ => rfl⟩

variable {named : SGRule → Prop} {rules : List SGRule}

/-- Describing a named rule once more. -/
theorem Described.modify (described : Described named rules out)
    (found : rules[index]? = some rule) (target : named rule) (description : Option String) :
    Described named rules (out.modify index (·.describe description)) where
  length := by rw [List.length_modify, described.length]
  each position other present := by
    obtain ⟨new, read, same, untouched⟩ := described.each position other present
    rw [getElem?_modify, read]
    by_cases here : index = position
    · obtain rfl : other = rule := by
        rw [← here, found] at present
        exact (Option.some.inj present).symm
      refine ⟨new.describe description, by simp [here], same, fun unnamed => absurd target unnamed⟩
    · exact ⟨new, by simp [here], same, untouched⟩

theorem lastIndex_eq_some (found : lastIndex rules test = some index) :
    ∃ rule, rules[index]? = some rule ∧ test rule = true := by
  obtain ⟨position, first, rfl⟩ := Option.map_eq_some_iff.1 found
  obtain ⟨bound, holds, -⟩ := findIdx?_eq_some_iff_getElem.1 first
  refine ⟨rules.reverse[position], ?_, holds⟩
  rw [getElem_reverse, getElem?_eq_getElem]

theorem foldlM_invariant {Item State : Type} {body : State → Item → Except Fault State}
    {Invariant : State → Prop} {items : List Item} {start final : State}
    (kept : ∀ state item next, item ∈ items → Invariant state →
      body state item = .ok next → Invariant next)
    (initially : Invariant start)
    (folded : items.foldlM body start = .ok final) : Invariant final := by
  induction items generalizing start with
  | nil =>
    obtain rfl := ok.inj folded
    exact initially
  | cons first rest induction =>
    obtain ⟨next, stepped, folded⟩ := bind_eq_ok folded
    refine induction (fun state item after member => kept state item after (.tail _ member))
        ?_ folded
    exact kept start first next (.head _) initially stepped

/-- The rules a description request names. -/
def DescriptionInput.names (input : DescriptionInput) (targets : List DescriptionTarget)
    (rule : SGRule) : Prop :=
  some rule.ruleId ∈ input.descriptions.map SecurityGroupRuleDescription.securityGroupRuleId ∨
    sgRuleKey rule ∈ targets.map DescriptionTarget.key

theorem describeAt_eq_ok {rules out next : List SGRule}
    {description : Option String} (described : Described named rules out)
    (named_of : ∀ rule, test rule = true → named rule)
    (done : describeAt fault (lastIndex rules test) description out = .ok next) :
    Described named rules next := by
  unfold describeAt at done
  split at done
  · cases done
  next index found =>
    obtain rfl := ok.inj done
    obtain ⟨rule, present, holds⟩ := lastIndex_eq_some found
    exact described.modify present (named_of rule holds) description

variable {input : DescriptionInput}

/-- What a description request changes. -/
theorem applySGRuleDescriptions_eq_ok
    (applied : applySGRuleDescriptions rules input.descriptions input.ipPermissions = .ok out) :
    ∃ targets, ipPermissionsToDescriptionTargets input.ipPermissions = .ok targets ∧
      Described (input.names targets) rules out := by
  obtain ⟨first, byIDs, applied⟩ := bind_eq_ok applied
  obtain ⟨targets, read, byKeys⟩ := bind_eq_ok applied
  refine ⟨targets, mapError_eq_ok read, ?_⟩
  have afterIDs : Described (input.names targets) rules first := by
    refine foldlM_invariant (fun state entry next member described done => ?_)
        (Described.refl _ rules) byIDs
    split at done
    · cases done
    next id nonempty =>
      refine describeAt_eq_ok described (fun rule same => .inl ?_) done
      have given : entry.securityGroupRuleId = some rule.ruleId := by
        cases entryID : entry.securityGroupRuleId with
        | none => exact absurd (by simp [entryID]) nonempty
        | some id =>
          simp [entryID] at same
          rw [same]
      exact mem_map.2 ⟨entry, member, given⟩
  refine foldlM_invariant (fun state target next member described done => ?_) afterIDs byKeys
  refine describeAt_eq_ok described (fun rule same => .inr ?_) done
  exact mem_map.2 ⟨target, member, (of_decide_eq_true same).symm⟩

/-- Two lists that agree at every index in what is read of the rules. -/
theorem map_eq_of_each {first second : List SGRule} (length : second.length = first.length)
    (each : ∀ (index : Nat) rule, first[index]? = some rule →
      ∃ other, second[index]? = some other ∧ value other = value rule) :
    second.map value = first.map value := by
  refine ext_getElem? fun index => ?_
  rw [getElem?_map, getElem?_map]
  cases present : first[index]? with
  | none =>
    rw [getElem?_eq_none_iff, ← length, ← getElem?_eq_none_iff] at present
    rw [present]
  | some rule =>
    obtain ⟨other, read, same⟩ := each index rule present
    rw [read, Option.map_some, Option.map_some, same]

/-- What does not depend on descriptions is as before. -/
theorem Described.map_eq (described : Described named rules out)
    (blind : ∀ rule, value rule = value rule.undescribed) : out.map value = rules.map value := by
  refine map_eq_of_each described.length fun index rule present => ?_
  obtain ⟨new, read, same, -⟩ := described.each index rule present
  exact ⟨new, read, by rw [blind new, same, ← blind rule]⟩

theorem Described.sound (described : Described named rules out)
    (sound : ∀ rule ∈ rules, rule.Sound) : ∀ rule ∈ out, rule.Sound := by
  have bares : out.map bare = rules.map bare := described.map_eq fun _ => rfl
  intro rule member
  have present : rule.bare ∈ rules.map bare := bares ▸ mem_map_of_mem member
  obtain ⟨old, oldMember, same⟩ := mem_map.1 present
  exact (sound old oldMember).of_bare same

section

variable (planned : describePlan surroundings groups egress input = .ok plan)

include planned

/-- What a description request writes. -/
theorem describePlan_eq_ok :
    ∃ before targets updated, Planned groups input.groupId plan before ∧
      ipPermissionsToDescriptionTargets input.ipPermissions = .ok targets ∧
      Described (input.names targets) (before.side egress) updated ∧
      plan.after before = before.withSide egress updated := by
  obtain ⟨_, -, planned⟩ := bind_eq_ok planned
  obtain ⟨_, -, planned⟩ := bind_eq_ok planned
  obtain ⟨_, -, planned⟩ := bind_eq_ok planned
  obtain ⟨loaded, found, planned⟩ := bind_eq_ok planned
  obtain ⟨updated, applied, planned⟩ := bind_eq_ok planned
  obtain rfl := ok.inj planned
  obtain ⟨named, present⟩ := load_eq_ok found
  obtain ⟨targets, read, described⟩ := applySGRuleDescriptions_eq_ok applied
  exact ⟨loaded.2, targets, updated, ⟨named, present⟩, read, described, rfl⟩

theorem describe_wellFormed (found : groups.lookup plan.groupId = some before)
    (wellFormed : before.WellFormed) : (plan.after before).WellFormed := by
  obtain ⟨record, targets, updated, ⟨-, present⟩, -, described, after⟩ := describePlan_eq_ok planned
  cases present.symm.trans found
  rw [after]
  refine wellFormed.withSide ?_ ?_ ?_ ?_
  · exact described.sound (wellFormed.sound egress)
  · rw [described.map_eq fun _ => rfl]
    exact wellFormed.identities egress
  · rw [ruleIds_congr (described.map_eq fun _ => rfl)]
    exact wellFormed.ids
  · rw [described.length]
    exact wellFormed.bounded egress

end

/-! ## Modify -/

/-- A modification replaces a rule named by one of the updates. -/
structure Modification.Resolved
    (record : SecurityGroupRecord) (updates : List SecurityGroupRuleUpdate) (mod : Modification)
    (current : SGRule) : Prop where
  present : (record.side mod.egress)[mod.index]? = some current
  named : some current.ruleId ∈ updates.map SecurityGroupRuleUpdate.securityGroupRuleId
  ruleId : mod.rule.ruleId = current.ruleId
  tags : mod.rule.tags = current.tags
  sound : mod.rule.Sound

variable {record : SecurityGroupRecord}

theorem locate_eq_some (found : locate record id = some place)
    (present : (record.side place.1)[place.2]? = some current) : current.ruleId = id := by
  have first {rules : List SGRule} {index : Nat}
      (position : rules.findIdx? (fun rule => rule.ruleId = id) = some index)
      (read : rules[index]? = some current) :
      current.ruleId = id := by
    obtain ⟨bound, holds, -⟩ := findIdx?_eq_some_iff_getElem.1 position
    rw [getElem?_eq_getElem bound] at read
    obtain rfl := Option.some.inj read
    simpa using holds
  unfold locate at found
  split at found
  next index ingress =>
    obtain rfl := Option.some.inj found
    exact first ingress present
  · obtain ⟨index, egress, rfl⟩ := Option.map_eq_some_iff.1 found
    exact first egress present

variable {update : SecurityGroupRuleUpdate}

theorem resolveUpdate_eq_ok (resolved : resolveUpdate record id update = .ok mod)
    (named : some id ∈ updates.map SecurityGroupRuleUpdate.securityGroupRuleId) :
    ∃ current, mod.Resolved record updates current := by
  unfold resolveUpdate at resolved
  split at resolved
  · cases resolved
  next egress index found =>
    split at resolved
    · cases resolved
    next current present =>
      obtain ⟨rule, parsed, resolved⟩ := bind_eq_ok resolved
      obtain ⟨_, -, resolved⟩ := bind_eq_ok resolved
      obtain rfl := ok.inj resolved
      have same := locate_eq_some found present
      exact ⟨current,
          { present
            named := same ▸ named
            ruleId := rfl
            tags := rfl
            sound := (sound_of_request parsed).of_bare rfl }⟩

theorem updateID_eq_ok (checked : updateID seen update = .ok id) :
    update.securityGroupRuleId = some id := by
  unfold updateID at checked
  split at checked
  · cases checked
  next given found =>
    obtain ⟨_, -, checked⟩ := bind_eq_ok checked
    obtain ⟨_, -, checked⟩ := bind_eq_ok checked
    obtain rfl := ok.inj checked
    exact found

variable {mods : List Modification}

/-- Every modification is resolved from one of the updates. -/
theorem resolveUpdates_eq_ok {all rest : List SecurityGroupRuleUpdate}
    (subset : ∀ update ∈ rest, update ∈ all)
    (resolved : resolveUpdates record seen rest = .ok mods) :
    ∀ mod ∈ mods, ∃ current, mod.Resolved record all current := by
  induction rest generalizing seen mods with
  | nil =>
    obtain rfl := ok.inj resolved
    simp
  | cons update rest induction =>
    obtain ⟨id, checked, resolved⟩ := bind_eq_ok resolved
    obtain ⟨mod, one, resolved⟩ := bind_eq_ok resolved
    obtain ⟨others, tail, resolved⟩ := bind_eq_ok resolved
    obtain rfl := ok.inj resolved
    intro other member
    rcases mem_cons.1 member with rfl | member
    · apply resolveUpdate_eq_ok one
      exact mem_map.2 ⟨update, subset update (.head _), updateID_eq_ok checked⟩
    · exact induction (fun update found => subset update (.tail _ found)) tail other member

/-- A modification is about the rule at a place. -/
def Modification.At (mod : Modification) (egress : Bool) (index : Nat) : Prop :=
  mod.egress = egress ∧ mod.index = index

/-- A record after modifications: each rule is as before or replaced. -/
structure Modified (mods : List Modification) (record after : SecurityGroupRecord) : Prop where
  length : ∀ egress, (after.side egress).length = (record.side egress).length
  each : ∀ (egress : Bool) (index : Nat) (rule : SGRule),
    (record.side egress)[index]? = some rule → ∃ new, (after.side egress)[index]? = some new ∧
      ((new = rule ∧ ∀ mod ∈ mods, ¬mod.At egress index) ∨
        ∃ mod ∈ mods, mod.At egress index ∧ new = mod.rule)

theorem SecurityGroupRecord.side_apply
    (record : SecurityGroupRecord) (mod : Modification) (egress : Bool) :
    (record.apply mod).side egress = if mod.egress = egress then
        (record.side egress).set mod.index mod.rule
      else
        record.side egress := by
  unfold apply
  by_cases same : mod.egress = egress
  · rw [if_pos same, same, side_withSide]
  · obtain rfl : egress = !mod.egress := by
      cases egress <;> cases own : mod.egress <;> simp_all
    rw [if_neg same, side_withSide_not]

variable {record after : SecurityGroupRecord}

theorem Modified.apply (modified : Modified mods record after) (mod : Modification) :
    Modified (mods ++ [mod]) record (after.apply mod) where
  length egress := by
    rw [after.side_apply]
    split
    · rw [length_set]
      exact modified.length egress
    · exact modified.length egress
  each egress index rule present := by
    obtain ⟨new, read, change⟩ := modified.each egress index rule present
    have bound : index < (after.side egress).length := (List.getElem?_eq_some_iff.1 read).1
    by_cases here : mod.At egress index
    · refine ⟨mod.rule, ?_, .inr ⟨mod, by simp, here, rfl⟩⟩
      rw [after.side_apply, if_pos here.1, here.2]
      simp [bound]
    · refine ⟨new, ?_, ?_⟩
      · rw [after.side_apply]
        split
        next same =>
          have elsewhere : mod.index ≠ index := fun position => here ⟨same, position⟩
          rwa [getElem?_set_ne elsewhere]
        · exact read
      · rcases change with ⟨same, untouched⟩ | ⟨other, member, place, same⟩
        · refine .inl ⟨same, ?_⟩
          intro other member
          rcases mem_append.1 member with member | member
          · exact untouched other member
          · obtain rfl := mem_singleton.1 member
            exact here
        · exact .inr ⟨other, mem_append_left _ member, place, same⟩

/-- All modifications made one after the other. -/
theorem modified_foldl (mods : List Modification) (record : SecurityGroupRecord) :
    Modified mods record (mods.foldl SecurityGroupRecord.apply record) := by
  induction mods using reverseRecOn with
  | nil =>
    exact ⟨fun _ => rfl, fun _ _ rule present => ⟨rule, present, .inl ⟨rfl, by simp⟩⟩⟩
  | append_singleton mods mod induction =>
    rw [foldl_append]
    exact induction.apply mod

/-- What the check for duplicates guarantees of a side. -/
structure Unduplicated (record : SecurityGroupRecord) (mods : List Modification)
    (egress : Bool) : Prop where
  each_other : ∀ first ∈ mods, ∀ second ∈ mods, first.egress = egress →
    second.egress = egress → sgRuleKey first.rule = sgRuleKey second.rule → first = second
  others : ∀ (index : Nat) (rule : SGRule), (record.side egress)[index]? = some rule →
    (∀ mod ∈ mods, ¬mod.At egress index) →
      ∀ mod ∈ mods, mod.egress = egress → sgRuleKey rule ≠ sgRuleKey mod.rule

theorem checkSGRuleModificationDuplicates_eq_ok
    (checked : checkSGRuleModificationDuplicates record mods egress = .ok result) :
    Unduplicated record mods egress := by
  obtain ⟨_, nodup, checked⟩ := bind_eq_ok checked
  have nodup := not_not.1 (refuse_eq_ok nodup)
  have own (mod : Modification) :
      mod ∈ mods.filter (fun mod => mod.egress = egress) ↔ mod ∈ mods ∧ mod.egress = egress := by
    simp
  split at checked
  · cases checked
  next free =>
    refine ⟨?_, ?_⟩
    · intro first firstMember second secondMember firstSide secondSide same
      exact inj_on_of_nodup_map nodup ((own first).2 ⟨firstMember, firstSide⟩)
          ((own second).2 ⟨secondMember, secondSide⟩) same
    · intro index rule present untouched mod member side same
      have entry := find?_eq_none.1 free (rule, index) (mk_mem_zipIdx_iff_getElem?.2 present)
      simp only [decide_eq_true_eq, not_and] at entry
      refine entry ?_ ?_
      · intro replaced
        obtain ⟨other, found, position⟩ := mem_map.1 replaced
        obtain ⟨otherMember, otherSide⟩ := (own other).1 found
        exact untouched other otherMember ⟨otherSide, position⟩
      · exact mem_map.2 ⟨mod, (own mod).2 ⟨member, side⟩, same.symm⟩

/-- A rule after modifications, and the rule that was at its place. -/
theorem Modified.each_after (modified : Modified mods record after)
    (read : (after.side egress)[index]? = some new) :
    ∃ rule, (record.side egress)[index]? = some rule ∧
      ((new = rule ∧ ∀ mod ∈ mods, ¬mod.At egress index) ∨
        ∃ mod ∈ mods, mod.At egress index ∧ new = mod.rule) := by
  have bound : index < (record.side egress).length := by
    rw [← modified.length egress]
    exact (List.getElem?_eq_some_iff.1 read).1
  have present := getElem?_eq_getElem bound
  obtain ⟨other, found, change⟩ := modified.each egress index _ present
  obtain rfl : other = new := Option.some.inj (found.symm.trans read)
  exact ⟨_, present, change⟩

section

variable  {record after : SecurityGroupRecord}
     (modified : Modified mods record after)
    (resolved : ∀ mod ∈ mods, ∃ current, mod.Resolved record updates current)

include modified resolved

/-- A rule keeps its identifier and tags, and all of itself if not named. -/
theorem Modified.kept {index : Nat} (present : (record.side egress)[index]? = some rule)
    (read : (after.side egress)[index]? = some new) :
    new.ruleId = rule.ruleId ∧ new.tags = rule.tags ∧ (some rule.ruleId ∉
        updates.map SecurityGroupRuleUpdate.securityGroupRuleId →
      new = rule) := by
  obtain ⟨other, found, change⟩ := modified.each_after read
  obtain rfl : other = rule := Option.some.inj (found.symm.trans present)
  rcases change with ⟨rfl, -⟩ | ⟨mod, member, ⟨rfl, rfl⟩, rfl⟩
  · exact ⟨rfl, rfl, fun _ => rfl⟩
  · obtain ⟨current, one⟩ := resolved mod member
    obtain rfl : current = other := Option.some.inj (one.present.symm.trans present)
    exact ⟨one.ruleId, one.tags, fun unnamed => absurd one.named unnamed⟩

theorem Modified.map_ruleId (egress : Bool) :
    (after.side egress).map ruleId = (record.side egress).map ruleId := by
  refine map_eq_of_each (modified.length egress) fun index rule present => ?_
  obtain ⟨new, read, -⟩ := modified.each egress index rule present
  exact ⟨new, read, (modified.kept resolved present read).1⟩

omit resolved in
/-- Two rules of a side still have different permissions. -/
theorem Modified.identities (wellFormed : record.WellFormed)
    (unduplicated : Unduplicated record mods egress) :
    ((after.side egress).map identity).Nodup := by
  refine nodup_iff_getElem?_ne_getElem?.2 ?_
  intro first second before bound same
  rw [getElem?_map, getElem?_map] at same
  rw [length_map] at bound
  have firstRead := getElem?_eq_getElem (Nat.lt_trans before bound)
  have secondRead := getElem?_eq_getElem bound
  rw [firstRead, secondRead, Option.map_some, Option.map_some, Option.some.injEq] at same
  obtain ⟨firstRule, firstPresent, firstChange⟩ := modified.each_after firstRead
  obtain ⟨secondRule, secondPresent, secondChange⟩ := modified.each_after secondRead
  have keys : sgRuleKey (after.side egress)[first] = sgRuleKey (after.side egress)[second] := by
    rw [sgRuleKey_eq, sgRuleKey_eq, same]
  rcases firstChange with ⟨firstSame, firstFree⟩ | ⟨firstMod, firstMember, firstAt, firstSame⟩
  · rcases secondChange with ⟨secondSame, -⟩ | ⟨secondMod, secondMember, secondAt, secondSame⟩
    · refine nodup_iff_getElem?_ne_getElem?.1
          (wellFormed.identities egress) first second before ?_ ?_
      · rwa [length_map, ← modified.length egress]
      · rw [getElem?_map, getElem?_map, firstPresent, secondPresent, Option.map_some,
          Option.map_some, ← firstSame, ← secondSame, same]
    · rw [firstSame, secondSame] at keys
      exact unduplicated.others first firstRule firstPresent firstFree
          secondMod secondMember secondAt.1 keys
  · rcases secondChange with ⟨secondSame, secondFree⟩ |
      ⟨secondMod, secondMember, secondAt, secondSame⟩
    · rw [firstSame, secondSame] at keys
      exact unduplicated.others second secondRule secondPresent secondFree
          firstMod firstMember firstAt.1 keys.symm
    · rw [firstSame, secondSame] at keys
      have mods := unduplicated.each_other firstMod firstMember secondMod
          secondMember firstAt.1 secondAt.1 keys
      rw [mods, Modification.At, secondAt.2] at firstAt
      omega

theorem Modified.wellFormed (wellFormed : record.WellFormed)
    (unduplicated : ∀ egress, Unduplicated record mods egress) : after.WellFormed where
  sound egress rule member := by
    obtain ⟨index, read⟩ := mem_iff_getElem?.1 member
    obtain ⟨old, present, change⟩ := modified.each_after read
    rcases change with ⟨rfl, -⟩ | ⟨mod, found, -, rfl⟩
    · exact wellFormed.sound egress rule (mem_iff_getElem?.2 ⟨index, present⟩)
    · obtain ⟨current, one⟩ := resolved mod found
      exact one.sound
  identities egress := modified.identities wellFormed (unduplicated egress)
  ids := by
    have ingress := modified.map_ruleId resolved false
    have egress := modified.map_ruleId resolved true
    have same : after.ruleIds = record.ruleIds := by
      simp only [ruleIds, map_append]
      exact congrArg₂ _ ingress egress
    rw [same]
    exact wellFormed.ids
  bounded egress := by
    rw [modified.length egress]
    exact wellFormed.bounded egress

end

/-- What a modify request writes. -/
theorem modifyPlan_eq_ok {input : ModifyInput}
    (planned : modifyPlan surroundings groups input = .ok plan) :
    ∃ before mods, Planned groups input.groupId plan before ∧
      Modified mods before (plan.after before) ∧
      (∀ mod ∈ mods, ∃ current, mod.Resolved before input.securityGroupRules current) ∧
      ∀ egress, Unduplicated before mods egress := by
  obtain ⟨_, -, planned⟩ := bind_eq_ok planned
  obtain ⟨_, -, planned⟩ := bind_eq_ok planned
  obtain ⟨loaded, found, planned⟩ := bind_eq_ok planned
  obtain ⟨_, -, planned⟩ := bind_eq_ok planned
  obtain ⟨changed, applied, planned⟩ := bind_eq_ok planned
  obtain ⟨_, -, planned⟩ := bind_eq_ok planned
  obtain rfl := ok.inj planned
  obtain ⟨named, present⟩ := load_eq_ok found
  obtain ⟨mods, resolved, applied⟩ := bind_eq_ok applied
  obtain ⟨_, ingress, applied⟩ := bind_eq_ok applied
  obtain ⟨_, egress, applied⟩ := bind_eq_ok applied
  obtain rfl := ok.inj applied
  refine ⟨loaded.2, mods, ⟨named, present⟩, modified_foldl mods loaded.2,
      resolveUpdates_eq_ok (fun _ member => member) resolved, ?_⟩
  intro side
  cases side with
  | false => exact checkSGRuleModificationDuplicates_eq_ok ingress
  | true => exact checkSGRuleModificationDuplicates_eq_ok egress

end

end Spinifex.Vpc
