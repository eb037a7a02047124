import Spinifex.Vpc.RuleSets

/-!
# Sets of rules over whole runs of requests

Requests on the groups of an account follow one another.  As long as no request
on a group authorizes a permission twice or draws a taken identifier, the record
of the group stays well formed, every request whose announcement succeeds and
whose write is not stored and reported as failed does to it what it says, and
what is described of a side can be revoked again.
-/

namespace Spinifex.Vpc

open Concurrency (WriteReply)
open Go SecurityGroupRecord List IpPermission Except SGRule Plan

/-! ## One request -/

section

variable {surroundings : Surroundings} {groups : Groups} {request : Request}

/-- The groups after a plan was carried out. -/
def Plan.write (plan : Plan) (groups : Groups) : Groups :=
  match plan.record with
  | none => groups
  | some record => groups.insert plan.groupId record

variable {plan : Plan}

theorem Plan.lookup_write (found : groups.lookup plan.groupId = some before) :
    (plan.write groups).lookup plan.groupId = some (plan.after before) := by
  unfold write after
  cases plan.record with
  | none => exact found
  | some record => exact AList.lookup_insert groups

theorem Plan.lookup_write_ne (other : group ≠ plan.groupId) :
    (plan.write groups).lookup group = groups.lookup group := by
  unfold write
  cases plan.record with
  | none => rfl
  | some record => exact AList.lookup_insert_ne other

/-- A plan is about the group of its request. -/
theorem planned_of_plan (planned : request.plan surroundings groups = .ok plan) :
    ∃ before, Planned groups request.groupId plan before := by
  cases request with
  | authorize egress input =>
    obtain ⟨before, _, planned, -⟩ := authorizePlan_eq_ok planned
    exact ⟨before, planned⟩
  | revoke egress input =>
    obtain ⟨before, _, _, planned, -⟩ := revokePlan_eq_ok planned
    exact ⟨before, planned⟩
  | describe egress input =>
    obtain ⟨before, _, _, planned, -⟩ := describePlan_eq_ok planned
    exact ⟨before, planned⟩
  | modify input =>
    obtain ⟨before, _, planned, -⟩ := modifyPlan_eq_ok planned
    exact ⟨before, planned⟩

/-- A request leaves the groups alone or carries out its plan. -/
theorem handle_groups :
    (handle surroundings groups request).1 = groups ∨
      ∃ plan, request.plan surroundings groups = .ok plan ∧
        (handle surroundings groups request).1 = plan.write groups := by
  rw [handle_eq_respond]
  cases planned : request.plan surroundings groups with
  | error fault => exact .inl rfl
  | ok plan =>
    cases changed : plan.record with
    | none => exact .inl (by simp [respond, changed])
    | some record =>
      cases stored : surroundings.written.stored with
      | false => exact .inl (by simp [respond, changed, stored])
      | true =>
        exact .inr ⟨plan, rfl, by simp [respond, changed, stored, write]⟩

/--
Announced requests whose write is reported as it ended fail without a change or
succeed as planned.
-/
theorem handle_announced (announced : surroundings.announced = .ok ())
    (truthful : surroundings.written.Truthful) :
    (∃ fault, handle surroundings groups request = (groups, .error fault)) ∨
      ∃ plan, request.plan surroundings groups = .ok plan ∧
        handle surroundings groups request = (plan.write groups, .ok plan.answer) := by
  rw [handle_eq_respond]
  cases planned : request.plan surroundings groups with
  | error fault => exact .inl ⟨fault, rfl⟩
  | ok plan =>
    cases changed : plan.record with
    | none => exact .inr ⟨plan, rfl, by simp [respond, changed, write]⟩
    | some record =>
      cases reply : surroundings.written with
      | acknowledged =>
        refine .inr ⟨plan, rfl, ?_⟩
        simp [respond, changed, reply, WriteReply.stored, write, announced, Except.map]
      | failed _ stored =>
        refine .inl ⟨ErrorCode.fault .serverInternal, ?_⟩
        rw [reply] at truthful
        have unstored : stored ≠ true := fun held => nomatch truthful held
        simp [respond, changed, reply, WriteReply.stored, unstored]

end

/-! ## What requests are to do -/

/-- The rules of a side after a request that changes some of them in place. -/
structure Edited (named : SGRule → Prop) (before after : List SGRule) : Prop where
  length : after.length = before.length
  each : ∀ (index : Nat) (old new : SGRule), before[index]? = some old → after[index]? = some new →
    new.ruleId = old.ruleId ∧ new.tags = old.tags ∧ (¬named old → new = old)

/-- What is to hold of the record of a request's group. -/
structure Conforms
    (surroundings : Surroundings) (request : Request) (before after : SecurityGroupRecord)
    (result : Except Fault (List SGRule)) : Prop where
  failed : ∀ fault, result = .error fault → after = before
  revoked : ∀ egress input answer, request = .revoke egress input → result = .ok answer →
    ∃ named, ipPermissionsToSGRules input.ipPermissions .revoke surroundings.draw = .ok named ∧
      after.side egress = (before.side egress).filter (fun rule => ¬input.names named rule) ∧
      after.side (!egress) = before.side (!egress)
  described : ∀ egress input answer, request = .describe egress input → result = .ok answer →
    ∃ targets, ipPermissionsToDescriptionTargets input.ipPermissions = .ok targets ∧
    Edited (input.names targets) (before.side egress) (after.side egress) ∧
    after.side (!egress) = before.side (!egress)
  modified : ∀ input answer, request = .modify input → result = .ok answer → ∀ egress,
    Edited (fun rule => some rule.ruleId ∈ input.securityGroupRules.map
            SecurityGroupRuleUpdate.securityGroupRuleId)
      (before.side egress) (after.side egress)

/-- The condition on a request: the rules it authorizes repeat no permission
and no identifier. -/
def Admissible (surroundings : Surroundings) (request : Request)
    (before : SecurityGroupRecord) : Prop :=
  ∀ egress input parsed, request = .authorize egress input →
    ipPermissionsToSGRules input.ipPermissions .authorize surroundings.draw = .ok parsed →
      Authorizable parsed before

section

variable {surroundings : Surroundings} {groups : Groups} {request : Request}
    {plan : Plan} {before : SecurityGroupRecord}
    (planned : request.plan surroundings groups = .ok plan)
    (found : groups.lookup plan.groupId = some before) (wellFormed : before.WellFormed)

include planned found wellFormed

/-- A plan keeps the record well formed. -/
theorem plan_wellFormed
    (admissible : Admissible surroundings request before) : (plan.after before).WellFormed := by
  cases request with
  | authorize egress input =>
    exact authorize_wellFormed planned found wellFormed
      fun parsed => admissible egress input parsed rfl
  | revoke egress input => exact revoke_wellFormed planned found wellFormed
  | describe egress input => exact describe_wellFormed planned found wellFormed
  | modify input =>
    obtain ⟨record, mods, ⟨-, present⟩, modified, resolved, free⟩ := modifyPlan_eq_ok planned
    cases present.symm.trans found
    exact modified.wellFormed resolved wellFormed free

/-- A plan does what its request says. -/
theorem plan_conforms :
    Conforms surroundings request before (plan.after before) (.ok plan.answer) where
  failed fault failed := by cases failed
  revoked egress input answer same _ := by
    subst same
    obtain ⟨record, named, resolved, ⟨-, present⟩, read, byID, after⟩ := revokePlan_eq_ok planned
    cases present.symm.trans found
    refine ⟨named, read, ?_, ?_⟩
    · rw [after, side_withSide]
      exact removeSGRules_eq_filter (wellFormed.sound egress) (wellFormed.identities egress)
          (sound_of_permissions read) byID (wellFormed.side_ids egress)
    · rw [after, side_withSide_not]
  described egress input answer same _ := by
    subst same
    obtain ⟨record, targets, updated, ⟨-, present⟩, read, described,
      after⟩ := describePlan_eq_ok planned
    cases present.symm.trans found
    refine ⟨targets, read, ?_, ?_⟩
    · rw [after, side_withSide]
      refine ⟨described.length, ?_⟩
      intro index old new present read
      obtain ⟨other, otherRead, same, untouched⟩ := described.each index old present
      obtain rfl : other = new := Option.some.inj (otherRead.symm.trans read)
      obtain ⟨ids, tags⟩ := kept_of_undescribed same
      exact ⟨ids, tags, untouched⟩
    · rw [after, side_withSide_not]
  modified input answer same _ egress := by
    subst same
    obtain ⟨record, mods, ⟨-, present⟩, modified, resolved, -⟩ := modifyPlan_eq_ok planned
    cases present.symm.trans found
    exact ⟨modified.length egress, fun index old new present read =>
        modified.kept resolved present read⟩

end

section

variable {surroundings : Surroundings} {groups : Groups} {request : Request}
    {group : String} {before : SecurityGroupRecord} (named : request.groupId = some group)
    (found : groups.lookup group = some before) (wellFormed : before.WellFormed)

include named found wellFormed

/-- An admissible request keeps the record of its group well formed. -/
theorem handle_wellFormed (admissible : Admissible surroundings request before) :
    ∃ after, (handle surroundings groups request).1.lookup group = some after ∧
      after.WellFormed := by
  rcases @handle_groups surroundings groups request with
    same | ⟨plan, planned, written⟩
  · rw [same]
    exact ⟨before, found, wellFormed⟩
  · obtain ⟨record, about, present⟩ := planned_of_plan planned
    obtain rfl : plan.groupId = group := Option.some.inj (about.symm.trans named)
    rw [written]
    exact ⟨plan.after before, lookup_write found,
        plan_wellFormed planned found wellFormed admissible⟩

/-- A request on a well-formed group conforms if it is announced and its write
is reported as it ended. -/
theorem handle_conforms (announced : surroundings.announced = .ok ())
    (truthful : surroundings.written.Truthful) :
    ∃ after, (handle surroundings groups request).1.lookup group = some after ∧
      Conforms surroundings request before after (handle surroundings groups request).2 := by
  rcases @handle_announced surroundings groups request announced truthful with
    ⟨fault, failed⟩ | ⟨plan, planned, done⟩
  · rw [failed]
    refine ⟨before, found, ?_⟩
    exact
      { failed := fun _ _ => rfl
        revoked := nofun
        described := nofun
        modified := nofun }
  · obtain ⟨record, about, present⟩ := planned_of_plan planned
    obtain rfl : plan.groupId = group := Option.some.inj (about.symm.trans named)
    rw [done]
    exact ⟨plan.after before, lookup_write found, plan_conforms planned found wellFormed⟩

end

/-- A request on another group leaves a record alone. -/
theorem handle_other (other : request.groupId ≠ some group) :
    (handle surroundings groups request).1.lookup group = groups.lookup group := by
  rcases @handle_groups surroundings groups request with
    same | ⟨plan, planned, written⟩
  · rw [same]
  · obtain ⟨record, about, -⟩ := planned_of_plan planned
    rw [written]
    apply lookup_write_ne
    rintro rfl
    exact other about

/-! ## What is described can be revoked -/

section

theorem permKey_ipProtocol (rule : SGRule) : (permKey rule).ipProtocol = rule.ipProtocol := by
  unfold permKey
  split <;> rfl

/-- The validation depends on the permission only. -/
theorem validateSGRule_of_identity
    (same : rule.identity = other.identity) : validateSGRule rule = validateSGRule other := by
  have protocols : rule.ipProtocol = other.ipProtocol := by
    rw [← permKey_ipProtocol rule, ← permKey_ipProtocol other]
    exact congrArg (fun identity => identity.permKey.ipProtocol) same
  have cidrs : rule.cidrIp = other.cidrIp := congrArg Identity.cidrIp same
  have sixes : rule.cidrIpv6 = other.cidrIpv6 := congrArg Identity.cidrIpv6 same
  have groups : rule.sourceSG = other.sourceSG := congrArg Identity.sourceSG same
  unfold validateSGRule
  rw [protocols, cidrs, sixes, groups]

/-- The rules a reported permission stands for. -/
def reported (entry : PermKey × IpPermission) : List (SGRule × Option String) :=
  entry.2.sources entry.1.ipProtocol entry.1.fromPort entry.1.toPort

variable {rule : SGRule}

theorem mem_sources_add {perm : IpPermission} {fromPort toPort : Int} :
    source ∈ (perm.add rule).sources proto fromPort toPort ↔
      source ∈ perm.sources proto fromPort toPort ∨ source ∈
        ((emptyPermission rule).add rule).sources proto fromPort toPort := by
  simp only [sources, sourcesOf, add, emptyPermission, filterMap_append, mem_append, nil_append]
  tauto

/-- A rule as it is read back from a report. -/
def SGRule.readBack (rule : SGRule) : SGRule where
  ipProtocol := (permKey rule).ipProtocol
  fromPort := (permKey rule).fromPort
  toPort := (permKey rule).toPort
  cidrIp := rule.cidrIp
  cidrIpv6 := rule.cidrIpv6
  sourceSG := rule.sourceSG

theorem SGRule.readBack_identity (rule : SGRule) : rule.readBack.identity = rule.identity := by
  have keys : permKey rule.readBack = permKey rule := by
    unfold readBack permKey
    by_cases every : rule.ipProtocol = allProtocols
    · simp [every]
    · simp [every]
  exact Identity.ext keys rfl rfl rfl

theorem text_ne_empty (block : Netip.Prefix) : block.text ≠ "" := by
  intro empty
  have runes := congrArg String.toList empty
  simp [Netip.Prefix.text] at runes

theorem ne_empty_of_isSGID {id : String} (valid : isSGID id = true) : id ≠ "" := by
  rintro rfl
  exact absurd valid (by decide)

/-- A sound rule is reported as itself. -/
theorem reported_rule (sound : rule.Sound) :
    reported (permKey rule, (emptyPermission rule).add rule) = [(rule.readBack,
      if rule.description = "" then none else some rule.description)] :=
    by
  obtain ⟨-, source, has⟩ := sound.wellFormed
  cases source with
  | ipv4 block =>
    obtain ⟨-, text, noSix, noGroup⟩ := has
    have given : rule.cidrIp ≠ "" := text ▸ text_ne_empty block
    simp [reported, sources, sourcesOf, add, emptyPermission, rangeOf, given, noSix, noGroup,
      readBack]
  | ipv6 =>
    obtain ⟨noFour, given, noGroup⟩ := has
    simp [reported, sources, sourcesOf, add, emptyPermission, rangeOf, given, noFour, noGroup,
      readBack]
  | group id =>
    obtain ⟨noFour, noSix, named, valid⟩ := has
    have given : rule.sourceSG ≠ "" := named ▸ ne_empty_of_isSGID valid
    simp [reported, sources, sourcesOf, add, emptyPermission, rangeOf, given, noFour, noSix,
      readBack]

/-- A report of rules: its entries have the shape of their key, stand for
rules that were given, and leave none out. -/
structure Reports (rules : List SGRule) (entries : List (PermKey × IpPermission)) : Prop where
  keyed : ∀ entry ∈ entries, ∃ rule ∈ rules,
    entry.1 = permKey rule ∧ entry.2.ipProtocol = some rule.ipProtocol ∧
      entry.2.fromPort = (emptyPermission rule).fromPort ∧
      entry.2.toPort = (emptyPermission rule).toPort
  given : ∀ entry ∈ entries, ∀ source ∈ reported entry,
    ∃ rule ∈ rules, source.1.identity = rule.identity
  nonempty : ∀ entry ∈ entries, reported entry ≠ []
  complete : ∀ rule ∈ rules, ∃ entry ∈ entries, ∃ source ∈ reported entry,
    source.1.identity = rule.identity

/-- One more rule extends the entry with its key, or adds an entry of its own. -/
theorem groupRule_cases (rule : SGRule) (entries : List (PermKey × IpPermission)) :
    groupRule rule entries = entries ++ [(permKey rule, (emptyPermission rule).add rule)] ∨
      ∃ before perm after, entries = before ++ (permKey rule, perm) :: after ∧
        groupRule rule entries = before ++ (permKey rule, perm.add rule) :: after := by
  induction entries with
  | nil => exact .inl rfl
  | cons first rest induction =>
    obtain ⟨key, perm⟩ := first
    rw [groupRule]
    split
    next same =>
      subst same
      exact .inr ⟨[], perm, rest, rfl, rfl⟩
    · rcases induction with added | ⟨before, other, after, same, extended⟩
      · exact .inl (congrArg _ added)
      · exact .inr ⟨_ :: before, other, after, congrArg _ same, congrArg _ extended⟩

/-- One more rule is reported as itself beside those reported before. -/
theorem mem_reported_groupRule (sound : rule.Sound) {source : SGRule × Option String} :
    (∃ entry ∈ groupRule rule entries, source ∈ reported entry) ↔
      (∃ entry ∈ entries, source ∈ reported entry) ∨
        source =
          (rule.readBack, if rule.description = "" then none else some rule.description) := by
  have own := reported_rule sound
  have extended {perm : IpPermission} : source ∈ reported (permKey rule, perm.add rule) ↔
      source ∈ reported (permKey rule, perm) ∨
        source ∈ reported (permKey rule, (emptyPermission rule).add rule) :=
    mem_sources_add
  rcases groupRule_cases rule entries with added | ⟨before, perm, after, rfl, more⟩
  · rw [added]
    simp only [mem_append, or_and_right, exists_or, mem_singleton, exists_eq_left, own]
  · rw [more]
    simp only [mem_append, mem_cons, or_and_right, exists_or, exists_eq_left, extended,
      own, not_mem_nil, or_false]
    exact Eq.to_iff (by ac_rfl)

/-- One more rule is reported. -/
theorem Reports.group (reports : Reports rules entries)
    (sound : rule.Sound) : Reports (rules ++ [rule]) (groupRule rule entries) := by
  have mine : rule ∈ rules ++ [rule] := mem_append_right _ (.head _)
  have kinds : ∀ entry ∈ groupRule rule entries, entry ∈ entries ∨
      entry = (permKey rule, (emptyPermission rule).add rule) ∨
        ∃ perm, (permKey rule, perm) ∈ entries ∧ entry = (permKey rule, perm.add rule) := by
    rcases groupRule_cases rule entries with added | ⟨before, perm, after, rfl, more⟩
    · grind
    · grind
  obtain ⟨keyed, given, nonempty, complete⟩ := reports
  refine ⟨fun entry member => ?_, fun entry member source inside => ?_, fun entry member => ?_,
    fun other member => ?_⟩
  · rcases kinds entry member with kept | rfl | ⟨perm, found, rfl⟩
    · obtain ⟨other, present, shape⟩ := keyed entry kept
      exact ⟨other, mem_append_left _ present, shape⟩
    · exact ⟨rule, mine, rfl, rfl, rfl, rfl⟩
    · obtain ⟨other, present, shape⟩ := keyed _ found
      exact ⟨other, mem_append_left _ present, shape⟩
  · rcases (mem_reported_groupRule sound).1 ⟨entry, member, inside⟩ with ⟨old, found, inside⟩ | rfl
    · obtain ⟨other, present, same⟩ := given old found source inside
      exact ⟨other, mem_append_left _ present, same⟩
    · exact ⟨rule, mine, rule.readBack_identity⟩
  · rcases kinds entry member with kept | rfl | ⟨perm, found, rfl⟩
    · exact nonempty entry kept
    · simp [reported_rule sound]
    · obtain ⟨source, inside⟩ := exists_mem_of_ne_nil _ (nonempty _ found)
      exact ne_nil_of_mem (mem_sources_add.2 (.inl inside))
  · rcases mem_append.1 member with member | member
    · obtain ⟨entry, found, source, inside, same⟩ := complete other member
      obtain ⟨kept, found, inside⟩ := (mem_reported_groupRule sound).2 (.inl ⟨entry, found, inside⟩)
      exact ⟨kept, found, source, inside, same⟩
    · obtain rfl := mem_singleton.1 member
      obtain ⟨entry, found, inside⟩ := (@mem_reported_groupRule _ entries sound _).2 (.inr rfl)
      exact ⟨entry, found, _, inside, other.readBack_identity⟩

/-- The report of sound rules. -/
theorem reports_foldl (sound : ∀ rule ∈ rules, rule.Sound) :
    Reports rules (rules.foldl (fun perms rule => groupRule rule perms) []) := by
  induction rules using reverseRecOn with
  | nil => exact ⟨by simp, by simp, by simp, by simp⟩
  | append_singleton rules rule induction =>
    rw [foldl_append]
    exact (induction fun other member => sound other (mem_append_left _ member)).group
        (sound rule (by simp))

theorem normalizeIPProtocol_canonical (canonical : proto ∈ canonicalIPProtocols) :
    normalizeIPProtocol proto = .ok proto := by
  simp only [canonicalIPProtocols, mem_cons, not_mem_nil, or_false] at canonical
  rcases canonical with rfl | rfl | rfl | rfl <;> decide +kernel

theorem forM_eq_ok_of {check : Item → Except Fault Unit} {items : List Item}
    (passed : ∀ item ∈ items, check item = .ok ()) : items.forM check = .ok () := by
  induction items with
  | nil => rfl
  | cons first rest induction =>
    change (check first >>= fun _ => rest.forM check) = _
    rw [passed first (.head _)]
    exact induction fun item member => passed item (.tail _ member)

/-- A reported permission is parsed to the rules it stands for. -/
theorem permissionToSGRules_reported
    (reports : Reports rules entries) (sound : ∀ rule ∈ rules, rule.Sound)
    (member : entry ∈ entries) :
    ∃ parsed, permissionToSGRules .revoke entry.2 = .ok parsed ∧
      parsed.map identity = (reported entry).map fun source => source.1.identity := by
  obtain ⟨rule, found, key, protocol, fromPort, toPort⟩ := reports.keyed entry member
  have normal : normalizeIPProtocol (entry.2.ipProtocol.getD "") = .ok rule.ipProtocol := by
    rw [protocol]
    exact normalizeIPProtocol_canonical (sound rule found).wellFormed.1
  have sources : (if rule.ipProtocol = allProtocols then
          entry.2.sources rule.ipProtocol 0 0
        else
          entry.2.sources rule.ipProtocol (entry.2.fromPort.getD 0) (entry.2.toPort.getD 0)) =
        reported entry := by
    unfold reported
    rw [fromPort, toPort, key]
    unfold permKey emptyPermission
    by_cases every : rule.ipProtocol = allProtocols
    · simp [every]
    · simp [every]
  have valid : (reported entry).forM (fun source => validateSGRule source.1) = .ok () := by
    refine forM_eq_ok_of fun source inside => ?_
    obtain ⟨other, present, same⟩ := reports.given entry member source inside
    rw [validateSGRule_of_identity same]
    exact (sound other present).valid
  refine ⟨(reported entry).map fun source =>
      { source.1 with description := source.2.getD "" }, ?_, ?_⟩
  · unfold permissionToSGRules
    rw [normal]
    dsimp only [Bind.bind, Except.bind, checkPorts]
    rw [sources, valid]
    simp [refuse, reports.nonempty entry member, pure, Except.pure]
  · rw [map_map]
    rfl

variable {perms : List (Option IpPermission)}

/-- What is reported of sound rules names exactly them. -/
theorem revoke_reported (sound : ∀ rule ∈ rules, rule.Sound)
    (same : perms.Perm ((sgRulesToIpPermissions rules).map some)) (draw : Nat → String) :
    ∃ named, ipPermissionsToSGRules perms .revoke draw = .ok named ∧
      (∀ rule ∈ named, ∃ old ∈ rules, rule.identity = old.identity) ∧
      ∀ rule ∈ rules, rule.identity ∈ named.map identity := by
  have reports := reports_foldl sound
  have present (perm : IpPermission) : perm ∈ perms.filterMap id ↔
      ∃ entry ∈ rules.foldl (fun perms rule => groupRule rule perms) [], entry.2 = perm := by
    rw [(same.filterMap id).mem_iff]
    simp [sgRulesToIpPermissions]
  have each : ∀ perm ∈ perms.filterMap id,
      ∃ parsed, permissionToSGRules .revoke perm = .ok parsed := by
    intro perm member
    obtain ⟨entry, found, rfl⟩ := (present perm).1 member
    obtain ⟨parsed, read, -⟩ := permissionToSGRules_reported reports sound found
    exact ⟨parsed, read⟩
  obtain ⟨groups, parsed⟩ := exists_mapM_eq_ok each
  refine ⟨groups.flatten, ?_, ?_, ?_⟩
  · unfold ipPermissionsToSGRules
    rw [parsed]
    rfl
  · intro rule member
    obtain ⟨group, groupMember, inside⟩ := mem_flatten.1 member
    obtain ⟨perm, permMember, read⟩ := (mapM_eq_ok parsed).1 group groupMember
    obtain ⟨entry, found, rfl⟩ := (present perm).1 permMember
    obtain ⟨again, readAgain, identities⟩ := permissionToSGRules_reported reports sound found
    obtain rfl : again = group := ok.inj (readAgain.symm.trans read)
    have listed : rule.identity ∈ again.map identity := mem_map_of_mem inside
    rw [identities] at listed
    obtain ⟨source, sourceInside, sameIdentity⟩ := mem_map.1 listed
    obtain ⟨old, oldMember, oldSame⟩ := reports.given entry found source sourceInside
    exact ⟨old, oldMember, sameIdentity.symm.trans oldSame⟩
  · intro rule member
    obtain ⟨entry, found, source, inside, sameIdentity⟩ := reports.complete rule member
    obtain ⟨group, groupMember, read⟩ := (mapM_eq_ok parsed).2 entry.2
        ((present entry.2).2 ⟨entry, found, rfl⟩)
    obtain ⟨again, readAgain, identities⟩ := permissionToSGRules_reported reports sound found
    obtain rfl : again = group := ok.inj (readAgain.symm.trans read)
    have listed : rule.identity ∈ again.map identity := by
      rw [identities]
      exact mem_map.2 ⟨source, inside, sameIdentity⟩
    obtain ⟨one, oneMember, oneSame⟩ := mem_map.1 listed
    exact mem_map.2 ⟨one, mem_flatten.2 ⟨again, groupMember, oneMember⟩, oneSame⟩

/-- Nothing of a removed side is left if every rule was named. -/
theorem removeSGRules_all (all : ∀ rule ∈ rules, rule.identity ∈ named.map identity) :
    removeSGRules rules named = [] := by
  refine filter_eq_nil_iff.2 fun rule member kept => ?_
  obtain ⟨other, found, same⟩ := mem_map.1 (all rule member)
  refine of_decide_eq_true kept (mem_map.2 ⟨other, found, ?_⟩)
  rw [sgRuleKey_eq, sgRuleKey_eq, same]

/-- The permissions described of a side, sent back to revoke, empty it. -/
theorem revoke_described (named : group ≠ "")
    (found : groups.lookup group = some before) (wellFormed : before.WellFormed)
    (readable : surroundings.readable group = true)
    (stored : surroundings.written = .acknowledged)
    (announced : surroundings.announced = .ok ()) (egress : Bool)
    (same : perms.Perm ((sgRulesToIpPermissions (before.side egress)).map some)) :
    ∃ after, handle surroundings groups
        (.revoke egress { groupId := some group, ipPermissions := perms }) =
      (after, .ok []) ∧
      ∃ record, after.lookup group = some record ∧ record.side egress = [] := by
  obtain ⟨revoked, read, given, all⟩ :=
    revoke_reported (wellFormed.sound egress) same surroundings.draw
  have loaded : load surroundings groups (some group) = .ok (group, before) := by
    simp [load, named, get, readable, found]
  have empty := removeSGRules_all all
  rw [handle_eq_respond]
  by_cases nothing : revoked = []
  · refine ⟨groups, ?_, before, found, ?_⟩
    · simp [Request.plan, revokePlan, loaded, read, nothing, resolveRuleIDsToRemove, respond, bind,
        Except.bind, pure, Except.pure, Except.mapError]
    · rw [nothing] at empty
      simpa [removeSGRules] using empty
  · have present : assertRulesPresent (before.side egress) revoked = .ok () := by
      refine if_neg (not_not.2 fun rule member => ?_)
      obtain ⟨old, oldMember, oldSame⟩ := given rule member
      rw [sgRuleKey_eq, oldSame, ← sgRuleKey_eq]
      exact mem_map_of_mem oldMember
    refine ⟨groups.insert group (before.withSide egress []), ?_, before.withSide egress [],
        AList.lookup_insert groups, before.side_withSide egress []⟩
    simp [Request.plan, revokePlan, loaded, read, nothing, present, empty, resolveRuleIDsToRemove,
      respond, stored, WriteReply.stored, announced, bind, Except.bind, pure, Except.pure,
      Except.mapError, Except.map]

end

/-! ## Runs -/

/--
The states of the groups that requests lead to, where the requests on one group
are admissible.
-/
inductive Reaches (group : String) (start : Groups) : Groups → Prop where
  | start : Reaches group start start
  | request
    {groups : Groups}
    (reached : Reaches group start groups)
    (surroundings : Surroundings) (request : Request)
    (admissible : request.groupId = some group →
      ∀ before, groups.lookup group = some before → Admissible surroundings request before) :
    Reaches group start (handle surroundings groups request).1

/-- The record of the group stays well formed. -/
theorem Reaches.wellFormed {start groups : Groups}
    {record : SecurityGroupRecord} (reached : Reaches group start groups)
    (found : start.lookup group = some record) (wellFormed : record.WellFormed) :
    ∃ current, groups.lookup group = some current ∧ current.WellFormed := by
  induction reached with
  | start => exact ⟨record, found, wellFormed⟩
  | request reached surroundings request admissible induction =>
    obtain ⟨current, present, formed⟩ := induction
    by_cases about : request.groupId = some group
    · exact handle_wellFormed about present formed (admissible about current present)
    · exact ⟨current, (handle_other about).trans present, formed⟩

/--
In every run whose requests on a group are admissible, the group's record is
well formed in every state reached, every further request that is announced and
whose write is reported as it ended conforms, and what is described of a side
can be revoked.
-/
theorem security_group_rules_well_formed
    (group : String) (start groups : Groups) (record : SecurityGroupRecord) (named : group ≠ "")
    (found : start.lookup group = some record) (wellFormed : record.WellFormed)
    (reached : Reaches group start groups) :
    ∃ current, groups.lookup group = some current ∧ current.WellFormed ∧
      (∀ surroundings request, request.groupId = some group →
        surroundings.announced = .ok () → surroundings.written.Truthful → ∃ after,
          (handle surroundings groups request).1.lookup group = some after ∧
            Conforms surroundings request current after
              (handle surroundings groups request).2) ∧
      ∀ surroundings egress perms, surroundings.readable group = true →
        surroundings.written = .acknowledged → surroundings.announced = .ok () →
          perms.Perm ((sgRulesToIpPermissions (current.side egress)).map some) →
            ∃ after, handle surroundings groups (.revoke egress
                  { groupId := some group, ipPermissions := perms }) =
              (after, .ok []) ∧
              ∃ emptied, after.lookup group = some emptied ∧ emptied.side egress = [] := by
  obtain ⟨current, present, formed⟩ := reached.wellFormed found wellFormed
  refine ⟨current, present, formed, ?_, ?_⟩
  · intro surroundings request about announced truthful
    exact handle_conforms about present formed announced truthful
  · intro surroundings egress perms readable stored announced same
    exact revoke_described named present formed readable stored announced egress same

namespace Sample

def groupName : String := "sg-0123456789abcdef0"

/-- A permission for TCP port 22 from anywhere. -/
def ssh : IpPermission where
  ipProtocol := some "tcp"
  fromPort := some 22
  toPort := some 22
  ipRanges := [{ value := some "0.0.0.0/0" }]

/-- The group before anything is authorized. -/
def newRecord : SecurityGroupRecord where
  vpcId := "vpc-1"
  ingressRules := []
  egressRules := []

/-- The groups of the account: this one only. -/
def newGroups : Groups :=
  (∅ : Groups).insert groupName newRecord

/-- Identifiers, one after the other. -/
def drawn (index : Nat) : String :=
  "sgr-" ++ Nat.repr index

/-- Everything works, up to how the announcement ends. -/
def surroundings (announced : Except Fault Unit) : Surroundings where
  readable _ := true
  requireVPCExists _ := .ok ()
  draw := drawn
  written := .acknowledged
  announced := announced

/-- A request to authorize permissions on the ingress side. -/
def authorize (permissions : List IpPermission) : Request :=
  .authorize false { groupId := some groupName, ipPermissions := permissions.map some }

theorem newRecord_wellFormed : newRecord.WellFormed where
  sound egress := by
    cases egress <;> simp [newRecord, side]
  identities egress := by
    cases egress <;> simp [newRecord, side]
  ids := by simp [newRecord, ruleIds]
  bounded egress := by
    cases egress <;> simp [newRecord, side]

/-- The rule the permission is parsed to. -/
def sshRule (index : Nat) : SGRule where
  ruleId := drawn index
  ipProtocol := "tcp"
  fromPort := 22
  toPort := 22
  cidrIp := "0.0.0.0/0"

/-- Authorizing one permission is admissible. -/
theorem reaches_authorized :
    Reaches groupName newGroups (handle (surroundings (.ok ())) newGroups (authorize [ssh])).1 := by
  refine .request .start _ _ fun _ before found egress input parsed same read => ?_
  obtain ⟨rfl, rfl⟩ := Request.authorize.inj same
  obtain rfl : newRecord = before := Option.some.inj ((AList.lookup_insert _).symm.trans found)
  have known : ipPermissionsToSGRules [some ssh] .authorize drawn = .ok [sshRule 0] := by
    decide +kernel
  obtain rfl : [sshRule 0] = parsed := ok.inj (known.symm.trans read)
  refine ⟨by simp, by simp, by simp [newRecord, ruleIds]⟩

end Sample

open Sample

/-- After port 22 was authorized once, the record has that one rule. -/
theorem security_group_rules_after_authorize :
    ∃ current, (handle (surroundings (.ok ())) newGroups (authorize [ssh])).1.lookup groupName =
      some current ∧
      current.ingressRules = [sshRule 0] ∧
      current.WellFormed := by
  obtain ⟨current, found, wellFormed, -⟩ := security_group_rules_well_formed groupName newGroups _
      newRecord (by decide) (AList.lookup_insert _) newRecord_wellFormed reaches_authorized
  refine ⟨current, found, ?_, wellFormed⟩
  have known : ((handle (surroundings (.ok ())) newGroups (authorize [ssh])).1.lookup groupName).map
        ingressRules =
      some [sshRule 0] := by
    decide +kernel
  rw [found] at known
  exact Option.some.inj known

/--
One request with a permission twice stores the same permission twice; and a
request whose announcement fails has changed the record.
-/
theorem authorize_stores_permission_twice :
    newRecord.WellFormed ∧ (∃ record, (handle (surroundings (.ok ())) newGroups
              (authorize [ssh, ssh])).1.lookup
            groupName =
          some record ∧
          record.ingressRules = [sshRule 0, sshRule 1] ∧
          ¬(record.ingressRules.map SGRule.identity).Nodup) ∧
      ∃ record fault, (handle (surroundings (.error (Fault.plain "no responders")))
            newGroups (authorize [ssh])).2 =
          .error fault ∧
        (handle (surroundings (.error (Fault.plain "no responders"))) newGroups
              (authorize [ssh])).1.lookup
            groupName =
          some record ∧
        record ≠ newRecord := by
  refine ⟨newRecord_wellFormed, ?_, ?_⟩
  · refine ⟨{ newRecord with ingressRules := [sshRule 0, sshRule 1] },
        ?_, rfl, ?_⟩
    · decide +kernel
    · decide +kernel
  · refine ⟨{ newRecord with ingressRules := [sshRule 0] }, Fault.plain "no responders", ?_, ?_, ?_⟩
    · decide +kernel
    · decide +kernel
    · decide +kernel

end Spinifex.Vpc
