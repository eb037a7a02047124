import Mathlib.Data.List.Nodup
import Spinifex.Go.Netip
import Spinifex.Go.Strings

/-!
# Rules of security groups and the parsers that accept them

A rule names a protocol, a range of ports or an ICMP type and code, and one
source: a block of either address family or another group.  Requests come in two
forms, permissions with lists of sources and single rules, and each form has its
parser.  Whatever either parser accepts is a well-formed rule: its protocol is
one of four, it has exactly one source, and a block is in canonical form.
-/

namespace Spinifex.Vpc

open Go Go.Netip List

/-! ## Errors -/

/-- The error codes a security group request may be answered with. -/
inductive ErrorCode where
  | invalidGroupIdMalformed
  | invalidGroupNotFound
  | invalidParameterCombination
  | invalidParameterValue
  | invalidPermissionDuplicate
  | invalidPermissionNotFound
  | invalidPrefixListIDNotFound
  | invalidSecurityGroupRuleIdMalformed
  | invalidSecurityGroupRuleIdNotFound
  | missingParameter
  | rulesPerSecurityGroupLimitExceeded
  | serverInternal
deriving DecidableEq, Repr

/-- An error: with a code if it is to be answered with that code. -/
structure Fault where
  code : Option ErrorCode
  message : String
deriving DecidableEq, Repr

/-- `errors.New` and `fmt.Errorf` without a code. -/
def Fault.plain (message : String) : Fault :=
  ⟨none, message⟩

/-- `awserrors.Errorf`. -/
def ErrorCode.errorf (code : ErrorCode) (message : String) : Fault :=
  ⟨some code, message⟩

/-- `errors.New` of a code. -/
def ErrorCode.fault (code : ErrorCode) : Fault :=
  ⟨some code, ""⟩

/-- A check that refuses a request under a condition. -/
def refuse (condition : Prop) [Decidable condition] (fault : Fault) : Except Fault Unit :=
  if condition then .error fault else .ok ()

variable {result : Unit}

theorem refuse_eq_ok [Decidable condition]
    (passed : refuse condition fault = .ok result) : ¬condition := by
  unfold refuse at passed
  split at passed
  · cases passed
  · assumption

/-! ## Rules -/

/-- `SGRule`. -/
structure SGRule where
  ruleId : String := ""
  ipProtocol : String
  fromPort : Int := 0
  toPort : Int := 0
  cidrIp : String := ""
  cidrIpv6 : String := ""
  sourceSG : String := ""
  description : String := ""
  tags : List (String × String) := []
deriving DecidableEq, Repr

/-- `sgIDRegex`: `sg-` and seventeen lower-case hexadecimal digits. -/
def isSGID (text : String) : Bool :=
  match text.toList with
  | 's' :: 'g' :: '-' :: suffix =>
    suffix.length = 17 && suffix.all fun rune => rune.isDigit || ('a' ≤ rune && rune ≤ 'f')
  | _ => false

theorem isSGID_shape (valid : isSGID text = true) :
    ∃ suffix : List Char, text.toList = 's' :: 'g' :: '-' :: suffix ∧
      ∀ rune ∈ suffix, rune.isDigit = true ∨ ('a' ≤ rune ∧ rune ≤ 'f') := by
  unfold isSGID at valid
  split at valid
  next suffix shape =>
    refine ⟨suffix, shape, ?_⟩
    simp only [Bool.and_eq_true, decide_eq_true_eq, all_eq_true, Bool.or_eq_true] at valid
    exact valid.2
  · cases valid

/-- `allProtocols`. -/
def allProtocols : String := "-1"

/-- `canonicalIPProtocols`. -/
def canonicalIPProtocols : List String :=
  ["tcp", "udp", "icmp", "-1"]

/-- `numericIPProtocols`. -/
def numericIPProtocols : List (String × String) :=
  [("1", "icmp"), ("6", "tcp"), ("17", "udp")]

/-- `normalizeIPProtocol`. -/
def normalizeIPProtocol (proto : String) : Except Fault String :=
  let proto := toLower (trimSpace proto)
  if proto = "" then
    .error (ErrorCode.errorf .invalidParameterValue
      ("Invalid value 'null' for protocol. VPC security group rules " ++
        "must specify protocols explicitly."))
  else
    match numericIPProtocols.lookup proto with
    | some name => .ok name
    | none =>
      if proto ∈ canonicalIPProtocols then
        .ok proto
      else
        .error (ErrorCode.errorf .invalidParameterValue ("invalid IpProtocol " ++ quote proto ++
          ": supported values are tcp, udp, icmp, -1 (or 6, 17, 1)"))

/-- `requireSGRulePorts`. -/
def requireSGRulePorts (proto : String) (fromPort toPort : Option Int) : Except Fault Unit :=
  refuse ((proto = "tcp" ∨ proto = "udp") ∧ (fromPort = none ∨ toPort = none))
    (ErrorCode.errorf .invalidParameterValue
      ("Invalid value for portRange. Must specify both from and to " ++ "ports with TCP/UDP."))

/-- `validateSGRulePorts`. -/
def validateSGRulePorts (proto : String) (fromPort toPort : Int) : Except Fault Unit :=
  refuse ((proto = "tcp" ∨ proto = "udp") ∧ toPort < fromPort)
    (ErrorCode.errorf .invalidParameterValue
      ("Invalid TCP/UDP port range(" ++ decimal fromPort ++ ":" ++ decimal toPort ++ ")"))

/--
The check of one of the two address fields: `four` tells whether its blocks are
of the first family, and `stranger` what to say of one that is not.
-/
def validateCidr (field stranger : String) (four : Bool) (cidr : String) : Except Fault Unit :=
  if cidr = "" then
    .ok ()
  else
    match parseCIDR cidr with
    | none =>
      .error (ErrorCode.errorf .invalidParameterValue ("CIDR block " ++ cidr ++ " is malformed"))
    | some net => do
        refuse (net.to4.isSome ≠ four) (Fault.plain
          ("invalid " ++ field ++ " " ++ quote cidr ++ ": " ++ stranger))
        refuse (net.netText ≠ cidr) (Fault.plain ("invalid " ++ field ++ " " ++ quote cidr ++
          ": not canonical (expected " ++ quote net.netText ++ ")"))

/-- `validateSGRule`. -/
def validateSGRule (rule : SGRule) : Except Fault Unit := do
  refuse (rule.cidrIp = "" ∧ rule.cidrIpv6 = "" ∧ rule.sourceSG = "")
    (Fault.plain "rule must specify CidrIp, CidrIpv6 or SourceSG")
  refuse (rule.ipProtocol ∉ canonicalIPProtocols)
    (Fault.plain ("invalid IpProtocol " ++ quote rule.ipProtocol ++
      ": must be one of [tcp udp icmp -1]"))
  validateCidr "CidrIp" "IPv6 belongs in CidrIpv6" true rule.cidrIp
  validateCidr "CidrIpv6" "IPv4 belongs in CidrIp" false rule.cidrIpv6
  refuse (rule.sourceSG ≠ "" ∧ isSGID rule.sourceSG = false)
    (Fault.plain ("invalid SourceSG " ++ quote rule.sourceSG ++ ": must match sg-<17 hex chars>"))

/-! ## Permissions -/

/-- An `IpRange`, an `Ipv6Range` or a `UserIdGroupPair`: what it names. -/
structure Range where
  value : Option String
  description : Option String := none
deriving DecidableEq, Repr

/-- `ec2.IpPermission`. -/
structure IpPermission where
  ipProtocol : Option String
  fromPort : Option Int := none
  toPort : Option Int := none
  ipRanges : List Range := []
  userIdGroupPairs : List Range := []
  ipv6Ranges : List Range := []
deriving DecidableEq, Repr

/-- The rules of the sources of one kind, with the descriptions given. -/
def sourcesOf (ranges : List Range) (rule : String → SGRule) : List (SGRule × Option String) :=
  ranges.filterMap fun range => range.value.map fun value => (rule value, range.description)

/-- The rules a permission stands for, in the order its loops go. -/
def IpPermission.sources (perm : IpPermission) (proto : String) (fromPort toPort : Int) :
    List (SGRule × Option String) :=
  sourcesOf perm.ipRanges (fun cidr => { ipProtocol := proto, fromPort, toPort, cidrIp := cidr }) ++
    sourcesOf perm.userIdGroupPairs (fun groupId =>
        { ipProtocol := proto, fromPort, toPort, sourceSG := groupId }) ++
    sourcesOf perm.ipv6Ranges
      (fun cidr => { ipProtocol := proto, fromPort, toPort, cidrIpv6 := cidr })

/-- The refusal of a permission that names no source. -/
def noSource : Fault :=
  Fault.plain "IpPermission must specify at least one IpRange, Ipv6Range or UserIdGroupPair"

/-- `sgParseMode`. -/
inductive ParseMode where
  | authorize
  | revoke
deriving DecidableEq, Repr

/-- The checks of the ports that only new rules have to pass. -/
def checkPorts (mode : ParseMode) (proto : String) (perm : IpPermission) : Except Fault Unit :=
  match mode with
  | .authorize => do
      requireSGRulePorts proto perm.fromPort perm.toPort
      validateSGRulePorts proto (perm.fromPort.getD 0) (perm.toPort.getD 0)
  | .revoke => .ok ()

/-- The body of the loop over permissions. -/
def permissionToSGRules (mode : ParseMode) (perm : IpPermission) : Except Fault (List SGRule) := do
  let proto ← normalizeIPProtocol (perm.ipProtocol.getD "")
  checkPorts mode proto perm
  let sources := if proto = allProtocols then
      perm.sources proto 0 0
    else
      perm.sources proto (perm.fromPort.getD 0) (perm.toPort.getD 0)
  sources.forM fun source => validateSGRule source.1
  refuse (sources = []) noSource
  return sources.map fun source => { source.1 with description := source.2.getD "" }

/-- A new rule gets the next identifier drawn when it is authorized. -/
def mint (mode : ParseMode) (draw : Nat → String) (rules : List SGRule) : List SGRule :=
  match mode with
  | .authorize =>
    rules.mapIdx fun index rule => { rule with ruleId := draw index }
  | .revoke => rules

/-- `ipPermissionsToSGRules`: entries that are absent are skipped. -/
def ipPermissionsToSGRules (perms : List (Option IpPermission)) (mode : ParseMode)
    (draw : Nat → String) : Except Fault (List SGRule) := do
  let rules ← (perms.filterMap id).mapM (permissionToSGRules mode)
  return mint mode draw rules.flatten

/-! ## Single rules -/

/-- `ec2.SecurityGroupRuleRequest`. -/
structure SecurityGroupRuleRequest where
  ipProtocol : Option String := none
  fromPort : Option Int := none
  toPort : Option Int := none
  cidrIpv4 : Option String := none
  cidrIpv6 : Option String := none
  referencedGroupId : Option String := none
  prefixListId : Option String := none
  description : Option String := none
deriving DecidableEq, Repr

/-- The ports of a requested rule: those of all protocols are stored as zero. -/
def requestPorts (proto : String) (fromPort toPort : Option Int) : Except Fault (Int × Int) :=
  if proto = "tcp" ∨ proto = "udp" then do
    requireSGRulePorts proto fromPort toPort
    validateSGRulePorts proto (fromPort.getD 0) (toPort.getD 0)
    return (fromPort.getD 0, toPort.getD 0)
  else if proto = allProtocols then do
    refuse (¬(fromPort = none ∧ toPort = none) ∧ ¬(fromPort = some (-1) ∧ toPort = some (-1)))
      (ErrorCode.errorf .invalidParameterValue
        ("You may not specify all protocols and specific ports. Please " ++
          "specify each protocol and port range combination " ++
          "individually, or all protocols and no port range."))
    return (0, 0)
  else
    return (fromPort.getD 0, toPort.getD 0)

/-- The sources a request names, in the order they are counted. -/
def SecurityGroupRuleRequest.sources (req : SecurityGroupRuleRequest) : List String :=
  [req.cidrIpv4.getD "", req.cidrIpv6.getD "",
    req.referencedGroupId.getD "", req.prefixListId.getD ""]

/-- `validateSGRule`, with every refusal answered as a bad parameter. -/
def validateRequested (rule : SGRule) : Except Fault Unit :=
  (validateSGRule rule).mapError fun fault => ErrorCode.errorf .invalidParameterValue fault.message

/-- `sgRuleRequestToSGRule`. -/
def sgRuleRequestToSGRule :
    Option SecurityGroupRuleRequest → Except Fault SGRule
  | none =>
    .error (ErrorCode.errorf .invalidParameterValue "No value specified for securityGroupRule.")
  | some req => do
      let proto ← normalizeIPProtocol (req.ipProtocol.getD "")
      let ports ← requestPorts proto req.fromPort req.toPort
      let sources := req.sources.countP (· ≠ "")
      refuse (sources = 0) (ErrorCode.errorf .missingParameter
        ("The request must contain exactly one of: cidrIp, cidrIpv6, " ++
          "prefixListId, or referencedGroupId"))
      refuse (1 < sources) (ErrorCode.errorf .invalidParameterCombination
        ("Only one of cidrIp, cidrIpv6, prefixListId, or " ++ "referencedGroupId can be specified"))
      refuse (req.prefixListId.getD "" ≠ "") (ErrorCode.errorf .invalidPrefixListIDNotFound
        ("The prefix list ID '" ++ req.prefixListId.getD "" ++ "' does not exist"))
      let rule : SGRule :=
        { ipProtocol := proto, fromPort := ports.1, toPort := ports.2
          cidrIp := req.cidrIpv4.getD ""
          cidrIpv6 := req.cidrIpv6.getD ""
          sourceSG := req.referencedGroupId.getD ""
          description := req.description.getD "" }
      refuse (rule.sourceSG ≠ "" ∧ isSGID rule.sourceSG = false)
        (ErrorCode.errorf .invalidGroupIdMalformed ("Invalid id: " ++ quote rule.sourceSG))
      validateRequested rule
      return rule

/-! ## What is accepted -/

/-- The kinds of source a rule may have. -/
inductive Source where
  | ipv4 (block : Prefix)
  | ipv6
  | group (id : String)

/-- A rule has the source and no other. -/
def SGRule.HasSource (rule : SGRule) : Source → Prop
  | .ipv4 block =>
    block.addr.family = .v4 ∧ rule.cidrIp = block.text ∧ rule.cidrIpv6 = "" ∧ rule.sourceSG = ""
  | .ipv6 => rule.cidrIp = "" ∧ rule.cidrIpv6 ≠ "" ∧ rule.sourceSG = ""
  | .group id =>
    rule.cidrIp = "" ∧ rule.cidrIpv6 = "" ∧ rule.sourceSG = id ∧ isSGID id = true

structure SGRule.WellFormed (rule : SGRule) : Prop where
  protocol : rule.ipProtocol ∈ canonicalIPProtocols
  source : ∃ source, rule.HasSource source

def SGRule.sourceFields (rule : SGRule) : List String :=
  [rule.cidrIp, rule.cidrIpv6, rule.sourceSG]

theorem validateCidr_v4
    (passed : validateCidr field stranger true cidr = .ok result) (given : cidr ≠ "") :
    ∃ block : Prefix, block.addr.family = .v4 ∧ cidr = block.text := by
  unfold validateCidr at passed
  rw [if_neg given] at passed
  split at passed
  · cases passed
  · obtain ⟨_, four, passed⟩ := bind_eq_ok passed
    have four := not_not.1 (refuse_eq_ok four)
    have canonical := not_not.1 (refuse_eq_ok passed)
    obtain ⟨block, found⟩ := Option.isSome_iff_exists.1 four
    refine ⟨block, Prefix.to4_family found, ?_⟩
    rw [← canonical, Prefix.netText, found]
    rfl

/-- A rule passes the validation and has at most one source. -/
structure SGRule.Sound (rule : SGRule) : Prop where
  valid : validateSGRule rule = .ok ()
  single : rule.sourceFields.countP (· ≠ "") ≤ 1

/-- A rule without what is not part of its permission. -/
def SGRule.bare (rule : SGRule) : SGRule :=
  { rule with ruleId := "", description := "", tags := [] }

variable {rule : SGRule}

theorem SGRule.Sound.of_bare {other : SGRule} (sound : rule.Sound)
    (same : rule.bare = other.bare) : other.Sound where
  valid := calc validateSGRule other = validateSGRule other.bare := rfl
    _ = validateSGRule rule.bare := by rw [same]
    _ = .ok () := sound.valid
  single := calc other.sourceFields.countP (· ≠ "") = other.bare.sourceFields.countP (· ≠ "") := rfl
    _ = rule.bare.sourceFields.countP (· ≠ "") := by rw [same]
    _ ≤ 1 := sound.single

/-- What the validation guarantees of a rule with one source. -/
theorem SGRule.Sound.wellFormed (sound : rule.Sound) : rule.WellFormed := by
  obtain ⟨passed, single⟩ := sound
  obtain ⟨_, some, passed⟩ := bind_eq_ok passed
  obtain ⟨_, protocol, passed⟩ := bind_eq_ok passed
  obtain ⟨_, four, passed⟩ := bind_eq_ok passed
  obtain ⟨_, -, group⟩ := bind_eq_ok passed
  have some := refuse_eq_ok some
  have protocol := not_not.1 (refuse_eq_ok protocol)
  have group := refuse_eq_ok group
  refine ⟨protocol, ?_⟩
  by_cases hasFour : rule.cidrIp = ""
  · by_cases hasSix : rule.cidrIpv6 = ""
    · have hasGroup : rule.sourceSG ≠ "" := by tauto
      refine ⟨.group rule.sourceSG, hasFour, hasSix, rfl, ?_⟩
      simpa [hasGroup] using group
    · refine ⟨.ipv6, hasFour, hasSix, ?_⟩
      by_contra hasGroup
      simp [SGRule.sourceFields, hasFour, hasSix, hasGroup] at single
  · obtain ⟨block, family, text⟩ := validateCidr_v4 four hasFour
    refine ⟨.ipv4 block, family, text, ?_, ?_⟩
    · by_contra hasSix
      simp [SGRule.sourceFields, countP_cons, hasFour, hasSix] at single
    · by_contra hasGroup
      simp [SGRule.sourceFields, countP_cons, hasFour, hasGroup] at single

variable {perm : IpPermission}

theorem sources_single (member : source ∈ perm.sources proto fromPort toPort) :
    source.1.sourceFields.countP (· ≠ "") ≤ 1 := by
  simp only [IpPermission.sources, sourcesOf, mem_append,
    mem_filterMap, Option.map_eq_some_iff] at member
  rcases member with
    (⟨_, -, value, -, rfl⟩ | ⟨_, -, value, -, rfl⟩) | ⟨_, -, value, -, rfl⟩
  all_goals by_cases empty : value = "" <;> simp [SGRule.sourceFields, empty]

variable {Item : Type} {items : List Item}

theorem forM_eq_ok {check : Item → Except Fault Unit}
    (passed : items.forM check = .ok result) : ∀ item ∈ items, check item = .ok () := by
  induction items with
  | nil => simp
  | cons first rest induction =>
    obtain ⟨_, head, tail⟩ := bind_eq_ok passed
    intro item member
    rcases mem_cons.1 member with rfl | member
    · exact head
    · exact induction tail item member

variable {mode : ParseMode} {rules : List SGRule}

/-- The rules of an accepted permission are sound. -/
theorem sound_of_permission
    (parsed : permissionToSGRules mode perm = .ok rules) : ∀ rule ∈ rules, rule.Sound := by
  obtain ⟨proto, -, parsed⟩ := bind_eq_ok parsed
  obtain ⟨_, -, parsed⟩ := bind_eq_ok parsed
  obtain ⟨_, valid, parsed⟩ := bind_eq_ok parsed
  obtain ⟨_, -, parsed⟩ := bind_eq_ok parsed
  obtain rfl := Except.ok.inj parsed
  intro rule member
  obtain ⟨source, found, rfl⟩ := mem_map.1 member
  have passed := forM_eq_ok valid source found
  have single : source.1.sourceFields.countP (· ≠ "") ≤ 1 := by
    split at found <;> exact sources_single found
  exact (SGRule.Sound.mk passed single).of_bare rfl

variable {draw : Nat → String}

theorem mem_mint
    (member : rule ∈ mint mode draw rules) : ∃ parsed ∈ rules, rule.bare = parsed.bare := by
  cases mode with
  | authorize =>
    obtain ⟨index, bound, rfl⟩ := mem_mapIdx.1 member
    exact ⟨rules[index], getElem_mem bound, rfl⟩
  | revoke => exact ⟨rule, member, rfl⟩

variable {Parsed : Type} {parse : Item → Except Fault Parsed} {all : List Parsed}

theorem mapM_eq_ok (parsed : items.mapM parse = .ok all) :
    (∀ one ∈ all, ∃ item ∈ items, parse item = .ok one) ∧
      ∀ item ∈ items, ∃ one ∈ all, parse item = .ok one := by
  induction items generalizing all with
  | nil =>
    obtain rfl := Except.ok.inj parsed
    simp
  | cons first rest induction =>
    rw [mapM_cons] at parsed
    obtain ⟨head, headParsed, parsed⟩ := bind_eq_ok parsed
    obtain ⟨tail, tailParsed, parsed⟩ := bind_eq_ok parsed
    obtain rfl := Except.ok.inj parsed
    obtain ⟨sources, results⟩ := induction tailParsed
    simp only [forall_mem_cons, exists_mem_cons_iff]
    exact ⟨⟨.inl headParsed, fun one member => .inr (sources one member)⟩,
      .inl headParsed, fun item member => .inr (results item member)⟩

theorem exists_mapM_eq_ok (each : ∀ item ∈ items, ∃ one, parse item = .ok one) :
    ∃ all, items.mapM parse = .ok all := by
  induction items with
  | nil => exact ⟨[], rfl⟩
  | cons first rest induction =>
    obtain ⟨head, headParsed⟩ := each first (.head _)
    obtain ⟨tail, tailParsed⟩ := induction fun item member => each item (.tail _ member)
    refine ⟨head :: tail, ?_⟩
    rw [mapM_cons, headParsed, tailParsed]
    rfl

/-- Every rule the permission parser accepts is sound. -/
theorem sound_of_permissions {perms : List (Option IpPermission)}
    (parsed : ipPermissionsToSGRules perms mode draw = .ok rules) : ∀ rule ∈ rules, rule.Sound := by
  obtain ⟨groups, each, parsed⟩ := bind_eq_ok parsed
  obtain rfl := Except.ok.inj parsed
  intro rule member
  obtain ⟨source, found, same⟩ := mem_mint member
  obtain ⟨group, groupMember, sourceMember⟩ := mem_flatten.1 found
  obtain ⟨perm, -, permParsed⟩ := (mapM_eq_ok each).1 group groupMember
  exact (sound_of_permission permParsed source sourceMember).of_bare same.symm

theorem mapError_eq_ok {parsed : Except Fault Parsed} {change : Fault → Fault} {result : Parsed}
    (passed : parsed.mapError change = .ok result) : parsed = .ok result := by
  cases parsed with
  | error fault => cases passed
  | ok value => exact passed

/-- Every rule the single-rule parser accepts is sound. -/
theorem sound_of_request {req : Option SecurityGroupRuleRequest}
    (parsed : sgRuleRequestToSGRule req = .ok rule) : rule.Sound := by
  cases req with
  | none => cases parsed
  | some req =>
    obtain ⟨proto, -, parsed⟩ := bind_eq_ok parsed
    obtain ⟨ports, -, parsed⟩ := bind_eq_ok parsed
    obtain ⟨_, -, parsed⟩ := bind_eq_ok parsed
    obtain ⟨_, few, parsed⟩ := bind_eq_ok parsed
    obtain ⟨_, -, parsed⟩ := bind_eq_ok parsed
    obtain ⟨_, -, parsed⟩ := bind_eq_ok parsed
    obtain ⟨_, valid, parsed⟩ := bind_eq_ok parsed
    obtain rfl := Except.ok.inj parsed
    have few := refuse_eq_ok few
    refine ⟨mapError_eq_ok valid, ?_⟩
    refine le_trans ?_ (Nat.le_of_not_lt few)
    exact List.Sublist.countP_le (sublist_append_left _ _)

/-- A rule has the permission of one that a parser accepted. -/
def SGRule.Accepted (rule : SGRule) : Prop :=
  ∃ parsed : SGRule, parsed.bare = rule.bare ∧ ((∃ perms draw rules,
      ipPermissionsToSGRules perms .authorize draw = .ok rules ∧ parsed ∈ rules) ∨
    ∃ req, sgRuleRequestToSGRule req = .ok parsed)

theorem SGRule.Accepted.wellFormed (accepted : rule.Accepted) : rule.WellFormed := by
  obtain ⟨parsed, same, ⟨_, _, _, authorized, member⟩ | ⟨_, requested⟩⟩ := accepted
  · exact ((sound_of_permissions authorized parsed member).of_bare same).wellFormed
  · exact ((sound_of_request requested).of_bare same).wellFormed

end Spinifex.Vpc
