import Mathlib.Data.List.AList
import Spinifex.Concurrency.Shelf
import Spinifex.Vpc.SecurityRules

/-!
# Requests that change the rules of security groups

An account's groups are records with two sides of rules.  A request loads the
record of its group, computes the new one, writes it and announces it to the
network daemon.  Everything up to the write is a computation on the records
read; the write may fail, whether or not it was stored, and the announcement
may fail after it.
-/

namespace Spinifex.Vpc

open Concurrency (WriteReply)
open Go

/-! ## Records -/

/-- The parts of `SecurityGroupRecord` that requests on rules use. -/
structure SecurityGroupRecord where
  vpcId : String
  ingressRules : List SGRule
  egressRules : List SGRule
deriving DecidableEq, Repr

namespace SecurityGroupRecord

variable (record : SecurityGroupRecord)

def side (egress : Bool) : List SGRule :=
  if egress then record.egressRules else record.ingressRules

/-- The record with the rules of one side replaced. -/
def withSide (egress : Bool) (rules : List SGRule) : SecurityGroupRecord :=
  if egress then { record with egressRules := rules } else { record with ingressRules := rules }

@[simp]
theorem side_withSide (egress : Bool) (rules : List SGRule) :
    (record.withSide egress rules).side egress = rules := by
  cases egress <;> rfl

@[simp]
theorem side_withSide_not (egress : Bool) (rules : List SGRule) :
    (record.withSide egress rules).side (!egress) = record.side (!egress) := by
  cases egress <;> rfl

end SecurityGroupRecord

abbrev Groups : Type :=
  AList (fun _ : String => SecurityGroupRecord)

/-- `maxRulesPerSGSide`. -/
def maxRulesPerSGSide : Nat := 60

/-- `sgRuleKey`: the text rules are matched by. -/
def sgRuleKey (rule : SGRule) : String :=
  let ports := if rule.ipProtocol = allProtocols then (0, 0) else (rule.fromPort, rule.toPort)
  rule.ipProtocol ++ ":" ++ decimal ports.1 ++ ":" ++ decimal ports.2 ++
    ":" ++ rule.cidrIp ++ ":" ++ rule.cidrIpv6 ++ ":" ++ rule.sourceSG

/-! ## Errors about groups and rules -/

/-- `sgNotFoundError`. -/
def sgNotFoundError (id : String) : Fault :=
  ErrorCode.errorf .invalidGroupNotFound ("The security group '" ++ id ++ "' does not exist")

/-- `icmpField`. -/
def icmpField (value : Int) : String :=
  if value = -1 then "ALL" else decimal value

/-- The first source of a rule that is given. -/
def peerOf (rule : SGRule) : String :=
  if rule.cidrIp ≠ "" then
    rule.cidrIp
  else if rule.cidrIpv6 ≠ "" then rule.cidrIpv6 else rule.sourceSG

/-- `sgRuleDuplicateError`. -/
def sgRuleDuplicateError (rule : SGRule) : Fault :=
  let peer := peerOf rule
  let desc := if rule.ipProtocol = allProtocols then
      "peer: " ++ peer ++ ", ALL, ALLOW"
    else if rule.ipProtocol = "icmp" then
      "peer: " ++ peer ++ ", ICMP, type: " ++ icmpField rule.fromPort ++
        ", code: " ++ icmpField rule.toPort ++ ", ALLOW"
    else
      "peer: " ++ peer ++ ", " ++ rule.ipProtocol.toUpper ++
        ", from port: " ++ decimal rule.fromPort ++ ", to port: " ++
        decimal rule.toPort ++ ", ALLOW"
  ErrorCode.errorf .invalidPermissionDuplicate
    ("the specified rule " ++ quote desc ++ " already exists")

/-- `SGRuleIDIsMalformed`. -/
def sgRuleIDIsMalformed (id : String) : Bool :=
  match id.toList with
  | 's' :: 'g' :: 'r' :: '-' :: suffix =>
    17 < (String.ofList suffix).utf8ByteSize
  | _ => true

/-- `sgRuleIDLookupError`. -/
def sgRuleIDLookupError (id : String) : Fault :=
  if sgRuleIDIsMalformed id then
    ErrorCode.errorf .invalidSecurityGroupRuleIdMalformed ("Invalid id: " ++ quote id)
  else
    ErrorCode.errorf .invalidSecurityGroupRuleIdNotFound
      ("The security group rule ID '" ++ id ++ "' does not exist")

/-! ## Loading and committing -/

/--
What a request meets: whether records can be read, whether the VPC exists, the
identifiers it draws, and how its write and its announcement end.
-/
structure Surroundings where
  readable : String → Bool
  requireVPCExists : String → Except Fault Unit
  draw : Nat → String
  written : WriteReply Unit
  announced : Except Fault Unit

/-- What a request has decided to do. -/
structure Plan where
  groupId : String
  record : Option SecurityGroupRecord
  answer : List SGRule

variable (surroundings : Surroundings) (groups : Groups)

/-- A record, absent if it cannot be read. -/
def get (groupId : String) : Option SecurityGroupRecord :=
  if surroundings.readable groupId then groups.lookup groupId else none

/-- The record a request is about. -/
def load (groupId : Option String) : Except Fault (String × SecurityGroupRecord) :=
  match groupId with
  | none => .error (ErrorCode.fault .missingParameter)
  | some groupId =>
    if groupId = "" then
      .error (ErrorCode.fault .missingParameter)
    else
      match get surroundings groups groupId with
      | none => .error (sgNotFoundError groupId)
      | some record => .ok (groupId, record)

/-- The end of a request: the write, and after it the announcement. -/
def respond :
    Except Fault Plan → Groups × Except Fault (List SGRule)
  | .error fault => (groups, .error fault)
  | .ok plan =>
    match plan.record with
    | none => (groups, .ok plan.answer)
    | some record =>
      (if surroundings.written.stored then groups.insert plan.groupId record else groups,
        match surroundings.written with
        | .acknowledged => surroundings.announced.map fun _ => plan.answer
        | .failed _ _ => .error (ErrorCode.fault .serverInternal))

/-- `validateSGRuleReferences`: the source groups are in the same VPC. -/
def validateSGRuleReferences (ownerVpcId : String) (rules : List SGRule) : Except Fault Unit :=
  rules.forM fun rule => if rule.sourceSG = "" then
      .ok ()
    else
      match get surroundings groups rule.sourceSG with
      | none => .error (sgNotFoundError rule.sourceSG)
      | some record =>
        refuse (record.vpcId ≠ ownerVpcId) (sgNotFoundError rule.sourceSG)

/-! ## Authorize -/

/-- The parts of an authorize request. -/
structure AuthorizeInput where
  groupId : Option String
  ipPermissions : List (Option IpPermission)
  tags : List (String × String) := []
deriving DecidableEq, Repr

/-- A refusal without a code is answered as a bad parameter. -/
def codedOr (other : Fault → Fault) (fault : Fault) : Fault :=
  if fault.code.isSome then fault else other fault

/-- `applySGRuleTags`. -/
def applySGRuleTags (rules : List SGRule) (tags : List (String × String)) : List SGRule :=
  if tags = [] then rules else rules.map fun rule => { rule with tags }

/-- The refusal of the first rule whose key is taken. -/
def refuseTaken (keys : List String) (rules : List SGRule) : Except Fault Unit :=
  match rules.find? fun rule => sgRuleKey rule ∈ keys with
  | some rule => .error (sgRuleDuplicateError rule)
  | none => .ok ()

/-- What an authorize request on one side does. -/
def authorizePlan (egress : Bool) (input : AuthorizeInput) : Except Fault Plan := do
  let (groupId, record) ← load surroundings groups input.groupId
  surroundings.requireVPCExists record.vpcId
  let parsed ← (ipPermissionsToSGRules input.ipPermissions .authorize surroundings.draw).mapError
    (codedOr fun fault => ErrorCode.errorf .invalidParameterValue fault.message)
  let newRules := applySGRuleTags parsed input.tags
  validateSGRuleReferences surroundings groups record.vpcId newRules
  refuseTaken ((record.side egress).map sgRuleKey) newRules
  refuse (maxRulesPerSGSide < (record.side egress).length + newRules.length)
    (ErrorCode.fault .rulesPerSecurityGroupLimitExceeded)
  return {
    groupId
    record := some (record.withSide egress (record.side egress ++ newRules))
    answer := newRules }

/-- `AuthorizeSecurityGroupIngress`. -/
def authorizeSecurityGroupIngress (input : AuthorizeInput) : Groups × Except Fault (List SGRule) :=
  respond surroundings groups (authorizePlan surroundings groups false input)

/-- `AuthorizeSecurityGroupEgress`. -/
def authorizeSecurityGroupEgress (input : AuthorizeInput) : Groups × Except Fault (List SGRule) :=
  respond surroundings groups (authorizePlan surroundings groups true input)

/-! ## Revoke -/

/-- The parts of a revoke request. -/
structure RevokeInput where
  groupId : Option String
  ipPermissions : List (Option IpPermission) := []
  securityGroupRuleIds : List (Option String) := []
deriving DecidableEq, Repr

/-- The rule with an identifier; of several the last. -/
def ruleByID (rules : List SGRule) (id : String) : Option SGRule :=
  rules.reverse.find? fun rule => rule.ruleId = id

/-- The rule an identifier names, or the error of its lookup. -/
def resolveRuleID (existing : List SGRule) (id : String) : Except Fault SGRule :=
  match ruleByID existing id with
  | some rule => .ok rule
  | none => .error (sgRuleIDLookupError id)

/-- `resolveRuleIDsToRemove`: absent and empty identifiers are skipped. -/
def resolveRuleIDsToRemove
    (existing : List SGRule) (ruleIDs : List (Option String)) : Except Fault (List SGRule) :=
  ((ruleIDs.filterMap id).filter (· ≠ "")).mapM (resolveRuleID existing)

/-- `assertRulesPresent`. -/
def assertRulesPresent (existing toRevoke : List SGRule) : Except Fault Unit :=
  refuse (¬∀ rule ∈ toRevoke, sgRuleKey rule ∈ existing.map sgRuleKey)
    (ErrorCode.fault .invalidPermissionNotFound)

/-- `removeSGRules`. -/
def removeSGRules (existing toRemove : List SGRule) : List SGRule :=
  existing.filter fun rule => sgRuleKey rule ∉ toRemove.map sgRuleKey

/-- What a revoke request on one side does. -/
def revokePlan (egress : Bool) (input : RevokeInput) : Except Fault Plan := do
  let (groupId, record) ← load surroundings groups input.groupId
  let named ← (ipPermissionsToSGRules input.ipPermissions .revoke surroundings.draw).mapError
    (codedOr fun _ => ErrorCode.fault .invalidParameterValue)
  let idRules ← resolveRuleIDsToRemove (record.side egress) input.securityGroupRuleIds
  let revokeRules := named ++ idRules
  if revokeRules = [] then
    return { groupId, record := none, answer := [] }
  else do
    assertRulesPresent (record.side egress) revokeRules
    return {
      groupId
      record := some (record.withSide egress (removeSGRules (record.side egress) revokeRules))
      answer := [] }

/-- `RevokeSecurityGroupIngress`. -/
def revokeSecurityGroupIngress (input : RevokeInput) : Groups × Except Fault (List SGRule) :=
  respond surroundings groups (revokePlan surroundings groups false input)

/-- `RevokeSecurityGroupEgress`. -/
def revokeSecurityGroupEgress (input : RevokeInput) : Groups × Except Fault (List SGRule) :=
  respond surroundings groups (revokePlan surroundings groups true input)

/-! ## Descriptions -/

/-- `ec2.SecurityGroupRuleDescription`. -/
structure SecurityGroupRuleDescription where
  securityGroupRuleId : Option String
  description : Option String := none
deriving DecidableEq, Repr

/-- `sgDescriptionRequest`. -/
structure DescriptionInput where
  groupId : Option String
  descriptions : List SecurityGroupRuleDescription := []
  ipPermissions : List (Option IpPermission) := []
deriving DecidableEq, Repr

/-- `sgDescriptionTarget`. -/
structure DescriptionTarget where
  key : String
  description : Option String
deriving DecidableEq, Repr

/-- The index of the last rule that satisfies a test. -/
def lastIndex (rules : List SGRule) (test : SGRule → Bool) : Option Nat :=
  (rules.reverse.findIdx? test).map fun index => rules.length - 1 - index

/-- A rule with a description given to it, or its own. -/
def SGRule.describe (rule : SGRule) (description : Option String) : SGRule :=
  { rule with description := description.getD rule.description }

def permissionToTargets (perm : IpPermission) : Except Fault (List DescriptionTarget) := do
  let proto ← normalizeIPProtocol (perm.ipProtocol.getD "")
  let sources := perm.sources proto (perm.fromPort.getD 0) (perm.toPort.getD 0)
  sources.forM fun source => validateSGRule source.1
  refuse (sources = []) noSource
  return sources.map fun source => ⟨sgRuleKey source.1, source.2⟩

/-- `ipPermissionsToDescriptionTargets`. -/
def ipPermissionsToDescriptionTargets (perms : List (Option IpPermission)) :
    Except Fault (List DescriptionTarget) := do
  let targets ← (perms.filterMap id).mapM permissionToTargets
  return targets.flatten

/-- The description of the rule at the index found. -/
def describeAt (fault : Fault) (index : Option Nat) (description : Option String)
    (out : List SGRule) : Except Fault (List SGRule) :=
  match index with
  | none => .error fault
  | some index => .ok (out.modify index (·.describe description))

/-- `applySGRuleDescriptions`. -/
def applySGRuleDescriptions (rules : List SGRule) (descriptions : List SecurityGroupRuleDescription)
    (permissions : List (Option IpPermission)) : Except Fault (List SGRule) := do
  let out ← descriptions.foldlM (fun out entry => match entry.securityGroupRuleId.getD "" with
    | "" => .error (ErrorCode.fault .invalidSecurityGroupRuleIdMalformed)
    | id =>
      describeAt (sgRuleIDLookupError id) (lastIndex rules fun rule => rule.ruleId = id)
        entry.description out) rules
  let targets ← (ipPermissionsToDescriptionTargets permissions).mapError fun fault =>
      ErrorCode.errorf .invalidParameterValue ("invalid IpPermissions: " ++ fault.message)
  targets.foldlM (fun out target => describeAt (ErrorCode.fault .invalidPermissionNotFound)
    (lastIndex rules fun rule => sgRuleKey rule = target.key)
    target.description out) out

/-- What a description request on one side does. -/
def describePlan (egress : Bool) (input : DescriptionInput) : Except Fault Plan := do
  refuse (input.groupId.getD "" = "") (ErrorCode.fault .missingParameter)
  refuse (input.descriptions = [] ∧ input.ipPermissions = []) (ErrorCode.fault .missingParameter)
  refuse (input.descriptions ≠ [] ∧ input.ipPermissions ≠ [])
    (ErrorCode.fault .invalidParameterCombination)
  let (groupId, record) ← load surroundings groups input.groupId
  let updated ← applySGRuleDescriptions (record.side egress) input.descriptions input.ipPermissions
  return {
    groupId
    record := some (record.withSide egress updated)
    answer := [] }

/-- `UpdateSecurityGroupRuleDescriptionsIngress`. -/
def updateSecurityGroupRuleDescriptionsIngress (input : DescriptionInput) :
    Groups × Except Fault (List SGRule) :=
  respond surroundings groups (describePlan surroundings groups false input)

/-- `UpdateSecurityGroupRuleDescriptionsEgress`. -/
def updateSecurityGroupRuleDescriptionsEgress (input : DescriptionInput) :
    Groups × Except Fault (List SGRule) :=
  respond surroundings groups (describePlan surroundings groups true input)

/-! ## Modify -/

/-- `ec2.SecurityGroupRuleUpdate`. -/
structure SecurityGroupRuleUpdate where
  securityGroupRuleId : Option String
  securityGroupRule : Option SecurityGroupRuleRequest
deriving DecidableEq, Repr

/-- The parts of a modify request. -/
structure ModifyInput where
  groupId : Option String
  securityGroupRules : List SecurityGroupRuleUpdate
deriving DecidableEq, Repr

/-- `sgRuleSourceField`. -/
def sgRuleSourceField (rule : SGRule) : String :=
  if rule.cidrIpv6 ≠ "" then
    "CidrIpv6"
  else if rule.sourceSG ≠ "" then "ReferencedGroupId" else "CidrIpv4"

/-- `sgRuleModification`. -/
structure Modification where
  egress : Bool
  index : Nat
  rule : SGRule
deriving DecidableEq, Repr

/-- The side and index of the first rule with an identifier, ingress first. -/
def locate (record : SecurityGroupRecord) (id : String) : Option (Bool × Nat) :=
  match record.ingressRules.findIdx? fun rule => rule.ruleId = id with
  | some index => some (false, index)
  | none =>
    (record.egressRules.findIdx? fun rule => rule.ruleId = id).map fun index => (true, index)

/-- The identifier an update names, checked against those before it. -/
def updateID (seen : List String) (update : SecurityGroupRuleUpdate) : Except Fault String :=
  match update.securityGroupRuleId with
  | none =>
    .error (ErrorCode.errorf .missingParameter
      "The request must contain the parameter securityGroupRuleId")
  | some id => do
      refuse (sgRuleIDIsMalformed id) (sgRuleIDLookupError id)
      refuse (id ∈ seen) (ErrorCode.errorf .invalidParameterValue
        ("Duplicated security group rule ID '" ++ id ++
          "'. The same security group rule ID must not appear " ++
          "multiple times."))
      return id

/-- The body of the loop that resolves updates. -/
def resolveUpdate (record : SecurityGroupRecord) (id : String)
    (update : SecurityGroupRuleUpdate) : Except Fault Modification :=
  match locate record id with
  | none => .error (sgRuleIDLookupError id)
  | some (egress, index) =>
    match (record.side egress)[index]? with
    | none => .error (sgRuleIDLookupError id)
    | some current => do
        let rule ← sgRuleRequestToSGRule update.securityGroupRule
        refuse (sgRuleSourceField rule ≠ sgRuleSourceField current)
          (ErrorCode.errorf .invalidParameterValue
            ("Invalid rule type for security group rule '" ++ id ++
              "'. You may not specify " ++ sgRuleSourceField rule ++
              " for an existing " ++ sgRuleSourceField current ++
              " rule."))
        return {
          egress
          index
          rule :=
            { rule with ruleId := current.ruleId, tags := current.tags } }

def resolveUpdates (record : SecurityGroupRecord) :
    List String → List SecurityGroupRuleUpdate → Except Fault (List Modification)
  | _, [] => .ok []
  | seen, update :: rest => do
      let id ← updateID seen update
      let mod ← resolveUpdate record id update
      let mods ← resolveUpdates record (id :: seen) rest
      return mod :: mods

/-- `checkSGRuleModificationDuplicates`. -/
def checkSGRuleModificationDuplicates (record : SecurityGroupRecord) (mods : List Modification)
    (egress : Bool) : Except Fault Unit := do
  let own := mods.filter fun mod => mod.egress = egress
  refuse (¬(own.map fun mod => sgRuleKey mod.rule).Nodup)
    (ErrorCode.errorf .invalidParameterValue "The same permission must not appear multiple times")
  match (record.side egress).zipIdx.find? fun entry =>
      entry.2 ∉ own.map Modification.index ∧
        sgRuleKey entry.1 ∈ own.map fun mod => sgRuleKey mod.rule with
  | some entry => .error (sgRuleDuplicateError entry.1)
  | none => .ok ()

/-- A record with one modification made. -/
def SecurityGroupRecord.apply
    (record : SecurityGroupRecord) (mod : Modification) : SecurityGroupRecord :=
  record.withSide mod.egress ((record.side mod.egress).set mod.index mod.rule)

/-- `applySGRuleModifications`: the new record and the modified rules. -/
def applySGRuleModifications (record : SecurityGroupRecord)
    (updates : List SecurityGroupRuleUpdate) :
    Except Fault (SecurityGroupRecord × List SGRule) := do
  let mods ← resolveUpdates record [] updates
  checkSGRuleModificationDuplicates record mods false
  checkSGRuleModificationDuplicates record mods true
  return (mods.foldl SecurityGroupRecord.apply record, mods.map Modification.rule)

/-- What a modify request does. -/
def modifyPlan (input : ModifyInput) : Except Fault Plan := do
  refuse (input.groupId.getD "" = "") (ErrorCode.fault .missingParameter)
  refuse (input.securityGroupRules = []) (ErrorCode.errorf .missingParameter
    "The request must contain the parameter securityGroupRules")
  let (groupId, record) ← load surroundings groups input.groupId
  surroundings.requireVPCExists record.vpcId
  let (changed, modified) ← applySGRuleModifications record input.securityGroupRules
  validateSGRuleReferences surroundings groups record.vpcId modified
  return { groupId, record := some changed, answer := [] }

/-- `ModifySecurityGroupRules`. -/
def modifySecurityGroupRules (input : ModifyInput) : Groups × Except Fault (List SGRule) :=
  respond surroundings groups (modifyPlan surroundings groups input)

/-! ## Requests -/

/-- A request that changes rules. -/
inductive Request where
  | authorize (egress : Bool) (input : AuthorizeInput)
  | revoke (egress : Bool) (input : RevokeInput)
  | describe (egress : Bool) (input : DescriptionInput)
  | modify (input : ModifyInput)
deriving DecidableEq, Repr

def Request.groupId : Request → Option String
  | .authorize _ input => input.groupId
  | .revoke _ input => input.groupId
  | .describe _ input => input.groupId
  | .modify input => input.groupId

def handle : Request → Groups × Except Fault (List SGRule)
  | .authorize false input =>
    authorizeSecurityGroupIngress surroundings groups input
  | .authorize true input =>
    authorizeSecurityGroupEgress surroundings groups input
  | .revoke false input => revokeSecurityGroupIngress surroundings groups input
  | .revoke true input => revokeSecurityGroupEgress surroundings groups input
  | .describe false input =>
    updateSecurityGroupRuleDescriptionsIngress surroundings groups input
  | .describe true input =>
    updateSecurityGroupRuleDescriptionsEgress surroundings groups input
  | .modify input => modifySecurityGroupRules surroundings groups input

/-- What a request does up to its write. -/
def Request.plan : Request → Except Fault Plan
  | .authorize egress input => authorizePlan surroundings groups egress input
  | .revoke egress input => revokePlan surroundings groups egress input
  | .describe egress input => describePlan surroundings groups egress input
  | .modify input => modifyPlan surroundings groups input

theorem handle_eq_respond (request : Request) :
    handle surroundings groups request =
      respond surroundings groups (request.plan surroundings groups) := by
  rcases request with ⟨egress, _⟩ | ⟨egress, _⟩ | ⟨egress, _⟩ | _
  · cases egress <;> rfl
  · cases egress <;> rfl
  · cases egress <;> rfl
  · rfl

/-! ## Describe -/

/-- The protocol and ports that rules of one permission share. -/
@[ext]
structure PermKey where
  ipProtocol : String
  fromPort : Int
  toPort : Int
deriving DecidableEq, Repr

/-- The key a rule is grouped by. -/
def permKey (rule : SGRule) : PermKey :=
  if rule.ipProtocol = allProtocols then
    ⟨rule.ipProtocol, 0, 0⟩
  else
    ⟨rule.ipProtocol, rule.fromPort, rule.toPort⟩

/-- A permission with no sources yet. -/
def emptyPermission (rule : SGRule) : IpPermission where
  ipProtocol := some rule.ipProtocol
  fromPort := if rule.ipProtocol = allProtocols then none else some rule.fromPort
  toPort := if rule.ipProtocol = allProtocols then none else some rule.toPort

/-- A source with the description of its rule, if it has one. -/
def rangeOf (value description : String) : List Range :=
  if value = "" then
    []
  else
    [{ value := some value
       description := if description = "" then none else some description }]

/-- A permission with the sources of a rule added. -/
def IpPermission.add (perm : IpPermission) (rule : SGRule) : IpPermission :=
  { perm with
    ipRanges := perm.ipRanges ++ rangeOf rule.cidrIp rule.description
    ipv6Ranges := perm.ipv6Ranges ++ rangeOf rule.cidrIpv6 rule.description
    userIdGroupPairs := perm.userIdGroupPairs ++ rangeOf rule.sourceSG rule.description }

/-- The permissions with a rule added to the one with its key. -/
def groupRule (rule : SGRule) :
    List (PermKey × IpPermission) → List (PermKey × IpPermission)
  | [] => [(permKey rule, (emptyPermission rule).add rule)]
  | (key, perm) :: rest =>
    if key = permKey rule then (key, perm.add rule) :: rest else (key, perm) :: groupRule rule rest

/-- `sgRulesToIpPermissions`, in the order the keys were first met. -/
def sgRulesToIpPermissions (rules : List SGRule) : List IpPermission :=
  (rules.foldl (fun perms rule => groupRule rule perms) []).map Prod.snd

end Spinifex.Vpc
