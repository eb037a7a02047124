import Spinifex.Ovn.Match

/-!
# The access control list of a security group

Every group has a port group with one access control list: the platform's own
entries, one entry per rule, and the block of outgoing mail unless the group's
VPC is exempt.  Tenant entries are all at one priority, between the platform's
allowances and its denials.
-/

namespace Spinifex.Network

open Go Ovn Ovn.Dialect

/-! ## Priorities and names -/

/-- `ACLPriorityAllowDHCP`. -/
def aclPriorityAllowDHCP : Nat := 1050

/-- `ACLPriorityPlatformEgressBlock`. -/
def aclPriorityPlatformEgressBlock : Nat := 1049

/-- `ACLPriorityTenantAllow`. -/
def aclPriorityTenantAllow : Nat := 1000

/-- `ACLPriorityAllowARP`. -/
def aclPriorityAllowARP : Nat := 950

/-- `ACLPriorityDefaultDenyIngress`. -/
def aclPriorityDefaultDenyIngress : Nat := 900

/-- `ACLPriorityDefaultDenyEgress`. -/
def aclPriorityDefaultDenyEgress : Nat := 800

/-- `denyACLSeverity`. -/
def denyACLSeverity : Severity := .info

/-- `topology.SecurityGroupPortGroup`. -/
def securityGroupPortGroup (sgID : String) : String :=
  sgID.map fun rune => if rune = '-' then '_' else rune

/-- `addressSetName`. -/
def addressSetName (portGroupName : String) : String :=
  portGroupName ++ "_ip4"

/-- The port field a direction is matched on. -/
def portField : Direction → String
  | .toLport => "outport"
  | .fromLport => "inport"

/-- The address field a direction's remote side is matched on. -/
def remoteField : Direction → String
  | .toLport => "ip4.src"
  | .fromLport => "ip4.dst"

/-- The term that restricts an entry to the ports of a group. -/
def atPort (direction : Direction) (portGroupName : String) : String :=
  comparison (portField direction) .eq ("@" ++ portGroupName)

/-! ## Entries of rules -/

/-- `policy.Rule`. -/
structure Rule where
  ipProtocol : String
  fromPort : Int
  toPort : Int
  cidr : String
  sourceSG : String
deriving DecidableEq, Repr

/-- `appendPortMatch`. -/
def appendPortMatch (parts : List String) (proto : String) (fromPort toPort : Int) : List String :=
  if fromPort = 0 ∧ toPort = 0 then
    parts ++ [proto]
  else if fromPort = toPort then
    parts ++ [comparison (proto ++ ".dst") .eq (decimal fromPort)]
  else
    parts ++ [comparison (proto ++ ".dst") .ge (decimal fromPort),
      comparison (proto ++ ".dst") .le (decimal toPort)]

/-- An ICMP type or code, any if it is minus one. -/
def icmpMatch (field : String) (value : Int) : List String :=
  if value ≠ -1 then [comparison field .eq (decimal value)] else []

/-- `appendProtocolMatch`. -/
def appendProtocolMatch (parts : List String) (rule : Rule) : Except String (List String) :=
  if rule.ipProtocol = "tcp" then
    .ok (appendPortMatch parts "tcp" rule.fromPort rule.toPort)
  else if rule.ipProtocol = "udp" then
    .ok (appendPortMatch parts "udp" rule.fromPort rule.toPort)
  else if rule.ipProtocol = "icmp" then
    .ok (parts ++ ["icmp4"] ++ icmpMatch "icmp4.type" rule.fromPort ++
      icmpMatch "icmp4.code" rule.toPort)
  else if rule.ipProtocol = "-1" ∨ rule.ipProtocol = "" then
    .ok parts
  else
    .error ("unsupported IP protocol " ++ quote rule.ipProtocol)

/-- The terms for the remote side of a rule. -/
def remoteMatch (direction : Direction) (rule : Rule) : List String :=
  (if rule.cidr ≠ "" ∧ rule.cidr ≠ "0.0.0.0/0" then
      [comparison (remoteField direction) .eq rule.cidr]
    else
      []) ++
    if rule.sourceSG ≠ "" then
      [comparison (remoteField direction) .eq
        ("$" ++ addressSetName (securityGroupPortGroup rule.sourceSG))]
    else
      []

/-- The expression of a rule in a direction. -/
def buildACLMatch (direction : Direction) (portGroupName : String) (rule : Rule) :
    Except String String := do
  let parts ← appendProtocolMatch [atPort direction portGroupName, "ip4"] rule
  return " && ".intercalate (parts ++ remoteMatch direction rule)

/-- `BuildIngressACLMatch`. -/
def buildIngressACLMatch : String → Rule → Except String String :=
  buildACLMatch .toLport

/-- `BuildEgressACLMatch`. -/
def buildEgressACLMatch : String → Rule → Except String String :=
  buildACLMatch .fromLport

/-- The entry of a rule, given how its expression is built. -/
def ruleACLSpec (direction : Direction) (build : Rule → Except String String)
    (rule : Rule) : Except String ACLSpec := do
  let expression ← build rule
  return {
    direction
    priority := aclPriorityTenantAllow
    expression
    action := .allowRelated }

/-- `RuleACLSpecs`. -/
def ruleACLSpecs (portGroupName : String) (ingress egress : List Rule) :
    Except String (List ACLSpec) := do
  let inbound ← ingress.mapM (ruleACLSpec .toLport (buildIngressACLMatch portGroupName))
  let outbound ← egress.mapM (ruleACLSpec .fromLport (buildEgressACLMatch portGroupName))
  return inbound ++ outbound

/-! ## Entries of the platform -/

/-- A denial: it has no further condition than the port. -/
def denyACL (direction : Direction) (priority : Nat) (suffix : String)
    (portGroupName : String) : ACLSpec where
  direction := direction
  priority := priority
  expression := atPort direction portGroupName
  action := .drop
  name := portGroupName ++ suffix
  log := true
  severity := some denyACLSeverity

/-- `denyIngressACL`. -/
def denyIngressACL : String → ACLSpec :=
  denyACL .toLport aclPriorityDefaultDenyIngress "-deny-ingress"

/-- `denyEgressACL`. -/
def denyEgressACL : String → ACLSpec :=
  denyACL .fromLport aclPriorityDefaultDenyEgress "-deny-egress"

def allowACL (direction : Direction) (priority : Nat) (suffix : String)
    (terms : List String) (portGroupName : String) : ACLSpec where
  direction := direction
  priority := priority
  expression := " && ".intercalate (atPort direction portGroupName :: terms)
  action := .allow
  name := portGroupName ++ suffix

/-- `arpEgressACL`. -/
def arpEgressACL : String → ACLSpec :=
  allowACL .fromLport aclPriorityAllowARP "-allow-arp-egress" ["arp"]

/-- `arpIngressACL`. -/
def arpIngressACL : String → ACLSpec :=
  allowACL .toLport aclPriorityAllowARP "-allow-arp-ingress" ["arp"]

/-- The terms for lease packets between two ports. -/
def leaseTerms (src dst : Int) : List String :=
  ["udp", comparison "udp.src" .eq (decimal src), comparison "udp.dst" .eq (decimal dst)]

/-- `dhcpEgressACL`. -/
def dhcpEgressACL : String → ACLSpec :=
  allowACL .fromLport aclPriorityAllowDHCP "-allow-dhcp-egress" (leaseTerms 68 67)

/-- `dhcpIngressACL`. -/
def dhcpIngressACL : String → ACLSpec :=
  allowACL .toLport aclPriorityAllowDHCP "-allow-dhcp-ingress" (leaseTerms 67 68)

/-- `InfrastructureACLs`. -/
def infrastructureACLs (portGroupName : String) : List ACLSpec :=
  [denyIngressACL portGroupName, denyEgressACL portGroupName, dhcpEgressACL portGroupName,
    dhcpIngressACL portGroupName, arpEgressACL portGroupName, arpIngressACL portGroupName]

/-- `wanEgressBlockPrivateDsts`. -/
def wanEgressBlockPrivateDsts : List String :=
  ["10.0.0.0/8", "172.16.0.0/12", "192.168.0.0/16", "100.64.0.0/10", "169.254.0.0/16"]

/-- `BlockedWANEgressACL`: none if no ports are blocked. -/
def blockedWANEgressACL (portGroupName : String) (ports : List Int) : Option ACLSpec :=
  if ports = [] then
    none
  else
    some {
      direction := .fromLport
      priority := aclPriorityPlatformEgressBlock
      expression := " && ".intercalate [atPort .fromLport portGroupName, "ip4",
        comparison "ip4.dst" .ne (setText wanEgressBlockPrivateDsts),
        "tcp", comparison "tcp.dst" .eq (setText (ports.map decimal))]
      action := .drop
      name := portGroupName ++ "-block-wan-egress"
      log := true
      severity := some denyACLSeverity }

/-! ## The whole list -/

/-- `SGSpec`. -/
structure SGSpec where
  groupID : String
  vpcID : String
  ingressRules : List Rule
  egressRules : List Rule
deriving DecidableEq, Repr

/-- `EgressPolicy`: the blocked ports and the VPCs exempt from the block. -/
structure EgressPolicy where
  blockedWANPorts : List Int := []
  exemptVPCs : List String := []
deriving DecidableEq, Repr

/-- The block of a group, none if its VPC is exempt. -/
def EgressPolicy.block (policy : EgressPolicy) (sg : SGSpec) : Option ACLSpec :=
  if sg.vpcID ∈ policy.exemptVPCs then
    none
  else
    blockedWANEgressACL (securityGroupPortGroup sg.groupID) policy.blockedWANPorts

/-- `applyACLs`: the list that replaces the one of the group's port group. -/
def applyACLs (policy : EgressPolicy) (sg : SGSpec) : Except String (List ACLSpec) :=
  let portGroup := securityGroupPortGroup sg.groupID
  match ruleACLSpecs portGroup sg.ingressRules sg.egressRules with
  | .error fault => .error ("build ACLs for " ++ portGroup ++ ": " ++ fault)
  | .ok specs =>
    .ok (infrastructureACLs portGroup ++ specs ++ (policy.block sg).toList)

end Spinifex.Network
