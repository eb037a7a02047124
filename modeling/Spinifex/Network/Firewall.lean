import Spinifex.Network.Acl
import Spinifex.Vpc.SecurityRules

/-!
# What a security group lets through

The rules of a group are turned into its access control list, and the list is
compared with what the rules mean.  For a rule that a parser accepted, the entry
built for it matches the packets it admits, with two exceptions: a rule for port
zero matches every port of its protocol, and a range with a bound that a switch
cannot read matches nothing.  The comparison of the whole list with the whole
set of rules holds exactly where these exceptions are covered by other rules.
-/

namespace Spinifex.Network

open Go Go.Netip Ovn Ovn.Dialect List Facts
open Vpc (SGRule isSGID canonicalIPProtocols allProtocols)

/-! ## From stored rules to the list -/

/-- A stored rule as the list's builder takes it. -/
def policyRule (rule : SGRule) : Rule where
  ipProtocol := rule.ipProtocol
  fromPort := rule.fromPort
  toPort := rule.toPort
  cidr := rule.cidrIp
  sourceSG := rule.sourceSG

/-- `toPolicyRules`: a rule without an IPv4 source is dropped. -/
def toPolicyRules (rules : List SGRule) : List Rule :=
  rules.filterMap fun rule => if rule.cidrIp = "" ∧ rule.sourceSG = "" then
      none
    else
      some (policyRule rule)

/-- `toSGSpec` of the event `buildSecurityGroupEvent` makes. -/
def toSGSpec (groupId vpcId : String) (ingress egress : List SGRule) : SGSpec where
  groupID := groupId
  vpcID := vpcId
  ingressRules := toPolicyRules ingress
  egressRules := toPolicyRules egress

/-! ## Packets -/

/-- What an IPv4 packet carries. -/
inductive Transport where
  | tcp (src dst : BitVec 16)
  | udp (src dst : BitVec 16)
  | icmp (type code : BitVec 8)
  | other (protocol : Nat)
deriving DecidableEq, Repr

/-- An IPv4 packet to or from a port. -/
structure Packet where
  direction : Direction
  src : BitVec 32
  dst : BitVec 32
  transport : Transport
deriving DecidableEq, Repr

/-- Which groups the packet's port is in, and the addresses of every group. -/
structure Membership where
  attached : String → Bool
  members : String → Addr → Bool

/-- The address of the other side. -/
def Packet.remote (packet : Packet) : Addr :=
  match packet.direction with
  | .toLport => Addr.v4 packet.src.toNat
  | .fromLport => Addr.v4 packet.dst.toNat

/-- The protocol flags of a packet. -/
def Transport.flags : Transport → List String
  | .tcp _ _ => ["tcp"]
  | .udp _ _ => ["udp"]
  | .icmp _ _ => ["icmp4"]
  | .other _ => []

/-- The number fields of a packet. -/
def Transport.numbers : Transport → List (String × Int)
  | .tcp src dst => [("tcp.src", src.toNat), ("tcp.dst", dst.toNat)]
  | .udp src dst => [("udp.src", src.toNat), ("udp.dst", dst.toNat)]
  | .icmp type code => [("icmp4.type", type.toNat), ("icmp4.code", code.toNat)]
  | .other _ => []

/-- The group a port group belongs to. -/
def groupOfPortGroup (name : String) : String :=
  match name.toList with
  | 's' :: 'g' :: '_' :: suffix => String.ofList ('s' :: 'g' :: '-' :: suffix)
  | _ => name

/-- The group whose addresses an address set holds. -/
def groupOfAddressSet (name : String) : String :=
  groupOfPortGroup (String.ofList (name.toList.take (name.toList.length - 4)))

/-- What a switch knows of a packet at a port. -/
def Packet.facts (packet : Packet) (membership : Membership) : Facts where
  flag name := name = "ip4" || decide (name ∈ packet.transport.flags)
  number field := packet.transport.numbers.lookup field
  address field := [("ip4.src", Addr.v4 packet.src.toNat),
    ("ip4.dst", Addr.v4 packet.dst.toNat)].lookup field
  inPortGroup field name := field = portField packet.direction &&
    membership.attached (groupOfPortGroup name)
  inAddressSet name addr := membership.members (groupOfAddressSet name) addr

/-- A lease packet: from the client's port to the server's, or back. -/
def Packet.isDHCP (packet : Packet) : Bool :=
  match packet.direction, packet.transport with
  | .fromLport, .udp src dst => src.toNat = 68 && dst.toNat = 67
  | .toLport, .udp src dst => src.toNat = 67 && dst.toNat = 68
  | _, _ => false

/-- A packet the platform's block covers in a VPC. -/
def EgressPolicy.covers (policy : EgressPolicy) (vpcID : String) (packet : Packet) : Bool :=
  match packet.direction, packet.transport with
  | .fromLport, .tcp _ dst =>
    vpcID ∉ policy.exemptVPCs && decide ((dst.toNat : Int) ∈ policy.blockedWANPorts) &&
      !(wanEgressBlockPrivateDsts.any fun block =>
        (parsePrefix block).any (·.contains packet.remote))
  | _, _ => false

/-! ## What rules mean -/

/-- The protocol, and its ports or type and code, are the rule's. -/
def admitsTransport (rule : SGRule) (transport : Transport) : Bool :=
  rule.ipProtocol = allProtocols || match transport with
    | .tcp _ dst =>
      rule.ipProtocol = "tcp" && rule.fromPort ≤ dst.toNat && dst.toNat ≤ rule.toPort
    | .udp _ dst =>
      rule.ipProtocol = "udp" && rule.fromPort ≤ dst.toNat && dst.toNat ≤ rule.toPort
    | .icmp type code =>
      rule.ipProtocol = "icmp" && (rule.fromPort = -1 || rule.fromPort = type.toNat) &&
        (rule.toPort = -1 || rule.toPort = code.toNat)
    | .other _ => false

/-- The remote address is in the rule's block or its source group. -/
def admitsRemote (membership : Membership) (rule : SGRule) (remote : Addr) : Bool :=
  (rule.cidrIp ≠ "" && (parsePrefix rule.cidrIp).any (·.contains remote)) ||
    (rule.sourceSG ≠ "" && membership.members rule.sourceSG remote)

/-- A rule admits a packet of its direction. -/
def admits (membership : Membership) (packet : Packet) (rule : SGRule) : Bool :=
  admitsTransport rule packet.transport && admitsRemote membership rule packet.remote

/-- The rules for the direction of a packet. -/
def rulesFor (direction : Direction) (ingress egress : List SGRule) : List SGRule :=
  match direction with
  | .toLport => ingress
  | .fromLport => egress

/-! ## Where the list differs from the rules -/

/-- A rule for port zero, and a packet of its protocol. -/
def widens (rule : SGRule) (transport : Transport) : Bool :=
  rule.fromPort = 0 && rule.toPort = 0 && match transport with
    | .tcp _ _ => rule.ipProtocol = "tcp"
    | .udp _ _ => rule.ipProtocol = "udp"
    | _ => false

/-- Both bounds of a range of ports can be read. -/
def legible (dialect : Dialect) (rule : SGRule) : Bool :=
  (rule.ipProtocol ≠ "tcp" && rule.ipProtocol ≠ "udp") || rule.fromPort = rule.toPort ||
    (dialect.reads rule.fromPort && dialect.reads rule.toPort)

/-- The terms of a rule's entry for the protocol match a packet. -/
def carriesTransport (dialect : Dialect) (rule : SGRule) (transport : Transport) : Bool :=
  widens rule transport || (admitsTransport rule transport && legible dialect rule)

/-- The entry of a rule lets a packet through. -/
def carries (dialect : Dialect) (membership : Membership) (packet : Packet)
    (rule : SGRule) : Bool :=
  carriesTransport dialect rule packet.transport && admitsRemote membership rule packet.remote

/--
The exceptions are covered: where a rule for port zero lets a packet through,
some rule admits it; and where a rule with an unreadable bound admits a packet,
some rule lets it through.
-/
structure Undistorted (dialect : Dialect) (membership : Membership) (packet : Packet)
    (rules : List SGRule) : Prop where
  widened : ∀ rule ∈ rules, widens rule packet.transport = true →
    admitsRemote membership rule packet.remote = true →
      ∃ other ∈ rules, admits membership packet other = true
  unread : ∀ rule ∈ rules, admits membership packet rule = true → legible dialect rule = false →
    ∃ other ∈ rules, carries dialect membership packet other = true

/-! ## Names of groups -/

section

variable {group : String} (valid : isSGID group = true)

include valid

theorem portGroup_shape :
    ∃ suffix : List Char, group.toList = 's' :: 'g' :: '-' :: suffix ∧
      (securityGroupPortGroup group).toList = 's' :: 'g' :: '_' :: suffix ∧
      Plain suffix := by
  obtain ⟨suffix, shape, runes⟩ := Vpc.isSGID_shape valid
  have kept : suffix.map (fun rune => if rune = '-' then '_' else rune) = suffix := by
    have same : ∀ rune ∈ suffix, (if rune = '-' then '_' else rune) = rune := by
      intro rune member
      apply if_neg
      rintro rfl
      exact absurd (runes '-' member) (by decide)
    exact (map_congr_left same).trans (map_id suffix)
  refine ⟨suffix, shape, ?_, ?_⟩
  · simp [securityGroupPortGroup, shape, kept]
  · intro rune member
    rcases runes rune member with digit | ⟨low, high⟩
    · refine ⟨?_, ?_⟩ <;> rintro rfl <;> exact absurd digit (by decide)
    · refine ⟨?_, ?_⟩ <;> rintro rfl <;> exact absurd low (by decide)

theorem plain_portGroup : Plain (securityGroupPortGroup group).toList := by
  obtain ⟨suffix, -, shape, plain⟩ := portGroup_shape valid
  rw [shape]
  simp only [Plain, forall_mem_cons]
  exact ⟨by decide, by decide, by decide, plain⟩

theorem plain_addressSet : Plain (addressSetName (securityGroupPortGroup group)).toList := by
  rw [addressSetName, String.toList_append]
  have suffix : Plain "_ip4".toList := by decide
  exact forall_mem_append.2 ⟨plain_portGroup valid, suffix⟩

theorem groupOfPortGroup_name : groupOfPortGroup (securityGroupPortGroup group) = group := by
  obtain ⟨suffix, shape, named, -⟩ := portGroup_shape valid
  unfold groupOfPortGroup
  rw [named]
  simp only
  rw [← shape, String.ofList_toList]

theorem groupOfAddressSet_name :
    groupOfAddressSet (addressSetName (securityGroupPortGroup group)) = group := by
  have taken : (addressSetName (securityGroupPortGroup group)).toList.take
        ((addressSetName (securityGroupPortGroup group)).toList.length - 4) =
      (securityGroupPortGroup group).toList := by
    simp [addressSetName]
  rw [groupOfAddressSet, taken, String.ofList_toList, groupOfPortGroup_name valid]

end

/-! ## Single entries -/

section

variable (dialect : Dialect) (packet : Packet) (membership : Membership)

/-- The term on the port is about the groups of the port. -/
theorem conjunct_atPort (valid : isSGID group = true) :
    dialect.conjunct (packet.facts membership)
        (atPort packet.direction (securityGroupPortGroup group)) =
      membership.attached group := by
  have field : Plain (portField packet.direction).toList := by
    cases packet.direction <;> decide
  rw [atPort, conjunct_portGroup dialect _ field (plain_portGroup valid)]
  simp [holds, equals, Packet.facts, groupOfPortGroup_name valid]

theorem whole_atPort
    (valid : isSGID group = true) : Whole (atPort direction (securityGroupPortGroup group)) := by
  refine whole_comparison ?_ ?_
  · cases direction <;> exact Plain.whole (by decide)
  · apply Plain.whole
    have sign : Plain "@".toList := by decide
    rw [String.toList_append]
    exact forall_mem_append.2 ⟨sign, plain_portGroup valid⟩

variable {dialect}

/-- A list of terms is extended by terms that match as given. -/
def Extends (dialect : Dialect) (facts : Facts) (parts result : List String)
    (verdict : Bool) : Prop :=
  ∃ terms, result = parts ++ terms ∧ (∀ term ∈ terms, Whole term) ∧
    terms.all (dialect.conjunct facts) = verdict

theorem extends_appendPortMatch (facts : Facts) (parts : List String) {proto : String}
    (plain : Plain proto.toList) (fieldPlain : Plain (proto ++ ".dst").toList)
    (fromPort toPort : Int) :
    Extends dialect facts parts (appendPortMatch parts proto fromPort toPort)
      (if fromPort = 0 ∧ toPort = 0 then
          facts.flag proto
        else if fromPort = toPort then
          dialect.reads fromPort && (facts.number (proto ++ ".dst")).any (· = fromPort) else
          (dialect.reads fromPort && (facts.number (proto ++ ".dst")).any (fromPort ≤ ·)) &&
            (dialect.reads toPort && (facts.number (proto ++ ".dst")).any (· ≤ toPort))) := by
  have whole (relation : Relation) (value : Int) :
      Whole (comparison (proto ++ ".dst") relation (decimal value)) :=
    whole_comparison fieldPlain.whole (plain_decimal value).whole
  unfold appendPortMatch
  split
  · refine ⟨[proto], rfl, by simpa using plain.whole, ?_⟩
    simp [conjunct_flag dialect facts plain]
  · split
    · refine ⟨_, rfl, by simpa using whole .eq fromPort, ?_⟩
      simp [conjunct_number dialect facts fieldPlain, holds, equals]
    · refine ⟨_, rfl, by simpa using ⟨whole .ge fromPort, whole .le toPort⟩, ?_⟩
      simp [conjunct_number dialect facts fieldPlain, holds, ordered]

theorem reads_byte (value : BitVec 8) : dialect.reads value.toNat = true := by
  exact dialect.reads_port _ (by omega) (by omega)

theorem reads_word (value : BitVec 16) : dialect.reads value.toNat = true := by
  exact dialect.reads_port _ (by omega) (by omega)

/-- The destination port of a packet of a protocol with ports. -/
def Transport.destination (proto : String) : Transport → Option (BitVec 16)
  | .tcp _ dst => if proto = "tcp" then some dst else none
  | .udp _ dst => if proto = "udp" then some dst else none
  | .icmp _ _ => none
  | .other _ => none

section

variable {proto : String} (ported : proto = "tcp" ∨ proto = "udp")
    {rule : SGRule} (protocol : rule.ipProtocol = proto)

include ported

theorem flag_ported :
    (packet.facts membership).flag proto = (packet.transport.destination proto).isSome := by
  rcases ported with rfl | rfl <;>
    cases transport : packet.transport <;>
    simp [Packet.facts, transport, Transport.flags, Transport.destination]

theorem number_ported :
    (packet.facts membership).number (proto ++ ".dst") =
      (packet.transport.destination proto).map fun port => (port.toNat : Int) := by
  rcases ported with rfl | rfl <;>
    cases transport : packet.transport <;>
    simp [Packet.facts, transport, Transport.numbers, lookup_cons, Transport.destination]

include protocol

theorem carriesTransport_ported (transport : Transport) :
    carriesTransport dialect rule transport =
      (transport.destination proto).any fun port => (rule.fromPort = 0 && rule.toPort = 0) ||
        (rule.fromPort ≤ port.toNat && port.toNat ≤ rule.toPort && (rule.fromPort = rule.toPort ||
          dialect.reads rule.fromPort && dialect.reads rule.toPort)) := by
  rcases ported with rfl | rfl <;>
    cases transport <;>
    simp [carriesTransport, widens, admitsTransport, legible, protocol,
      allProtocols, Transport.destination]

/-- The port terms match what the rule carries of its protocol. -/
theorem extends_ports (parts : List String) :
    Extends dialect (packet.facts membership) parts
      (appendPortMatch parts proto rule.fromPort rule.toPort)
      (carriesTransport dialect rule packet.transport) := by
  have plain : Plain proto.toList := by
    rcases ported with rfl | rfl <;> decide
  have fieldPlain : Plain (proto ++ ".dst").toList := by
    rcases ported with rfl | rfl <;> decide
  obtain ⟨terms, shape, whole, matched⟩ :=
    @extends_appendPortMatch dialect (packet.facts membership) parts
      proto plain fieldPlain rule.fromPort rule.toPort
  refine ⟨terms, shape, whole, matched.trans ?_⟩
  rw [flag_ported packet membership ported, number_ported packet membership ported,
    carriesTransport_ported ported protocol]
  cases packet.transport.destination proto with
  | none => simp
  | some port =>
    have readable : dialect.reads port.toNat = true := reads_word port
    simp only [Option.isSome_some, Option.map_some, Option.any_some]
    by_cases zero : rule.fromPort = 0 ∧ rule.toPort = 0
    · simp [zero]
    · rw [if_neg zero]
      have notZero : (decide (rule.fromPort = 0) && decide (rule.toPort = 0)) = false := by
        simpa using zero
      rw [notZero, Bool.false_or]
      by_cases single : rule.fromPort = rule.toPort
      · rw [if_pos single, Bool.eq_iff_iff]
        simp only [single, Bool.and_eq_true, decide_eq_true_eq, decide_true, Bool.true_or, and_true]
        constructor
        · rintro ⟨-, hit⟩
          omega
        · intro within
          have hit : (port.toNat : Int) = rule.toPort := by omega
          exact ⟨hit ▸ readable, hit⟩
      · rw [if_neg single, Bool.eq_iff_iff]
        simp only [single, Bool.and_eq_true, decide_eq_true_eq, decide_false, Bool.false_or]
        tauto

end

theorem all_icmpMatch (facts : Facts) (plain : Plain field.toList) (value : Int) :
    (icmpMatch field value).all (dialect.conjunct facts) = (value = -1 ||
      (dialect.reads value && (facts.number field).any (· = value))) := by
  unfold icmpMatch
  split
  next given =>
    simp [given, conjunct_number dialect facts plain, holds, equals]
  next given =>
    simp [not_not.1 given]

theorem whole_icmpMatch (plain : Plain field.toList)
    (member : term ∈ icmpMatch field value) : Whole term := by
  unfold icmpMatch at member
  split at member
  · obtain rfl := mem_singleton.1 member
    exact whole_comparison plain.whole (plain_decimal value).whole
  · cases member

/-- A byte field has a value if that value can be read and is the field's. -/
theorem reads_and_eq_byte (value : Int) (byte : BitVec 8) :
    (dialect.reads value && decide ((byte.toNat : Int) = value)) = decide (value = byte.toNat) := by
  rw [Bool.eq_iff_iff]
  simp only [Bool.and_eq_true, decide_eq_true_eq]
  constructor
  · exact fun both => both.2.symm
  · rintro rfl
    exact ⟨reads_byte byte, rfl⟩

variable {rule : SGRule}

/-- The ICMP terms match what the rule carries. -/
theorem extends_icmp (protocol : rule.ipProtocol = "icmp") (parts : List String) :
    Extends dialect (packet.facts membership) parts
      (parts ++ ["icmp4"] ++ icmpMatch "icmp4.type" rule.fromPort ++
        icmpMatch "icmp4.code" rule.toPort)
      (carriesTransport dialect rule packet.transport) := by
  have typePlain : Plain "icmp4.type".toList := by decide
  have codePlain : Plain "icmp4.code".toList := by decide
  have flagPlain : Plain "icmp4".toList := by decide
  refine ⟨["icmp4"] ++ icmpMatch "icmp4.type" rule.fromPort ++
      icmpMatch "icmp4.code" rule.toPort, by simp, ?_, ?_⟩
  · intro term member
    rcases mem_append.1 member with member | member
    · rcases mem_append.1 member with member | member
      · obtain rfl := mem_singleton.1 member
        exact flagPlain.whole
      · exact whole_icmpMatch typePlain member
    · exact whole_icmpMatch codePlain member
  · rw [all_append, all_append, all_icmpMatch _ typePlain, all_icmpMatch _ codePlain,
      all_cons, all_nil, conjunct_flag dialect _ flagPlain]
    cases transport : packet.transport with
    | icmp type code =>
      simp [Packet.facts, transport, Transport.flags, Transport.numbers, lookup_cons,
        carriesTransport, widens, admitsTransport, legible, protocol, allProtocols,
        reads_and_eq_byte]
    | _ =>
      simp [Packet.facts, transport, Transport.flags, carriesTransport, widens, admitsTransport,
        protocol, allProtocols]

/-- The protocol terms match what the rule carries. -/
theorem extends_appendProtocolMatch (canonical : rule.ipProtocol ∈ canonicalIPProtocols)
    (parts : List String) :
    ∃ result, appendProtocolMatch parts (policyRule rule) = .ok result ∧
      Extends dialect (packet.facts membership) parts result
        (carriesTransport dialect rule packet.transport) := by
  unfold appendProtocolMatch
  simp only [canonicalIPProtocols, mem_cons, not_mem_nil, or_false] at canonical
  rcases canonical with protocol | protocol | protocol | protocol
  · refine ⟨_, if_pos protocol, ?_⟩
    exact extends_ports packet membership (.inl rfl) protocol parts
  · refine ⟨_, (if_neg (by simp [policyRule, protocol])).trans (if_pos protocol), ?_⟩
    exact extends_ports packet membership (.inr rfl) protocol parts
  · refine ⟨_, (if_neg (by simp [policyRule, protocol])).trans
      ((if_neg (by simp [policyRule, protocol])).trans (if_pos protocol)), ?_⟩
    exact extends_icmp packet membership protocol parts
  · refine ⟨parts, by simp [policyRule, protocol], [], by simp, by simp, ?_⟩
    simp [carriesTransport, admitsTransport, legible, protocol, allProtocols]

theorem plain_remoteField (direction : Direction) : Plain (remoteField direction).toList := by
  cases direction <;> decide

theorem address_remoteField :
    (packet.facts membership).address (remoteField packet.direction) = some packet.remote := by
  cases direction : packet.direction <;>
    simp [Packet.facts, Packet.remote, direction, remoteField, lookup_cons]

/-- The default block contains every address of the first family. -/
theorem contains_default {block : Prefix} (text : block.text = "0.0.0.0/0")
    (family : block.addr.family = .v4) : block.contains packet.remote = true := by
  have read := parsePrefix_text family
  rw [text] at read
  have bits : (parsePrefix "0.0.0.0/0").map Prefix.bits = some 0 := by
    decide +kernel
  rw [read] at bits
  have none : block.bits = 0 := Option.some.inj bits
  have whole : block.size = 2 ^ 32 := by
    rw [Prefix.size, none, family]
    rfl
  have remoteFamily : packet.remote.family = .v4 := by
    unfold Packet.remote
    split <;> rfl
  have remoteBound := packet.remote.value_lt
  have blockBound := block.addr.value_lt
  rw [remoteFamily] at remoteBound
  rw [family] at blockBound
  simp only [Prefix.contains, whole, family, remoteFamily, packet.remote.zone_v4 remoteFamily,
    decide_true, Bool.true_and, decide_eq_true_eq]
  exact (Nat.div_eq_of_lt remoteBound).trans (Nat.div_eq_of_lt blockBound).symm

/-- The remote terms match what the rule admits. -/
theorem remoteMatch_all (wellFormed : rule.WellFormed)
    (sourced : ¬(rule.cidrIp = "" ∧ rule.sourceSG = "")) :
    (∀ term ∈ remoteMatch packet.direction (policyRule rule), Whole term) ∧
      (remoteMatch packet.direction (policyRule rule)).all
          (dialect.conjunct (packet.facts membership)) =
        admitsRemote membership rule packet.remote := by
  have plain := plain_remoteField packet.direction
  have address := address_remoteField packet membership
  obtain ⟨-, source, has⟩ := wellFormed
  cases source with
  | ipv4 block =>
    obtain ⟨family, text, -, noGroup⟩ := has
    have given : block.text ≠ "" := by
      rw [← text]
      exact fun empty => sourced ⟨empty, noGroup⟩
    by_cases whole : block.text = "0.0.0.0/0"
    · have contained := contains_default packet whole family
      have terms : remoteMatch packet.direction (policyRule rule) = [] := by
        simp [remoteMatch, policyRule, text, noGroup, whole]
      rw [terms]
      simp [admitsRemote, text, noGroup, given, parsePrefix_text family, contained]
    · have terms :
          remoteMatch packet.direction (policyRule rule) =
            [comparison (remoteField packet.direction) .eq block.text] := by
        simp [remoteMatch, policyRule, text, noGroup, whole, given]
      rw [terms]
      refine ⟨?_, ?_⟩
      · simpa using whole_comparison plain.whole (plain_block _).whole
      · simp [conjunct_block dialect _ plain family, holds, equals, address, admitsRemote, text,
          noGroup, given, parsePrefix_text family]
  | ipv6 => exact absurd ⟨has.1, has.2.2⟩ sourced
  | group id =>
    obtain ⟨noBlock, -, named, valid⟩ := has
    have given : id ≠ "" := by
      rw [← named]
      exact fun empty => sourced ⟨noBlock, empty⟩
    have setPlain := plain_addressSet valid
    have terms :
        remoteMatch packet.direction (policyRule rule) =
          [comparison (remoteField packet.direction) .eq
            ("$" ++ addressSetName (securityGroupPortGroup id))] := by
      simp [remoteMatch, policyRule, noBlock, named, given]
    rw [terms]
    refine ⟨?_, ?_⟩
    · have dollar : Plain ("$" ++ addressSetName (securityGroupPortGroup id)).toList := by
        have sign : Plain "$".toList := by decide
        rw [String.toList_append]
        exact forall_mem_append.2 ⟨sign, setPlain⟩
      simpa using whole_comparison plain.whole dollar.whole
    · simp only [all_cons, all_nil, Bool.and_true, conjunct_addressSet dialect _ plain setPlain,
        holds, any_cons, any_nil, Bool.or_false, equals, address, Option.any_some]
      simp [Packet.facts, groupOfAddressSet_name valid, admitsRemote, noBlock, named, given]

/-- The entry of a well-formed rule matches what the rule carries. -/
theorem buildACLMatch_rule (valid : isSGID group = true)
    (attached : membership.attached group = true) (wellFormed : rule.WellFormed)
    (sourced : ¬(rule.cidrIp = "" ∧ rule.sourceSG = "")) :
    ∃ expression, buildACLMatch packet.direction (securityGroupPortGroup group) (policyRule rule) =
      .ok expression ∧
      dialect.isMatch (packet.facts membership) expression =
        carries dialect membership packet rule := by
  have flagPlain : Plain "ip4".toList := by decide
  obtain ⟨result, built, terms, rfl, whole, matched⟩ :=
    @extends_appendProtocolMatch dialect packet membership rule wellFormed.protocol
      [atPort packet.direction (securityGroupPortGroup group), "ip4"]
  obtain ⟨remoteWhole, remoteMatched⟩ :=
    @remoteMatch_all dialect packet membership rule wellFormed sourced
  refine ⟨_, by rw [buildACLMatch, built]; rfl, ?_⟩
  rw [isMatch_join dialect _ (by simp)]
  · rw [all_append, all_append, matched, remoteMatched, all_cons, all_cons, all_nil,
      conjunct_atPort dialect packet membership valid, attached, conjunct_flag dialect _ flagPlain]
    simp [Packet.facts, carries]
  · intro part member
    rcases mem_append.1 member with member | member
    · rcases mem_append.1 member with member | member
      · rcases mem_cons.1 member with rfl | member
        · exact whole_atPort valid
        · obtain rfl := mem_singleton.1 member
          exact flagPlain.whole
      · exact whole part member
    · exact remoteWhole part member

end

/-! ## The whole list -/

section

variable {dialect : Dialect} {packet : Packet} {membership : Membership}
    {group : String}

/-- The entries of a direction's rules, and what they match together. -/
theorem ruleACLSpec_rules (valid : isSGID group = true)
    (attached : membership.attached group = true) {rules : List SGRule}
    (wellFormed : ∀ rule ∈ rules, rule.WellFormed) :
    ∃ specs, (toPolicyRules rules).mapM (ruleACLSpec packet.direction
          (buildACLMatch packet.direction (securityGroupPortGroup group))) =
      .ok specs ∧
      (∀ acl ∈ specs, acl.direction = packet.direction ∧ acl.priority = aclPriorityTenantAllow ∧
        acl.action = .allowRelated) ∧
      ((∃ acl ∈ specs, dialect.isMatch (packet.facts membership) acl.expression = true) ↔
        ∃ rule ∈ rules, carries dialect membership packet rule = true) := by
  induction rules with
  | nil => exact ⟨[], rfl, by simp, by simp⟩
  | cons rule rest induction =>
    obtain ⟨specs, built, shape, matched⟩ :=
      induction fun other member => wellFormed other (.tail _ member)
    by_cases sourced : rule.cidrIp = "" ∧ rule.sourceSG = ""
    · refine ⟨specs, ?_, shape, ?_⟩
      · simpa [toPolicyRules, sourced] using built
      · rw [matched]
        -- A rule without an IPv4 source carries nothing.
        have silent : carries dialect membership packet rule ≠ true := by
          simp [carries, admitsRemote, sourced]
        simp [silent]
    · obtain ⟨expression, entry, carried⟩ :=
        @buildACLMatch_rule dialect packet membership rule group valid
          attached (wellFormed rule (.head _)) sourced
      refine
        ⟨{ direction := packet.direction
           priority := aclPriorityTenantAllow
           expression
           action := .allowRelated } :: specs, ?_, ?_, ?_⟩
      · have shape : toPolicyRules (rule :: rest) = policyRule rule :: toPolicyRules rest := by
          simp [toPolicyRules, sourced]
        rw [shape, mapM_cons, ruleACLSpec, entry, built]
        rfl
      · exact forall_mem_cons.2 ⟨⟨rfl, rfl, rfl⟩, shape⟩
      · simp only [mem_cons, exists_eq_or_imp, matched, carried]

/-- ARP terms match no IPv4 packet. -/
theorem conjunct_arp : dialect.conjunct (packet.facts membership) "arp" = false := by
  rw [conjunct_flag dialect _ (by decide)]
  cases transport : packet.transport <;>
    simp [Packet.facts, transport, Transport.flags]

/-- The lease terms match lease packets only. -/
theorem ports_of_lease
    (matched : (leaseTerms src dst).all (dialect.conjunct (packet.facts membership)) = true) :
    ∃ srcPort dstPort : BitVec 16, packet.transport = .udp srcPort dstPort ∧
      (srcPort.toNat : Int) = src ∧ (dstPort.toNat : Int) = dst := by
  have srcPlain : Plain "udp.src".toList := by decide
  have dstPlain : Plain "udp.dst".toList := by decide
  simp only [leaseTerms, all_cons, all_nil, Bool.and_true, Bool.and_eq_true,
    conjunct_number dialect _ srcPlain, conjunct_number dialect _ dstPlain, holds, any_cons,
    any_nil, Bool.or_false, equals] at matched
  obtain ⟨-, ⟨-, srcMatched⟩, -, dstMatched⟩ := matched
  cases transport : packet.transport with
  | udp srcPort dstPort =>
    refine ⟨srcPort, dstPort, rfl, ?_, ?_⟩
    · simpa [Packet.facts, transport, Transport.numbers, lookup_cons] using srcMatched
    · simpa [Packet.facts, transport, Transport.numbers, lookup_cons] using dstMatched
  | _ =>
    simp [Packet.facts, transport, Transport.numbers, lookup_cons] at srcMatched

section

variable (valid : isSGID group = true) (attached : membership.attached group = true)

include valid

variable {suffix : String} {priority : Nat}

/-- An allowance of the platform matches if its terms do. -/
theorem isMatch_allowACL (whole : ∀ term ∈ terms, Whole term)
    (matched : dialect.isMatch (packet.facts membership)
        (allowACL packet.direction priority suffix terms
          (securityGroupPortGroup group)).expression =
      true) :
    terms.all (dialect.conjunct (packet.facts membership)) = true := by
  rw [allowACL, isMatch_join dialect _ (by simp)] at matched
  · rw [all_cons, Bool.and_eq_true] at matched
    exact matched.2
  · exact forall_mem_cons.2 ⟨whole_atPort valid, whole⟩

theorem not_applies_arp :
    (allowACL packet.direction priority suffix ["arp"]
        (securityGroupPortGroup group)).applies dialect (packet.facts membership) packet.direction =
      false := by
  rw [Bool.eq_false_iff]
  intro applies
  have matched := (Bool.and_eq_true_iff.1 applies).2
  have terms := isMatch_allowACL valid ?_ matched
  · simp [conjunct_arp] at terms
  · intro term member
    obtain rfl := mem_singleton.1 member
    exact Plain.whole (by decide)

theorem lease_of_applies (applies : (allowACL packet.direction priority suffix (leaseTerms src dst)
      (securityGroupPortGroup group)).applies dialect (packet.facts membership) packet.direction =
      true) :
    ∃ srcPort dstPort : BitVec 16, packet.transport = .udp srcPort dstPort ∧
      (srcPort.toNat : Int) = src ∧ (dstPort.toNat : Int) = dst := by
  have matched := (Bool.and_eq_true_iff.1 applies).2
  refine ports_of_lease (isMatch_allowACL valid ?_ matched)
  have udp : Plain "udp".toList := by decide
  have field (name : String) (plain : Plain name.toList) (value : Int) :
      Whole (comparison name .eq (decimal value)) :=
    whole_comparison plain.whole (plain_decimal value).whole
  simp only [leaseTerms, forall_mem_cons]
  exact ⟨udp.whole, field _ (by decide) _, field _ (by decide) _, by simp⟩

variable {acl : ACLSpec}

/-- Of the platform's own entries only denials apply to other packets. -/
theorem infrastructure_applies (notDHCP : packet.isDHCP = false)
    (member : acl ∈ infrastructureACLs (securityGroupPortGroup group))
    (applies : acl.applies dialect (packet.facts membership) packet.direction = true) :
    acl.priority < aclPriorityTenantAllow ∧ acl.action = .drop := by
  have same : acl.direction = packet.direction := by
    simpa using (Bool.and_eq_true_iff.1 applies).1
  simp only [infrastructureACLs, mem_cons, not_mem_nil, or_false] at member
  rcases member with rfl | rfl | rfl | rfl | rfl | rfl
  · exact ⟨show 900 < 1000 by decide, rfl⟩
  · exact ⟨show 800 < 1000 by decide, rfl⟩
  · change Direction.fromLport = _ at same
    rw [dhcpEgressACL, same] at applies
    obtain ⟨src, dst, transport, srcPort, dstPort⟩ := lease_of_applies valid applies
    rw [Packet.isDHCP, ← same, transport] at notDHCP
    simp [show src.toNat = 68 by omega, show dst.toNat = 67 by omega] at notDHCP
  · change Direction.toLport = _ at same
    rw [dhcpIngressACL, same] at applies
    obtain ⟨src, dst, transport, srcPort, dstPort⟩ := lease_of_applies valid applies
    rw [Packet.isDHCP, ← same, transport] at notDHCP
    simp [show src.toNat = 67 by omega, show dst.toNat = 68 by omega] at notDHCP
  · change Direction.fromLport = _ at same
    simp [arpEgressACL, same, not_applies_arp valid] at applies
  · change Direction.toLport = _ at same
    simp [arpIngressACL, same, not_applies_arp valid] at applies

omit valid in
/-- The blocks that count as private. -/
theorem privateDsts_blocks :
    ∃ blocks : List Prefix, wanEgressBlockPrivateDsts = blocks.map Prefix.text ∧
      blocks ≠ [] ∧ ∀ block ∈ blocks, block.addr.family = .v4 := by
  refine ⟨wanEgressBlockPrivateDsts.filterMap parsePrefix, ?_, ?_, ?_⟩
  · decide +kernel
  · decide +kernel
  · decide +kernel

/-- The block applies only to packets it covers. -/
theorem covers_of_applies {policy : EgressPolicy}
    (found : policy.block (toSGSpec group vpcID ingress egress) = some acl)
    (applies : acl.applies dialect (packet.facts membership) packet.direction = true) :
    policy.covers vpcID packet = true := by
  unfold EgressPolicy.block at found
  split at found
  · cases found
  rename_i exempt
  unfold blockedWANEgressACL at found
  split at found
  · cases found
  rename_i blocked
  obtain rfl := Option.some.inj found
  obtain ⟨same, matched⟩ := Bool.and_eq_true_iff.1 applies
  have direction : packet.direction = .fromLport := (of_decide_eq_true same).symm
  obtain ⟨blocks, texts, nonempty, families⟩ := privateDsts_blocks
  have dst : Plain "ip4.dst".toList := by decide
  have port : Plain "tcp.dst".toList := by decide
  rw [isMatch_join dialect _ (by simp)] at matched
  · simp only [all_cons, all_nil, Bool.and_true, Bool.and_eq_true] at matched
    obtain ⟨-, -, outside, -, hit⟩ := matched
    obtain ⟨value, member, number⟩ := exists_of_conjunct_numbers dialect port blocked hit
    rw [texts, conjunct_blocks dialect _ dst nonempty families] at outside
    have remote := address_remoteField packet membership
    rw [direction] at remote
    have foreign : ∀ block ∈ blocks, block.contains packet.remote = false := by
      simpa [holds, has, equals, show (packet.facts membership).address "ip4.dst" =
        some packet.remote from remote] using outside
    cases transport : packet.transport with
    | tcp src dst =>
      have reached : (dst.toNat : Int) = value := by
        simpa [Packet.facts, transport, Transport.numbers, lookup_cons] using number
      rw [EgressPolicy.covers, direction, transport]
      simp only [Bool.and_eq_true, decide_eq_true_eq,
        Bool.not_eq_true', any_eq_false, texts, mem_map]
      refine ⟨⟨exempt, reached ▸ member⟩, ?_⟩
      rintro text ⟨block, found, rfl⟩
      rw [parsePrefix_text (families block found)]
      simpa using foreign block found
    | _ =>
      simp [Packet.facts, transport, Transport.numbers, lookup_cons] at number
  · have decimals : ∀ text ∈ policy.blockedWANPorts.map decimal, Whole text := by
      intro text member
      obtain ⟨value, -, rfl⟩ := mem_map.1 member
      exact (plain_decimal value).whole
    have privates : ∀ text ∈ wanEgressBlockPrivateDsts, Whole text := by
      rw [texts]
      intro text member
      obtain ⟨block, found, rfl⟩ := mem_map.1 member
      exact (plain_block block).whole
    have flag (name : String) (plain : Plain name.toList) : Whole name := plain.whole
    simp only [forall_mem_cons]
    exact ⟨whole_atPort valid, flag _ (by decide), whole_comparison dst.whole (whole_set privates),
        flag _ (by decide), whole_comparison port.whole (whole_set decimals), by simp⟩

/-- The denial of a direction applies to every packet at the port. -/
theorem deny_applies (attached : membership.attached group = true) :
    ∃ acl ∈ infrastructureACLs (securityGroupPortGroup group),
      acl.applies dialect (packet.facts membership) packet.direction = true := by
  have matched : dialect.isMatch (packet.facts membership)
        (atPort packet.direction (securityGroupPortGroup group)) =
      true := by
    have joined := isMatch_join dialect (packet.facts membership) (cons_ne_nil
          (atPort packet.direction (securityGroupPortGroup group)) [])
        (by simpa using whole_atPort valid)
    rw [all_cons, all_nil, Bool.and_true,
      conjunct_atPort dialect packet membership valid, attached] at joined
    simpa using joined
  cases direction : packet.direction with
  | toLport =>
    refine ⟨denyIngressACL _, .head _, ?_⟩
    rw [direction] at matched
    simpa [ACLSpec.applies, denyIngressACL, denyACL] using matched
  | fromLport =>
    refine ⟨denyEgressACL _, .tail _ (.head _), ?_⟩
    rw [direction] at matched
    simpa [ACLSpec.applies, denyEgressACL, denyACL] using matched

end

/-- Only the entries of a packet's direction apply to it. -/
theorem exists_applies {specs part : List ACLSpec}
    (parted : ∀ acl, acl ∈ specs ∧ acl.direction = direction ↔ acl ∈ part) :
    (∃ acl ∈ specs, acl.applies dialect facts direction = true) ↔
      ∃ acl ∈ part, dialect.isMatch facts acl.expression = true := by
  simp only [ACLSpec.applies, Bool.and_eq_true, decide_eq_true_eq, ← parted, and_assoc]

/-- The two halves of the list built from rules. -/
theorem ruleACLSpecs_rules
    (valid : isSGID group = true) (attached : membership.attached group = true)
    {ingress egress : List SGRule} (ingressFormed : ∀ rule ∈ ingress, rule.WellFormed)
    (egressFormed : ∀ rule ∈ egress, rule.WellFormed) :
    ∃ specs,
      ruleACLSpecs (securityGroupPortGroup group) (toPolicyRules ingress) (toPolicyRules egress) =
        .ok specs ∧
        (∀ acl ∈ specs, acl.priority = aclPriorityTenantAllow ∧ acl.action = .allowRelated) ∧
        ((∃ acl ∈ specs, acl.applies dialect (packet.facts membership) packet.direction = true) ↔
          ∃ rule ∈ rulesFor packet.direction ingress egress,
            carries dialect membership packet rule = true) := by
  obtain ⟨inbound, inBuilt, inShape, inMatched⟩ :=
    @ruleACLSpec_rules dialect { packet with direction := .toLport }
      membership group valid attached ingress ingressFormed
  obtain ⟨outbound, outBuilt, outShape, outMatched⟩ :=
    @ruleACLSpec_rules dialect { packet with direction := .fromLport }
      membership group valid attached egress egressFormed
  refine ⟨inbound ++ outbound, ?_, ?_, ?_⟩
  · unfold ruleACLSpecs buildIngressACLMatch buildEgressACLMatch
    rw [inBuilt, outBuilt]
    rfl
  · intro acl member
    rcases mem_append.1 member with member | member
    · exact (inShape acl member).2
    · exact (outShape acl member).2
  · obtain ⟨direction, src, dst, transport⟩ := packet
    cases direction with
    | toLport =>
      refine Iff.trans ?_ inMatched
      refine exists_applies fun acl => ⟨?_, ?_⟩
      · rintro ⟨member, same⟩
        rcases mem_append.1 member with member | member
        · exact member
        · simp [(outShape acl member).1] at same
      · intro member
        exact ⟨mem_append_left _ member, (inShape acl member).1⟩
    | fromLport =>
      refine Iff.trans ?_ outMatched
      refine exists_applies fun acl => ⟨?_, ?_⟩
      · rintro ⟨member, same⟩
        rcases mem_append.1 member with member | member
        · simp [(inShape acl member).1] at same
        · exact member
      · intro member
        exact ⟨mem_append_right _ member, (outShape acl member).1⟩

/-- The list lets a packet through if a rule of its direction carries it. -/
theorem allows_iff_carries (policy : EgressPolicy) (vpcID : String)
    (valid : isSGID group = true) (attached : membership.attached group = true)
    {ingress egress : List SGRule} (ingressFormed : ∀ rule ∈ ingress, rule.WellFormed)
    (egressFormed : ∀ rule ∈ egress, rule.WellFormed) (notDHCP : packet.isDHCP = false)
    (uncovered : policy.covers vpcID packet = false) :
    ∃ acls, applyACLs policy (toSGSpec group vpcID ingress egress) = .ok acls ∧
      (allows dialect (packet.facts membership) packet.direction acls = true ↔
        ∃ rule ∈ rulesFor packet.direction ingress egress,
          carries dialect membership packet rule = true) := by
  obtain ⟨specs, built, shape, matched⟩ :=
    @ruleACLSpecs_rules dialect packet membership group valid attached
      ingress egress ingressFormed egressFormed
  refine ⟨infrastructureACLs (securityGroupPortGroup group) ++ specs ++
      (policy.block (toSGSpec group vpcID ingress egress)).toList, ?_, ?_⟩
  · unfold applyACLs
    dsimp only [toSGSpec]
    rw [built]
  · rw [← matched]
    have unblocked : ∀ acl ∈ (policy.block (toSGSpec group vpcID ingress egress)).toList,
        acl.applies dialect (packet.facts membership) packet.direction ≠ true := by
      intro acl member applies
      have covered := covers_of_applies valid (Option.mem_toList.1 member) applies
      simp [uncovered] at covered
    by_cases tenant :
      ∃ acl ∈ specs, acl.applies dialect (packet.facts membership) packet.direction = true
    · obtain ⟨acl, member, applies⟩ := tenant
      refine iff_of_true ?_ ⟨acl, member, applies⟩
      apply allows_eq (mem_append_left _ (mem_append_right _ member)) applies
      intro other otherMember otherApplies higher
      rw [(shape acl member).1] at higher
      rcases mem_append.1 otherMember with otherMember | blocked
      · rcases mem_append.1 otherMember with platform | rule
        · have lower := infrastructure_applies valid notDHCP platform otherApplies
          exact absurd lower.1 (Nat.not_lt.2 higher)
        · rw [(shape other rule).2]
          rfl
      · exact absurd otherApplies (unblocked other blocked)
    · refine iff_of_false ?_ tenant
      obtain ⟨acl, member, applies⟩ := @deny_applies dialect packet membership group valid attached
      refine ne_true_of_eq_false
          (allows_eq (mem_append_left _ (mem_append_left _ member)) applies ?_)
      intro other otherMember otherApplies _
      rcases mem_append.1 otherMember with otherMember | blocked
      · rcases mem_append.1 otherMember with platform | rule
        · rw [(infrastructure_applies valid notDHCP platform otherApplies).2]
          rfl
        · exact absurd ⟨other, rule, otherApplies⟩ tenant
      · exact absurd otherApplies (unblocked other blocked)

theorem carries_iff_admits :
    ((∃ rule ∈ rules, carries dialect membership packet rule = true) ↔
        ∃ rule ∈ rules, admits membership packet rule = true) ↔
      Undistorted dialect membership packet rules := by
  constructor
  · intro agree
    refine ⟨?_, ?_⟩
    · intro rule member widened remote
      refine agree.1 ⟨rule, member, ?_⟩
      simp [carries, carriesTransport, widened, remote]
    · exact fun rule member admitted _ => agree.2 ⟨rule, member, admitted⟩
  · rintro ⟨widened, unread⟩
    constructor
    · rintro ⟨rule, member, carried⟩
      obtain ⟨transport, remote⟩ := Bool.and_eq_true_iff.1 carried
      rcases Bool.or_eq_true_iff.1 transport with wide | within
      · exact widened rule member wide remote
      · refine ⟨rule, member, ?_⟩
        simp [admits, (Bool.and_eq_true_iff.1 within).1, remote]
    · rintro ⟨rule, member, admitted⟩
      by_cases readable : legible dialect rule = true
      · refine ⟨rule, member, ?_⟩
        obtain ⟨transport, remote⟩ := Bool.and_eq_true_iff.1 admitted
        simp [carries, carriesTransport, transport, readable, remote]
      · exact unread rule member admitted (Bool.not_eq_true _ ▸ readable)

end

/-! ## Accepted rules -/

/--
The list built from accepted rules lets through exactly the packets some rule of
their direction admits if and only if the exceptions are covered, and a rule with
only an IPv6 source admits nothing.
-/
theorem security_group_enforced_iff
    (dialect : Dialect) (policy : EgressPolicy) (membership : Membership)
    (group vpcID : String) (ingress egress : List SGRule) (packet : Packet)
    (valid : isSGID group = true) (attached : membership.attached group = true)
    (accepted : ∀ rule ∈ ingress ++ egress, rule.Accepted) (notDHCP : packet.isDHCP = false)
    (uncovered : policy.covers vpcID packet = false) :
    (∃ acls, applyACLs policy (toSGSpec group vpcID ingress egress) = .ok acls ∧
        ((allows dialect (packet.facts membership) packet.direction acls = true ↔
          ∃ rule ∈ rulesFor packet.direction ingress egress, admits membership packet rule = true) ↔
          Undistorted dialect membership packet (rulesFor packet.direction ingress egress))) ∧
      ∀ rule ∈ ingress ++ egress, rule.HasSource .ipv6 → admits membership packet rule = false := by
  have ingressFormed : ∀ rule ∈ ingress, rule.WellFormed := fun rule member =>
      (accepted rule (mem_append_left _ member)).wellFormed
  have egressFormed : ∀ rule ∈ egress, rule.WellFormed := fun rule member =>
      (accepted rule (mem_append_right _ member)).wellFormed
  obtain ⟨acls, built, decided⟩ := @allows_iff_carries dialect packet membership group policy vpcID
      valid attached ingress egress ingressFormed egressFormed notDHCP uncovered
  refine ⟨⟨acls, built, ?_⟩, ?_⟩
  · rw [decided]
    exact carries_iff_admits
  · rintro rule - ⟨noBlock, -, noGroup⟩
    simp [admits, admitsRemote, noBlock, noGroup]

namespace Sample

def group : String := "sg-0123456789abcdef0"

/-- A permission for a single TCP port, from anywhere. -/
def permission (port : Int) : Vpc.IpPermission where
  ipProtocol := some "tcp"
  fromPort := some port
  toPort := some port
  ipRanges := [{ value := some "0.0.0.0/0" }]

/-- The rule the permission is parsed to. -/
def rule (port : Int) : SGRule where
  ruleId := "sgr-0123456789abcdef0"
  ipProtocol := "tcp"
  fromPort := port
  toPort := port
  cidrIp := "0.0.0.0/0"

/-- A packet to port 22 of an instance of the group. -/
def packet : Packet where
  direction := .toLport
  src := 0xC6336401
  dst := 0x0A000005
  transport := .tcp 40000 22

/-- The instance is in the group alone. -/
def membership : Membership where
  attached name := name = group
  members _ _ := false

end Sample

open Sample

/-- A rule for one port, and a packet to that port, that it lets through. -/
theorem security_group_enforced_at_port :
    (∃ acls, applyACLs {} (toSGSpec group "vpc-1" [Sample.rule 22] []) = .ok acls ∧
        ((allows .arithmetic (packet.facts membership) packet.direction acls = true ↔
          ∃ rule ∈ rulesFor packet.direction [Sample.rule 22] [],
            admits membership packet rule = true) ↔
          Undistorted .arithmetic membership packet
            (rulesFor packet.direction [Sample.rule 22] []))) ∧
      ∀ rule ∈ [Sample.rule 22] ++ [], rule.HasSource .ipv6 →
        admits membership packet rule = false := by
  refine security_group_enforced_iff .arithmetic {} membership
      group "vpc-1" [Sample.rule 22] [] packet
      (by decide) (by decide) ?_ (by decide) (by decide)
  intro rule member
  obtain rfl := mem_singleton.1 member
  refine ⟨Sample.rule 22, rfl, .inl ⟨[some (permission 22)], fun _ => "sgr-0123456789abcdef0",
      [Sample.rule 22], ?_, .head _⟩⟩
  decide +kernel

/-- A rule for port zero is accepted, and lets packets to port 22 through. -/
theorem port_zero_rule_opens_every_port :
    Vpc.ipPermissionsToSGRules [some (permission 0)] .authorize (fun _ => "sgr-0123456789abcdef0") =
      .ok [Sample.rule 0] ∧
      packet.isDHCP = false ∧
      EgressPolicy.covers {} "vpc-1" packet = false ∧
      ∃ acls, applyACLs {} (toSGSpec group "vpc-1" [Sample.rule 0] []) = .ok acls ∧
        allows .arithmetic (packet.facts membership) packet.direction acls = true ∧
        ¬∃ rule ∈ rulesFor packet.direction [Sample.rule 0] [],
          admits membership packet rule = true := by
  refine ⟨by decide +kernel, by decide, by decide, ?_⟩
  refine ⟨_, rfl, ?_, ?_⟩
  · decide +kernel
  · decide +kernel

end Spinifex.Network
