import NetLagLab.ByteSearch
import NetLagLab.EnvironmentTransaction

/-! The tools that connect the namespace to the internet: nft, ufw and firewall-cmd. They are run with an
argument vector, and what the program knows of the host is what it reads in their output. -/

namespace NetLagLab.NetworkEnvironment

open ByteLines

inductive CommandResultKind where
  | success
  | nonzeroExit
  | signal
  | timeout
  | execFailure
  | systemFailure
  deriving DecidableEq

structure CommandResult where
  kind : CommandResultKind
  standardError : Bytes := []
  standardOutput : Bytes := []
  deriving DecidableEq

def commandCause (result : CommandResult) : Cause :=
  match result.kind with
  | .success => .systemFailure
  | .nonzeroExit => .commandExit
  | .signal => .commandSignal
  | .timeout => .timeout
  | .execFailure => .unavailableOrInvalidTool
  | .systemFailure => .systemFailure

/-! ### Names made of the token -/

def tableName (token : Bytes) : Bytes := ascii "netlaglab_" ++ token

/-- The comment of the ufw rule and the name of the firewalld policy. -/
def marker (token : Bytes) : Bytes := ascii "netlaglab-" ++ token

/-- `valid_recovery_token`: 32 lowercase hexadecimal digits. -/
def validRecoveryToken (token : Bytes) : Bool :=
  decide (token.length = 32) && token.all fun value => isDigit value || decide (97 ≤ value ∧ value ≤ 102)

def expectedRichRule : Bytes := ascii "rule family=\"ipv4\" source address=\"10.200.0.2/32\" accept"

/-! ### Commands -/

/-- The commands that are run by `run_tool`. -/
inductive ToolCommand where
  | ipRuleShow
  | ipRouteShowDefault
  | ipLinkShow (device : Bytes)
  | nftListRuleset
  | nftAddTable (table : Bytes)
  | nftAddChain (table : Bytes)
  | nftAddRule (table token : Bytes)
  | nftListTable (table : Bytes)
  | nftDeleteTable (table : Bytes)
  | ufwStatus
  | ufwStatusNumbered
  | ufwRouteAllow (comment : Bytes)
  | ufwRouteDelete (comment : Bytes)
  | firewalldState
  | firewalldZoneOfInterface
  | firewalldNewPolicy (policy : Bytes)
  | firewalldAddIngressZone (policy zone : Bytes)
  | firewalldAddEgressZone (policy : Bytes)
  | firewalldAddRichRule (policy : Bytes)
  | firewalldInfoPolicy (policy : Bytes)
  | firewalldDeletePolicy (policy : Bytes)
  deriving DecidableEq

namespace ToolCommand

/-- The argument vector of a command. -/
def arguments : ToolCommand → List Bytes
  | ipRuleShow => [ascii "-4", ascii "rule", ascii "show"]
  | ipRouteShowDefault => [ascii "-4", ascii "route", ascii "show", ascii "default"]
  | ipLinkShow device => [ascii "-d", ascii "link", ascii "show", ascii "dev", device]
  | nftListRuleset => [ascii "list", ascii "ruleset"]
  | nftAddTable table => [ascii "add", ascii "table", ascii "ip", table]
  | nftAddChain table =>
      [ascii "add", ascii "chain", ascii "ip", table, ascii "postrouting", ascii "\x7b", ascii "type",
        ascii "nat", ascii "hook", ascii "postrouting", ascii "priority", ascii "srcnat", ascii ";",
        ascii "policy", ascii "accept", ascii ";", ascii "\x7d"]
  | nftAddRule table token =>
      [ascii "add", ascii "rule", ascii "ip", table, ascii "postrouting", ascii "iifname",
        ascii "\"nll-host\"", ascii "ip", ascii "saddr", ascii "10.200.0.2/32", ascii "counter",
        ascii "masquerade", ascii "comment", ascii "\"netlaglab:" ++ token ++ ascii "\""]
  | nftListTable table => [ascii "list", ascii "table", ascii "ip", table]
  | nftDeleteTable table => [ascii "delete", ascii "table", ascii "ip", table]
  | ufwStatus => [ascii "status"]
  | ufwStatusNumbered => [ascii "status", ascii "numbered"]
  | ufwRouteAllow comment =>
      [ascii "route", ascii "allow", ascii "in", ascii "on", ascii "nll-host", ascii "from",
        ascii "10.200.0.2", ascii "comment", comment]
  | ufwRouteDelete comment =>
      [ascii "route", ascii "delete", ascii "allow", ascii "in", ascii "on", ascii "nll-host", ascii "from",
        ascii "10.200.0.2", ascii "comment", comment]
  | firewalldState => [ascii "--state"]
  | firewalldZoneOfInterface => [ascii "--get-zone-of-interface=nll-host"]
  | firewalldNewPolicy policy => [ascii "--new-policy=" ++ policy]
  | firewalldAddIngressZone policy zone =>
      [ascii "--policy=" ++ policy, ascii "--add-ingress-zone=" ++ zone]
  | firewalldAddEgressZone policy => [ascii "--policy=" ++ policy, ascii "--add-egress-zone=ANY"]
  | firewalldAddRichRule policy =>
      [ascii "--policy=" ++ policy, ascii "--add-rich-rule=" ++ expectedRichRule]
  | firewalldInfoPolicy policy => [ascii "--info-policy=" ++ policy]
  | firewalldDeletePolicy policy => [ascii "--delete-policy=" ++ policy]

/-- The commands that change the firewall of the host. -/
def isMutation : ToolCommand → Bool
  | nftAddTable _ | nftAddChain _ | nftAddRule _ _ | nftDeleteTable _ => true
  | ufwRouteAllow _ | ufwRouteDelete _ => true
  | firewalldNewPolicy _ | firewalldAddIngressZone _ _ | firewalldAddEgressZone _
  | firewalldAddRichRule _ | firewalldDeletePolicy _ => true
  | _ => false

end ToolCommand

/-! ### Output -/

def maximumToolOutput : Nat := 4096

def maximumFirewallInventorySize : Nat := 64 * 1024

/-! ### Output of ip -/

/-- `std::isspace`. -/
def isSpace (byte : UInt8) : Bool := isBlank byte || decide (byte = 11) || decide (byte = 12)

/-- A run of blanks is one space, and the blanks before the first word are dropped. -/
def collapseBlanks (line : Bytes) : Bytes :=
  line.foldl (fun collapsed character =>
    if isSpace character then
      if collapsed = [] ∨ collapsed.getLast? = some space then collapsed else collapsed ++ [space]
    else collapsed ++ [character]) []

def supportedRules : List Bytes :=
  [ascii "0: from all lookup local", ascii "32766: from all lookup main",
    ascii "32767: from all lookup default"]

/-- Every line is one of the expected rules, and none is missing or repeated. -/
def onlySupportedRules : List Bytes → List Bytes → Bool
  | missing, [] => decide (missing = [])
  | missing, line :: lines =>
      if collapseBlanks line ∈ missing then onlySupportedRules (missing.erase (collapseBlanks line)) lines
      else false

def isFieldSeparator (byte : UInt8) : Bool :=
  decide (byte = space) || decide (byte = 9) || decide (byte = 13)

/-- The words of a line without blanks in front; every word takes at least one byte. -/
def routeFields : Nat → Bytes → List Bytes
  | 0, _ => []
  | bound + 1, line =>
      if line = [] then []
      else
        line.takeWhile (fun byte => !isFieldSeparator byte) ::
          routeFields bound ((line.dropWhile fun byte => !isFieldSeparator byte).dropWhile isSpace)

def isDeviceName (name : Bytes) : Bool := decide (name ≠ []) && decide (name.length ≤ 15)

/-- The word behind each word `dev`. -/
def routeDevices : List Bytes → Option (List Bytes)
  | field :: name :: rest =>
      if field = ascii "dev" then
        if isDeviceName name then (routeDevices (name :: rest)).map (name :: ·) else none
      else routeDevices (name :: rest)
  | _ => some []

/-- The devices of one line of the routes, or none when the line is not understood. -/
def routeLineDevices (line : Bytes) : Option (List Bytes) :=
  let line := line.dropWhile isSpace
  if line = [] then some []
  else
    let fields := routeFields line.length line
    if fields.head? ≠ some (ascii "default") then none
    else
      match routeDevices fields with
      | some (device :: devices) => some (device :: devices)
      | _ => none

/-- The devices of all default routes. -/
def defaultRouteDevices : List Bytes → Option (List Bytes)
  | [] => some []
  | line :: lines =>
      match routeLineDevices line with
      | none => none
      | some devices => (defaultRouteDevices lines).map (devices ++ ·)

def unsupportedTypes : List Bytes :=
  [ascii "wireguard", ascii "type tun", ascii "type tap", ascii "type ipip", ascii "type gre",
    ascii "type gretap", ascii "type sit", ascii "type ip6tnl", ascii "type ip6gre",
    ascii "type ip6gretap", ascii "type vti", ascii "type vti6", ascii "type xfrm", ascii "type vxlan",
    ascii "type geneve", ascii "type bareudp"]

def isSupportedEgress (output : Bytes) : Bool :=
  (contains (ascii "link/ether") output || contains (ascii "link/ppp") output)
    && !unsupportedTypes.any fun unsupported => contains unsupported output

/-! ### Output of nft and ufw -/

def knownNftTableAbsence (result : CommandResult) : Bool :=
  decide (result.kind = .nonzeroExit)
    && (contains (ascii "No such file") result.standardError
      || contains (ascii "does not exist") result.standardError)

/-- The texts that the printed rule of the Session has to show. -/
def describesRoute (line : Bytes) : Bool :=
  contains (ascii "nll-host") line && contains (ascii "10.200.0.2") line && contains (ascii "ALLOW FWD") line

/-- Whether a rule with the marker is among the lines; nothing when it is not as it was made, or when
there are two. -/
def ufwRuleAmong (marker : Bytes) : Bool → List Bytes → Option Bool
  | found, [] => some found
  | found, line :: lines =>
      if contains marker line then
        if found || !describesRoute line then none else ufwRuleAmong marker true lines
      else ufwRuleAmong marker found lines

/-! ### Output of firewall-cmd -/

/-- What stands on the line behind the first occurrence of a field's name and a colon. -/
def fieldValue (output field : Bytes) : Option Bytes :=
  (afterFirst (field ++ [colon]) output).map fun value => trimAscii (value.takeWhile fun byte => byte != newline)

def isZoneCharacter (byte : UInt8) : Bool :=
  isAlphanumeric byte || decide (byte = 95) || decide (byte = 45)

/-- Whether the expected rule is among the lines; nothing when there is another one or a second one. -/
def expectedRuleAmong : Bool → List Bytes → Option Bool
  | found, [] => some found
  | found, line :: lines =>
      if trimAscii line = [] then expectedRuleAmong found lines
      else if trimAscii line ≠ expectedRichRule ∨ found = true then none
      else expectedRuleAmong true lines

def emptyFields : List Bytes :=
  [ascii "services", ascii "ports", ascii "protocols", ascii "source-ports", ascii "forward-ports",
    ascii "icmp-blocks"]

/-- The report on a policy is that of the Session's own policy. -/
def firewalldPolicyMatches (output expectedIngressZone : Bytes) (allowIncomplete : Bool) : Bool :=
  match fieldValue output (ascii "ingress-zones"), fieldValue output (ascii "egress-zones") with
  | some ingress, some egress =>
      if (ingress ≠ [] ∧ ingress ≠ expectedIngressZone) ∨ (egress ≠ [] ∧ egress ≠ ascii "ANY")
          ∨ (allowIncomplete = false ∧ (ingress = [] ∨ egress ≠ ascii "ANY")) then false
      else if !ingress.all isZoneCharacter then false
      else
        match afterFirst (ascii "rich rules:") output with
        | none => false
        | some rules =>
            match expectedRuleAmong false (outputLines rules) with
            | none => false
            | some hasRule =>
                if emptyFields.any fun field => (fieldValue output field).any fun value => value ≠ [] then false
                else allowIncomplete || hasRule
  | _, _ => false

end NetLagLab.NetworkEnvironment
