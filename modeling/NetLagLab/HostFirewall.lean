import Mathlib.Logic.Function.Basic
import NetLagLab.CallEnvironments
import NetLagLab.Connectivity
import NetLagLab.FirewalldReports

/-! The host that connectivity is configured on: its firewall, the journal, and what the tools do to both.
Other programs change the firewall as well, but they leave alone what carries the token. A session runs
on a host whose tools may fail and still have done their work; a host that has recovered answers in full
and does what it is asked. -/

namespace NetLagLab.NetworkEnvironment

open ByteLines CallPrograms CallPrograms.Program

/-! ### State -/

/-- A rule as ufw prints it behind its number. -/
structure UfwRule where
  text : Bytes
  oneLine : newline ∉ text
  deriving DecidableEq

/-- The IPv4 tables of nftables by name, the rules of ufw in their order, and the runtime policies of
firewalld unless it is stopped. -/
structure HostFirewall where
  nftTables : Bytes → Bool
  ufwRules : List UfwRule
  firewalldPolicies : Option (Bytes → Option FirewalldPolicy)

@[ext] structure Host where
  firewall : HostFirewall
  journal : Option RecoveryRecord

def ufwHeading : List Bytes :=
  [ascii "Status: active", [], ascii "     To                         Action      From",
    ascii "     --                         ------      ----"]

/-- The number of a rule in brackets. -/
def ruleNumber (index : Nat) : Bytes :=
  ascii "[" ++ (if index < 10 then [space] else []) ++ decimalText index ++ ascii "] "

def numberedRules : Nat → List UfwRule → List Bytes
  | _, [] => []
  | index, rule :: rules => (ruleNumber index ++ rule.text) :: numberedRules (index + 1) rules

/-- What `ufw status numbered` prints. -/
def ufwListing (rules : List UfwRule) : Bytes := encodeLines (ufwHeading ++ numberedRules 1 rules)

namespace HostFirewall

variable (firewall : HostFirewall) (token : Bytes)

/-- The rules that carry the token's marker. -/
def markedRules : List UfwRule := firewall.ufwRules.filter fun rule => contains (marker token) rule.text

/-- The runtime policy of the token. -/
def policy : Option FirewalldPolicy := firewall.firewalldPolicies.bind fun policies => policies (marker token)

/-- Nothing on the host carries the token. -/
structure Absent : Prop where
  table : firewall.nftTables (tableName token) = false
  rules : firewall.markedRules token = []
  policy : firewall.policy token = none

/-! ### Effects of commands -/

def setTable (table : Bytes) (present : Bool) : HostFirewall :=
  { firewall with nftTables := Function.update firewall.nftTables table present }

def updatePolicy (name : Bytes) (change : Option FirewalldPolicy → Option FirewalldPolicy) : HostFirewall :=
  { firewall with
    firewalldPolicies := firewall.firewalldPolicies.map fun policies =>
      Function.update policies name (change (policies name)) }

/-- A rule of the Session with the comment. -/
def isRoute (comment : Bytes) (rule : UfwRule) : Bool := contains comment rule.text && describesRoute rule.text

def withoutRoute (comment : Bytes) : HostFirewall :=
  { firewall with ufwRules := firewall.ufwRules.filter fun rule => !isRoute comment rule }

/-- The rule is put anywhere, unless a rule has the comment already. -/
def AllowsRoute (comment : Bytes) (before after : HostFirewall) : Prop :=
  if before.ufwRules.any fun rule => contains comment rule.text then after = before
  else ∃ first last rule, before.ufwRules = first ++ last ∧ isRoute comment rule = true ∧
    after = { before with ufwRules := first ++ rule :: last }

end HostFirewall

/-- A member is added unless it is there already. -/
def addMember (member : Bytes) (members : List Bytes) : List Bytes :=
  if member ∈ members then members else members ++ [member]

namespace FirewalldPolicy

def addIngressZone (zone : Bytes) (policy : FirewalldPolicy) : FirewalldPolicy :=
  { policy with ingressZones := addMember zone policy.ingressZones }

def addEgressZone (zone : Bytes) (policy : FirewalldPolicy) : FirewalldPolicy :=
  { policy with egressZones := addMember zone policy.egressZones }

def addRichRule (rule : Bytes) (policy : FirewalldPolicy) : FirewalldPolicy :=
  { policy with richRules := addMember rule policy.richRules }

end FirewalldPolicy

section Effects

variable (defaults : NewPolicySettings)

/-- What a command does to the firewall when it does its work. The chain and the rule of a table go with
the table. -/
def Effect (command : ToolCommand) (before after : HostFirewall) : Prop :=
  match command with
  | .nftAddTable table => after = before.setTable table true
  | .nftDeleteTable table => after = before.setTable table false
  | .ufwRouteAllow comment => HostFirewall.AllowsRoute comment before after
  | .ufwRouteDelete comment => after = before.withoutRoute comment
  | .firewalldNewPolicy name =>
      after = before.updatePolicy name fun policy => some (policy.getD { settings := defaults.fields })
  | .firewalldAddIngressZone name zone =>
      after = before.updatePolicy name (Option.map (FirewalldPolicy.addIngressZone zone))
  | .firewalldAddEgressZone name =>
      after = before.updatePolicy name (Option.map (FirewalldPolicy.addEgressZone (ascii "ANY")))
  | .firewalldAddRichRule name =>
      after = before.updatePolicy name (Option.map (FirewalldPolicy.addRichRule expectedRichRule))
  | .firewalldDeletePolicy name => after = before.updatePolicy name fun _ => none
  | _ => after = before

/-! ### A session on the host -/

/-- What other programs do meanwhile: nothing to what carries the token, except that a restart of
firewalld loses its runtime policies. -/
structure Elsewhere (token : Bytes) (before after : HostFirewall) : Prop where
  table : after.nftTables (tableName token) = before.nftTables (tableName token)
  rules : after.markedRules token = before.markedRules token
  policy : after.policy token = before.policy token ∨ after.policy token = none

/-- A mutation may have worked or not, whatever it reports. -/
def FirewallStep (request : HostCall) (before after : HostFirewall) : Prop :=
  match request with
  | .runTool _ command _ _ => after = before ∨ Effect defaults command before after
  | _ => after = before

/-- A read may fail, or take the journal to be corrupt. A write or a removal that fails has happened or not. -/
def JournalStep (request : HostCall) (answer : HostAnswer request) (before after : Option RecoveryRecord) : Prop :=
  match request, answer with
  | .readRecoveryRecord, answer =>
      after = before ∧
        match answer with
        | .valid record => before = some record
        | .empty => before = none
        | .corrupt | .failure => True
  | .writeRecoveryRecord record, succeeded => after = some record ∨ (succeeded = false ∧ after = before)
  | .clearRecoveryRecord, succeeded => after = none ∨ (succeeded = false ∧ after = before)
  | _, _ => after = before

/-- The random token of the Session. -/
def TokenStep (token : Bytes) (request : HostCall) (answer : HostAnswer request) : Prop :=
  match request, answer with
  | .createRecoveryToken, answer => answer = none ∨ answer = some token
  | _, _ => True

/-- A host on which nothing is promised of the tools. -/
def sessionHost (token : Bytes) : Environment HostCall HostAnswer Host := fun before request answer after =>
  (∃ present, Elsewhere token before.firewall present ∧ FirewallStep defaults request present after.firewall) ∧
    JournalStep request answer before.journal after.journal ∧ TokenStep token request answer

/-! ### A host that has recovered -/

/-- What a tool that answers truthfully, in full and does its work reports. -/
def Truthful (command : ToolCommand) (result : CommandResult) (before after : HostFirewall) : Prop :=
  match command with
  | .nftListTable table =>
      after = before ∧
        if before.nftTables table then
          result.kind = .success ∧ contains table result.standardOutput = true
        else knownNftTableAbsence result = true
  | .ufwStatusNumbered =>
      after = before ∧ result.kind = .success ∧ result.standardOutput = ufwListing before.ufwRules
  | .firewalldState =>
      after = before ∧
        if before.firewalldPolicies.isSome then
          result.kind = .success ∧ trimAscii result.standardOutput = ascii "running"
        else result.kind = .nonzeroExit ∧ trimAscii result.standardOutput = ascii "not running"
  | .firewalldInfoPolicy name =>
      after = before ∧
        match before.firewalldPolicies with
        | none => result.kind = .nonzeroExit
        | some policies =>
            match policies name with
            | none => result.kind = .nonzeroExit ∧ contains (ascii "INVALID_POLICY") result.standardError = true
            | some policy =>
                result.kind = .success ∧ ∃ report : PolicyReport, report.Shows policy ∧
                  result.standardOutput = report.text
  | command => result.kind = .success ∧ Effect defaults command before after

/-- A tool is where it is installed. -/
def InstalledAt (installed : Bytes → Bool) (path : Bytes) (query : ToolQuery) : Prop :=
  if installed path then query.status = .present ∧ isTrustedExecutable query.metadata = true
  else query.status = .absent

/-- A host on which tools and journal work. -/
def recoveredHost (installed : Bytes → Bool) : Environment HostCall HostAnswer Host :=
  fun before request answer after =>
    match request, answer with
    | .runTool _ command _ _, result =>
        Truthful defaults command result before.firewall after.firewall ∧ after.journal = before.journal
    | .queryTool path, query => InstalledAt installed path query ∧ after = before
    | .openRecoveryDirectory, opened => opened = true ∧ after = before
    | .readRecoveryRecord, answer =>
        answer = before.journal.elim .empty .valid ∧ after = before
    | .writeRecoveryRecord record, succeeded =>
        succeeded = true ∧ after = { before with journal := some record }
    | .clearRecoveryRecord, succeeded => succeeded = true ∧ after = { before with journal := none }
    | _, _ => after = before

end Effects

end NetLagLab.NetworkEnvironment
