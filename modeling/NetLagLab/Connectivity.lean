import NetLagLab.FirewallTools

/-! Connecting the namespace to the internet, disconnecting it, and reconciling what a dead helper left.
A record of the backend and a random token is written to the journal before the firewall is touched; the
table, the rule and the policy of the Session are named by the token. Tools, journal, clock, consent and
random source are calls. -/

namespace NetLagLab.NetworkEnvironment

open ByteLines CallPrograms CallPrograms.Program

/-! ### Calls -/

inductive QueryStatus where
  | absent
  | present
  | failure
  deriving DecidableEq

structure FileMetadata where
  regular : Bool
  owner : UInt32
  mode : UInt32
  deriving DecidableEq

structure ToolQuery where
  status : QueryStatus
  metadata : FileMetadata
  deriving DecidableEq

inductive FirewallConsentResult where
  | granted
  | declined
  | timedOut
  | terminalUnavailable
  | ioFailure
  deriving DecidableEq

inductive RecoveryReadResult where
  | empty
  | valid (record : RecoveryRecord)
  | corrupt
  | failure
  deriving DecidableEq

inductive HostCall where
  | now
  | ipv4ForwardingEnabled
  | legacyIptablesRulesPresent
  | queryTool (path : Bytes)
  | runTool (path : Bytes) (command : ToolCommand) (deadline : TimePoint) (maximumStdoutSize : Nat)
  | createRecoveryToken
  | requestFirewallConsent (rule : Bytes) (deadline : TimePoint)
  | openRecoveryDirectory
  | readRecoveryRecord
  | writeRecoveryRecord (record : RecoveryRecord)
  | clearRecoveryRecord
  deriving DecidableEq

abbrev HostAnswer : HostCall → Type
  | .now => TimePoint
  | .ipv4ForwardingEnabled => Option Bool
  | .legacyIptablesRulesPresent => Option Bool
  | .queryTool _ => ToolQuery
  | .runTool _ _ _ _ => CommandResult
  | .createRecoveryToken => Option Bytes
  | .requestFirewallConsent _ _ => FirewallConsentResult
  | .openRecoveryDirectory => Bool
  | .readRecoveryRecord => RecoveryReadResult
  | .writeRecoveryRecord _ => Bool
  | .clearRecoveryRecord => Bool

abbrev HostProgram (α : Type) := Program HostCall HostAnswer α

/-- One call. -/
abbrev callHost (request : HostCall) : HostProgram (HostAnswer request) := perform request

def queryTool (path : Bytes) : HostProgram ToolQuery := callHost (.queryTool path)

def runToolWithin (maximumStdoutSize : Nat) (path : Bytes) (command : ToolCommand) (deadline : TimePoint) :
    HostProgram CommandResult :=
  callHost (.runTool path command deadline maximumStdoutSize)

def runTool (path : Bytes) (command : ToolCommand) (deadline : TimePoint) : HostProgram CommandResult :=
  runToolWithin maximumToolOutput path command deadline

abbrev ConnectivityMutationResult := MutationResult ConnectivityProof

abbrev ConnectivityRemovalResult := RemovalResult ConnectivityProof

/-! ### Trusted tools -/

inductive Tool where
  | nft
  | ufw
  | firewallCmd
  deriving DecidableEq

def Tool.paths : Tool → List Bytes
  | .nft => [ascii "/usr/sbin/nft", ascii "/usr/bin/nft", ascii "/sbin/nft", ascii "/bin/nft"]
  | .ufw => [ascii "/usr/sbin/ufw", ascii "/usr/bin/ufw", ascii "/sbin/ufw", ascii "/bin/ufw"]
  | .firewallCmd =>
      [ascii "/usr/bin/firewall-cmd", ascii "/usr/sbin/firewall-cmd", ascii "/bin/firewall-cmd",
        ascii "/sbin/firewall-cmd"]

def isTrustedExecutable (metadata : FileMetadata) : Bool :=
  metadata.regular && decide (metadata.owner = 0) && decide (metadata.mode &&& 0o111 ≠ 0)
    && decide (metadata.mode &&& 0o022 = 0)

structure TrustedToolLookup where
  querySucceeded : Bool := true
  path : Option Bytes := none
  deriving DecidableEq

def findTrustedPath : List Bytes → HostProgram TrustedToolLookup
  | [] => return {}
  | path :: paths => do
      let query ← queryTool path
      if query.status = .failure then
        return { querySucceeded := false }
      if query.status = .present ∧ isTrustedExecutable query.metadata = true then
        return { path := some path }
      findTrustedPath paths

def findTrustedTool (tool : Tool) : HostProgram TrustedToolLookup := findTrustedPath tool.paths

def toolPath (tool : Tool) : HostProgram (Option Bytes) := do
  let result ← findTrustedTool tool
  return if result.querySucceeded then result.path else none

/-! ### Inspection -/

section Inspection

variable (path : Bytes) (deadline : TimePoint)

def inspectUfw : HostProgram (Option Bool) := do
  let result ← runTool path .ufwStatus deadline
  if result.kind ≠ .success then
    return none
  if contains (ascii "Status: active") result.standardOutput then
    return some true
  if contains (ascii "Status: inactive") result.standardOutput then
    return some false
  return none

def inspectIpv4PolicyRouting : HostProgram (Option Bool) := do
  let result ← runTool path .ipRuleShow deadline
  if result.kind ≠ .success ∨ maximumToolOutput ≤ result.standardOutput.length then
    return none
  return some (onlySupportedRules supportedRules (outputLines result.standardOutput))

def inspectDevices : List Bytes → HostProgram (Option Bool)
  | [] => return some true
  | device :: devices => do
      let link ← runTool path (.ipLinkShow device) deadline
      if link.kind ≠ .success ∨ maximumToolOutput ≤ link.standardOutput.length then
        return none
      if !isSupportedEgress link.standardOutput then
        return some false
      inspectDevices devices

def inspectIpv4DefaultRouteInterfaces : HostProgram (Option Bool) := do
  let routes ← runTool path .ipRouteShowDefault deadline
  if routes.kind ≠ .success ∨ maximumToolOutput ≤ routes.standardOutput.length then
    return none
  match defaultRouteDevices (outputLines routes.standardOutput) with
  | some (device :: devices) => inspectDevices path deadline (device :: devices)
  | _ => return some false

def inspectFirewalld : HostProgram (Option Bool) := do
  let result ← runTool path .firewalldState deadline
  if result.kind = .success ∧ trimAscii result.standardOutput = ascii "running" then
    return some true
  if result.kind = .nonzeroExit ∧ trimAscii result.standardOutput = ascii "not running" then
    return some false
  return none

def firewalldIngressZone : HostProgram (Option Bytes) := do
  let result ← runTool path .firewalldZoneOfInterface deadline
  if result.kind ≠ .success then
    return none
  let zone := trimAscii result.standardOutput
  if zone = [] ∨ 64 < zone.length ∨ zone.all isZoneCharacter = false then
    return none
  return some zone

def ufwRulePresent (token : Bytes) : HostProgram (Option Bool) := do
  let result ← runTool path .ufwStatusNumbered deadline
  if result.kind ≠ .success then
    return none
  return ufwRuleAmong (marker token) false (outputLines result.standardOutput)

end Inspection

/-! ### Planning -/

/-- What is decided before anything is changed. -/
structure ConnectivityPlan where
  record : RecoveryRecord
  nftPath : Bytes
  firewallPath : Bytes := []
  firewallZone : Bytes := []
  deadline : TimePoint
  deriving DecidableEq

/-- The tools of the host and which of its firewalls is active. -/
structure FirewallSelection where
  nftPath : Bytes
  backend : RecoveryBackend
  firewallPath : Bytes := []
  deriving DecidableEq

/-- The routing of the host is one that the Session can be connected through. -/
def inspectRouting (ipPath : Bytes) (deadline : TimePoint) : HostProgram (Except Cause Unit) := do
  match ← inspectIpv4PolicyRouting ipPath deadline with
  | none => return .error .systemFailure
  | some false => return .error .unsupportedHostConfiguration
  | some true =>
      match ← inspectIpv4DefaultRouteInterfaces ipPath deadline with
      | none => return .error .systemFailure
      | some false => return .error .unsupportedHostConfiguration
      | some true => return .ok ()

/-- The status of a firewall that is installed; one that is not is not active. -/
def inspectInstalled (path : Option Bytes) (inspect : Bytes → HostProgram (Option Bool)) :
    HostProgram (Option Bool) :=
  match path with
  | some path => inspect path
  | none => return some false

/-- One extra byte tells a complete inventory at the limit from a truncated one. -/
def inspectRuleset (nftPath : Bytes) (legacyRules firewallActive : Bool) (deadline : TimePoint) :
    HostProgram (Except Cause Unit) := do
  let ruleset ← runToolWithin (maximumFirewallInventorySize + 1) nftPath .nftListRuleset deadline
  if ruleset.kind ≠ .success then
    return .error (commandCause ruleset)
  if maximumFirewallInventorySize < ruleset.standardOutput.length then
    return .error .unsupportedHostConfiguration
  if firewallActive = false
      ∧ (legacyRules = true ∨ contains (ascii "hook forward") ruleset.standardOutput = true) then
    return .error .unsupportedHostConfiguration
  return .ok ()

def selectFirewall (legacyRules : Bool) (deadline : TimePoint) :
    HostProgram (Except Cause FirewallSelection) := do
  let nft ← findTrustedTool .nft
  match nft.querySucceeded, nft.path with
  | true, some nftPath =>
      let ufw ← findTrustedTool .ufw
      let firewalld ← findTrustedTool .firewallCmd
      if ufw.querySucceeded = false ∨ firewalld.querySucceeded = false then
        return .error .systemFailure
      let ufwStatus ← inspectInstalled ufw.path fun path => inspectUfw path deadline
      let firewalldStatus ← inspectInstalled firewalld.path fun path => inspectFirewalld path deadline
      match ufwStatus, firewalldStatus with
      | some ufwActive, some firewalldActive =>
          if ufwActive = true ∧ firewalldActive = true then
            return .error .unsupportedHostConfiguration
          match ← inspectRuleset nftPath legacyRules (ufwActive || firewalldActive) deadline with
          | .error cause => return .error cause
          | .ok () =>
              if ufwActive then
                return .ok ⟨nftPath, .ufw, ufw.path.getD []⟩
              if firewalldActive then
                return .ok ⟨nftPath, .firewalld, firewalld.path.getD []⟩
              return .ok ⟨nftPath, .nftables, []⟩
      | _, _ => return .error .unsupportedHostConfiguration
  | _, _ => return .error .unavailableOrInvalidTool

def firewallConsentLimit : TimePoint := 30 * 10 ^ 9

def ufwRuleDescription (token : Bytes) : Bytes :=
  ascii "route allow in on nll-host from 10.200.0.2 comment " ++ marker token

def firewalldPolicyDescription (token zone : Bytes) : Bytes :=
  ascii "firewalld policy " ++ marker token ++ ascii " from zone " ++ zone
    ++ ascii " for IPv4 source 10.200.0.2/32 to any routed destination"

/-- The deadline of the mutations: the time that a human takes to decide is not part of it. -/
def requestConsent (description : Bytes) (deadline : TimePoint) : HostProgram (Except Cause TimePoint) := do
  let consentStarted ← callHost .now
  if deadline ≤ consentStarted then
    return .error .timeout
  match ← callHost (.requestFirewallConsent description (consentStarted + firewallConsentLimit)) with
  | .declined => return .error .firewallConsentDeclined
  | .timedOut => return .error .firewallConsentTimeout
  | .terminalUnavailable => return .error .firewallConsentUnavailable
  | .ioFailure => return .error .systemFailure
  | .granted => return .ok ((← callHost .now) + operationLimit)

/-- The plan with this token, consented to where a firewall of the host is changed. -/
def planSelected (selection : FirewallSelection) (token : Bytes) (deadline : TimePoint) :
    HostProgram (Except Cause ConnectivityPlan) :=
  let plan : ConnectivityPlan :=
    { record := ⟨selection.backend, .intent, token⟩, nftPath := selection.nftPath, deadline }
  match selection.backend with
  | .nftables => return .ok plan
  | .ufw => do
      match ← requestConsent (ufwRuleDescription token) deadline with
      | .error cause => return .error cause
      | .ok deadline => return .ok { plan with firewallPath := selection.firewallPath, deadline }
  | .firewalld => do
      match ← firewalldIngressZone selection.firewallPath deadline with
      | none => return .error .unsupportedHostConfiguration
      | some zone =>
          match ← requestConsent (firewalldPolicyDescription token zone) deadline with
          | .error cause => return .error cause
          | .ok deadline =>
              return .ok { plan with
                firewallPath := selection.firewallPath, firewallZone := zone, deadline }

def planBackend (selection : FirewallSelection) (deadline : TimePoint) :
    HostProgram (Except Cause ConnectivityPlan) := do
  match ← callHost .createRecoveryToken with
  | none => return .error .systemFailure
  | some token => planSelected selection token deadline

def planConnectivity (ipPath : Bytes) (deadline : TimePoint) :
    HostProgram (Except Cause ConnectivityPlan) := do
  let forwarding ← callHost .ipv4ForwardingEnabled
  let legacyRules ← callHost .legacyIptablesRulesPresent
  match forwarding, legacyRules with
  | some forwarding, some legacyRules =>
      if !forwarding then
        return .error .unsupportedHostConfiguration
      match ← inspectRouting ipPath deadline with
      | .error cause => return .error cause
      | .ok () =>
          match ← selectFirewall legacyRules deadline with
          | .error cause => return .error cause
          | .ok selection => planBackend selection deadline
  | _, _ => return .error .systemFailure

/-! ### Configuration -/

/-- A failure after the first mutation keeps the proof. -/
def ownedFailure (handle : ConnectivityHandle) (cause : Cause) : ConnectivityMutationResult :=
  ⟨false, cause, .proven ⟨handle⟩⟩

/-- Commands in sequence up to the first that fails. -/
def runToolSequence (path : Bytes) (deadline : TimePoint) : List ToolCommand → HostProgram (Except Cause Unit)
  | [] => return .ok ()
  | command :: commands => do
      let result ← runTool path command deadline
      if result.kind ≠ .success then
        return .error (commandCause result)
      runToolSequence path deadline commands

def addFirewalldPolicy (handle : ConnectivityHandle) (deadline : TimePoint) : HostProgram OperationResult := do
  let policy := marker handle.recoveryRecord.token
  match ← runToolSequence handle.firewallPath deadline
      [.firewalldNewPolicy policy, .firewalldAddIngressZone policy handle.firewallZone,
        .firewalldAddEgressZone policy, .firewalldAddRichRule policy] with
  | .error cause => return ⟨false, cause⟩
  | .ok () =>
      let inspection ← runTool handle.firewallPath (.firewalldInfoPolicy policy) deadline
      if inspection.kind ≠ .success
          ∨ firewalldPolicyMatches inspection.standardOutput handle.firewallZone false = false then
        return ⟨false, .identityUnavailable⟩
      return ⟨true, .systemFailure⟩

def openUfw (plan : ConnectivityPlan) (handle : ConnectivityHandle) :
    HostProgram (Except ConnectivityMutationResult ConnectivityHandle) := do
  let handle := { handle with firewallPath := plan.firewallPath }
  let result ← runTool plan.firewallPath (.ufwRouteAllow (marker plan.record.token)) plan.deadline
  let present ← ufwRulePresent plan.firewallPath plan.deadline plan.record.token
  if result.kind ≠ .success ∨ present ≠ some true then
    return .error (ownedFailure handle
      (if result.kind = .success then .identityUnavailable else commandCause result))
  return .ok handle

def openFirewalld (plan : ConnectivityPlan) (handle : ConnectivityHandle) :
    HostProgram (Except ConnectivityMutationResult ConnectivityHandle) := do
  let handle := { handle with firewallPath := plan.firewallPath, firewallZone := plan.firewallZone }
  let result ← addFirewalldPolicy handle plan.deadline
  if !result.succeeded then
    return .error (ownedFailure handle result.cause)
  return .ok handle

/-- The firewall of the host is opened for the Session. -/
def openFirewall (plan : ConnectivityPlan) (handle : ConnectivityHandle) :
    HostProgram (Except ConnectivityMutationResult ConnectivityHandle) :=
  match plan.record.backend with
  | .nftables => return .ok handle
  | .ufw => openUfw plan handle
  | .firewalld => openFirewalld plan handle

/-- The table that translates the addresses of the Session, then the firewall. The handle knows the
path of nft once the table is added. -/
def applyConnectivity (plan : ConnectivityPlan) :
    HostProgram (Except ConnectivityMutationResult ConnectivityHandle) := do
  let table := tableName plan.record.token
  let handle : ConnectivityHandle := { recoveryRecord := plan.record, table }
  let added ← runTool plan.nftPath (.nftAddTable table) plan.deadline
  if added.kind ≠ .success then
    return .error (ownedFailure handle (commandCause added))
  let handle := { handle with nftPath := plan.nftPath }
  match ← runToolSequence plan.nftPath plan.deadline
      [.nftAddChain table, .nftAddRule table plan.record.token] with
  | .error cause => return .error (ownedFailure handle cause)
  | .ok () => openFirewall plan handle

/-- The record says that all is in place. -/
def recordApplied (handle : ConnectivityHandle) : HostProgram ConnectivityMutationResult := do
  let applied := { handle.recoveryRecord with phase := .applied }
  if !(← callHost (.writeRecoveryRecord applied)) then
    return ownedFailure handle .systemFailure
  return ⟨true, .systemFailure, .proven ⟨{ handle with recoveryRecord := applied }⟩⟩

def configureConnectivity (ipPath : Bytes) (deadline : TimePoint) :
    HostProgram ConnectivityMutationResult := do
  match ← planConnectivity ipPath deadline with
  | .error cause => return ⟨false, cause, .absent⟩
  | .ok plan =>
      if !(← callHost .openRecoveryDirectory) then
        return ⟨false, .systemFailure, .absent⟩
      if (← callHost .readRecoveryRecord) ≠ .empty then
        return ⟨false, .unsupportedHostConfiguration, .absent⟩
      if !(← callHost (.writeRecoveryRecord plan.record)) then
        return ⟨false, .systemFailure, .absent⟩
      match ← applyConnectivity plan with
      | .error failure => return failure
      | .ok handle => recordApplied handle

/-! ### Removal -/

section Removal

variable (handle : ConnectivityHandle) (deadline : TimePoint)

def removeUfwRule : HostProgram OperationResult := do
  let token := handle.recoveryRecord.token
  match ← ufwRulePresent handle.firewallPath deadline token with
  | none => return ⟨false, .identityUnavailable⟩
  | some false => return ⟨true, .systemFailure⟩
  | some true =>
      let deletion ← runTool handle.firewallPath (.ufwRouteDelete (marker token)) deadline
      if deletion.kind ≠ .success then
        return ⟨false, commandCause deletion⟩
      if (← ufwRulePresent handle.firewallPath deadline token) = some false then
        return ⟨true, .systemFailure⟩
      return ⟨false, .identityUnavailable⟩

def removeFirewalldPolicy : HostProgram OperationResult := do
  let policy := marker handle.recoveryRecord.token
  let current ← runTool handle.firewallPath (.firewalldInfoPolicy policy) deadline
  if current.kind ≠ .success then
    if (← inspectFirewalld handle.firewallPath deadline) = some false then
      return ⟨true, .systemFailure⟩
    if contains (ascii "INVALID_POLICY") current.standardError then
      return ⟨true, .systemFailure⟩
    return ⟨false, commandCause current⟩
  if !firewalldPolicyMatches current.standardOutput handle.firewallZone true then
    return ⟨false, .identityMismatch⟩
  let deletion ← runTool handle.firewallPath (.firewalldDeletePolicy policy) deadline
  if deletion.kind ≠ .success then
    return ⟨false, commandCause deletion⟩
  let afterDeletion ← runTool handle.firewallPath (.firewalldInfoPolicy policy) deadline
  if afterDeletion.kind = .success then
    return ⟨false, .identityMismatch⟩
  if contains (ascii "INVALID_POLICY") afterDeletion.standardError then
    return ⟨true, .systemFailure⟩
  if (← inspectFirewalld handle.firewallPath deadline) = some false then
    return ⟨true, .systemFailure⟩
  return ⟨false, commandCause afterDeletion⟩

def removeFirewall : HostProgram OperationResult :=
  match handle.recoveryRecord.backend with
  | .ufw => removeUfwRule handle deadline
  | .firewalld => removeFirewalldPolicy handle deadline
  | .nftables => return ⟨true, .systemFailure⟩

/-- The failure of a removal that keeps the proof. -/
def stillOwned (cause : Cause) : ConnectivityRemovalResult := ⟨cause, .proven ⟨handle⟩⟩

/-- The table is deleted unless it is known to be absent. -/
def removeTable (nftPath : Bytes) : HostProgram (Except ConnectivityRemovalResult Unit) := do
  let tableQuery ← runTool nftPath (.nftListTable handle.table) deadline
  if tableQuery.kind = .success then
    if !contains handle.table tableQuery.standardOutput then
      return .error ⟨.identityMismatch, .identityUnconfirmed⟩
    let deletion ← runTool nftPath (.nftDeleteTable handle.table) deadline
    if deletion.kind ≠ .success then
      return .error (stillOwned handle (commandCause deletion))
    let afterDeletion ← runTool nftPath (.nftListTable handle.table) deadline
    if !knownNftTableAbsence afterDeletion then
      return .error (stillOwned handle
        (if afterDeletion.kind = .success then .identityMismatch else commandCause afterDeletion))
    return .ok ()
  else
    if !knownNftTableAbsence tableQuery then
      return .error (stillOwned handle (commandCause tableQuery))
    return .ok ()

def knownNftPath : HostProgram (Option Bytes) :=
  if handle.nftPath = [] then toolPath .nft else return some handle.nftPath

def removeRecordedTable : HostProgram (Except ConnectivityRemovalResult Unit) := do
  match ← knownNftPath handle with
  | none => return .error (stillOwned handle .unavailableOrInvalidTool)
  | some nftPath => removeTable handle deadline nftPath

/-- The firewall of the host, when the handle says that it was touched, then the table. -/
def removeRecorded : HostProgram (Except ConnectivityRemovalResult Unit) := do
  if handle.firewallPath = [] then
    removeRecordedTable handle deadline
  else
    let firewallCleanup ← removeFirewall handle deadline
    if !firewallCleanup.succeeded then
      return .error (stillOwned handle firewallCleanup.cause)
    removeRecordedTable handle deadline

/-- The record that the removal goes by: that of the journal when it is the handle's, the handle's when
the journal is empty. -/
def recordToRemove : RecoveryReadResult → Option RecoveryRecord
  | .valid current =>
      if current.token = handle.recoveryRecord.token ∧ current.backend = handle.recoveryRecord.backend then
        some current
      else none
  | .empty => some handle.recoveryRecord
  | _ => none

/-- What was recorded is removed, and then the record. -/
def removeAndClear : HostProgram ConnectivityRemovalResult := do
  match ← removeRecorded handle deadline with
  | .error failure => return failure
  | .ok () =>
      if !(← callHost .clearRecoveryRecord) then
        return stillOwned handle .systemFailure
      return ⟨.systemFailure, .absent⟩

def removeConnectivity : HostProgram ConnectivityRemovalResult := do
  match recordToRemove handle (← callHost .readRecoveryRecord) with
  | none => return ⟨.identityMismatch, .identityUnconfirmed⟩
  | some record =>
      let removing := { record with phase := .removing }
      if !(← callHost (.writeRecoveryRecord removing)) then
        return stillOwned handle .systemFailure
      removeAndClear { handle with recoveryRecord := removing } deadline

end Removal

/-! ### Reconciliation -/

/-- The tool that the backend of the record was configured with. -/
def backendTool : RecoveryBackend → Option Tool
  | .nftables => none
  | .ufw => some .ufw
  | .firewalld => some .firewallCmd

/-- The path of the backend's tool; empty when the backend has none. -/
def findBackendPath (backend : RecoveryBackend) : HostProgram (Option Bytes) :=
  match backendTool backend with
  | none => return some []
  | some tool => toolPath tool

/-- A handle is made anew of the record, so that it has no ingress zone. -/
def reconcilePendingState (deadline : TimePoint) : HostProgram OperationResult := do
  if !(← callHost .openRecoveryDirectory) then
    return ⟨false, .systemFailure⟩
  match ← callHost .readRecoveryRecord with
  | .empty => return ⟨true, .systemFailure⟩
  | .valid record =>
      match ← toolPath .nft with
      | none => return ⟨false, .unavailableOrInvalidTool⟩
      | some nftPath =>
          match ← findBackendPath record.backend with
          | none => return ⟨false, .unavailableOrInvalidTool⟩
          | some firewallPath =>
              let handle : ConnectivityHandle :=
                { recoveryRecord := record, table := tableName record.token, nftPath, firewallPath }
              let reconciled ← removeConnectivity handle deadline
              return if reconciled.state.isAbsent then ⟨true, .systemFailure⟩ else ⟨false, reconciled.cause⟩
  | _ => return ⟨false, .unsupportedHostConfiguration⟩

end NetLagLab.NetworkEnvironment
