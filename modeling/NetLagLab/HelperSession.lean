import NetLagLab.CallLoops
import NetLagLab.EnvironmentTransaction
import NetLagLab.SessionAdapter
import NetLagLab.Shaping
import NetLagLab.WorkloadContext

/-! One Session of the helper, from the preparation of the network environment to its cleanup. The environment, the
Workload and the socket to the Supervisor are calls with any answer. A loop is cut off after a number of turns, and
then there is no result yet. -/

namespace NetLagLab.HelperSession

open ByteLines CallPrograms CallPrograms.Program NetworkEnvironment

structure WorkloadIdentity where
  uid : UInt32
  gid : UInt32
  supplementaryGroups : List UInt32
  deriving DecidableEq

structure WorkloadStatus where
  exited : Bool
  value : Int
  deriving DecidableEq

/-- A status comes with the state `finished` and with no other. -/
inductive WorkloadPollResult where
  | running
  | finished (status : WorkloadStatus)
  | error
  deriving DecidableEq

/-- The process is known by its PID. -/
structure WorkloadLaunchResult where
  process : Option Int
  failureExitCode : Int := 0
  failure : Bytes := []
  deriving DecidableEq

/-- What `poll` on the socket comes to: an error or an error flag, nothing in its time, or something to read. -/
inductive SupervisorPoll where
  | failed
  | timedOut
  | readable
  deriving DecidableEq

inductive HelperCall where
  | prepare
  | launch (context : WorkloadContext) (identity : WorkloadIdentity) (standardDescriptors : List Int)
      (environment : OwnerState)
  | send (text : Bytes)
  | pollWorkload
  | waitWorkload
  | sendSignal (signal : Int)
  | pollSupervisor
  | readSupervisor
  | setDirectionSettings (direction : ShapingDirection) (settings : DirectionSettings)
  | cleanup (environment : OwnerState)
  | retry (residual : OwnerState)
  | now
  | pause
  | report (text : Bytes)
  deriving DecidableEq

abbrev HelperAnswer : HelperCall → Type
  | .prepare => PreparationResult
  | .launch _ _ _ _ => WorkloadLaunchResult
  | .send _ => Bool
  | .pollWorkload => WorkloadPollResult
  | .waitWorkload => Option WorkloadStatus
  | .sendSignal _ => Bool
  | .pollSupervisor => SupervisorPoll
  | .readSupervisor => SocketRead
  | .setDirectionSettings _ _ => ShapingChangeResult
  | .cleanup _ => CleanupResult
  | .retry _ => CleanupResult
  | .now => TimePoint
  | .pause => Unit
  | .report _ => Unit

abbrev HelperProgram := Program HelperCall HelperAnswer

/-- One call. -/
abbrev ask (request : HelperCall) : HelperProgram (HelperAnswer request) := perform request

def sendEvent (event : HelperConversationEvent) : HelperProgram Bool :=
  ask (.send (helperConversationEventMessage event))

def helperErrorMessage (safeMessage : Bytes) : Bytes := helperErrorPrefix ++ safeMessage ++ [newline]

/-! ### Reports -/

def stageName : Stage → Bytes
  | .preflight => ascii "preflight"
  | .namespaceCreation => ascii "namespace creation"
  | .vethCreation => ascii "veth creation"
  | .hostConfiguration => ascii "host configuration"
  | .namespaceConfiguration => ascii "namespace configuration"
  | .routeConfiguration => ascii "route configuration"
  | .internetConnectivity => ascii "Internet connectivity"
  | .cleanup => ascii "cleanup"

def causeName : Cause → Bytes
  | .collision => ascii "collision"
  | .unavailableOrInvalidTool => ascii "unavailable or invalid tool"
  | .systemFailure => ascii "system failure"
  | .commandExit => ascii "command exited unsuccessfully"
  | .commandSignal => ascii "command terminated by signal"
  | .timeout => ascii "timed out"
  | .identityUnavailable => ascii "identity unavailable"
  | .identityMismatch => ascii "identity mismatch"
  | .incompleteCleanup => ascii "incomplete cleanup"
  | .unsupportedHostConfiguration => ascii "unsupported host configuration"
  | .firewallConsentDeclined => ascii "temporary firewall exception was not approved"
  | .firewallConsentTimeout => ascii "firewall consent timed out; reply y on the controlling terminal"
  | .firewallConsentUnavailable => ascii "firewall consent requires an accessible controlling terminal"

def reportFailure (failure : Failure) (context : Bytes) : HelperProgram Unit :=
  ask (.report (ascii "NetLagLab helper: Network Environment " ++ context ++ ascii " at " ++ stageName failure.stage
    ++ ascii ": " ++ causeName failure.cause ++ [newline]))

def reportFailures (context : Bytes) : List Failure → HelperProgram Unit
  | [] => return ()
  | failure :: failures => do
      reportFailure failure context
      reportFailures context failures

/-! ### Cleanup -/

def reportCleanup (succeeded : Bool) : HelperProgram Bool :=
  sendEvent (if succeeded then .cleanupSucceeded else .cleanupFailed)

/-- A residual is tried once more, which makes no success of a failure. -/
def retryResidual (retryContext residualContext : Bytes) (residual : OwnerState) : HelperProgram Unit := do
  let retry ← ask (.retry residual)
  reportFailures retryContext retry.failures
  if retry.residual.isSome then reportFailure ⟨.cleanup, .incompleteCleanup⟩ residualContext

def cleanupPrepared (environment : OwnerState) : HelperProgram Bool := do
  let result ← ask (.cleanup environment)
  let succeeded := result.failures.isEmpty && result.residual.isNone
  reportFailures (ascii "cleanup failed") result.failures
  match result.residual with
  | none => return succeeded
  | some residual =>
      retryResidual (ascii "cleanup retry failed") (ascii "cleanup left residual resources") residual
      return false

def cleanupFailedPreparation (failure : PreparationFailure) : HelperProgram Bool := do
  reportFailure failure.primary (ascii "preparation failed")
  let succeeded := failure.rollbackFailures.isEmpty
  reportFailures (ascii "rollback failed") failure.rollbackFailures
  match failure.residual with
  | none => return succeeded
  | some residual =>
      retryResidual (ascii "rollback retry failed") (ascii "rollback left residual resources") residual
      return false

/-! ### The adapter for Profile Changes -/

/-- The changes that the environment has no shaping for. -/
def changesBandwidth : ProfileChange → Bool
  | .setBandwidth _ _ => true
  | .resetSetting _ setting => decide (setting = .bandwidth)
  | _ => false

/-- `NetworkEnvironmentProfileChangeAdapter::apply`, with the profile that it has confirmed. -/
def applyChange (confirmed : NetworkProfile) (change : ProfileChange) :
    HelperProgram (ProfileChangeCompletion × NetworkProfile) :=
  match applyProfileChange confirmed change with
  | .error _ => return (.restoredAfterFailure, confirmed)
  | .ok candidate =>
      if changesBandwidth change || candidate.outbound.bandwidthKbps.isSome
          || candidate.inbound.bandwidthKbps.isSome then return (.restoredAfterFailure, confirmed)
      else
        let outboundChanged := !candidate.outbound.same confirmed.outbound
        let inboundChanged := !candidate.inbound.same confirmed.inbound
        if !outboundChanged && !inboundChanged then return (.applied, confirmed)
        else if outboundChanged && inboundChanged then return (.stateUnknown, confirmed)
        else do
          let direction := if outboundChanged then .outbound else .inbound
          let requested := if outboundChanged then candidate.outbound else candidate.inbound
          match ← ask (.setDirectionSettings direction requested) with
          | .applied => return (.applied, candidate)
          | .restoredAfterFailure => return (.restoredAfterFailure, confirmed)
          | .stateUnknown => return (.stateUnknown, confirmed)

/-! ### Supervision -/

def sigterm : Int := 15

def sigkill : Int := 9

/-- Five seconds. -/
def stopGrace : TimePoint := 5 * 10 ^ 9

/-- A turn of the wait for a Workload that was told to end: whether it was reaped, or nothing once its time is up. -/
def awaitEnd (deadline : TimePoint) (_ : Unit) : HelperProgram (Unit ⊕ Option Bool) := do
  if deadline ≤ (← ask .now) then return .inr none
  match ← ask .pollWorkload with
  | .finished _ => return .inr (some true)
  | .error => return .inr (some false)
  | .running =>
      ask .pause
      return .inl ()

def stopAfterSupervisorLoss (turns : Nat) : HelperProgram (Option Bool) := do
  let _ ← ask (.sendSignal sigterm)
  let deadline := (← ask .now) + stopGrace
  match ← loop (awaitEnd deadline) turns () with
  | none => return none
  | some (some reaped) => return some reaped
  | some none =>
      if !(← ask (.sendSignal sigkill)) then return some false
      return some (← ask .waitWorkload).isSome

def sendWorkloadStatus (status : WorkloadStatus) : HelperProgram Bool :=
  sendEvent (if status.exited then .workloadExited status.value else .workloadSignaled status.value)

/-- What the supervision keeps from turn to turn. -/
structure Supervision where
  conversation : HelperRuntimeConversation := {}
  confirmed : NetworkProfile := {}
  deriving DecidableEq

/-- The Workload is stopped and the supervision has failed. -/
def abandon (turns : Nat) : HelperProgram (Supervision ⊕ Option Int) := do
  match ← stopAfterSupervisorLoss turns with
  | none => return .inr none
  | some _ => return .inr (some 125)

/-- The same with a report before it. -/
def abandonReporting (turns : Nat) (text : Bytes) : HelperProgram (Supervision ⊕ Option Int) := do
  ask (.report (text ++ [newline]))
  abandon turns

section

variable [DecimalText]

/-- The commands of one read in their order. -/
def carryOut (turns : Nat) : List HelperRuntimeCommand → Supervision → HelperProgram (Supervision ⊕ Option Int)
  | [], state => return .inl state
  | .profileChange change :: commands, state => do
      let applied ← applyChange state.confirmed change
      let completed := state.conversation.completeProfileChange applied.1
      match completed.2 with
      | none => abandonReporting turns (ascii "NetLagLab helper: failed to complete Profile Change")
      | some response =>
          if ← ask (.send response) then carryOut turns commands ⟨completed.1, applied.2⟩
          else abandonReporting turns (ascii "NetLagLab helper: failed to complete Profile Change")
  | command :: commands, state => do
      if ← ask (.sendSignal (if command = .stopKill then sigkill else sigterm)) then carryOut turns commands state
      else
        let _ ← ask (.send (helperErrorMessage (ascii "Failed to stop Workload.")))
        abandon turns

/-- What is read from the Supervisor. -/
def receive (turns : Nat) (state : Supervision) (bytes : Bytes) : HelperProgram (Supervision ⊕ Option Int) := do
  let received := state.conversation.receiveBytes bytes
  if received.2.valid then carryOut turns received.2.commands { state with conversation := received.1 }
  else
    match received.2.response with
    | none => abandon turns
    | some response =>
        let _ ← ask (.send response)
        abandon turns

/-- A turn of `supervise_workload`, with the status that it returns unless it goes on. -/
def superviseTurn (turns : Nat) (state : Supervision) : HelperProgram (Supervision ⊕ Option Int) := do
  match ← ask .pollWorkload with
  | .error =>
      match ← stopAfterSupervisorLoss turns with
      | none => return .inr none
      | some _ =>
          ask (.report (ascii "NetLagLab helper: failed to reap Workload" ++ [newline]))
          return .inr (some 125)
  | .finished status =>
      if ← sendWorkloadStatus status then return .inr (some 0)
      ask (.report (ascii "NetLagLab helper: failed to report Workload completion" ++ [newline]))
      return .inr (some 125)
  | .running =>
      match ← ask .pollSupervisor with
      | .failed => abandonReporting turns (ascii "NetLagLab helper: supervisor conversation failed")
      | .timedOut => return .inl state
      | .readable =>
          match ← ask .readSupervisor with
          | .data bytes => receive turns state bytes
          | _ => abandonReporting turns (ascii "NetLagLab helper: supervisor disconnected; stopping Workload")

def superviseWorkload (turns : Nat) : HelperProgram (Option Int) := do
  return (← loop (superviseTurn turns) turns {}).join

/-! ### The Session -/

/-- The end of every Session whose environment was prepared. -/
def finishSession (environment : OwnerState) (status : Int) : HelperProgram (Option Int) := do
  let cleanupSucceeded ← cleanupPrepared environment
  let cleanupReported ← reportCleanup cleanupSucceeded
  return some (if cleanupSucceeded && cleanupReported then status else 125)

def runHelperSession (turns : Nat) (context : WorkloadContext) (identity : WorkloadIdentity)
    (standardDescriptors : List Int) : HelperProgram (Option Int) := do
  match ← ask .prepare with
  | .failed failure =>
      let cleanupSucceeded ← cleanupFailedPreparation failure
      let failureReported ← sendEvent (.activationFailed 125)
      let cleanupReported ← reportCleanup cleanupSucceeded
      return some (if failureReported && cleanupReported && cleanupSucceeded then 0 else 125)
  | .prepared environment =>
      let launch ← ask (.launch context identity standardDescriptors environment)
      match launch.process with
      | none =>
          if launch.failure ≠ [] then
            ask (.report (ascii "NetLagLab helper: " ++ launch.failure ++ [newline]))
          let failureReported ← sendEvent (.activationFailed launch.failureExitCode)
          let cleanupSucceeded ← cleanupPrepared environment
          let cleanupReported ← reportCleanup cleanupSucceeded
          return some (if failureReported && cleanupReported && cleanupSucceeded then 0 else 125)
      | some pid =>
          if ← sendEvent (.activated pid) then
            match ← superviseWorkload turns with
            | none => return none
            | some status => finishSession environment status
          else
            match ← stopAfterSupervisorLoss turns with
            | none => return none
            | some _ => finishSession environment 125

end

end NetLagLab.HelperSession
