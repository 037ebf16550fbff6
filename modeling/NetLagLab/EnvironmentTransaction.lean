import NetLagLab.ByteLines
import NetLagLab.CallPrograms

/-! The network environment as a transaction. Three roots are owned: the namespace, the veth pair and
the connectivity to the internet. Each is absent, proven by an identity, or present without a confirmed
identity. The operations that make and remove them belong to the adapter; here they are calls with any
answer, and so is the clock. -/

namespace NetLagLab.NetworkEnvironment

open ByteLines CallPrograms CallPrograms.Program

inductive Stage where
  | preflight
  | namespaceCreation
  | vethCreation
  | hostConfiguration
  | namespaceConfiguration
  | routeConfiguration
  | internetConnectivity
  | cleanup
  deriving DecidableEq

inductive Cause where
  | collision
  | unavailableOrInvalidTool
  | systemFailure
  | commandExit
  | commandSignal
  | timeout
  | identityUnavailable
  | identityMismatch
  | incompleteCleanup
  | unsupportedHostConfiguration
  | firewallConsentDeclined
  | firewallConsentTimeout
  | firewallConsentUnavailable
  deriving DecidableEq

structure Failure where
  stage : Stage
  cause : Cause
  deriving DecidableEq

/-! ### Proofs of ownership -/

structure NamespaceIdentity where
  device : UInt64
  inode : UInt64
  deriving DecidableEq

/-- A namespace, held by the handle that the adapter opened. -/
structure NamespaceProof where
  exactHandle : NamespaceIdentity
  deriving DecidableEq

structure LinkIdentity where
  index : UInt32
  peerIndex : UInt32
  peerNamespaceId : Option Int32
  deriving DecidableEq

structure VethIdentityPair where
  host : LinkIdentity
  session : LinkIdentity
  deriving DecidableEq

/-- A pair with both links on the host. -/
structure HostVethProof where
  identity : VethIdentityPair
  deriving DecidableEq

/-- A pair with its peer in the namespace. -/
structure PlacedVethProof where
  identity : VethIdentityPair
  deriving DecidableEq

inductive ProvenVeth where
  | host (proof : HostVethProof)
  | placed (proof : PlacedVethProof)
  deriving DecidableEq

inductive RecoveryBackend where
  | nftables
  | ufw
  | firewalld
  deriving DecidableEq

inductive RecoveryPhase where
  | intent
  | applied
  | removing
  deriving DecidableEq

structure RecoveryRecord where
  backend : RecoveryBackend
  phase : RecoveryPhase
  token : Bytes
  deriving DecidableEq

/-- `ProductionConnectivityHandle`, without the descriptor of the journal's directory. -/
structure ConnectivityHandle where
  recoveryRecord : RecoveryRecord
  table : Bytes
  nftPath : Bytes := []
  firewallPath : Bytes := []
  firewallZone : Bytes := []
  deriving DecidableEq

structure ConnectivityProof where
  handle : ConnectivityHandle
  deriving DecidableEq

/-- What the ledger knows of one root: nothing is there (`std::monostate`), a proof, or something
without a confirmed identity. -/
inductive Root (Proof : Type) where
  | absent
  | proven (proof : Proof)
  | identityUnconfirmed
  deriving DecidableEq

namespace Root

variable {Proof : Type}

def isAbsent : Root Proof → Bool
  | .absent => true
  | _ => false

def isUnconfirmed : Root Proof → Bool
  | .identityUnconfirmed => true
  | _ => false

end Root

abbrev NamespaceState := Root NamespaceProof

abbrev VethState := Root ProvenVeth

abbrev ConnectivityState := Root ConnectivityProof

structure OwnerState where
  namespaceRoot : NamespaceState := .absent
  vethRoot : VethState := .absent
  connectivityRoot : ConnectivityState := .absent
  deriving DecidableEq

/-! ### The adapter's operations -/

structure OperationResult where
  succeeded : Bool
  cause : Cause
  deriving DecidableEq

structure MutationResult (Proof : Type) where
  succeeded : Bool
  cause : Cause
  state : Root Proof
  deriving DecidableEq

structure RemovalResult (Proof : Type) where
  cause : Cause
  state : Root Proof
  deriving DecidableEq

/-- Nanoseconds of `std::chrono::steady_clock`. -/
abbrev TimePoint := Int

def transactionLimit : TimePoint := 30 * 10 ^ 9

def operationLimit : TimePoint := 5 * 10 ^ 9

inductive EnvironmentCall where
  | now
  | preflight (deadline : TimePoint)
  | createNamespace (deadline : TimePoint)
  | createVeth (deadline : TimePoint)
  | movePeer (namespaceProof : NamespaceProof) (veth : HostVethProof) (deadline : TimePoint)
  | assignHostAddress (veth : PlacedVethProof) (deadline : TimePoint)
  | bringHostLinkUp (veth : PlacedVethProof) (deadline : TimePoint)
  | bringLoopbackUp (namespaceProof : NamespaceProof) (deadline : TimePoint)
  | assignNamespaceAddress (namespaceProof : NamespaceProof) (veth : PlacedVethProof)
      (deadline : TimePoint)
  | bringNamespaceLinkUp (namespaceProof : NamespaceProof) (veth : PlacedVethProof)
      (deadline : TimePoint)
  | addDefaultRoute (namespaceProof : NamespaceProof) (veth : PlacedVethProof) (deadline : TimePoint)
  | configureConnectivity (deadline : TimePoint)
  | removeConnectivity (proof : ConnectivityProof) (deadline : TimePoint)
  | removeVeth (proof : ProvenVeth) (namespaceProof : Option NamespaceProof) (deadline : TimePoint)
  | removeNamespace (proof : NamespaceProof) (deadline : TimePoint)
  deriving DecidableEq

abbrev EnvironmentAnswer : EnvironmentCall → Type
  | .now => TimePoint
  | .createNamespace _ => MutationResult NamespaceProof
  | .createVeth _ => MutationResult ProvenVeth
  | .movePeer _ _ _ => MutationResult ProvenVeth
  | .configureConnectivity _ => MutationResult ConnectivityProof
  | .removeConnectivity _ _ => RemovalResult ConnectivityProof
  | .removeVeth _ _ _ => RemovalResult ProvenVeth
  | .removeNamespace _ _ => RemovalResult NamespaceProof
  | _ => OperationResult

abbrev EnvironmentProgram (α : Type) := Program EnvironmentCall EnvironmentAnswer α

abbrev EnvironmentEvent := Event EnvironmentCall EnvironmentAnswer

/-- One call. -/
abbrev ask (request : EnvironmentCall) : EnvironmentProgram (EnvironmentAnswer request) :=
  perform request

abbrev now : EnvironmentProgram TimePoint := ask .now

def operationDeadline (now transactionDeadline : TimePoint) : TimePoint :=
  min (now + operationLimit) transactionDeadline

/-! ### Cleanup -/

structure CleanupResult where
  failures : List Failure := []
  residual : Option OwnerState := none
  deriving DecidableEq

def hasResidual (state : OwnerState) : Bool :=
  !state.namespaceRoot.isAbsent || !state.vethRoot.isAbsent || !state.connectivityRoot.isAbsent

/-- The failure of a removal, unless it reports that nothing is there any more. -/
def removalFailures {Proof : Type} (removal : RemovalResult Proof) : List Failure :=
  if removal.state.isAbsent then [] else [⟨.cleanup, removal.cause⟩]

/-- A removal: it is started only before the deadline of the pass. -/
def removeRoot {Proof : Type} (transactionDeadline : TimePoint) (root : Root Proof)
    (remove : TimePoint → EnvironmentProgram (RemovalResult Proof)) :
    EnvironmentProgram (Root Proof × List Failure) := do
  if transactionDeadline ≤ (← now) then
    return (root, [⟨.cleanup, .timeout⟩])
  let removal ← remove (operationDeadline (← now) transactionDeadline)
  return (removal.state, removalFailures removal)

def removeConnectivityRoot (transactionDeadline : TimePoint) (state : OwnerState) :
    EnvironmentProgram (OwnerState × List Failure) :=
  match state.connectivityRoot with
  | .proven proof => do
      let removed ← removeRoot transactionDeadline state.connectivityRoot fun deadline =>
        ask (.removeConnectivity proof deadline)
      return ({ state with connectivityRoot := removed.1 }, removed.2)
  | _ => return (state, [])

/-- The proof of the namespace, if there is one. -/
def OwnerState.namespaceProof (state : OwnerState) : Option NamespaceProof :=
  match state.namespaceRoot with
  | .proven proof => some proof
  | _ => none

def removeVethRoot (transactionDeadline : TimePoint) (state : OwnerState) :
    EnvironmentProgram (OwnerState × List Failure) :=
  match state.vethRoot with
  | .proven proof => do
      let removed ← removeRoot transactionDeadline state.vethRoot fun deadline =>
        ask (.removeVeth proof state.namespaceProof deadline)
      return ({ state with vethRoot := removed.1 }, removed.2)
  | _ => return (state, [])

def removeNamespaceRoot (transactionDeadline : TimePoint) (state : OwnerState) :
    EnvironmentProgram (OwnerState × List Failure) :=
  match state.namespaceRoot with
  | .proven proof => do
      let removed ← removeRoot transactionDeadline state.namespaceRoot fun deadline =>
        ask (.removeNamespace proof deadline)
      return ({ state with namespaceRoot := removed.1 }, removed.2)
  | _ => return (state, [])

/-- The removals of one pass, and the failures they met. A veth pair that could not be removed may be
gone with the namespace, so it is tried again after the namespace was removed. -/
def removeRoots (transactionDeadline : TimePoint) (state : OwnerState) :
    EnvironmentProgram (OwnerState × List Failure) := do
  let (disconnected, connectivityFailures) ← removeConnectivityRoot transactionDeadline state
  let (unlinked, vethFailures) ← removeVethRoot transactionDeadline disconnected
  let (closed, namespaceFailures) ← removeNamespaceRoot transactionDeadline unlinked
  let failures := connectivityFailures ++ vethFailures ++ namespaceFailures
  let namespaceRemoved := !unlinked.namespaceRoot.isAbsent && closed.namespaceRoot.isAbsent
  if namespaceRemoved then
    let (rechecked, recheckFailures) ← removeVethRoot transactionDeadline closed
    return (rechecked, failures ++ recheckFailures)
  return (closed, failures)

def beganWithUnconfirmed (state : OwnerState) : Bool :=
  state.namespaceRoot.isUnconfirmed || state.vethRoot.isUnconfirmed
    || state.connectivityRoot.isUnconfirmed

def cleanupState (returnResidual : Bool) : Option OwnerState → EnvironmentProgram CleanupResult
  | none => return {}
  | some state => do
      let start ← now
      let (remaining, failures) ← removeRoots (start + transactionLimit) state
      return {
        failures := failures ++
          if returnResidual && beganWithUnconfirmed state then [⟨.cleanup, .incompleteCleanup⟩] else []
        residual := if returnResidual && hasResidual remaining then some remaining else none }

/-- `PreparedNetworkEnvironment::cleanup` and `ResidualCleanup::retry`. -/
def cleanup (owner : Option OwnerState) : EnvironmentProgram CleanupResult := cleanupState true owner

/-- The destructors of both, which keep no result. -/
def bestEffortCleanup (owner : Option OwnerState) : EnvironmentProgram Unit := do
  let _ ← cleanupState false owner
  return ()

/-! ### Preparation -/

structure PreparationFailure where
  primary : Failure
  rollbackFailures : List Failure
  residual : Option OwnerState
  deriving DecidableEq

inductive PreparationResult where
  | prepared (state : OwnerState)
  | failed (failure : PreparationFailure)
  deriving DecidableEq

/-- What is recorded so far is cleaned up. -/
def preparationFailure (state : OwnerState) (stage : Stage) (cause : Cause) :
    EnvironmentProgram PreparationResult := do
  let rollback ← cleanupState true (some state)
  return .failed ⟨⟨stage, cause⟩, rollback.failures, rollback.residual⟩

section Setup

variable {α : Type} (setupDeadline : TimePoint) (state : OwnerState) (stage : Stage)

/-- One operation of the setup: it is started only before the deadline of the setup. -/
def setupOperation (operation : TimePoint → EnvironmentProgram α)
    (next : α → EnvironmentProgram PreparationResult) : EnvironmentProgram PreparationResult := do
  if setupDeadline ≤ (← now) then
    preparationFailure state stage .timeout
  else
    next (← operation (operationDeadline (← now) setupDeadline))

/-- An operation that only succeeds or fails. -/
def runConfiguration (operation : TimePoint → EnvironmentProgram OperationResult)
    (next : EnvironmentProgram PreparationResult) : EnvironmentProgram PreparationResult :=
  setupOperation setupDeadline state stage operation fun result =>
    if !result.succeeded then preparationFailure state stage result.cause else next

/-- An operation that makes or moves a root: the root is recorded whether or not it succeeded, and its
proof is required to go on. -/
def acquireRoot {Proof Required : Type} (record : Root Proof → OwnerState)
    (required : Root Proof → Option Required)
    (operation : TimePoint → EnvironmentProgram (MutationResult Proof))
    (next : Required → OwnerState → EnvironmentProgram PreparationResult) :
    EnvironmentProgram PreparationResult :=
  setupOperation setupDeadline state stage operation fun result =>
    if !result.succeeded then preparationFailure (record result.state) stage result.cause
    else
      match required result.state with
      | some proof => next proof (record result.state)
      | none => preparationFailure (record result.state) stage .identityUnavailable

end Setup

def Root.proof? {Proof : Type} : Root Proof → Option Proof
  | .proven proof => some proof
  | _ => none

/-- A pair with both links on the host. -/
def hostVeth? : VethState → Option HostVethProof
  | .proven (.host proof) => some proof
  | _ => none

/-- A pair with its peer in the namespace. -/
def placedVeth? : VethState → Option PlacedVethProof
  | .proven (.placed proof) => some proof
  | _ => none

def prepareConnectivity (setupDeadline : TimePoint) (state : OwnerState) :
    EnvironmentProgram PreparationResult :=
  acquireRoot setupDeadline state .internetConnectivity
    (fun root => { state with connectivityRoot := root }) Root.proof?
    (fun deadline => ask (.configureConnectivity deadline))
    fun _ prepared => return .prepared prepared

def prepareConfiguration (setupDeadline : TimePoint) (namespaceProof : NamespaceProof)
    (placedVeth : PlacedVethProof) (state : OwnerState) : EnvironmentProgram PreparationResult :=
  runConfiguration setupDeadline state .hostConfiguration
    (fun deadline => ask (.assignHostAddress placedVeth deadline)) <|
  runConfiguration setupDeadline state .hostConfiguration
    (fun deadline => ask (.bringHostLinkUp placedVeth deadline)) <|
  runConfiguration setupDeadline state .namespaceConfiguration
    (fun deadline => ask (.bringLoopbackUp namespaceProof deadline)) <|
  runConfiguration setupDeadline state .namespaceConfiguration
    (fun deadline => ask (.assignNamespaceAddress namespaceProof placedVeth deadline)) <|
  runConfiguration setupDeadline state .namespaceConfiguration
    (fun deadline => ask (.bringNamespaceLinkUp namespaceProof placedVeth deadline)) <|
  runConfiguration setupDeadline state .routeConfiguration
    (fun deadline => ask (.addDefaultRoute namespaceProof placedVeth deadline)) <|
  prepareConnectivity setupDeadline state

def prepareVeth (setupDeadline : TimePoint) (namespaceProof : NamespaceProof) (state : OwnerState) :
    EnvironmentProgram PreparationResult :=
  acquireRoot setupDeadline state .vethCreation (fun root => { state with vethRoot := root }) hostVeth?
    (fun deadline => ask (.createVeth deadline))
    fun hostVeth created =>
      acquireRoot setupDeadline created .vethCreation (fun root => { created with vethRoot := root })
        placedVeth? (fun deadline => ask (.movePeer namespaceProof hostVeth deadline))
        fun placedVeth moved => prepareConfiguration setupDeadline namespaceProof placedVeth moved

/-- The environment is prepared within the limit of the transaction, or what was made is cleaned up. -/
def prepareNetworkEnvironment : EnvironmentProgram PreparationResult := do
  let setupDeadline := (← now) + transactionLimit
  runConfiguration setupDeadline {} .preflight (fun deadline => ask (.preflight deadline)) <|
    acquireRoot setupDeadline {} .namespaceCreation (fun root => { namespaceRoot := root }) Root.proof?
      (fun deadline => ask (.createNamespace deadline))
      fun namespaceProof state => prepareVeth setupDeadline namespaceProof state

end NetLagLab.NetworkEnvironment
