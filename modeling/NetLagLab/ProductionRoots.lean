import NetLagLab.CallTranslation
import NetLagLab.VethPlacement

/-! The production adapter as it makes and removes the namespace and the veth pair: it runs `ip`, and what has become of
a root is read back by its name. The rest of the adapter's operations make and remove neither of the two and are calls
with any answer. -/

namespace NetLagLab.NetworkEnvironment

open ByteLines CallPrograms CallPrograms.Program

/-! ### Calls -/

structure NamespaceQuery where
  status : InventoryStatus
  handle : Option NamespaceIdentity
  deriving DecidableEq

inductive RootCall where
  | queryNamespace
  | namespaceFileArgument (namespaceHandle : NamespaceIdentity)
  | runIp (path : Bytes) (arguments : List Bytes) (inheritedNamespace : Option NamespaceIdentity) (deadline : TimePoint)
  | shaping (request : ShapingCall)
  | elsewhere (request : EnvironmentCall)
  deriving DecidableEq

abbrev RootAnswer : RootCall → Type
  | .queryNamespace => NamespaceQuery
  | .namespaceFileArgument _ => Bytes
  | .runIp _ _ _ _ => CommandResult
  | .shaping request => ShapingAnswer request
  | .elsewhere request => EnvironmentAnswer request

abbrev RootProgram (α : Type) := Program RootCall RootAnswer α

/-- One call. -/
abbrev askRoot (request : RootCall) : RootProgram (RootAnswer request) := perform request

def queryHostLink (name : Bytes) (deadline : TimePoint) : RootProgram LinkQuery :=
  askRoot (.shaping (.queryHostLink name deadline))

/-- The calls of `move_peer`. -/
def placementCall : ∀ request : PlacementCall, RootProgram (PlacementAnswer request)
  | .namespaceFileArgument namespaceHandle => askRoot (.namespaceFileArgument namespaceHandle)
  | .runIp path arguments inheritedNamespace deadline => askRoot (.runIp path arguments inheritedNamespace deadline)
  | .queryHostLink name deadline => queryHostLink name deadline
  | .queryNamespaceLink namespaceHandle name deadline =>
      askRoot (.shaping (.queryNamespaceLink namespaceHandle name deadline))

/-! ### The namespace -/

def netlaglab : Bytes := ascii "netlaglab"

def namespaceAddition : List Bytes := [ascii "netns", ascii "add", netlaglab]

def namespaceDeletion : List Bytes := [ascii "netns", ascii "delete", netlaglab]

/-- The namespace of a query that has found one. -/
def foundNamespace (query : NamespaceQuery) : Option NamespaceIdentity :=
  if query.status = .present then query.handle else none

/-- What `create_namespace` makes of the command and of what it finds. -/
def createdNamespace (command : CommandResult) (query : NamespaceQuery) : MutationResult NamespaceProof :=
  match foundNamespace query with
  | some handle => ⟨decide (command.kind = .success), commandCause command, .proven ⟨handle⟩⟩
  | none =>
      ⟨false,
        if query.status = .absent ∧ command.kind ≠ .success then commandCause command else .identityUnavailable,
        if query.status ≠ .absent then .identityUnconfirmed else .absent⟩

def createNamespace (ipPath : Bytes) (deadline : TimePoint) : RootProgram (MutationResult NamespaceProof) := do
  let command ← askRoot (.runIp ipPath namespaceAddition none deadline)
  let query ← askRoot .queryNamespace
  return createdNamespace command query

/-- What `remove_namespace` makes of the command and of what is left. -/
def removedNamespace (proof : NamespaceProof) (command : CommandResult) (after : NamespaceQuery) :
    RemovalResult NamespaceProof :=
  if after.status = .absent then ⟨.systemFailure, .absent⟩
  else if foundNamespace after = some proof.exactHandle then
    ⟨if command.kind = .success then .identityMismatch else commandCause command, .proven proof⟩
  else ⟨if after.status = .present then .identityMismatch else .identityUnavailable, .identityUnconfirmed⟩

def removeNamespace (ipPath : Bytes) (proof : NamespaceProof) (deadline : TimePoint) :
    RootProgram (RemovalResult NamespaceProof) := do
  let before ← askRoot .queryNamespace
  if before.status = .absent then
    return ⟨.systemFailure, .absent⟩
  let some handle := foundNamespace before | return ⟨.identityUnavailable, .identityUnconfirmed⟩
  if handle ≠ proof.exactHandle then
    return ⟨.identityMismatch, .identityUnconfirmed⟩
  let command ← askRoot (.runIp ipPath namespaceDeletion none deadline)
  let after ← askRoot .queryNamespace
  return removedNamespace proof command after

/-! ### The veth pair -/

def vethAddition : List Bytes :=
  [ascii "link", ascii "add", nllHost, ascii "type", ascii "veth", ascii "peer", ascii "name", nllApp]

def vethDeletion : List Bytes := [ascii "link", ascii "delete", ascii "dev", nllHost]

def peerMove (namespaceFile : Bytes) : List Bytes :=
  [ascii "link", ascii "set", ascii "dev", nllApp, ascii "netns", namespaceFile]

/-- The pair of two links that are one on the host. -/
def foundPair (host session : LinkQuery) : Option VethIdentityPair :=
  if validHostPair host session then identityPair host session else none

/-- What `create_veth` makes of the command and of the two links. -/
def createdVeth (command : CommandResult) (host session : LinkQuery) : MutationResult ProvenVeth :=
  match foundPair host session with
  | some pair => ⟨decide (command.kind = .success), commandCause command, .proven (.host ⟨pair⟩)⟩
  | none =>
      ⟨false,
        if allAbsent [host, session] = true ∧ command.kind ≠ .success then commandCause command
        else .identityUnavailable,
        if host.status ≠ .absent ∨ session.status ≠ .absent then .identityUnconfirmed else .absent⟩

def createVeth (ipPath : Bytes) (deadline : TimePoint) : RootProgram (MutationResult ProvenVeth) := do
  let command ← askRoot (.runIp ipPath vethAddition none deadline)
  let host ← queryHostLink nllHost deadline
  let session ← queryHostLink nllApp deadline
  return createdVeth command host session

def ProvenVeth.identity : ProvenVeth → VethIdentityPair
  | .host proof => proof.identity
  | .placed proof => proof.identity

def matchesProof (proof : ProvenVeth) (observation : VethObservation) : Bool :=
  decide (observation.identity = some proof.identity)

def RemovalResult.unconfirmedVeth (cause : Cause) : RemovalResult ProvenVeth := ⟨cause, .identityUnconfirmed⟩

def observePlaced (placed : Option NamespaceIdentity) (deadline : TimePoint) : RootProgram VethObservation :=
  (observeVeth placed deadline).translate fun request => askRoot (.shaping request)

/-- What is made of the pair that is left. -/
def removedVeth (proof : ProvenVeth) (command : CommandResult) (after : VethObservation) : RemovalResult ProvenVeth :=
  if after.absent then ⟨.systemFailure, .absent⟩
  else if !after.complete then .unconfirmedVeth after.cause
  else if !matchesProof proof after then .unconfirmedVeth .identityMismatch
  else ⟨if command.kind = .success then .identityMismatch else commandCause command, .proven proof⟩

/-- The pair is observed where its peer is, or on the host. -/
def removeObservedVeth (ipPath : Bytes) (proof : ProvenVeth) (placed : Option NamespaceIdentity)
    (deadline : TimePoint) : RootProgram (RemovalResult ProvenVeth) := do
  let before ← observePlaced placed deadline
  if before.absent then
    return ⟨.systemFailure, .absent⟩
  if !before.complete then
    return .unconfirmedVeth before.cause
  if !matchesProof proof before then
    return .unconfirmedVeth .identityMismatch
  let command ← askRoot (.runIp ipPath vethDeletion none deadline)
  let after ← observePlaced placed deadline
  return removedVeth proof command after

def removeProvenVeth (ipPath : Bytes) (proof : ProvenVeth) (namespaceProof : Option NamespaceProof)
    (deadline : TimePoint) : RootProgram (RemovalResult ProvenVeth) :=
  match proof, namespaceProof with
  | .placed _, none => do
      let host ← queryHostLink nllHost deadline
      let session ← queryHostLink nllApp deadline
      if allAbsent [host, session] then
        return ⟨.systemFailure, .absent⟩
      return .unconfirmedVeth (inventoryCause [host, session])
  | .placed _, some namespaceProof => removeObservedVeth ipPath proof (some namespaceProof.exactHandle) deadline
  | .host _, _ => removeObservedVeth ipPath proof none deadline

/-! ### The adapter -/

/-- The operations of the transaction, with the path of `ip` that the preflight has found. -/
def productionAdapter (ipPath : Bytes) : ∀ request : EnvironmentCall, RootProgram (EnvironmentAnswer request)
  | .createNamespace deadline => createNamespace ipPath deadline
  | .createVeth deadline => createVeth ipPath deadline
  | .movePeer namespaceProof veth deadline => (movePeer ipPath namespaceProof veth deadline).translate placementCall
  | .removeVeth proof namespaceProof deadline => removeProvenVeth ipPath proof namespaceProof deadline
  | .removeNamespace proof deadline => removeNamespace ipPath proof deadline
  | request => askRoot (.elsewhere request)

/-- Passes of cleanups, retries and destructors on what is left, and whether each gives back what it leaves. -/
def cleanupPasses : List Bool → Option OwnerState → EnvironmentProgram Unit
  | [], _ => return ()
  | returnResidual :: passes, owner => do
      let result ← cleanupState returnResidual owner
      cleanupPasses passes result.residual

/-- An environment is prepared, and cleaned up as often as there are passes. -/
def environmentLife (passes : List Bool) : EnvironmentProgram Unit := do
  match ← prepareNetworkEnvironment with
  | .prepared state => cleanupPasses passes (some state)
  | .failed failure => cleanupPasses passes failure.residual

end NetLagLab.NetworkEnvironment
