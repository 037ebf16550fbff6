import NetLagLab.Binary64
import NetLagLab.DecimalText
import NetLagLab.Connectivity

/-! The shaping of one traffic direction. The settings of a direction stand in one root qdisc on the veth link that
carries it: `tc` is run to change it, and what it has come to is read back from the kernel. The kernel and `tc` are
calls with any answers. -/

namespace NetLagLab

namespace Double

/-- The comparison `value > 0.0`. -/
def isPositive (value : Double) : Bool := !value.signBit && !value.isNaN && !value.isZero

end Double

namespace NetworkEnvironment

open ByteLines CallPrograms CallPrograms.Program

/-! ### Settings and qdiscs -/

inductive InventoryStatus where
  | absent
  | present
  | failure
  | timeout
  | malformed
  deriving DecidableEq

structure LinkQuery where
  status : InventoryStatus
  identity : Option LinkIdentity
  deriving DecidableEq

inductive RootQdiscKind where
  | noqueue
  | netem
  | other
  deriving DecidableEq

structure RootQdisc where
  handle : UInt32 := 0
  kind : RootQdiscKind := .other
  delayNanoseconds : UInt64 := 0
  jitterNanoseconds : UInt64 := 0
  lossProbability : UInt32 := 0
  hasUnsupportedOptions : Bool := false
  deriving DecidableEq

structure QdiscQuery where
  status : InventoryStatus
  root : Option RootQdisc
  deriving DecidableEq

inductive ShapingDirection where
  | outbound
  | inbound
  deriving DecidableEq

inductive ShapingChangeResult where
  | applied
  | restoredAfterFailure
  | stateUnknown
  deriving DecidableEq

def ownedNetemHandle : UInt32 := 0x4e4c0000

def nanosecondsPerMillisecond : UInt64 := 1000000

def unrestricted (settings : DirectionSettings) : Bool :=
  decide (settings.delay = 0) && decide (settings.jitter = 0) && settings.packetLossPercent.isZero
    && settings.bandwidthKbps.isNone

def nanoseconds (value : Int64) : Option UInt64 :=
  if value < 0 then none
  else
    let milliseconds := value.toUInt64
    if (0xFFFFFFFFFFFFFFFF : UInt64) / nanosecondsPerMillisecond < milliseconds then none
    else some (milliseconds * nanosecondsPerMillisecond)

/-- The pattern of `100.0`. -/
def hundred : Nat := 0x4059000000000000

/-- The pattern of the greatest `uint32_t`, `4294967295.0`. -/
def probabilityMax : Nat := 0x41EFFFFFFFE00000

def lossProbability (percentage : Double) : Option UInt32 :=
  if percentage.isFinite = false ∨ percentage.isNegative = true ∨ percentage.exceedsHundred = true then none
  else
    let scaled := Binary64.rint (Binary64.multiply (Binary64.divide percentage.magnitude hundred) probabilityMax)
    if 0xFFFFFFFF < scaled then none else some (UInt32.ofNat scaled)

/-- 1.5 %, and 1.0e-20 % below the kernel's resolution. -/
example : lossProbability ⟨0x3FF8000000000000⟩ = some 64424509 ∧ lossProbability ⟨0x3BC79CA10C924223⟩ = some 0 := by
  decide +kernel

def qdiscMatches (qdisc : RootQdisc) (settings : DirectionSettings) : Bool :=
  if unrestricted settings then decide (qdisc.kind = .noqueue) && decide (qdisc.handle = 0)
  else
    match nanoseconds settings.delay, nanoseconds settings.jitter, lossProbability settings.packetLossPercent with
    | some delay, some jitter, some loss =>
        settings.bandwidthKbps.isNone && !qdisc.hasUnsupportedOptions && decide (qdisc.kind = .netem)
          && decide (qdisc.handle = ownedNetemHandle) && decide (qdisc.delayNanoseconds = delay)
          && decide (qdisc.jitterNanoseconds = jitter) && decide (qdisc.lossProbability = loss)
    | _, _, _ => false

def isOwnedRootQdisc (qdisc : RootQdisc) : Bool :=
  decide (qdisc.kind = .noqueue ∧ qdisc.handle = 0) || decide (qdisc.kind = .netem ∧ qdisc.handle = ownedNetemHandle)

/-! ### Calls -/

inductive ShapingCall where
  | queryTool (path : Bytes)
  | queryHostLink (name : Bytes) (deadline : TimePoint)
  | queryNamespaceLink (namespaceHandle : NamespaceIdentity) (name : Bytes) (deadline : TimePoint)
  | queryHostQdisc (device : Bytes) (deadline : TimePoint)
  | queryNamespaceQdisc (namespaceHandle : NamespaceIdentity) (device : Bytes) (deadline : TimePoint)
  | runIpInNamespace (path : Bytes) (arguments : List Bytes) (namespaceHandle : NamespaceIdentity)
      (deadline : TimePoint)
  | runTool (path : Bytes) (arguments : List Bytes) (deadline : TimePoint)
  deriving DecidableEq

abbrev ShapingAnswer : ShapingCall → Type
  | .queryTool _ => ToolQuery
  | .queryHostLink _ _ => LinkQuery
  | .queryNamespaceLink _ _ _ => LinkQuery
  | .queryHostQdisc _ _ => QdiscQuery
  | .queryNamespaceQdisc _ _ _ => QdiscQuery
  | .runIpInNamespace _ _ _ _ => CommandResult
  | .runTool _ _ _ => CommandResult

abbrev ShapingProgram (α : Type) := Program ShapingCall ShapingAnswer α

abbrev ShapingEvent := Event ShapingCall ShapingAnswer

/-- One call. -/
abbrev callShaping (request : ShapingCall) : ShapingProgram (ShapingAnswer request) := perform request

/-! ### The veth pair -/

structure VethObservation where
  absent : Bool
  complete : Bool
  cause : Cause
  identity : Option VethIdentityPair
  deriving DecidableEq

def validHostPair (host session : LinkQuery) : Bool :=
  decide (host.status = .present) && decide (session.status = .present) &&
    match host.identity, session.identity with
    | some hostLink, some sessionLink =>
        decide (hostLink.peerIndex = sessionLink.index) && decide (sessionLink.peerIndex = hostLink.index)
          && hostLink.peerNamespaceId.isNone && sessionLink.peerNamespaceId.isNone
    | _, _ => false

/-- A link whose peer is in another namespace. -/
def hasPeerNamespace (link : LinkIdentity) : Bool :=
  match link.peerNamespaceId with
  | some identifier => decide (0 ≤ identifier)
  | none => false

def validPlacedPair (host oldSession placedSession : LinkQuery) : Bool :=
  decide (oldSession.status = .absent) && decide (host.status = .present) && decide (placedSession.status = .present) &&
    match host.identity, placedSession.identity with
    | some hostLink, some sessionLink =>
        decide (hostLink.peerIndex = sessionLink.index) && decide (sessionLink.peerIndex = hostLink.index)
          && hasPeerNamespace hostLink && hasPeerNamespace sessionLink
    | _, _ => false

def allAbsent (queries : List LinkQuery) : Bool := queries.all fun query => decide (query.status = .absent)

def inventoryCause (queries : List LinkQuery) : Cause :=
  if queries.any fun query => decide (query.status = .failure ∨ query.status = .timeout ∨ query.status = .malformed) then
    .identityUnavailable
  else .identityMismatch

/-- The pair of two links that were found. -/
def identityPair (host session : LinkQuery) : Option VethIdentityPair :=
  match host.identity, session.identity with
  | some hostLink, some sessionLink => some ⟨hostLink, sessionLink⟩
  | _, _ => none

def nllHost : Bytes := ascii "nll-host"

def nllApp : Bytes := ascii "nll-app"

/-- `observe_veth`; a namespace is given when the peer has been placed there. -/
def observeVeth (placed : Option NamespaceIdentity) (deadline : TimePoint) : ShapingProgram VethObservation := do
  let host ← callShaping (.queryHostLink nllHost deadline)
  let hostSession ← callShaping (.queryHostLink nllApp deadline)
  match placed with
  | none =>
      if allAbsent [host, hostSession] then
        return ⟨true, true, .systemFailure, none⟩
      if validHostPair host hostSession then
        return ⟨false, true, .systemFailure, identityPair host hostSession⟩
      return ⟨false, false, inventoryCause [host, hostSession], none⟩
  | some namespaceHandle =>
      let session ← callShaping (.queryNamespaceLink namespaceHandle nllApp deadline)
      if allAbsent [host, hostSession, session] then
        return ⟨true, true, .systemFailure, none⟩
      if validPlacedPair host hostSession session then
        return ⟨false, true, .systemFailure, identityPair host session⟩
      return ⟨false, false, inventoryCause [host, hostSession, session], none⟩

/-! ### tc -/

def tcPaths : List Bytes := [ascii "/usr/sbin/tc", ascii "/usr/bin/tc", ascii "/sbin/tc", ascii "/bin/tc"]

/-- `tool_path("tc")`. -/
def tcPath : List Bytes → ShapingProgram (Option Bytes)
  | [] => return none
  | path :: paths => do
      let query ← callShaping (.queryTool path)
      if query.status = .failure then
        return none
      if query.status = .present ∧ isTrustedExecutable query.metadata = true then
        return some path
      tcPath paths

def shapedDevice : ShapingDirection → Bytes
  | .outbound => nllApp
  | .inbound => nllHost

def inspect (direction : ShapingDirection) (namespaceHandle : NamespaceIdentity) (deadline : TimePoint) :
    ShapingProgram QdiscQuery :=
  match direction with
  | .outbound => callShaping (.queryNamespaceQdisc namespaceHandle nllApp deadline)
  | .inbound => callShaping (.queryHostQdisc nllHost deadline)

/-- The root of a query that shows the settings. -/
def shownRoot (query : QdiscQuery) (settings : DirectionSettings) : Option RootQdisc :=
  if query.status = .present then query.root.filter (qdiscMatches · settings) else none

/-- `matches`. -/
def queryMatches (query : QdiscQuery) (settings : DirectionSettings) : Bool := (shownRoot query settings).isSome

def millisecondText (value : Int64) : Bytes := decimalTextInt value.toInt ++ ascii "ms"

section

variable [DecimalText]

/-- The characters fit a buffer of 64, or the text fails. -/
def formatLossPercentage (percentage : Double) : Option Bytes :=
  if (DecimalText.toChars percentage).length ≤ 64 then some (DecimalText.toChars percentage) else none

def delayArguments (settings : DirectionSettings) : List Bytes :=
  if settings.delay ≠ 0 ∨ settings.jitter ≠ 0 then
    [ascii "delay", millisecondText settings.delay] ++
      if settings.jitter ≠ 0 then [millisecondText settings.jitter] else []
  else []

def lossArguments (settings : DirectionSettings) : Option (List Bytes) :=
  if settings.packetLossPercent.isZero then some []
  else
    match lossProbability settings.packetLossPercent, formatLossPercentage settings.packetLossPercent with
    | some probability, some percentage =>
        if probability = 0 then none else some [ascii "loss", percentage ++ ascii "%"]
    | _, _ => none

def makeArguments (direction : ShapingDirection) (operation : Bytes) (settings : DirectionSettings) :
    Option (List Bytes) :=
  if settings.bandwidthKbps.isSome ∨ nanoseconds settings.delay = none ∨ nanoseconds settings.jitter = none ∨
      lossProbability settings.packetLossPercent = none then none
  else if unrestricted settings then
    some [ascii "qdisc", ascii "del", ascii "dev", shapedDevice direction, ascii "root", ascii "handle", ascii "4e4c:"]
  else
    (lossArguments settings).map fun loss =>
      [ascii "qdisc", operation, ascii "dev", shapedDevice direction, ascii "root", ascii "handle", ascii "4e4c:",
        ascii "netem"] ++ delayArguments settings ++ loss

/-- `run`: the command that makes the settings of a root. -/
def runTc (direction : ShapingDirection) (namespaceHandle : NamespaceIdentity) (path : Bytes)
    (settings : DirectionSettings) (existing : RootQdisc) (deadline : TimePoint) : ShapingProgram CommandResult :=
  let operation :=
    if unrestricted settings then ascii "del" else if existing.kind = .noqueue then ascii "add" else ascii "change"
  match makeArguments direction operation settings with
  | none => return { kind := .nonzeroExit }
  | some arguments =>
      match direction with
      | .outbound => callShaping (.runIpInNamespace path arguments namespaceHandle deadline)
      | .inbound => callShaping (.runTool path arguments deadline)

/-- Settings that can be asked of the kernel, with any loss at all above its resolution. -/
def supported (settings : DirectionSettings) : Bool :=
  settings.bandwidthKbps.isNone && (nanoseconds settings.delay).isSome && (nanoseconds settings.jitter).isSome &&
    match lossProbability settings.packetLossPercent with
    | none => false
    | some probability => !(settings.packetLossPercent.isPositive && decide (probability = 0))

/-- `set_settings`; a proof that has been moved from has no handle and no identity. -/
def setSettings (exactHandle : Option NamespaceIdentity) (identity : Option VethIdentityPair)
    (direction : ShapingDirection) (current requested : DirectionSettings) (deadline : TimePoint) :
    ShapingProgram ShapingChangeResult := do
  let some proven := identity | return .stateUnknown
  let some namespaceHandle := exactHandle | return .stateUnknown
  let observed ← observeVeth (some namespaceHandle) deadline
  if observed.complete = false ∨ observed.identity ≠ some proven then
    return .stateUnknown
  if supported requested = false then
    return .restoredAfterFailure
  let before ← inspect direction namespaceHandle deadline
  let some existing := shownRoot before current | return .stateUnknown
  if current.same requested then
    return .applied
  let some path ← tcPath tcPaths | return .restoredAfterFailure
  let _ ← runTc direction namespaceHandle path requested existing deadline
  let afterAttempt ← inspect direction namespaceHandle deadline
  if queryMatches afterAttempt requested then
    return .applied
  if queryMatches afterAttempt current then
    return .restoredAfterFailure
  if afterAttempt.status ≠ .present then
    return .stateUnknown
  let some attempted := afterAttempt.root | return .stateUnknown
  if isOwnedRootQdisc attempted = false then
    return .stateUnknown
  let _ ← runTc direction namespaceHandle path current attempted deadline
  let afterRollback ← inspect direction namespaceHandle deadline
  return if queryMatches afterRollback current then .restoredAfterFailure else .stateUnknown

end

end NetworkEnvironment

end NetLagLab
