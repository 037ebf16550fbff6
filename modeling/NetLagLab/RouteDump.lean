import NetLagLab.Connectivity
import NetLagLab.NetlinkAttributes

/-! Preflight: the checks of the host before anything is made on it. The routes of the host come as a dump of netlink
messages, which a decoder looks through datagram by datagram for a route into the subnet of a Session. -/

namespace NetLagLab.NetworkEnvironment

open ByteLines CallPrograms CallPrograms.Program FixedWidth Netlink

/-! ### Prefixes -/

structure Ipv4Prefix where
  address : UInt32
  length : UInt8
  deriving DecidableEq

def sessionSubnet : Ipv4Prefix := ⟨0x0ac80000, 30⟩

def prefixMask (length : UInt8) : UInt32 :=
  if length = 0 then 0 else 0xFFFFFFFF <<< (32 - length.toUInt32)

def prefixesOverlap (left right : Ipv4Prefix) : Bool :=
  if 32 < left.length ∨ 32 < right.length then false
  else
    let commonLength := if right.length < left.length then right.length else left.length
    let mask := prefixMask commonLength
    decide (left.address &&& mask = right.address &&& mask)

/-! ### The route dump -/

inductive RouteDumpStatus where
  | pending
  | complete
  | collision
  | netlinkError
  | timeout
  | malformed
  deriving DecidableEq

def nlmsgError : Nat := 2

def nlmsgDone : Nat := 3

def rtmNewRoute : Nat := 24

def afInet : Nat := 2

def rtaDst : Nat := 1

def rtaTable : Nat := 15

/-- `NLM_F_MULTI`. -/
def isMultipart (header : Header) : Bool := decide (header.flags &&& 0x2 ≠ 0)

/-- `NLM_F_DUMP_INTR`. -/
def isInterrupted (header : Header) : Bool := decide (header.flags &&& 0x10 ≠ 0)

/-- What `inspect_route` has found among the attributes of a route. -/
structure RouteAttributes where
  destination : Option UInt32 := none
  hasTable : Bool := false
  deriving DecidableEq

/-- One attribute of a route; the destination is in network order. -/
def routeAttribute (message : Bytes) (view : AttributeView) (found : RouteAttributes) :
    Reading (Option RouteAttributes) :=
  if view.type = rtaDst then
    if found.destination.isSome = true ∨ view.length ≠ 4 then return none
    else do
      match ← copyObject message view.offset 4 with
      | none => return none
      | some raw => return some { found with destination := some (UInt32.ofNat (beValue raw)) }
  else if view.type = rtaTable then
    if found.hasTable = true ∨ view.length ≠ 4 then return none
    else do
      match ← copyObject message view.offset 4 with
      | none => return none
      | some _ => return some { found with hasTable := true }
  else return some found

/-- The end of `inspect_route`, behind the attributes. -/
def routeStatus (destinationLength : Nat) (destination : Option UInt32) : RouteDumpStatus :=
  if destinationLength = 0 then .pending
  else
    match destination with
    | none => .malformed
    | some address =>
        if prefixesOverlap ⟨address, UInt8.ofNat destinationLength⟩ sessionSubnet = true then .collision else .pending

def inspectRoute (message : Bytes) (header : Header) : Reading RouteDumpStatus :=
  if header.length < 28 then return .malformed
  else do
    match ← copyObject message 16 12 with
    | none => return .malformed
    | some route =>
        let destinationLength := leValue (slice route 1 1)
        if leValue (slice route 0 1) ≠ afInet then return .pending
        else if 32 < destinationLength then return .malformed
        else
          let remaining := header.length - 28
          match ← attributeLoop (routeAttribute message) message (remaining + 1) 28 remaining {} with
          | none => return .malformed
          | some found => return routeStatus destinationLength found.destination

structure RouteDumpDecoder where
  sequence : UInt32
  portId : UInt32
  status : RouteDumpStatus := .pending
  errorNumber : Nat := 0
  deriving DecidableEq

/-- The magnitude of an `int` that is not the least one. -/
def errorMagnitude (value : Nat) : Nat := if value < 2 ^ 31 then value else 2 ^ 32 - value

namespace RouteDumpDecoder

def malformed (decoder : RouteDumpDecoder) : RouteDumpDecoder := { decoder with status := .malformed }

def failed (decoder : RouteDumpDecoder) (error : Nat) : RouteDumpDecoder :=
  { decoder with status := .netlinkError, errorNumber := errorMagnitude error }

/-- `NLMSG_DONE`, which carries an error number or nothing. -/
def consumeDone (decoder : RouteDumpDecoder) (message : Bytes) (header : Header) (atEnd : Bool) :
    Reading RouteDumpDecoder :=
  if isMultipart header = false ∨ atEnd = false then return decoder.malformed
  else if header.length = 16 then return { decoder with status := .complete }
  else if header.length < 20 then return decoder.malformed
  else do
    match ← copyObject message 16 4 with
    | none => return decoder.malformed
    | some raw =>
        if leValue raw ≠ 0 then return decoder.failed (leValue raw) else return { decoder with status := .complete }

/-- `NLMSG_ERROR`. -/
def consumeError (decoder : RouteDumpDecoder) (message : Bytes) (header : Header) (atEnd : Bool) :
    Reading RouteDumpDecoder :=
  if atEnd = false ∨ header.length < 36 then return decoder.malformed
  else do
    match ← copyObject message 16 20 with
    | none => return decoder.malformed
    | some raw =>
        let error := leValue (slice raw 0 4)
        if error = 0 then return decoder.malformed else return decoder.failed error

/-- One turn of the loop of `consume` over the bytes from its offset on, with the bytes that the offset then advances. -/
def consumeMessage (decoder : RouteDumpDecoder) (rest : Bytes) : Reading (RouteDumpDecoder × Nat) :=
  if rest.length < 16 then return (decoder.malformed, 0)
  else do
    match ← copyObject rest 0 16 with
    | none => return (decoder.malformed, 0)
    | some raw =>
        let header := readHeader raw
        if header.length < 16 ∨ rest.length < header.length ∨ header.sequence ≠ decoder.sequence.toNat
            ∨ header.portId ≠ decoder.portId.toNat ∨ isInterrupted header = true then return (decoder.malformed, 0)
        else
          let message ← memcpy rest 0 header.length
          let alignedLength := nlmsgAlign header.length
          let atEnd := decide (alignedLength = rest.length)
          if rest.length < alignedLength then return (decoder.malformed, 0)
          else if header.type = nlmsgDone then return (← decoder.consumeDone message header atEnd, 0)
          else if header.type = nlmsgError then return (← decoder.consumeError message header atEnd, 0)
          else if header.type ≠ rtmNewRoute ∨ isMultipart header = false then return (decoder.malformed, 0)
          else
            let status ← inspectRoute message header
            return ({ decoder with status }, alignedLength)

/-- The loop of `consume`. -/
def consumeFrom : Nat → RouteDumpDecoder → Bytes → Reading RouteDumpDecoder
  | 0, _, _ => .error .unfinished
  | fuel + 1, decoder, rest =>
      if rest = [] then return decoder
      else do
        let (next, alignedLength) ← decoder.consumeMessage rest
        if next.status ≠ .pending then return next else consumeFrom fuel next (rest.drop alignedLength)

def consumeWithin (fuel : Nat) (decoder : RouteDumpDecoder) (bytes : Bytes) : Reading RouteDumpDecoder :=
  if decoder.status ≠ .pending then return decoder
  else if bytes = [] then return decoder.malformed
  else consumeFrom fuel decoder bytes

/-- Every turn of the loop takes at least one byte, up to a length of 2³² - 4. -/
def consume (decoder : RouteDumpDecoder) (bytes : Bytes) : Reading RouteDumpDecoder :=
  consumeWithin (bytes.length + 1) decoder bytes

end RouteDumpDecoder

/-! ### run_preflight -/

structure AddressQuery where
  succeeded : Bool
  prefixes : List Ipv4Prefix
  deriving DecidableEq

structure PreflightResult where
  succeeded : Bool
  cause : Cause
  ipPath : Bytes
  deriving DecidableEq

inductive PreflightCall where
  | privileged
  | queryTool (path : Bytes)
  | queryNamespaceName
  | queryLinkName (name : Bytes)
  | queryAddresses
  | queryRoutes (deadline : TimePoint)
  deriving DecidableEq

abbrev PreflightAnswer : PreflightCall → Type
  | .privileged => Bool
  | .queryTool _ => ToolQuery
  | .queryNamespaceName => QueryStatus
  | .queryLinkName _ => QueryStatus
  | .queryAddresses => AddressQuery
  | .queryRoutes _ => RouteDumpStatus

abbrev PreflightProgram (α : Type) := Program PreflightCall PreflightAnswer α

/-- One call. -/
abbrev askHost (request : PreflightCall) : PreflightProgram (PreflightAnswer request) := perform request

def trustedIpPaths : List Bytes :=
  [ascii "/usr/sbin/ip", ascii "/usr/bin/ip", ascii "/sbin/ip", ascii "/bin/ip"]

/-- The first trusted tool: none that was found, or a query that failed. -/
def selectTool : List Bytes → PreflightProgram (Except Cause Bytes)
  | [] => return .error .unavailableOrInvalidTool
  | path :: paths => do
      let query ← askHost (.queryTool path)
      if query.status = .failure then return .error .systemFailure
      else if query.status = .present ∧ isTrustedExecutable query.metadata = true then return .ok path
      else selectTool paths

/-- `check_name`. -/
def checkName : QueryStatus → Option Cause
  | .present => some .collision
  | .failure => some .systemFailure
  | .absent => none

/-- The prefixes in the order in which they were listed. -/
def checkPrefixes : List Ipv4Prefix → Option Cause
  | [] => none
  | listed :: prefixes =>
      if 32 < listed.length then some .systemFailure
      else if prefixesOverlap listed sessionSubnet = true then some .collision
      else checkPrefixes prefixes

def refused (cause : Cause) : PreflightResult := ⟨false, cause, []⟩

def runPreflight (deadline : TimePoint) : PreflightProgram PreflightResult := do
  if (← askHost .privileged) = false then return refused .systemFailure
  else
    match ← selectTool trustedIpPaths with
    | .error cause => return refused cause
    | .ok selectedTool =>
        match checkName (← askHost .queryNamespaceName) with
        | some cause => return refused cause
        | none =>
            match checkName (← askHost (.queryLinkName (ascii "nll-host"))) with
            | some cause => return refused cause
            | none =>
                match checkName (← askHost (.queryLinkName (ascii "nll-app"))) with
                | some cause => return refused cause
                | none =>
                    let addresses ← askHost .queryAddresses
                    if addresses.succeeded = false then return refused .systemFailure
                    else
                      match checkPrefixes addresses.prefixes with
                      | some cause => return refused cause
                      | none =>
                          match ← askHost (.queryRoutes deadline) with
                          | .collision => return refused .collision
                          | .timeout => return refused .timeout
                          | .complete => return ⟨true, .systemFailure, selectedTool⟩
                          | _ => return refused .systemFailure

end NetLagLab.NetworkEnvironment
