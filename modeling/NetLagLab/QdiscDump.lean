import NetLagLab.CallLoops
import NetLagLab.RouteDump
import NetLagLab.Shaping

/-! The root qdisc of a link, read from the dump of the qdiscs of a network namespace. A decoder takes one netlink
message at a time; the options of a netem qdisc are attributes within an attribute. -/

namespace NetLagLab.NetworkEnvironment

open ByteLines CallPrograms CallPrograms.Program FixedWidth Netlink

/-! ### Attributes -/

def rtmNewQdisc : Nat := 36

/-- `TC_H_ROOT`. -/
def tcHRoot : Nat := 0xFFFFFFFF

def tcaKind : Nat := 1

def tcaOptions : Nat := 2

/-- `rta_type & NLA_TYPE_MASK`. -/
def nlaType (type : Nat) : Nat := type &&& 0x3FFF

/-- A string of a given length, its terminator included. -/
def stringAttribute (bytes : Bytes) (offset length : Nat) : Reading (Option Bytes) :=
  if length = 0 ∨ bytes.length < offset ∨ bytes.length - offset < length then return none
  else do
    let data ← memcpy bytes offset length
    if data.getLast? ≠ some 0 ∨ 0 ∈ data.dropLast then return none else return some data.dropLast

/-! ### netem_options -/

def tcaNetemCorr : Nat := 1

def tcaNetemReorder : Nat := 3

def tcaNetemCorrupt : Nat := 4

def tcaNetemRate : Nat := 6

def tcaNetemPad : Nat := 9

def tcaNetemLatency64 : Nat := 10

def tcaNetemJitter64 : Nat := 11

def tcaNetemPrngSeed : Nat := 14

def tcaNetemMax : Nat := 14

/-- The size of an option, and whether it must be zero. The other options are not supported. -/
def expectedOption (type : Nat) : Option (Nat × Bool) :=
  if type = tcaNetemCorr then some (12, true)
  else if type = tcaNetemReorder then some (8, true)
  else if type = tcaNetemCorrupt then some (8, true)
  else if type = tcaNetemRate then some (16, true)
  else if type = tcaNetemPrngSeed then some (8, false)
  else if type = tcaNetemPad then some (0, false)
  else none

/-- The types that have a place in `seen`, padding excepted. -/
abbrev isCounted (type : Nat) : Prop := type < tcaNetemMax + 1 ∧ type ≠ tcaNetemPad

structure NetemState where
  qdisc : RootQdisc
  hasDelay : Bool := false
  hasJitter : Bool := false
  seen : List Nat := []
  deriving DecidableEq

namespace NetemState

def see (state : NetemState) (type : Nat) : NetemState :=
  if isCounted type then { state with seen := type :: state.seen } else state

def setDelay (state : NetemState) (delay : Nat) : NetemState :=
  { state with qdisc := { state.qdisc with delayNanoseconds := UInt64.ofNat delay }, hasDelay := true }

def setJitter (state : NetemState) (jitter : Nat) : NetemState :=
  { state with qdisc := { state.qdisc with jitterNanoseconds := UInt64.ofNat jitter }, hasJitter := true }

def setUnsupported (state : NetemState) : NetemState :=
  { state with qdisc := { state.qdisc with hasUnsupportedOptions := true } }

end NetemState

/-- One attribute among the options of netem. -/
def netemAttribute (bytes : Bytes) (view : AttributeView) (before : NetemState) : Reading (Option NetemState) :=
  let type := nlaType view.type
  if isCounted type ∧ type ∈ before.seen then return none
  else
    let state := before.see type
    if type = tcaNetemLatency64 then
      if state.hasDelay = true ∨ view.length ≠ 8 then return none
      else do
        match ← copyObject bytes view.offset 8 with
        | none => return none
        | some raw => return some (state.setDelay (leValue raw))
    else if type = tcaNetemJitter64 then
      if state.hasJitter = true ∨ view.length ≠ 8 then return none
      else do
        match ← copyObject bytes view.offset 8 with
        | none => return none
        | some raw => return some (state.setJitter (leValue raw))
    else
      match expectedOption type with
      | none => return some state.setUnsupported
      | some (size, mustBeZero) =>
          if view.length ≠ size then return none
          else do
            let payload ← memcpy bytes view.offset view.length
            if mustBeZero = true ∧ ¬ ∀ byte ∈ payload, byte = 0 then return some state.setUnsupported
            else return some state

def netemOptions (bytes : Bytes) (offset length : Nat) (qdisc : RootQdisc) : Reading (Option RootQdisc) :=
  if length < 24 then return none
  else do
    match ← copyObject bytes offset 24 with
    | none => return none
    | some options =>
        let latency := leValue (slice options 0 4)
        let limit := leValue (slice options 4 4)
        let loss := leValue (slice options 8 4)
        let gap := leValue (slice options 12 4)
        let duplicate := leValue (slice options 16 4)
        let jitter := leValue (slice options 20 4)
        let legacy := { qdisc with
          lossProbability := UInt32.ofNat loss, hasUnsupportedOptions := decide (limit ≠ 1000 ∨ gap ≠ 0 ∨ duplicate ≠ 0) }
        let remaining := length - 24
        match ← attributeLoop (netemAttribute bytes) bytes (remaining + 1) (offset + 24) remaining { qdisc := legacy } with
        | none => return none
        | some last =>
            return some { last.qdisc with
              hasUnsupportedOptions := last.qdisc.hasUnsupportedOptions || (!last.hasDelay && decide (latency ≠ 0))
                || (!last.hasJitter && decide (jitter ≠ 0)) }

/-! ### QdiscMessageDecoder -/

inductive QdiscMessageKind where
  | root
  | ignored
  | dumpComplete
  deriving DecidableEq

structure QdiscMessage where
  status : InventoryStatus
  kind : QdiscMessageKind
  root : Option RootQdisc
  deriving DecidableEq

structure QdiscMessageDecoder where
  sequence : UInt32
  portId : UInt32
  expectedIndex : UInt32
  deriving DecidableEq

/-- What `consume` has found among the attributes of a qdisc: its kind, and where its options are. -/
structure QdiscAttributes where
  kind : Option Bytes := none
  options : Option (Nat × Nat) := none
  deriving DecidableEq

def qdiscAttribute (message : Bytes) (view : AttributeView) (found : QdiscAttributes) :
    Reading (Option QdiscAttributes) :=
  let type := nlaType view.type
  if type = tcaKind then
    if found.kind.isSome = true then return none
    else do
      match ← stringAttribute message view.offset view.length with
      | none => return none
      | some kind => return some { found with kind := some kind }
  else if type = tcaOptions then
    if found.options.isSome = true then return none
    else return some { found with options := some (view.offset, view.length) }
  else return some found

namespace QdiscMessageDecoder

def malformed : QdiscMessage := ⟨.malformed, .ignored, none⟩

/-- The root qdisc by its attributes. -/
def rootMessage (message : Bytes) (handle : UInt32) (found : QdiscAttributes) : Reading QdiscMessage :=
  match found.kind with
  | none => return malformed
  | some kind =>
      if kind = ascii "noqueue" then
        if found.options.isSome = true ∨ handle ≠ 0 then return malformed
        else return ⟨.present, .root, some { handle, kind := .noqueue }⟩
      else if kind = ascii "netem" then
        match found.options with
        | none => return malformed
        | some (offset, length) => do
            match ← netemOptions message offset length { handle, kind := .netem } with
            | none => return malformed
            | some qdisc => return ⟨.present, .root, some qdisc⟩
      else return ⟨.present, .root, some { handle, kind := .other, hasUnsupportedOptions := true }⟩

/-- `RTM_NEWQDISC`. -/
def consumeQdisc (decoder : QdiscMessageDecoder) (message : Bytes) (header : Header) : Reading QdiscMessage := do
  match ← copyObject message 16 20 with
  | none => return malformed
  | some information =>
      let index := leValue (slice information 4 4)
      let handle := UInt32.ofNat (leValue (slice information 8 4))
      -- The index is an `int`.
      if leValue (slice information 0 1) ≠ 0 ∨ index = 0 ∨ 2 ^ 31 ≤ index then return malformed
      else if index ≠ decoder.expectedIndex.toNat ∨ leValue (slice information 12 4) ≠ tcHRoot then
        return ⟨.present, .ignored, none⟩
      else
        let remaining := header.length - 36
        match ← attributeLoop (qdiscAttribute message) message (remaining + 1) 36 remaining {} with
        | none => return malformed
        | some found => rootMessage message handle found

/-- `NLMSG_DONE`, with an error number or nothing. -/
def consumeDone (message : Bytes) (header : Header) : Reading QdiscMessage :=
  if header.length ≠ 16 ∧ header.length ≠ 20 then return malformed
  else if header.length = 20 then do
    match ← copyObject message 16 4 with
    | none => return ⟨.failure, .dumpComplete, none⟩
    | some raw =>
        if leValue raw ≠ 0 then return ⟨.failure, .dumpComplete, none⟩ else return ⟨.present, .dumpComplete, none⟩
  else return ⟨.present, .dumpComplete, none⟩

/-- `NLMSG_ERROR`: without the device there is no qdisc. -/
def consumeError (message : Bytes) (header : Header) : Reading QdiscMessage :=
  if header.length ≠ 36 then return malformed
  else do
    match ← copyObject message 16 20 with
    | none => return malformed
    | some raw =>
        let error := leValue (slice raw 0 4)
        if error = 0 then return malformed
        else
          -- `ENODEV` and `ENXIO`.
          let number := errorMagnitude error
          return ⟨if number = 19 ∨ number = 6 then .absent else .failure, .ignored, none⟩

def consume (decoder : QdiscMessageDecoder) (bytes : Bytes) : Reading QdiscMessage :=
  if bytes.length < 16 then return malformed
  else do
    match ← copyObject bytes 0 16 with
    | none => return malformed
    | some raw =>
        let header := readHeader raw
        if header.length < 16 ∨ bytes.length < header.length ∨ nlmsgAlign header.length ≠ bytes.length
            ∨ header.sequence ≠ decoder.sequence.toNat ∨ header.portId ≠ decoder.portId.toNat
            ∨ isInterrupted header = true then return malformed
        else
          let message ← memcpy bytes 0 header.length
          if header.type = nlmsgDone then consumeDone message header
          else if header.type = nlmsgError then consumeError message header
          else if header.type ≠ rtmNewQdisc ∨ header.length < 36 then return malformed
          else decoder.consumeQdisc message header

end QdiscMessageDecoder

/-! ### query_current_namespace_qdisc -/

inductive DatagramPoll where
  | ready
  | expired
  | failed
  deriving DecidableEq

/-- What `recvmsg` comes to: nothing yet, what is not whole or not from the kernel, or a datagram. -/
inductive Reception where
  | again
  | refused
  | datagram (bytes : Bytes)
  deriving DecidableEq

/-- An index of 0 comes with whether `errno` is 0, `ENODEV` or `ENXIO`. -/
structure IndexAnswer where
  index : UInt32
  noDevice : Bool
  deriving DecidableEq

/-- The request is a socket that is opened and bound, and the dump asked for; its answer is the port. -/
inductive QdiscCall where
  | pastDeadline (deadline : TimePoint)
  | nameToIndex (name : Bytes)
  | requestDump (index : UInt32)
  | poll (deadline : TimePoint)
  | receive
  deriving DecidableEq

abbrev QdiscAnswer : QdiscCall → Type
  | .pastDeadline _ => Bool
  | .nameToIndex _ => IndexAnswer
  | .requestDump _ => Option UInt32
  | .poll _ => DatagramPoll
  | .receive => Reception

abbrev QdiscProgram (α : Type) := Program QdiscCall QdiscAnswer α

/-- One call. -/
abbrev askKernel (request : QdiscCall) : QdiscProgram (QdiscAnswer request) := perform request

/-- The loop over the messages of a datagram, with the root qdisc that was found so far. -/
def consumeDatagram (decoder : QdiscMessageDecoder) :
    Nat → Option RootQdisc → Bytes → Reading (Option RootQdisc ⊕ QdiscQuery)
  | 0, _, _ => .error .unfinished
  | fuel + 1, root, rest =>
      if rest = [] then return .inl root
      else if rest.length < 16 then return .inr ⟨.malformed, none⟩
      else do
        let header := readHeader (← memcpy rest 0 16)
        let aligned := nlmsgAlign header.length
        if header.length < 16 ∨ rest.length < aligned then return .inr ⟨.malformed, none⟩
        else
          let decoded ← decoder.consume (← memcpy rest 0 aligned)
          if decoded.status ≠ .present then return .inr ⟨decoded.status, none⟩
          else
            match decoded.kind with
            | .root =>
                if root.isSome = true ∨ decoded.root.isNone = true then return .inr ⟨.malformed, none⟩
                else consumeDatagram decoder fuel decoded.root (rest.drop aligned)
            | .dumpComplete => return .inr (if root.isSome = true then ⟨.present, root⟩ else ⟨.absent, none⟩)
            | .ignored => consumeDatagram decoder fuel root (rest.drop aligned)

/-- One round of the loop over the datagrams. -/
def receiveRound (decoder : QdiscMessageDecoder) (deadline : TimePoint) (root : Option RootQdisc) :
    QdiscProgram (Option RootQdisc ⊕ Reading QdiscQuery) := do
  if (← askKernel (.pastDeadline deadline)) = true then return .inr (.ok ⟨.timeout, none⟩)
  else
    match ← askKernel (.poll deadline) with
    | .expired => return .inr (.ok ⟨.timeout, none⟩)
    | .failed => return .inr (.ok ⟨.failure, none⟩)
    | .ready =>
        match ← askKernel .receive with
        | .again => return .inl root
        | .refused => return .inr (.ok ⟨.malformed, none⟩)
        | .datagram bytes =>
            if bytes = [] then return .inr (.ok ⟨.malformed, none⟩)
            else
              match consumeDatagram decoder (bytes.length + 1) root bytes with
              | .error fault => return .inr (.error fault)
              | .ok (.inl next) => return .inl next
              | .ok (.inr query) => return .inr (.ok query)

/-- A query that goes on for more rounds has no result. -/
def queryCurrentNamespaceQdisc (rounds : Nat) (name : Bytes) (deadline : TimePoint) :
    QdiscProgram (Option (Reading QdiscQuery)) := do
  if (← askKernel (.pastDeadline deadline)) = true then return some (.ok ⟨.timeout, none⟩)
  else
    let found ← askKernel (.nameToIndex name)
    if found.index = 0 then return some (.ok ⟨if found.noDevice = true then .absent else .failure, none⟩)
    else
      match ← askKernel (.requestDump found.index) with
      | none => return some (.ok ⟨.failure, none⟩)
      | some portId => loop (receiveRound ⟨1, portId, found.index⟩ deadline) rounds none

end NetLagLab.NetworkEnvironment
