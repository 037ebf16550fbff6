import NetLagLab.QdiscDump

/-! The answer to a query of one link: a netlink message whose attributes name the link, its peer and its kind. The kind
is an attribute within an attribute. -/

namespace NetLagLab.NetworkEnvironment

open ByteLines FixedWidth Netlink

def rtmNewLink : Nat := 16

def iflaIfname : Nat := 3

def iflaLink : Nat := 5

def iflaLinkinfo : Nat := 18

def iflaLinkNetnsid : Nat := 37

def iflaInfoKind : Nat := 1

/-! ### Attributes -/

/-- One attribute within the information on a link. -/
def vethAttribute (message : Bytes) (view : AttributeView) (foundKind : Bool) : Reading (Option Bool) :=
  if nlaType view.type = iflaInfoKind then
    if foundKind = true then return none
    else do
      match ← stringAttribute message view.offset view.length with
      | none => return none
      | some kind => if kind ≠ ascii "veth" then return none else return some true
  else return some foundKind

def vethKind (message : Bytes) (payloadOffset payloadLength : Nat) : Reading Bool := do
  match ← attributeLoop (vethAttribute message) message (payloadLength + 1) payloadOffset payloadLength false with
  | none => return false
  | some foundKind => return foundKind

/-- What `consume` has found among the attributes of a link. -/
structure LinkAttributes where
  name : Option Bytes := none
  peerIndex : Option UInt32 := none
  peerNamespaceId : Option Int32 := none
  hasKind : Bool := false
  deriving DecidableEq

def linkAttribute (message : Bytes) (view : AttributeView) (found : LinkAttributes) : Reading (Option LinkAttributes) :=
  let type := nlaType view.type
  if type = iflaIfname then
    if found.name.isSome = true then return none
    else do
      match ← stringAttribute message view.offset view.length with
      | none => return none
      | some name => return some { found with name := some name }
  else if type = iflaLink then
    if found.peerIndex.isSome = true ∨ view.length ≠ 4 then return none
    else do
      match ← copyObject message view.offset 4 with
      | none => return none
      | some raw => return some { found with peerIndex := some (UInt32.ofNat (leValue raw)) }
  else if type = iflaLinkNetnsid then
    if found.peerNamespaceId.isSome = true ∨ view.length ≠ 4 then return none
    else do
      match ← copyObject message view.offset 4 with
      | none => return none
      | some raw => return some { found with peerNamespaceId := some (UInt32.ofNat (leValue raw)).toInt32 }
  else if type = iflaLinkinfo then
    if found.hasKind = true then return none
    else do
      if (← vethKind message view.offset view.length) = true then return some { found with hasKind := true }
      else return none
  else return some found

/-! ### LinkMessageDecoder -/

structure LinkMessageDecoder where
  sequence : UInt32
  portId : UInt32
  expectedIndex : UInt32
  expectedName : Bytes
  errorNumber : Nat := 0
  deriving DecidableEq

namespace LinkMessageDecoder

def malformed : LinkQuery := ⟨.malformed, none⟩

/-- The link by its attributes. -/
def identify (decoder : LinkMessageDecoder) (found : LinkAttributes) : LinkQuery :=
  match found.name, found.peerIndex with
  | some name, some peerIndex =>
      if name ≠ decoder.expectedName ∨ peerIndex = 0 ∨ found.hasKind = false then malformed
      else ⟨.present, some ⟨decoder.expectedIndex, peerIndex, found.peerNamespaceId⟩⟩
  | _, _ => malformed

/-- `RTM_NEWLINK`. -/
def consumeLink (decoder : LinkMessageDecoder) (message : Bytes) (header : Header) : Reading LinkQuery := do
  match ← copyObject message 16 16 with
  | none => return malformed
  | some information =>
      let index := leValue (slice information 4 4)
      -- The index is an `int`.
      if index = 0 ∨ 2 ^ 31 ≤ index ∨ index ≠ decoder.expectedIndex.toNat then return malformed
      else
        let remaining := header.length - 32
        match ← attributeLoop (linkAttribute message) message (remaining + 1) 32 remaining {} with
        | none => return malformed
        | some found => return decoder.identify found

/-- `NLMSG_ERROR`: without the device there is no link. -/
def consumeError (decoder : LinkMessageDecoder) (message : Bytes) (header : Header) :
    Reading (LinkMessageDecoder × LinkQuery) :=
  if header.length < 36 then return (decoder, malformed)
  else do
    match ← copyObject message 16 20 with
    | none => return (decoder, malformed)
    | some raw =>
        let error := leValue (slice raw 0 4)
        if error = 0 then return (decoder, malformed)
        else
          -- `ENODEV` and `ENXIO`.
          let number := errorMagnitude error
          return ({ decoder with errorNumber := number },
            ⟨if number = 19 ∨ number = 6 then .absent else .failure, none⟩)

/-- The result, with the decoder and its error number afterwards. -/
def consume (decoder : LinkMessageDecoder) (bytes : Bytes) : Reading (LinkMessageDecoder × LinkQuery) :=
  if bytes.length < 16 then return (decoder, malformed)
  else do
    match ← copyObject bytes 0 16 with
    | none => return (decoder, malformed)
    | some raw =>
        let header := readHeader raw
        if header.length < 16 ∨ bytes.length < header.length ∨ nlmsgAlign header.length ≠ bytes.length
            ∨ header.sequence ≠ decoder.sequence.toNat ∨ header.portId ≠ decoder.portId.toNat then
          return (decoder, malformed)
        else
          let message ← memcpy bytes 0 header.length
          if header.type = nlmsgError then decoder.consumeError message header
          else if header.type ≠ rtmNewLink ∨ header.length < 32 then return (decoder, malformed)
          else return (decoder, ← decoder.consumeLink message header)

end LinkMessageDecoder

end NetLagLab.NetworkEnvironment
