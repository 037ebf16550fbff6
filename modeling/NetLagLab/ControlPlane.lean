import NetLagLab.ControllerCommands

/-! The Controller control plane: the commands of the attached Controller, the one Profile Change in
flight, the confirmed profile, and the actions that each event asks for. -/

namespace NetLagLab

open ByteLines

inductive ControlPlaneProfileChangeResult where
  | applied
  | restoredAfterFailure
  deriving DecidableEq

inductive ControlPlaneEvent where
  | controllerAttached
  | controllerBytesReceived (bytes : Bytes)
  | controllerDisconnected
  | controllerWriteFailed
  | helperProfileChangeResult (result : ControlPlaneProfileChangeResult) (change : ProfileChange)
  | helperProfileStateUnknown
  | sessionStopping
  | workloadTerminal
  deriving DecidableEq

inductive ControlPlaneAction where
  | requestLifecycleStop
  | sendControllerText (text : Bytes)
  | disconnectController
  | failSessionForUnknownProfileState
  | dispatchProfileChange (change : ProfileChange)
  deriving DecidableEq

def ControlPlaneAction.isDispatch : ControlPlaneAction → Bool
  | .dispatchProfileChange _ => true
  | _ => false

structure QueuedCommand where
  command : ControllerCommand
  connectionGeneration : UInt64
  deriving DecidableEq

structure InFlightProfileChange where
  change : ProfileChange
  replyGeneration : Option UInt64
  dispatchPendingExecution : Bool
  deriving DecidableEq

/-- Nobody is told how the change ended. -/
def InFlightProfileChange.withoutReply (inFlight : InFlightProfileChange) : InFlightProfileChange :=
  { inFlight with replyGeneration := none }

structure ControllerControlPlane where
  workloadPid : Int
  childArguments : List Bytes
  readBuffer : Bytes := []
  commandQueue : List QueuedCommand := []
  inFlightProfileChange : Option InFlightProfileChange := none
  confirmedProfile : NetworkProfile := {}
  connectionGeneration : UInt64 := 0
  controllerAttached : Bool := false
  shapingApplied : Bool := false
  stopping : Bool := false
  workloadTerminal : Bool := false
  profileStateFailed : Bool := false
  deriving DecidableEq

/-! ### The texts for the Controller -/

def maximumStatusSize : Nat := 8 * 1024

def hexDigit (value : UInt8) : UInt8 := if value < 10 then 48 + value else 55 + value

/-- A byte of an argument as the status shows it. -/
def escapedByte (byte : UInt8) : Bytes :=
  if byte = 92 then [92, 92]
  else if byte = 9 then 92 :: ascii "t"
  else if byte = 10 then 92 :: ascii "n"
  else if byte = 13 then 92 :: ascii "r"
  else if byte < 32 ∨ byte = 127 then [92, 120, hexDigit (byte >>> 4), hexDigit (byte &&& 15)]
  else [byte]

/-- The output with as much of the input as fits, and whether all of it did. -/
def appendEscapedLimited (limit : Nat) (output : Bytes) : Bytes → Bytes × Bool
  | [] => (output, true)
  | byte :: input =>
      if limit < output.length ∨ limit - output.length < (escapedByte byte).length then (output, false)
      else appendEscapedLimited limit (output ++ escapedByte byte) input

/-- The argument lines of the status from an index on, and whether all of them are complete. -/
def appendArguments (limit : Nat) (response : Bytes) (index : Nat) : List Bytes → Bytes × Bool
  | [] => (response, true)
  | argument :: arguments =>
      let start := ascii "argument[" ++ decimalText index ++ ascii "]: "
      if limit < response.length + start.length + 1 then (response, false)
      else
        match appendEscapedLimited (limit - 1) (response ++ start) argument with
        | (output, false) => (output ++ [newline], false)
        | (output, true) => appendArguments limit (output ++ [newline]) (index + 1) arguments

section Texts

variable [DecimalText]

def directionStatus (name : Bytes) (settings : DirectionSettings) : Bytes :=
  name ++ ascii ":\n  delay: " ++ decimalTextInt settings.delay.toInt
    ++ ascii " ms\n  jitter: " ++ decimalTextInt settings.jitter.toInt
    ++ ascii " ms\n  packet loss: " ++ DecimalText.streamText settings.packetLossPercent
    ++ ascii "%\n  bandwidth: "
    ++ match settings.bandwidthKbps with
      | some kbps => decimalText kbps.toNat ++ ascii " kbps\n"
      | none => ascii "unlimited\n"

def buildStatus (workloadPid : Int) (childArguments : List Bytes) (profile : NetworkProfile)
    (stopping shapingApplied : Bool) : Bytes :=
  let tail := ascii "shaping: "
    ++ (if shapingApplied then ascii "applied\n" else ascii "not applied\n")
    ++ directionStatus (ascii "outbound") profile.outbound
    ++ directionStatus (ascii "inbound") profile.inbound ++ ascii "STATUS_END\n"
  let truncatedNotice := ascii "arguments: truncated\n"
  let contentLimit := maximumStatusSize - tail.length - truncatedNotice.length
  let header := ascii "STATUS_BEGIN\nstate: " ++ (if stopping then ascii "stopping" else ascii "running")
    ++ ascii "\npid: " ++ decimalTextInt workloadPid ++ ascii "\nprogram: "
  let program := appendEscapedLimited (contentLimit - 1) header (childArguments.headD [])
  let response :=
    if program.2 then appendArguments contentLimit (program.1 ++ [newline]) 0 childArguments.tail
    else (program.1 ++ [newline], false)
  response.1 ++ (if response.2 then [] else truncatedNotice) ++ tail

end Texts

def controllerParseErrorResponse : ControllerParseError → Bytes
  | .commandTooLong => ascii "ERROR Command exceeds 1024 bytes.\n"
  | .invalidCharacter => ascii "ERROR Command contains an invalid character.\n"
  | .unknownCommand => ascii "ERROR Unknown command.\n"
  | .wrongArgumentCount => ascii "ERROR Wrong number of arguments.\n"
  | .invalidDirection => ascii "ERROR Direction must be outbound or inbound.\n"
  | .invalidSetting => ascii "ERROR Setting must be delay, jitter, loss, or bandwidth.\n"
  | .invalidNumber => ascii "ERROR Invalid numeric value.\n"
  | .invalidUnit => ascii "ERROR Invalid unit for setting.\n"
  | .valueOutOfRange => ascii "ERROR Value is outside the allowed range.\n"
  | .valueOverflow => ascii "ERROR Value is too large.\n"
  | .valueUnderflow => ascii "ERROR Value is too small to represent.\n"

def helpResponse : Bytes := ascii
  "HELP_BEGIN\nhelp - Show controller commands\nstatus - Show the active session\nstop - Stop the active Workload\ndetach - Disconnect this controller\nHELP_END\n"

def attachedText : Bytes := ascii "ATTACHED\n"

def detachedText : Bytes := ascii "DETACHED\n"

def stoppingText : Bytes := ascii "STOPPING\n"

def profileChangedText : Bytes := ascii "PROFILE_CHANGED\n"

def profileNotChangedText : Bytes :=
  ascii "ERROR Profile change could not be applied; previous profile remains active.\n"

def sessionIsStoppingText : Bytes := ascii "ERROR Session is stopping.\n"

def tooManyQueuedCommandsText : Bytes := ascii "ERROR Too many queued commands.\n"

def maximumQueuedCommands : Nat := 32

/-- The actions with one more in front of the first dispatch, or at the end. -/
def appendBeforeDispatch (actions : List ControlPlaneAction) (action : ControlPlaneAction) :
    List ControlPlaneAction :=
  actions.takeWhile (!·.isDispatch) ++ action :: actions.dropWhile (!·.isDispatch)

/-! ### Events -/

namespace ControllerControlPlane

def disconnectController (plane : ControllerControlPlane) : ControllerControlPlane :=
  { plane with
    controllerAttached := false
    readBuffer := []
    commandQueue := []
    inFlightProfileChange := plane.inFlightProfileChange.map .withoutReply }

/-- The control plane once the Session stops. A change whose dispatch is not executed yet is taken
back; one that is executed stays in flight, without a reply. -/
def stopped (plane : ControllerControlPlane) : ControllerControlPlane :=
  { plane with
    stopping := true
    commandQueue := []
    inFlightProfileChange :=
      (plane.inFlightProfileChange.filter (!·.dispatchPendingExecution)).map .withoutReply }

def enterStopping (plane : ControllerControlPlane) (actions : List ControlPlaneAction) :
    ControllerControlPlane × List ControlPlaneAction :=
  let requested := if plane.stopping then actions else .requestLifecycleStop :: actions
  let kept :=
    if plane.inFlightProfileChange.any (·.dispatchPendingExecution) then
      requested.filter (!·.isDispatch)
    else requested
  (plane.stopped, appendBeforeDispatch kept (.sendControllerText stoppingText))

section

variable [DecimalText]

/-- A command that neither stops the Session nor has to wait. -/
def executeCommand (plane : ControllerControlPlane) (command : ControllerCommand)
    (actions : List ControlPlaneAction) : ControllerControlPlane × List ControlPlaneAction :=
  match command with
  | .help => (plane, appendBeforeDispatch actions (.sendControllerText helpResponse))
  | .status =>
      (plane, appendBeforeDispatch actions (.sendControllerText
        (buildStatus plane.workloadPid plane.childArguments plane.confirmedProfile plane.stopping
          plane.shapingApplied)))
  | .profileChange change =>
      ({ plane with
          inFlightProfileChange := some ⟨change, some plane.connectionGeneration, true⟩ },
        actions ++ [.dispatchProfileChange change])
  | .detach =>
      (plane.disconnectController,
        appendBeforeDispatch (appendBeforeDispatch actions (.sendControllerText detachedText))
          .disconnectController)
  | .stop => (plane, actions)

/-- While a change is in flight the commands wait in the queue, unless the Session stops. -/
def enqueueOrExecute (plane : ControllerControlPlane) (command : ControllerCommand)
    (actions : List ControlPlaneAction) : ControllerControlPlane × List ControlPlaneAction :=
  if plane.inFlightProfileChange.isSome && !plane.stopping then
    if maximumQueuedCommands ≤ plane.commandQueue.length then
      (plane.disconnectController,
        appendBeforeDispatch
          (appendBeforeDispatch actions (.sendControllerText tooManyQueuedCommandsText))
          .disconnectController)
    else
      ({ plane with
          commandQueue := plane.commandQueue ++ [⟨command, plane.connectionGeneration⟩] }, actions)
  else plane.executeCommand command actions

def processCommand (plane : ControllerControlPlane) (command : ControllerCommand)
    (actions : List ControlPlaneAction) : ControllerControlPlane × List ControlPlaneAction :=
  match command with
  | .stop => plane.enterStopping actions
  | .profileChange change =>
      if plane.stopping then
        (plane, appendBeforeDispatch actions (.sendControllerText sessionIsStoppingText))
      else plane.enqueueOrExecute (.profileChange change) actions
  | command => plane.enqueueOrExecute command actions

/-- Take commands out of the queue while there is one and it has not to wait. Every turn shortens the
queue, so its length bounds the turns. -/
def drainQueue (plane : ControllerControlPlane) (actions : List ControlPlaneAction) :
    Nat → ControllerControlPlane × List ControlPlaneAction
  | 0 => (plane, actions)
  | fuel + 1 =>
      if plane.controllerAttached && plane.inFlightProfileChange.isNone then
        match plane.commandQueue with
        | [] => (plane, actions)
        | queued :: rest =>
            let popped := { plane with commandQueue := rest }
            if queued.connectionGeneration ≠ plane.connectionGeneration then
              popped.drainQueue actions fuel
            else
              let processed := popped.processCommand queued.command actions
              processed.1.drainQueue processed.2 fuel
      else (plane, actions)

/-- The lines of the Controller in order, up to the one that detaches it. -/
def receiveControllerLines (plane : ControllerControlPlane) (actions : List ControlPlaneAction) :
    List Bytes → ControllerControlPlane × List ControlPlaneAction
  | [] => (plane, actions)
  | line :: lines =>
      if plane.controllerAttached = false then (plane, actions)
      else
        match parseControllerCommand line with
        | .ignored => plane.receiveControllerLines actions lines
        | .error error =>
            let answered :=
              appendBeforeDispatch actions (.sendControllerText (controllerParseErrorResponse error))
            if error = .commandTooLong then
              plane.disconnectController.receiveControllerLines
                (appendBeforeDispatch answered .disconnectController) lines
            else plane.receiveControllerLines answered lines
        | .command command =>
            let processed := plane.processCommand command actions
            processed.1.receiveControllerLines processed.2 lines

def receiveControllerBytes (plane : ControllerControlPlane) (bytes : Bytes) :
    ControllerControlPlane × List ControlPlaneAction :=
  let received := splitLines (plane.readBuffer ++ bytes)
  let outcome := { plane with readBuffer := [] }.receiveControllerLines [] received.1
  if outcome.1.controllerAttached = false then outcome
  else if maximumControllerCommandSize < received.2.length then
    (outcome.1.disconnectController,
      appendBeforeDispatch
        (appendBeforeDispatch outcome.2
          (.sendControllerText (controllerParseErrorResponse .commandTooLong)))
        .disconnectController)
  else ({ outcome.1 with readBuffer := received.2 }, outcome.2)

/-- The end of the change in flight. -/
def finishProfileChange (plane : ControllerControlPlane) (inFlight : InFlightProfileChange)
    (result : ControlPlaneProfileChangeResult) (change : ProfileChange) :
    ControllerControlPlane × List ControlPlaneAction :=
  let landed := { plane with inFlightProfileChange := none }
  let replying := !plane.workloadTerminal && !plane.stopping && plane.controllerAttached
    && decide (inFlight.replyGeneration = some plane.connectionGeneration)
  let drained (plane : ControllerControlPlane) (actions : List ControlPlaneAction) :=
    if !plane.workloadTerminal && !plane.profileStateFailed then
      plane.drainQueue actions plane.commandQueue.length
    else (plane, actions)
  match result with
  | .applied =>
      match applyProfileChange plane.confirmedProfile change with
      | .error _ =>
          ({ landed with profileStateFailed := true, commandQueue := [] },
            [.failSessionForUnknownProfileState])
      | .ok profile =>
          drained { landed with confirmedProfile := profile, shapingApplied := true }
            (if replying then [.sendControllerText profileChangedText] else [])
  | .restoredAfterFailure =>
      drained landed (if replying then [.sendControllerText profileNotChangedText] else [])

/-- A result for a change that is not in flight: nobody knows what the helper has applied. -/
def rejectProfileChangeResult (plane : ControllerControlPlane) :
    ControllerControlPlane × List ControlPlaneAction :=
  if !plane.workloadTerminal && !plane.profileStateFailed then
    ({ plane with profileStateFailed := true, commandQueue := [] },
      [.failSessionForUnknownProfileState])
  else (plane, [])

/-- From the next event on, a dispatch counts as executed. -/
def settled (plane : ControllerControlPlane) : ControllerControlPlane :=
  { plane with
    inFlightProfileChange := plane.inFlightProfileChange.map fun inFlight =>
      { inFlight with dispatchPendingExecution := false } }

/-- The change is not reported any more and the commands that waited for it are dropped. -/
def withoutWaiting (plane : ControllerControlPlane) : ControllerControlPlane :=
  { plane with
    commandQueue := []
    inFlightProfileChange := plane.inFlightProfileChange.map .withoutReply }

/-- The Controller could not be written to: a change that was not dispatched yet is dropped. -/
def controllerWriteFailed (plane : ControllerControlPlane) : ControllerControlPlane :=
  disconnectController
    { plane with
      inFlightProfileChange :=
        plane.inFlightProfileChange.filter (!·.dispatchPendingExecution) }

def handleSettled (plane : ControllerControlPlane) :
    ControlPlaneEvent → ControllerControlPlane × List ControlPlaneAction
  | .controllerAttached =>
      ({ plane with
          connectionGeneration := plane.connectionGeneration + 1
          controllerAttached := true
          readBuffer := [] }, [.sendControllerText attachedText])
  | .controllerBytesReceived bytes =>
      if !plane.controllerAttached || plane.workloadTerminal || plane.profileStateFailed then
        (plane, [])
      else plane.receiveControllerBytes bytes
  | .controllerDisconnected => (plane.disconnectController, [])
  | .controllerWriteFailed => (plane.controllerWriteFailed, [])
  | .helperProfileChangeResult result change =>
      match plane.inFlightProfileChange with
      | none => plane.rejectProfileChangeResult
      | some inFlight =>
          if inFlight.change.same change then plane.finishProfileChange inFlight result change
          else plane.rejectProfileChangeResult
  | .helperProfileStateUnknown =>
      if plane.profileStateFailed then (plane, [])
      else
        ({ plane.withoutWaiting with profileStateFailed := true },
          [.failSessionForUnknownProfileState])
  | .sessionStopping => ({ plane.withoutWaiting with stopping := true }, [])
  | .workloadTerminal => ({ plane.withoutWaiting with workloadTerminal := true }, [])

def handle (plane : ControllerControlPlane) (event : ControlPlaneEvent) :
    ControllerControlPlane × List ControlPlaneAction :=
  if event = .controllerWriteFailed then plane.handleSettled event
  else plane.settled.handleSettled event

end

end ControllerControlPlane

end NetLagLab
