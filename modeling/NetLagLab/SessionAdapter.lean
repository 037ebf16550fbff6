import NetLagLab.ControlPlane
import NetLagLab.SessionLifecycle
import NetLagLab.SupervisorConversation

/-! The Supervisor's adapter: the actions of the control plane carried out on the two sockets, and one
turn of the wait for the helper, the Controllers and the signal pipe. What the system reports (the
ready flags, the bytes read, whether a send succeeds) is an input. -/

namespace NetLagLab

open ByteLines

/-- The connections of Controllers, numbered in the order they were accepted. -/
abbrev Connection := Nat

/-- Whether the sends to come succeed, for each of the two sockets; those after the end do. -/
structure SendResults where
  controller : List Bool := []
  helper : List Bool := []
  deriving DecidableEq

/-! ### The actions of the control plane -/

/-- What the actions work on. The texts and the commands that were sent are recorded. -/
structure SessionLinks where
  controlPlane : ControllerControlPlane
  controller : Option Connection
  conversation : SupervisorHelperConversation
  sends : SendResults
  texts : List (Connection × Bytes)
  commands : List HelperRuntimeCommand
  deriving DecidableEq

section Executor

variable [DecimalText]

/-- The Controller is dropped and the control plane told that it could not be written to. -/
def SessionLinks.dropController (links : SessionLinks) : SessionLinks :=
  { links with
    controller := none
    controlPlane := (links.controlPlane.handle .controllerWriteFailed).1 }

def executeControlPlaneActions :
    List ControlPlaneAction → SessionLinks → SessionLinks × List LifecycleEvent
  | [], links => (links, [])
  | .requestLifecycleStop :: actions, links =>
      let outcome := executeControlPlaneActions actions links
      (outcome.1, .stopRequested :: outcome.2)
  | .sendControllerText text :: actions, links =>
      let after := { links with sends.controller := links.sends.controller.tail }
      match links.controller, links.sends.controller.headD true with
      | some connection, true =>
          executeControlPlaneActions actions { after with texts := links.texts ++ [(connection, text)] }
      | some _, false => (after.dropController, [])
      | none, _ => (links.dropController, [])
  | .disconnectController :: actions, links =>
      executeControlPlaneActions actions { links with controller := none }
  | .failSessionForUnknownProfileState :: actions, links =>
      let outcome := executeControlPlaneActions actions links
      (outcome.1, .profileStateUnknown :: outcome.2)
  | .dispatchProfileChange change :: actions, links =>
      match links.conversation.beginProfileChange change with
      | none => (links, [.conversationLost])
      | some (_, conversation) =>
          let after := { links with
            conversation := conversation
            sends.helper := links.sends.helper.tail }
          if links.sends.helper.headD true then
            executeControlPlaneActions actions
              { after with commands := links.commands ++ [.profileChange change] }
          else (after, [.conversationLost])

end Executor

/-! ### The adapter -/

inductive SocketRead where
  | data (bytes : Bytes)
  | peerClosed
  | failed
  deriving DecidableEq

/-- The flags that `poll` reports for one descriptor. -/
structure Readiness where
  pollin : Bool := false
  pollhup : Bool := false
  pollerr : Bool := false
  pollnval : Bool := false
  deriving DecidableEq

/-- What the system reports in one turn of the wait. -/
structure CycleInput where
  helper : Readiness := {}
  listening : Readiness := {}
  controller : Readiness := {}
  signal : Readiness := {}
  helperRead : SocketRead := .failed
  /-- Whether the control socket can be created. -/
  listens : Bool := true
  /-- The markers in the signal pipe. -/
  interrupts : Nat := 0
  /-- Whether a connection can be accepted. -/
  accepts : Bool := true
  /-- What the reads from the Controller give in turn; after them its end of file. -/
  controllerReads : List SocketRead := []
  /-- Whether the sends to the helper succeed, then those to the Controller: while the frames of the
  helper are handled, for the greeting of an accepted Controller, and for its commands. -/
  helperSends : List Bool := []
  resultSends : List Bool := []
  greets : Bool := true
  commandSends : List Bool := []
  deriving DecidableEq

structure SessionAdapter where
  childArguments : List Bytes
  conversation : SupervisorHelperConversation := {}
  pendingEvents : List LifecycleEvent := []
  client : Option Connection := none
  controlPlane : Option ControllerControlPlane := none
  listening : Bool := false
  activated : Bool := false
  workloadFinished : Bool := false
  /-- The number of connections accepted so far. -/
  connections : Nat := 0
  sends : SendResults := {}
  texts : List (Connection × Bytes) := []
  commands : List HelperRuntimeCommand := []
  deriving DecidableEq

namespace SessionAdapter

def push (adapter : SessionAdapter) (event : LifecycleEvent) : SessionAdapter :=
  { adapter with pendingEvents := adapter.pendingEvents ++ [event] }

def withConversation (adapter : SessionAdapter) (conversation : SupervisorHelperConversation) :
    SessionAdapter :=
  { adapter with conversation := conversation }

/-- The adapter with a connection just accepted. -/
def connect (adapter : SessionAdapter) : SessionAdapter :=
  { adapter with client := some adapter.connections, connections := adapter.connections + 1 }

/-- The adapter with the control plane of a Workload that has started. -/
def createControlPlane (adapter : SessionAdapter) (workloadPid : Int) : SessionAdapter :=
  { adapter with
    controlPlane := some { workloadPid := workloadPid, childArguments := adapter.childArguments } }

def withControllerSends (adapter : SessionAdapter) (results : List Bool) : SessionAdapter :=
  { adapter with sends.controller := results }

/-- The adapter at the start of a turn, with the results of the sends while the helper's frames are
handled. -/
def withSends (adapter : SessionAdapter) (input : CycleInput) : SessionAdapter :=
  { adapter with sends := ⟨input.resultSends, input.helperSends⟩ }

def finishWorkload (adapter : SessionAdapter) : SessionAdapter :=
  { adapter with workloadFinished := true, activated := false }

/-- What the actions of the control plane work on. -/
def links (adapter : SessionAdapter) (plane : ControllerControlPlane) : SessionLinks where
  controlPlane := plane
  controller := adapter.client
  conversation := adapter.conversation
  sends := adapter.sends
  texts := adapter.texts
  commands := adapter.commands

/-- The adapter after actions that led to these links and events. -/
def afterActions (adapter : SessionAdapter) (links : SessionLinks) (events : List LifecycleEvent) :
    SessionAdapter :=
  { adapter with
    controlPlane := some links.controlPlane
    client := links.controller
    conversation := links.conversation
    sends := links.sends
    texts := links.texts
    commands := links.commands
    pendingEvents := adapter.pendingEvents ++ events }

section

variable [DecimalText]

/-- Tell the control plane of an event and carry out its actions. -/
def handleControlEvent (adapter : SessionAdapter) (event : ControlPlaneEvent) : SessionAdapter :=
  match adapter.controlPlane with
  | none => adapter
  | some plane =>
      let handled := plane.handle event
      let outcome := executeControlPlaneActions handled.2 (adapter.links handled.1)
      adapter.afterActions outcome.1 outcome.2

/-- The Controller is gone: its end of file was read or its descriptor hung up. -/
def loseController (adapter : SessionAdapter) : SessionAdapter :=
  push
    { adapter with
      controlPlane := adapter.controlPlane.map fun plane => (plane.handle .controllerDisconnected).1
      client := none }
    .controllerLost

def controlPlaneResult (result : ProfileChangeResult) : ControlPlaneProfileChangeResult :=
  if result = .applied then .applied else .restoredAfterFailure

/-- One event of the helper. `listens` is whether the control socket can be created. -/
def deliverHelperEvent (listens : Bool) (adapter : SessionAdapter) (event : HelperConversationEvent) :
    SessionAdapter :=
  match event with
  | .ready => adapter.push .conversationLost
  | .activated workloadPid =>
      if listens then
        { adapter.createControlPlane workloadPid with listening := true, activated := true }.push
          (.activated workloadPid)
      else (adapter.createControlPlane workloadPid).push .conversationLost
  | .profileChangeResult result change =>
      adapter.handleControlEvent (.helperProfileChangeResult (controlPlaneResult result) change)
  | .profileStateUnknown => adapter.handleControlEvent .helperProfileStateUnknown
  | .workloadExited result =>
      (adapter.handleControlEvent .workloadTerminal).finishWorkload.push (.workloadExited result)
  | .workloadSignaled signal =>
      (adapter.handleControlEvent .workloadTerminal).finishWorkload.push (.workloadSignaled signal)
  | .activationFailed result => adapter.push (.activationFailed result)
  | .cleanupSucceeded => adapter.push .cleanupSucceeded
  | .cleanupFailed => adapter.push .cleanupFailed
  | .conversationLost => adapter.push .conversationLost

def readHelperEvents (adapter : SessionAdapter) (listens : Bool) (read : SocketRead) : SessionAdapter :=
  match read with
  | .failed => adapter.push .conversationLost
  | .data bytes =>
      let received := adapter.conversation.receiveBytes bytes
      received.2.foldl (deliverHelperEvent listens) (adapter.withConversation received.1)
  | .peerClosed =>
      let received := adapter.conversation.peerClosed
      received.2.foldl (deliverHelperEvent listens) (adapter.withConversation received.1)

def acceptController (adapter : SessionAdapter) (accepts : Bool) : SessionAdapter :=
  if !accepts then adapter.push .conversationLost
  else if adapter.client.isSome then { adapter with connections := adapter.connections + 1 }
  else adapter.connect.handleControlEvent .controllerAttached

/-! The phases of one turn, in their order. -/

def helperPhase (adapter : SessionAdapter) (input : CycleInput) : SessionAdapter :=
  let read :=
    if input.helper.pollin || input.helper.pollhup then
      adapter.readHelperEvents input.listens input.helperRead
    else adapter
  if input.helper.pollerr || input.helper.pollnval then read.push .conversationLost else read

/-- One marker of the signal pipe. -/
def interrupt (adapter : SessionAdapter) : SessionAdapter :=
  (adapter.handleControlEvent .sessionStopping).push .terminalInterrupt

def signalPhase (adapter : SessionAdapter) (input : CycleInput) : SessionAdapter :=
  if input.signal.pollin && !adapter.workloadFinished then interrupt^[input.interrupts] adapter
  else adapter

def acceptPhase (adapter : SessionAdapter) (flags : Readiness) (input : CycleInput) : SessionAdapter :=
  let accepted :=
    if adapter.activated && flags.pollin then
      (adapter.withControllerSends [input.greets]).acceptController input.accepts
    else adapter
  if flags.pollhup || flags.pollerr || flags.pollnval then accepted.push .conversationLost else accepted

/-- The reads from the Controller, and whether the last one gave data. -/
def readController (drainToEof : Bool) (adapter : SessionAdapter) :
    List SocketRead → SessionAdapter × Bool
  | .data bytes :: reads =>
      let received := adapter.handleControlEvent (.controllerBytesReceived bytes)
      if received.client.isSome && drainToEof then readController drainToEof received reads
      else (received, true)
  | _ => (adapter, false)

/-- Whether the Controller is read from in this turn. -/
def reading (adapter : SessionAdapter) (flags : Readiness) : Bool :=
  !adapter.workloadFinished && adapter.client.isSome && flags.pollin

def readPhase (adapter : SessionAdapter) (flags : Readiness) (input : CycleInput) : SessionAdapter :=
  if adapter.reading flags then
    let outcome := readController flags.pollhup adapter input.controllerReads
    if outcome.1.client.isSome && !outcome.2 then outcome.1.loseController else outcome.1
  else adapter

/-- Whether the Controller's descriptor is given up because of its flags. -/
def hangingUp (adapter : SessionAdapter) (flags : Readiness) : Bool :=
  adapter.client.isSome && (flags.pollhup || flags.pollerr || flags.pollnval)

def hangUpPhase (adapter : SessionAdapter) (flags : Readiness) : SessionAdapter :=
  if adapter.hangingUp flags then adapter.loseController else adapter

/-- The Controller's part of a turn, and the connections it acts on: those it reads from or
disconnects. -/
def controllerPhase (adapter : SessionAdapter) (flags : Readiness) (input : CycleInput) :
    SessionAdapter × List Connection :=
  let read := adapter.readPhase flags input
  (read.hangUpPhase flags,
    (if adapter.reading flags then adapter.client.toList else [])
      ++ (if read.hangingUp flags then read.client.toList else []))

/-- `poll` reports nothing about a descriptor that is not there. -/
def polled (there : Bool) (flags : Readiness) : Readiness := if there then flags else {}

/-- One turn of the wait after `poll` has returned, and the connections it acts on. -/
def waitCycle (adapter : SessionAdapter) (input : CycleInput) : SessionAdapter × List Connection :=
  let listeningFlags := polled adapter.listening input.listening
  let controllerFlags := polled adapter.client.isSome input.controller
  let helped := (adapter.withSends input).helperPhase input
  let signaled := helped.signalPhase input
  let accepted := signaled.acceptPhase listeningFlags input
  (accepted.withControllerSends input.commandSends).controllerPhase controllerFlags input

end

/-- The adapter when `begin` has succeeded: the helper is ready, and what else was read of it is
kept. -/
def begun (childArguments : List Bytes) (buffer : Bytes) : SessionAdapter where
  childArguments := childArguments
  conversation := { buffer := buffer, state := .waitingForActivation }

end SessionAdapter

end NetLagLab
