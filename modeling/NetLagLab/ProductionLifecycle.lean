import NetLagLab.SessionInvariant
import NetLagLab.SessionOutcomeBlock

/-! The adapter that a real Session runs with: how it begins, waits with a deadline and ends. The clock, the
results of `poll` and of the sends, and what is read are inputs; every wait is recorded with the readings of
the clock on its way. -/

namespace NetLagLab

open ByteLines CallPrograms

/-! Readings of the steady clock are in nanoseconds. -/

def nanosecondsPerMillisecond : Int := 1000000

/-- Five seconds. -/
def gracePeriod : Int := 5000 * nanosecondsPerMillisecond

inductive PollResult where
  | timedOut
  | failed
  | ready (input : CycleInput)
  deriving DecidableEq

/-- One iteration of the wait: the clock when it begins, what `poll` gives, and the clock then. -/
structure WaitTurn where
  now : Int
  result : PollResult
  returned : Int
  deriving DecidableEq

structure WaitRecord where
  mode : LifecycleWait
  /-- The clock when the wait turns to its descriptors; it does not while an event is queued. -/
  entered : Option Int := none
  /-- The deadline of the iterations. -/
  deadline : Option Int := none
  turns : List WaitTurn := []
  event : LifecycleEvent
  deriving DecidableEq

structure ProductionLifecycleAdapter where
  session : SessionAdapter
  deadline : Option Int := none
  waits : List WaitRecord := []
  deriving DecidableEq

namespace ProductionLifecycleAdapter

def withSession (adapter : ProductionLifecycleAdapter) (session : SessionAdapter) : ProductionLifecycleAdapter :=
  { adapter with session := session }

def withDeadline (adapter : ProductionLifecycleAdapter) (deadline : Option Int) : ProductionLifecycleAdapter :=
  { adapter with deadline := deadline }

/-- The adapter before `begin`. -/
def initial (childArguments : List Bytes) : ProductionLifecycleAdapter where
  session := { childArguments := childArguments }

/-! ### Begin -/

/-- The conversation and the events after a read. -/
def receive (conversation : SupervisorHelperConversation) :
    SocketRead → Option (SupervisorHelperConversation × List HelperConversationEvent)
  | .data bytes => some (conversation.receiveBytes bytes)
  | .peerClosed => some conversation.peerClosed
  | .failed => none

/-- Read until there are events, which have to be `READY` alone. Without a result it is still reading. -/
def awaitReady : SupervisorHelperConversation → List SocketRead → Option (Bool × SupervisorHelperConversation)
  | _, [] => none
  | conversation, read :: reads =>
      match receive conversation read with
      | none => some (false, conversation)
      | some (next, []) => awaitReady next reads
      | some (next, events) => some (decide (events = [.ready]), next)

/-- `transfers` and `starts` are whether the standard descriptors and the start block are sent. -/
def begin (adapter : ProductionLifecycleAdapter) (reads : List SocketRead) (transfers starts : Bool) :
    Option (Bool × ProductionLifecycleAdapter) :=
  (awaitReady adapter.session.conversation reads).map fun (ready, conversation) =>
    (ready && transfers && starts, adapter.withSession (adapter.session.withConversation conversation))

/-! ### Wait -/

/-- The time left in whole milliseconds, rounded towards zero. -/
def remaining (deadline : Option Int) (now : Int) : Option Int :=
  deadline.map fun deadline => (deadline - now).tdiv nanosecondsPerMillisecond

def expired (deadline : Option Int) (now : Int) : Bool :=
  (remaining deadline now).any fun milliseconds => decide (milliseconds ≤ 0)

def takePendingEvent (adapter : ProductionLifecycleAdapter) :
    ProductionLifecycleAdapter × Option LifecycleEvent :=
  match adapter.session.pendingEvents with
  | [] => (adapter, none)
  | event :: events => (adapter.withSession { adapter.session with pendingEvents := events }, some event)

/-- The deadline that a wait without queued events goes on with. -/
def enterWait (adapter : ProductionLifecycleAdapter) (mode : LifecycleWait) (now : Int) :
    ProductionLifecycleAdapter :=
  adapter.withDeadline <|
    match mode with
    | .indefinitely => none
    | .fiveSeconds => some (adapter.deadline.getD (now + gracePeriod))

section

variable [DecimalText]

/-- One iteration, with the event it returns unless the wait goes on. -/
def waitTurn (adapter : ProductionLifecycleAdapter) (turn : WaitTurn) :
    ProductionLifecycleAdapter × Option LifecycleEvent :=
  if expired adapter.deadline turn.now = true then (adapter.withDeadline none, some .deadlineExpired)
  else
    match turn.result with
    | .timedOut => (adapter.withDeadline none, some .deadlineExpired)
    | .failed => (adapter, some .conversationLost)
    | .ready input => (adapter.withSession (adapter.session.waitCycle input).1).takePendingEvent

/-- `poll` gives up only with a timeout, and not before it has passed. -/
def Possible (deadline : Option Int) (turn : WaitTurn) : Prop :=
  turn.result = .timedOut → ∃ milliseconds, remaining deadline turn.now = some milliseconds ∧
    turn.now + milliseconds * nanosecondsPerMillisecond ≤ turn.returned

/-- The iterations of a wait up to the event it returns. -/
inductive Polls : ProductionLifecycleAdapter → List WaitTurn → LifecycleEvent → ProductionLifecycleAdapter → Prop
  | last {adapter after : ProductionLifecycleAdapter} {turn : WaitTurn} {event : LifecycleEvent}
      (possible : Possible adapter.deadline turn) (returns : adapter.waitTurn turn = (after, some event)) :
      Polls adapter [turn] event after
  | more {adapter middle after : ProductionLifecycleAdapter} {turn : WaitTurn} {turns : List WaitTurn}
      {event : LifecycleEvent} (possible : Possible adapter.deadline turn)
      (continues : adapter.waitTurn turn = (middle, none)) (rest : Polls middle turns event after) :
      Polls adapter (turn :: turns) event after

end

def record (adapter : ProductionLifecycleAdapter) (wait : WaitRecord) : ProductionLifecycleAdapter :=
  { adapter with waits := adapter.waits ++ [wait] }

/-- A whole wait. -/
inductive Waits [DecimalText] (adapter : ProductionLifecycleAdapter) (mode : LifecycleWait) :
    LifecycleEvent → ProductionLifecycleAdapter → Prop
  | queued {event : LifecycleEvent} {events : List LifecycleEvent}
      (pending : adapter.session.pendingEvents = event :: events) :
      Waits adapter mode event
        ((adapter.withSession { adapter.session with pendingEvents := events }).record ⟨mode, none, none, [], event⟩)
  | polled (now : Int) {turns : List WaitTurn} {event : LifecycleEvent} {after : ProductionLifecycleAdapter}
      (pending : adapter.session.pendingEvents = []) (polls : Polls (adapter.enterWait mode now) turns event after) :
      Waits adapter mode event (after.record ⟨mode, some now, (adapter.enterWait mode now).deadline, turns, event⟩)

/-! ### Stop and end -/

def stopCommand : StopRequest → HelperRuntimeCommand
  | .terminate => .stopTerminate
  | .kill => .stopKill

def requestStop (adapter : ProductionLifecycleAdapter) (request : StopRequest) (sent : Bool) :
    ProductionLifecycleAdapter :=
  if sent = true then
    adapter.withSession { adapter.session with commands := adapter.session.commands ++ [stopCommand request] }
  else adapter

def finalize (adapter : ProductionLifecycleAdapter) : ProductionLifecycleAdapter :=
  adapter.withSession { adapter.session with listening := false }

/-- The outcome goes to the Controller that is connected, if it can be written at all. -/
def publishOutcome (adapter : ProductionLifecycleAdapter) (outcome : SessionOutcome) (sent : Bool) :
    ProductionLifecycleAdapter :=
  let texts :=
    match adapter.session.client, serializeControllerSessionOutcome outcome with
    | some connection, .ok block => if sent = true then [(connection, block)] else []
    | _, _ => []
  adapter.withSession { adapter.session with
    texts := adapter.session.texts ++ texts
    client := none
    controlPlane := none }

/-- How the adapter answers the calls of the lifecycle. -/
def production [DecimalText] : Environment LifecycleCall LifecycleAnswer ProductionLifecycleAdapter
  | adapter, .begin, succeeded, after => ∃ reads transfers starts,
      adapter.begin reads transfers starts = some (succeeded, after)
  | adapter, .wait mode, event, after => adapter.Waits mode event after
  | adapter, .requestStop request, succeeded, after => after = adapter.requestStop request succeeded
  | adapter, .reapLauncher, _, after => after = adapter
  | adapter, .finalize, _, after => after = adapter.finalize
  | adapter, .publishOutcome outcome, _, after => ∃ sent, after = adapter.publishOutcome outcome sent

end ProductionLifecycleAdapter

end NetLagLab
