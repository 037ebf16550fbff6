import NetLagLab.CallLoops

/-! The life of a Session: the Supervisor waits for events, asks for stops, and at the end reaps the
launcher, cleans up and publishes the outcome. All of this happens through the calls of an adapter. -/

namespace NetLagLab

open CallPrograms CallPrograms.Program

inductive WorkloadResultKind where
  | startFailure
  | exited
  | signaled
  deriving DecidableEq

structure WorkloadResult where
  kind : WorkloadResultKind
  value : Int
  deriving DecidableEq

inductive InfrastructureFailure where
  | start
  | conversation
  | profileState
  | stopRequest
  | cleanup
  | launcherReaping
  | supervisorCleanup
  | invalidEvent
  deriving DecidableEq

structure SessionOutcome where
  workload : Option WorkloadResult := none
  infrastructureFailures : List InfrastructureFailure := []
  deriving DecidableEq

namespace SessionOutcome

def infrastructureSucceeded (outcome : SessionOutcome) : Bool := outcome.infrastructureFailures.isEmpty

def fail (outcome : SessionOutcome) (failure : InfrastructureFailure) : SessionOutcome :=
  { outcome with infrastructureFailures := outcome.infrastructureFailures ++ [failure] }

@[simp] theorem workload_fail (outcome : SessionOutcome) (failure : InfrastructureFailure) :
    (outcome.fail failure).workload = outcome.workload := rfl

@[simp] theorem infrastructureFailures_fail (outcome : SessionOutcome) (failure : InfrastructureFailure) :
    (outcome.fail failure).infrastructureFailures = outcome.infrastructureFailures ++ [failure] := rfl

@[simp] theorem infrastructureSucceeded_fail (outcome : SessionOutcome) (failure : InfrastructureFailure) :
    (outcome.fail failure).infrastructureSucceeded = false := by
  simp [infrastructureSucceeded]

end SessionOutcome

inductive LifecycleEvent where
  | activated (value : Int)
  | activationFailed (value : Int)
  | workloadExited (value : Int)
  | workloadSignaled (value : Int)
  | cleanupSucceeded
  | cleanupFailed
  | conversationLost
  | profileStateUnknown
  | controllerLost
  | terminalInterrupt
  | stopRequested
  | deadlineExpired
  deriving DecidableEq

inductive LifecycleWait where
  | indefinitely
  | fiveSeconds
  deriving DecidableEq

inductive StopRequest where
  | terminate
  | kill
  deriving DecidableEq

/-! ### The adapter's calls -/

inductive LifecycleCall where
  | begin
  | wait (mode : LifecycleWait)
  | requestStop (request : StopRequest)
  | reapLauncher
  | finalize
  | publishOutcome (outcome : SessionOutcome)
  deriving DecidableEq

abbrev LifecycleAnswer : LifecycleCall → Type
  | .begin => Bool
  | .wait _ => LifecycleEvent
  | .requestStop _ => Bool
  | .reapLauncher => Bool
  | .finalize => Bool
  | .publishOutcome _ => Unit

abbrev LifecycleProgram (α : Type) := Program LifecycleCall LifecycleAnswer α

/-- One call. -/
abbrev callAdapter (request : LifecycleCall) : LifecycleProgram (LifecycleAnswer request) := perform request

/-! ### The loop -/

inductive LifecycleState where
  | waitingForActivation
  | active
  | waitingForCleanup
  deriving DecidableEq

inductive StopStage where
  | none
  | interruptGrace
  | terminateGrace
  | killRequested
  deriving DecidableEq

/-- A grace period runs. -/
def StopStage.isGrace : StopStage → Bool
  | .interruptGrace | .terminateGrace => true
  | .none | .killRequested => false

structure LifecycleLoop where
  state : LifecycleState := .waitingForActivation
  stopStage : StopStage := .none
  outcome : SessionOutcome := {}
  deriving DecidableEq

namespace LifecycleLoop

def fail (current : LifecycleLoop) (failure : InfrastructureFailure) : LifecycleLoop :=
  { current with outcome := current.outcome.fail failure }

def again (next : LifecycleLoop) : LifecycleProgram (LifecycleLoop ⊕ SessionOutcome) := .done (.inl next)

def leave (outcome : SessionOutcome) : LifecycleProgram (LifecycleLoop ⊕ SessionOutcome) := .done (.inr outcome)

/-- Ask for a stop and go on to the stage. -/
def escalate (current : LifecycleLoop) (request : StopRequest) (stage : StopStage) :
    LifecycleProgram (LifecycleLoop ⊕ SessionOutcome) :=
  .call (.requestStop request) fun succeeded =>
    if succeeded = true then again { current with stopStage := stage }
    else leave (current.outcome.fail .stopRequest)

/-- The Workload has ended. -/
def workloadEnded (current : LifecycleLoop) (result : WorkloadResult) : LifecycleLoop :=
  { current with state := .waitingForCleanup, stopStage := .none, outcome.workload := some result }

def handle (current : LifecycleLoop) (event : LifecycleEvent) :
    LifecycleProgram (LifecycleLoop ⊕ SessionOutcome) :=
  match event, current.state with
  | .controllerLost, _ => again current
  | .terminalInterrupt, .waitingForCleanup => again current
  | .stopRequested, .waitingForCleanup => again current
  | .conversationLost, _ => leave (current.outcome.fail .conversation)
  | .cleanupFailed, _ => leave (current.outcome.fail .cleanup)
  | .activated _, .waitingForActivation => again { current with state := .active }
  | .activationFailed value, .waitingForActivation =>
      if value = 126 ∨ value = 127 then
        again { current with state := .waitingForCleanup, outcome.workload := some ⟨.startFailure, value⟩ }
      else again { current.fail .start with state := .waitingForCleanup }
  | .profileStateUnknown, .active =>
      if current.stopStage = .none then (current.fail .profileState).escalate .terminate .terminateGrace
      else again (current.fail .profileState)
  | .terminalInterrupt, .active =>
      if current.stopStage = .none then again { current with stopStage := .interruptGrace }
      else if current.stopStage = .killRequested then again current
      else current.escalate .kill .killRequested
  | .stopRequested, .active =>
      if current.stopStage = .none then current.escalate .terminate .terminateGrace else again current
  | .deadlineExpired, .active =>
      if current.stopStage = .interruptGrace then current.escalate .terminate .terminateGrace
      else if current.stopStage = .terminateGrace then current.escalate .kill .killRequested
      else leave (current.outcome.fail .invalidEvent)
  | .workloadExited value, .active => again (current.workloadEnded ⟨.exited, value⟩)
  | .workloadSignaled value, .active => again (current.workloadEnded ⟨.signaled, value⟩)
  | .cleanupSucceeded, .waitingForCleanup => leave current.outcome
  | _, _ => leave (current.outcome.fail .invalidEvent)

def waitMode (current : LifecycleLoop) : LifecycleWait :=
  if current.stopStage.isGrace = true then .fiveSeconds else .indefinitely

/-- One turn of the loop. -/
def round (current : LifecycleLoop) : LifecycleProgram (LifecycleLoop ⊕ SessionOutcome) :=
  .call (.wait current.waitMode) current.handle

end LifecycleLoop

/-- Reaping, cleanup and publication. -/
def concludeSession (outcome : SessionOutcome) : LifecycleProgram SessionOutcome := do
  let reaped ← callAdapter .reapLauncher
  let outcome := if reaped = true then outcome else outcome.fail .launcherReaping
  let finalized ← callAdapter .finalize
  let outcome := if finalized = true then outcome else outcome.fail .supervisorCleanup
  let _ ← callAdapter (.publishOutcome outcome)
  return outcome

/-- The Session with at most so many turns of its loop; without an outcome where the loop goes on. -/
def runSessionLifecycle (rounds : Nat) : LifecycleProgram (Option SessionOutcome) := do
  let began ← callAdapter .begin
  if began = true then
    match ← loop LifecycleLoop.round rounds {} with
    | none => return none
    | some outcome => return some (← concludeSession outcome)
  else return some (← concludeSession (SessionOutcome.fail {} .start))

/-! ### The exit status -/

end NetLagLab
