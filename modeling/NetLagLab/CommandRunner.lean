import NetLagLab.CallLoops
import NetLagLab.FirewallTools
import NetLagLab.FixedWidth
import NetLagLab.PipeReading

/-! Running a command: the child that executes it, the pipes to it and the time it is given. A call that a signal
interrupts is made again at once, so that the answers here are those of the call that is not interrupted. -/

namespace NetLagLab.NetworkEnvironment.CommandRunner

open ByteLines CallPrograms CallPrograms.Program FixedWidth PipeReading

/-- A result with its exit code, signal number or errno. -/
structure CommandRun extends CommandResult where
  code : Int := 0
  deriving DecidableEq

/-! ### The child's report -/

inductive ChildFailureKind where
  | execFailure
  | systemFailure
  deriving DecidableEq

/-- What a child writes that does not become the command. -/
structure ChildFailureMessage where
  kind : ChildFailureKind
  errorNumber : UInt32
  deriving DecidableEq

def childFailureSize : Nat := 8

def ChildFailureKind.number : ChildFailureKind → Nat
  | .execFailure => 0
  | .systemFailure => 1

/-- Two integers of the machine. -/
def ChildFailureMessage.bytes (message : ChildFailureMessage) : Bytes :=
  leBytes 4 message.kind.number ++ leBytes 4 message.errorNumber.toNat

/-- The integers that a whole report holds. -/
def receivedKind (bytes : Bytes) : Nat := leValue (bytes.take 4)

def receivedError (bytes : Bytes) : Nat := leValue (bytes.drop 4)

theorem receivedKind_bytes (message : ChildFailureMessage) : receivedKind message.bytes = message.kind.number := by
  have hlength := length_leBytes 4 message.kind.number
  have hnumber : message.kind.number < 256 ^ 4 := by
    cases message.kind <;> decide
  rw [receivedKind, ChildFailureMessage.bytes, List.take_append_of_le_length hlength.ge, List.take_of_length_le hlength.le,
    leValue_leBytes hnumber]

theorem receivedError_bytes (message : ChildFailureMessage) :
    receivedError message.bytes = message.errorNumber.toNat := by
  have hlength := length_leBytes 4 message.kind.number
  have hnumber : message.errorNumber.toNat < 256 ^ 4 := message.errorNumber.toNat_lt
  rw [receivedError, ChildFailureMessage.bytes, List.drop_append_of_le_length hlength.ge, List.drop_of_length_le hlength.le,
    List.nil_append, leValue_leBytes hnumber]

theorem length_bytes (message : ChildFailureMessage) : message.bytes.length = childFailureSize := by
  rw [ChildFailureMessage.bytes, List.length_append, length_leBytes, length_leBytes]
  rfl

/-! ### Calls -/

inductive RunnerStream where
  | standardError
  | standardOutput
  | childFailure
  deriving DecidableEq

/-- A status that `waitpid` reports. -/
inductive WaitStatus where
  | exited (code : Int)
  | signaled (number : Int)
  | other
  deriving DecidableEq

/-- What `waitpid` comes to that does not block. -/
inductive ChildWait where
  | running
  | ended (status : WaitStatus)
  | failed (error : Int)
  deriving DecidableEq

inductive RunnerCall where
  | now
  | makePipe (stream : RunnerStream)
  | makeNonblocking (stream : RunnerStream)
  | fork
  | read (stream : RunnerStream) (size : Nat)
  | tryWait
  | wait
  | kill
  | poll (standardErrorOpen standardOutputOpen childFailureOpen : Bool) (timeout : Int)
  deriving DecidableEq

/-- A call without a result is answered with its error, if there is one. -/
abbrev RunnerAnswer : RunnerCall → Type
  | .now => TimePoint
  | .makePipe _ => Option Int
  | .makeNonblocking _ => Option Int
  | .fork => Option Int
  | .read _ _ => PipeRead UInt8
  | .tryWait => ChildWait
  | .wait => Except Int WaitStatus
  | .kill => Option Int
  | .poll _ _ _ _ => Option Int

abbrev RunnerProgram := Program RunnerCall RunnerAnswer

/-- One call. -/
abbrev ask (request : RunnerCall) : RunnerProgram (RunnerAnswer request) := perform request

/-! ### Draining the pipes -/

def maximumDiagnosticSize : Nat := 4096

/-- What has been read so far. -/
structure RunnerState where
  standardError : Capture UInt8 := {}
  standardOutput : Capture UInt8
  childFailure : Capture UInt8 := {}
  deriving DecidableEq

namespace RunnerState

def capture (state : RunnerState) : RunnerStream → Capture UInt8
  | .standardError => state.standardError
  | .standardOutput => state.standardOutput
  | .childFailure => state.childFailure

def withCapture (state : RunnerState) (stream : RunnerStream) (capture : Capture UInt8) : RunnerState :=
  match stream with
  | .standardError => { state with standardError := capture }
  | .standardOutput => { state with standardOutput := capture }
  | .childFailure => { state with childFailure := capture }

end RunnerState

/-- How a loop over reads ends: with what it has read, and with an error where a read fails. -/
abbrev DrainResult := RunnerState × Option Int

/-- One read of `drain_output`, with the reads before it. -/
def drainOutputRead (stream : RunnerStream) (captureLimit : Nat) (drainCompletely : Bool) (current : RunnerState × Nat) :
    RunnerProgram (RunnerState × Nat ⊕ DrainResult) := do
  let (state, reads) := current
  let capture := state.capture stream
  if !capture.pipeOpen then return .inr (state, none)
  match ← ask (.read stream 1024) with
  | .data bytes =>
      let kept := state.withCapture stream (capture.keep captureLimit bytes)
      if !drainCompletely && reads + 1 == 16 then return .inr (kept, none)
      return .inl (kept, reads + 1)
  | .ended => return .inr (state.withCapture stream { capture with pipeOpen := false }, none)
  | .nothing => return .inr (state, none)
  | .failed error => return .inr (state, some error)

def drainOutput (turns : Nat) (stream : RunnerStream) (captureLimit : Nat) (drainCompletely : Bool)
    (state : RunnerState) : RunnerProgram (Option DrainResult) :=
  loop (drainOutputRead stream captureLimit drainCompletely) turns (state, 0)

/-- One read of `drain_child_failure`. -/
def drainChildFailureRead (state : RunnerState) : RunnerProgram (RunnerState ⊕ DrainResult) := do
  let capture := state.childFailure
  if !capture.pipeOpen || childFailureSize ≤ capture.captured.length then return .inr (state, none)
  match ← ask (.read .childFailure (childFailureSize - capture.captured.length)) with
  | .data bytes => return .inl { state with childFailure := capture.keep childFailureSize bytes }
  | .ended => return .inr ({ state with childFailure := { capture with pipeOpen := false } }, none)
  | .nothing => return .inr (state, none)
  | .failed error => return .inr (state, some error)

def drainChildFailure (turns : Nat) (state : RunnerState) : RunnerProgram (Option DrainResult) :=
  loop drainChildFailureRead turns state

/-- The reads go on with the next pipe unless one has failed. -/
def andThen (first : RunnerProgram (Option DrainResult)) (next : RunnerState → RunnerProgram (Option DrainResult)) :
    RunnerProgram (Option DrainResult) := do
  match ← first with
  | some (state, none) => next state
  | ended => return ended

/-- The three pipes in their order; a pipe that is not open is not read. -/
def drainPipes (turns maximumStdoutSize : Nat) (drainCompletely : Bool) (state : RunnerState) :
    RunnerProgram (Option DrainResult) :=
  andThen (drainOutput turns .standardError maximumDiagnosticSize drainCompletely state) fun state =>
    andThen (drainOutput turns .standardOutput maximumStdoutSize drainCompletely state) fun state =>
      drainChildFailure turns state

/-! ### The end of the child -/

def esrch : Int := 3

def eio : Int := 5

def echild : Int := 10

/-- The child is killed and waited for, with the first error. -/
def terminateAndReap : RunnerProgram (Option Int) := do
  let killed ← ask .kill
  let errorNumber := if killed = some esrch then none else killed
  match ← ask .wait with
  | .ok _ => return errorNumber
  | .error error => return errorNumber.orElse fun _ => some error

def millisecond : TimePoint := 10 ^ 6

/-- `poll_timeout`: the milliseconds that are left, rounded up. -/
def pollTimeout (deadline : TimePoint) : RunnerProgram Int := do
  let remaining := deadline - (← ask .now)
  if remaining ≤ 0 then return 0
  let milliseconds := (remaining + millisecond - 1) / millisecond
  return if 2 ^ 31 - 1 < milliseconds then 2 ^ 31 - 1 else milliseconds

namespace RunnerState

/-- A result that carries what was read of the diagnostics. -/
def result (state : RunnerState) (kind : CommandResultKind) (code : Int) : CommandRun where
  kind := kind
  standardError := state.standardError.captured
  code := code

end RunnerState

/-- How the loop is left: with a result, or with the status of the child that was waited for. -/
abbrev RunnerExit := Option (CommandRun ⊕ RunnerState × WaitStatus)

/-- The child is ended because a call has failed. -/
def abortRun (state : RunnerState) (error : Int) : RunnerProgram (RunnerState ⊕ RunnerExit) := do
  let _ ← terminateAndReap
  return .inr (some (.inl (state.result .systemFailure error)))

/-- What an ended child has left in the pipes is read, whether a read fails or not. -/
def drainExpired (turns maximumStdoutSize : Nat) (terminationError : Option Int) (state : RunnerState) :
    RunnerProgram (RunnerState ⊕ RunnerExit) := do
  match ← drainOutput turns .standardError maximumDiagnosticSize true state with
  | none => return .inr none
  | some (state, _) =>
      match ← drainOutput turns .standardOutput maximumStdoutSize true state with
      | none => return .inr none
      | some (state, _) =>
          match terminationError with
          | some error => return .inr (some (.inl (state.result .systemFailure error)))
          | none => return .inr (some (.inl (state.result .timeout 0)))

/-- The time is up. -/
def expireRun (turns maximumStdoutSize : Nat) (state : RunnerState) : RunnerProgram (RunnerState ⊕ RunnerExit) := do
  drainExpired turns maximumStdoutSize (← terminateAndReap) state

/-- The end of a turn: the open pipes are polled for the time that is left. -/
def pollPipes (deadline : TimePoint) (state : RunnerState) : RunnerProgram (RunnerState ⊕ RunnerExit) := do
  let remaining ← pollTimeout deadline
  let closed := !state.standardError.pipeOpen && !state.standardOutput.pipeOpen && !state.childFailure.pipeOpen
  let timeout := if closed then min remaining 1 else remaining
  match ← ask (.poll state.standardError.pipeOpen state.standardOutput.pipeOpen state.childFailure.pipeOpen timeout) with
  | some error => abortRun state error
  | none => return .inl state

/-- A turn of the loop of `run_command_impl`. -/
def runnerTurn (turns maximumStdoutSize : Nat) (deadline : TimePoint) (state : RunnerState) :
    RunnerProgram (RunnerState ⊕ RunnerExit) := do
  match ← drainPipes turns maximumStdoutSize false state with
  | none => return .inr none
  | some (state, some error) => abortRun state error
  | some (state, none) =>
      match ← ask .tryWait with
      | .ended status => return .inr (some (.inr (state, status)))
      | .failed error => return .inr (some (.inl (state.result .systemFailure error)))
      | .running =>
          if deadline ≤ (← ask .now) then expireRun turns maximumStdoutSize state
          else pollPipes deadline state

/-- The result behind a status, when all is read. -/
def RunnerState.conclude (state : RunnerState) (status : WaitStatus) : CommandRun :=
  let report := state.childFailure.captured
  if report ≠ [] then
    if report.length ≠ childFailureSize then state.result .systemFailure eio
    else if receivedKind report = ChildFailureKind.execFailure.number then state.result .execFailure (receivedError report)
    else state.result .systemFailure (receivedError report)
  else
    match status with
    | .signaled number => state.result .signal number
    | .other => state.result .systemFailure echild
    | .exited code =>
        { state.result (if code = 0 then .success else .nonzeroExit) code with
          standardOutput := state.standardOutput.captured }

def finishRun (turns maximumStdoutSize : Nat) (state : RunnerState) (status : WaitStatus) :
    RunnerProgram (Option CommandRun) := do
  match ← drainPipes turns maximumStdoutSize true state with
  | none => return none
  | some (state, some error) => return some (state.result .systemFailure error)
  | some (state, none) => return some (state.conclude status)

/-! ### The command -/

/-- What is returned before there is a child. -/
def withoutChild (kind : CommandResultKind) (error : Int) : CommandRun := { kind := kind, code := error }

/-- The pipes are made in their order until one fails. -/
def makePipes : List RunnerStream → RunnerProgram (Option Int)
  | [] => return none
  | stream :: streams => do
      match ← ask (.makePipe stream) with
      | some error => return some error
      | none => makePipes streams

def makeNonblocking : List RunnerStream → RunnerProgram (Option Int)
  | [] => return none
  | stream :: streams => do
      match ← ask (.makeNonblocking stream) with
      | some error => return some error
      | none => makeNonblocking streams

/-- The pipes that are made. -/
def runnerStreams (captureStdout : Bool) : List RunnerStream :=
  if captureStdout then [.standardError, .standardOutput, .childFailure] else [.standardError, .childFailure]

/-- The child is there: it is waited for until its time is up. -/
def superviseChild (turns : Nat) (deadline : TimePoint) (captureStdout : Bool) (maximumStdoutSize : Nat) :
    RunnerProgram (Option CommandRun) := do
  let state : RunnerState := { standardOutput := { pipeOpen := captureStdout } }
  match ← loop (runnerTurn turns maximumStdoutSize deadline) turns state with
  | none => return none
  | some none => return none
  | some (some (.inl run)) => return some run
  | some (some (.inr (state, status))) => finishRun turns maximumStdoutSize state status

/-- `run_command_impl`, but for the vectors of arguments and what the child does before it executes the command. -/
def runCommandImpl (turns : Nat) (deadline : TimePoint) (captureStdout : Bool) (maximumStdoutSize : Nat) :
    RunnerProgram (Option CommandRun) := do
  if deadline ≤ (← ask .now) then return some (withoutChild .timeout 0)
  match ← makePipes (runnerStreams captureStdout) with
  | some error => return some (withoutChild .systemFailure error)
  | none =>
      match ← makeNonblocking (runnerStreams captureStdout) with
      | some error => return some (withoutChild .systemFailure error)
      | none =>
          if deadline ≤ (← ask .now) then return some (withoutChild .timeout 0)
          match ← ask .fork with
          | some error => return some (withoutChild .systemFailure error)
          | none => superviseChild turns deadline captureStdout maximumStdoutSize

/-- `run_command`: a run in a network namespace differs from it in what the child does before the command. -/
def runCommand (turns : Nat) (deadline : TimePoint) : RunnerProgram (Option CommandRun) :=
  runCommandImpl turns deadline false maximumDiagnosticSize

def runCommandCapturingStdout (turns : Nat) (deadline : TimePoint) (maximumStdoutSize : Nat) :
    RunnerProgram (Option CommandRun) :=
  runCommandImpl turns deadline true maximumStdoutSize

end NetLagLab.NetworkEnvironment.CommandRunner
