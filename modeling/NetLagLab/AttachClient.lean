import NetLagLab.ControlPlane
import NetLagLab.OutcomeBlockCodec

/-! The attach client and the responses of the Session. Lines are handled in turn, inside a help, inside a status or
outside of both, up to the one that begins the block of the outcome; from there on every read goes to the parser of
that block. -/

namespace NetLagLab

open ByteLines ControllerSessionOutcome

/-! ### What the client reports -/

inductive ClientReport where
  | output (text : Bytes)
  | error (text : Bytes)
  deriving DecidableEq

def invalidResponseText : Bytes := ascii "NetLagLab: invalid response from session\n"

def responseTooLongText : Bytes := ascii "NetLagLab: response from session exceeds 8 KiB\n"

def connectionLostText : Bytes := ascii "NetLagLab: connection to session lost; session result is unknown.\n"

def readFailedText (reason : Bytes) : Bytes :=
  ascii "NetLagLab: failed to read from session: " ++ reason ++ [newline]

def invalidSessionOutcomeText : Bytes := ascii "NetLagLab: invalid Session Outcome.\n"

def infrastructureFailureName : InfrastructureFailure → Bytes
  | .start => ascii "startup"
  | .conversation => ascii "helper conversation"
  | .profileState => ascii "unknown network profile state"
  | .stopRequest => ascii "Workload stop request"
  | .cleanup => ascii "privileged cleanup"
  | .launcherReaping => ascii "helper launcher reaping"
  | .supervisorCleanup => ascii "Supervisor cleanup"
  | .invalidEvent => ascii "invalid lifecycle event"

/-- How the report of a failed infrastructure ends. -/
def failedWorkloadText : Option WorkloadResult → Bytes
  | none => ascii "; Workload result is unknown.\n"
  | some ⟨.signaled, value⟩ => ascii "; Workload terminated by signal " ++ decimalTextInt value ++ ascii ".\n"
  | some ⟨_, value⟩ => ascii "; Workload exit code: " ++ decimalTextInt value ++ ascii ".\n"

def infrastructureFailedText (outcome : SessionOutcome) : Bytes :=
  ascii "NetLagLab: Session infrastructure failed: "
    ++ (ascii ", ").intercalate (outcome.infrastructureFailures.map infrastructureFailureName)
    ++ failedWorkloadText outcome.workload

/-- The report on an outcome, and the exit status. -/
def reportAttachedSessionOutcome (outcome : SessionOutcome) : ClientReport × Nat :=
  if outcome.infrastructureSucceeded = true then
    match outcome.workload with
    | none => (.error invalidSessionOutcomeText, 1)
    | some ⟨.exited, value⟩ =>
        (.output (ascii "Session ended; Workload exit code: " ++ decimalTextInt value ++ ascii ".\n"), 0)
    | some ⟨_, value⟩ =>
        (.output (ascii "Session ended; Workload terminated by signal " ++ decimalTextInt value ++ ascii ".\n"), 0)
  else (.error (infrastructureFailedText outcome), 1)

def reportLegacyAttachedSessionOutcome (line : Bytes) : Option (ClientReport × Nat) :=
  if line = ascii "SESSION_ENDED" then some (.output (ascii "Session ended.\n"), 0)
  else if line = ascii "SESSION_FAILED" then some (.error (ascii "NetLagLab: session failed\n"), 1)
  else none

/-! ### Lines -/

inductive ResponseBlock where
  | none
  | help
  | status
  deriving DecidableEq

/-- What a line leads to: the block behind it, its reports, and the exit status of a line that ends the client. -/
structure LineResult where
  block : ResponseBlock
  reports : List ClientReport := []
  status : Option Nat := none
  deriving DecidableEq

def errorPrefix : Bytes := ascii "ERROR "

def alreadyAttachedMessage : Bytes := ascii "Another controller is already attached."

/-- A line outside of the blocks. -/
def handleSingleLine (line : Bytes) : LineResult :=
  if line = ascii "ATTACHED" then { block := .none }
  else if line = ascii "PROFILE_CHANGED" then
    { block := .none, reports := [.output (ascii "Profile change applied.\n")] }
  else if line = ascii "HELP_BEGIN" then { block := .help }
  else if line = ascii "STATUS_BEGIN" then { block := .status }
  else if line = ascii "DETACHED" then { block := .none, status := some 0 }
  else if line = ascii "STOPPING" then { block := .none, reports := [.output (ascii "Stopping Workload.\n")] }
  else
    match reportLegacyAttachedSessionOutcome line with
    | some legacy => { block := .none, reports := [legacy.1], status := some legacy.2 }
    | none =>
        if errorPrefix.isPrefixOf line then
          let message := line.drop errorPrefix.length
          { block := .none
            reports := [.error (message ++ [newline])]
            status := if message = alreadyAttachedMessage then some 1 else none }
        else { block := .none, reports := [.error invalidResponseText], status := some 1 }

def handleSupervisorResponseLine (line : Bytes) : ResponseBlock → LineResult
  | .help =>
      if line = ascii "HELP_END" then { block := .none }
      else { block := .help, reports := [.output (line ++ [newline])] }
  | .status =>
      if line = ascii "STATUS_END" then { block := .none }
      else { block := .status, reports := [.output (line ++ [newline])] }
  | .none => handleSingleLine line

/-! ### Reads -/

structure AttachClient where
  responseBuffer : Bytes := []
  responseBlock : ResponseBlock := .none
  sessionOutcomeParser : Option ControllerSessionOutcomeParser := none
  deriving DecidableEq

/-- What a read leads to. -/
structure ReadResult where
  client : AttachClient
  reports : List ClientReport := []
  status : Option Nat := none
  deriving DecidableEq

/-- The bytes that a read of the connection brings, or why it brings none. -/
inductive ResponseRead where
  | data (bytes : Bytes)
  | peerClosed
  | failed (reason : Bytes)
  deriving DecidableEq

def handleSessionOutcomeResult (client : AttachClient) : ControllerSessionOutcomeParseResult → ReadResult
  | .incomplete => { client }
  | .outcome outcome =>
      let reported := reportAttachedSessionOutcome outcome
      { client, reports := [reported.1], status := some reported.2 }
  | .error _ => { client, reports := [.error invalidResponseText], status := some 1 }

/-- The complete lines of the buffer and its unfinished one. The line that begins an outcome goes to a new parser, and
so does the rest of the buffer. -/
def handleResponseLines (unfinished : Bytes) : ResponseBlock → List Bytes → ReadResult
  | block, [] =>
      let client : AttachClient := { responseBuffer := unfinished, responseBlock := block }
      if maximumStatusSize < unfinished.length then
        { client, reports := [.error responseTooLongText], status := some 1 }
      else { client }
  | block, line :: lines =>
      let buffer := encodeLines lines ++ unfinished
      if line = beginMarker then
        let begun := ControllerSessionOutcomeParser.receive {} (beginMarker ++ [newline])
        let received := if buffer = [] then begun else begun.1.receive buffer
        handleSessionOutcomeResult { responseBlock := block, sessionOutcomeParser := some received.1 } received.2
      else
        let handled := handleSupervisorResponseLine line block
        match handled.status with
        | some status =>
            { client := { responseBuffer := buffer, responseBlock := handled.block }
              reports := handled.reports
              status := some status }
        | none =>
            let rest := handleResponseLines unfinished handled.block lines
            { rest with reports := handled.reports ++ rest.reports }

namespace AttachClient

def readAndHandleSupervisorResponses (client : AttachClient) : ResponseRead → ReadResult
  | .peerClosed => { client, reports := [.error connectionLostText], status := some 1 }
  | .failed reason => { client, reports := [.error (readFailedText reason)], status := some 1 }
  | .data bytes =>
      let buffer := client.responseBuffer ++ bytes
      match client.sessionOutcomeParser with
      | some parser =>
          let received := parser.receive buffer
          handleSessionOutcomeResult
            { client with responseBuffer := [], sessionOutcomeParser := some received.1 } received.2
      | none => handleResponseLines (splitLines buffer).2 client.responseBlock (splitLines buffer).1

/-- What reads in turn lead to. -/
structure Conversation where
  reports : List ClientReport := []
  status : Option Nat := none
  unread : List ResponseRead := []
  deriving DecidableEq

/-- Reads in turn, up to the one that ends the client. -/
def readResponses : AttachClient → List ResponseRead → Conversation
  | _, [] => {}
  | client, read :: reads =>
      let handled := client.readAndHandleSupervisorResponses read
      match handled.status with
      | some status => { reports := handled.reports, status := some status, unread := reads }
      | none =>
          let rest := handled.client.readResponses reads
          { rest with reports := handled.reports ++ rest.reports }

end AttachClient

end NetLagLab
