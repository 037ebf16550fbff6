import NetLagLab.HelperCommands

/-! The helper's side of the conversation while the Workload runs: the commands it takes out of the
Supervisor's stream, and the replies it owes to Profile Changes. -/

namespace NetLagLab

open ByteLines

inductive ProfileChangeCompletion where
  | applied
  | restoredAfterFailure
  | stateUnknown
  deriving DecidableEq

structure RuntimeCommandFeedResult where
  valid : Bool
  commands : List HelperRuntimeCommand
  response : Option Bytes
  deriving DecidableEq

structure HelperRuntimeConversation where
  buffer : Bytes := []
  pendingProfileChange : Option ProfileChange := none
  valid : Bool := true
  workloadFinished : Bool := false
  stopping : Bool := false
  profileStateUnknown : Bool := false
  deriving DecidableEq

namespace HelperRuntimeConversation

/-- The conversation after a command it cannot accept. -/
def invalidate (conversation : HelperRuntimeConversation) : HelperRuntimeConversation :=
  { conversation with valid := false, buffer := [] }

section

variable [DecimalText]

/-- One complete line: nothing when it is not acceptable, else the command it delivers, if any. A
change that follows an unknown profile state is passed over. -/
def receiveLine (conversation : HelperRuntimeConversation) (line : Bytes) :
    Option (HelperRuntimeConversation × List HelperRuntimeCommand) :=
  match parseHelperRuntimeCommand line with
  | none => none
  | some (.profileChange change) =>
      if conversation.profileStateUnknown then some (conversation, [])
      else if conversation.workloadFinished || conversation.pendingProfileChange.isSome
          || conversation.stopping then none
      else some ({ conversation with pendingProfileChange := some change }, [.profileChange change])
  | some command =>
      if conversation.workloadFinished then none
      else some ({ conversation with stopping := true }, [command])

/-- The complete lines of the buffer in order, up to the first that is not acceptable. -/
def receiveLines (conversation : HelperRuntimeConversation) :
    List Bytes → HelperRuntimeConversation × List HelperRuntimeCommand
  | [] => (conversation, [])
  | line :: lines =>
      if maximumHelperMessageSize < line.length then (conversation.invalidate, [])
      else
        match conversation.receiveLine line with
        | none => (conversation.invalidate, [])
        | some (next, commands) =>
            ((next.receiveLines lines).1, commands ++ (next.receiveLines lines).2)

def receiveBytes (conversation : HelperRuntimeConversation) (bytes : Bytes) :
    HelperRuntimeConversation × RuntimeCommandFeedResult :=
  if conversation.valid = false then (conversation, ⟨false, [], none⟩)
  else
    let received := splitLines (conversation.buffer ++ bytes)
    let outcome := conversation.receiveLines received.1
    if outcome.1.valid = false then
      (outcome.1, ⟨false, outcome.2, some (invalidRuntimeCommandLine ++ [newline])⟩)
    else if maximumHelperMessageSize < received.2.length then
      (outcome.1.invalidate, ⟨false, outcome.2, some (invalidRuntimeCommandLine ++ [newline])⟩)
    else ({ outcome.1 with buffer := received.2 }, ⟨true, outcome.2, none⟩)

end

def profileOkLine : Bytes := ascii "PROFILE_OK"

def profileFailedLine : Bytes := ascii "PROFILE_FAILED APPLY_FAILED"

def profileStateUnknownLine : Bytes := ascii "ERROR PROFILE_STATE_UNKNOWN"

/-- The line that reports how a change ended. -/
def replyLine : ProfileChangeCompletion → Bytes
  | .applied => profileOkLine
  | .restoredAfterFailure => profileFailedLine
  | .stateUnknown => profileStateUnknownLine

def completeProfileChange (conversation : HelperRuntimeConversation)
    (completion : ProfileChangeCompletion) : HelperRuntimeConversation × Option Bytes :=
  if conversation.valid = false ∨ conversation.workloadFinished = true
      ∨ conversation.pendingProfileChange = none then (conversation, none)
  else
    ({ conversation with
        pendingProfileChange := none
        profileStateUnknown :=
          conversation.profileStateUnknown || decide (completion = .stateUnknown) },
      some (replyLine completion ++ [newline]))

def finishWorkload (conversation : HelperRuntimeConversation) : HelperRuntimeConversation :=
  { conversation with workloadFinished := true, pendingProfileChange := none, buffer := [] }

end HelperRuntimeConversation

end NetLagLab
