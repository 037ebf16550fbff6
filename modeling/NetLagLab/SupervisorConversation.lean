import NetLagLab.RuntimeConversation

/-! The Supervisor's side of the conversation with the helper: which frame may come in which state,
and the event each accepted frame stands for. -/

namespace NetLagLab

open ByteLines HelperRuntimeConversation

inductive ProfileChangeResult where
  | applied
  | restoredAfterFailure
  deriving DecidableEq

inductive HelperConversationEvent where
  | ready
  | activated (workloadPid : Int)
  | activationFailed (result : Int)
  | workloadExited (result : Int)
  | workloadSignaled (signal : Int)
  | cleanupSucceeded
  | cleanupFailed
  | conversationLost
  | profileChangeResult (result : ProfileChangeResult) (change : ProfileChange)
  | profileStateUnknown
  deriving DecidableEq

/-- The line of an event; a lost conversation has none. -/
def helperConversationEventLine : HelperConversationEvent → Option Bytes
  | .ready => some (ascii "READY")
  | .activated workloadPid => some (ascii "ACTIVE " ++ decimalTextInt workloadPid)
  | .activationFailed result => some (ascii "START_FAILED " ++ decimalTextInt result)
  | .workloadExited result => some (ascii "WORKLOAD_EXITED " ++ decimalTextInt result)
  | .workloadSignaled signal => some (ascii "WORKLOAD_SIGNALED " ++ decimalTextInt signal)
  | .cleanupSucceeded => some (ascii "CLEANUP_OK")
  | .cleanupFailed => some (ascii "CLEANUP_FAILED")
  | .conversationLost => none
  | .profileChangeResult .applied _ => some profileOkLine
  | .profileChangeResult .restoredAfterFailure _ => some profileFailedLine
  | .profileStateUnknown => some profileStateUnknownLine

def helperConversationEventMessage (event : HelperConversationEvent) : Bytes :=
  match helperConversationEventLine event with
  | none => []
  | some line => line ++ [newline]

inductive SupervisorState where
  | waitingForReady
  | waitingForActivation
  | active
  | profileStateUnknown
  | waitingForCleanup
  | finished
  | failed
  deriving DecidableEq

structure SupervisorHelperConversation where
  buffer : Bytes := []
  pendingProfileChange : Option ProfileChange := none
  state : SupervisorState := .waitingForReady
  deriving DecidableEq

namespace SupervisorHelperConversation

/-- The conversation after anything it cannot accept. -/
def lost : SupervisorHelperConversation :=
  { buffer := [], pendingProfileChange := none, state := .failed }

/-- The frame of a change and the conversation that waits for its answer. -/
def beginProfileChange [DecimalText] (conversation : SupervisorHelperConversation)
    (change : ProfileChange) : Option (Bytes × SupervisorHelperConversation) :=
  if conversation.state ≠ .active ∨ conversation.pendingProfileChange.isSome then none
  else
    let message := serializeProfileChange change
    if message = [] then none
    else some (message, { conversation with pendingProfileChange := some change })

/-- The three answers to a pending change. -/
def receiveReply (conversation : SupervisorHelperConversation) (line : Bytes) :
    Option (SupervisorHelperConversation × HelperConversationEvent) :=
  match conversation.state, conversation.pendingProfileChange with
  | .active, some change =>
      if line = profileOkLine then
        some ({ conversation with pendingProfileChange := none }, .profileChangeResult .applied change)
      else if line = profileFailedLine then
        some ({ conversation with pendingProfileChange := none },
          .profileChangeResult .restoredAfterFailure change)
      else if line = profileStateUnknownLine then
        some ({ conversation with pendingProfileChange := none, state := .profileStateUnknown },
          .profileStateUnknown)
      else none
  | _, _ => none

/-- The end of the Workload, accepted whether or not its profile state is known. -/
def receiveTerminal (conversation : SupervisorHelperConversation) (line : Bytes) :
    SupervisorHelperConversation × HelperConversationEvent :=
  match parseValueAfter line (ascii "WORKLOAD_EXITED ") 0 255 with
  | some result =>
      ({ conversation with pendingProfileChange := none, state := .waitingForCleanup },
        .workloadExited result)
  | none =>
      match parseValueAfter line (ascii "WORKLOAD_SIGNALED ") 1 127 with
      | some signal =>
          ({ conversation with pendingProfileChange := none, state := .waitingForCleanup },
            .workloadSignaled signal)
      | none => (lost, .conversationLost)

/-- One complete line and the event it stands for. -/
def receiveLine (conversation : SupervisorHelperConversation) (line : Bytes) :
    SupervisorHelperConversation × HelperConversationEvent :=
  match conversation.receiveReply line with
  | some outcome => outcome
  | none =>
      if helperErrorPrefix.isPrefixOf line then (lost, .conversationLost)
      else
        match conversation.state with
        | .waitingForReady =>
            if line = ascii "READY" then
              ({ conversation with state := .waitingForActivation }, .ready)
            else (lost, .conversationLost)
        | .waitingForActivation =>
            match parseValueAfter line (ascii "ACTIVE ") 1 1000000000 with
            | some pid => ({ conversation with state := .active }, .activated pid)
            | none =>
                match parseValueAfter line (ascii "START_FAILED ") 125 127 with
                | some result =>
                    ({ conversation with state := .waitingForCleanup }, .activationFailed result)
                | none => (lost, .conversationLost)
        | .active => conversation.receiveTerminal line
        | .profileStateUnknown => conversation.receiveTerminal line
        | .waitingForCleanup =>
            if line = ascii "CLEANUP_OK" then
              ({ conversation with state := .finished }, .cleanupSucceeded)
            else if line = ascii "CLEANUP_FAILED" then
              ({ conversation with state := .finished }, .cleanupFailed)
            else (lost, .conversationLost)
        | .finished => (lost, .conversationLost)
        | .failed => (lost, .conversationLost)

/-- The complete lines of the buffer in order, up to the one that loses the conversation. -/
def receiveLines (conversation : SupervisorHelperConversation) :
    List Bytes → SupervisorHelperConversation × List HelperConversationEvent
  | [] => (conversation, [])
  | line :: lines =>
      if maximumHelperMessageSize < line.length then (lost, [.conversationLost])
      else
        let outcome := conversation.receiveLine line
        if outcome.1.state = .failed then (lost, [outcome.2])
        else ((outcome.1.receiveLines lines).1, outcome.2 :: (outcome.1.receiveLines lines).2)

def receiveBytes (conversation : SupervisorHelperConversation) (bytes : Bytes) :
    SupervisorHelperConversation × List HelperConversationEvent :=
  if conversation.state = .failed then (conversation, [])
  else
    let received := splitLines (conversation.buffer ++ bytes)
    let outcome := conversation.receiveLines received.1
    if outcome.1.state = .failed then outcome
    else if maximumHelperMessageSize < received.2.length then
      (lost, outcome.2 ++ [.conversationLost])
    else ({ outcome.1 with buffer := received.2 }, outcome.2)

def peerClosed (conversation : SupervisorHelperConversation) :
    SupervisorHelperConversation × List HelperConversationEvent :=
  if conversation.state = .failed then (conversation, [])
  else if conversation.state = .finished ∧ conversation.buffer = [] then (conversation, [])
  else (lost, [.conversationLost])

end SupervisorHelperConversation

/-! ### The order of the events -/

/-- The events after which no change is pending and none can begin. -/
def HelperConversationEvent.isLate : HelperConversationEvent → Bool
  | .workloadExited _ => true
  | .workloadSignaled _ => true
  | .cleanupSucceeded => true
  | .cleanupFailed => true
  | .conversationLost => true
  | _ => false

/-- The states in which the helper can only end the Workload, clean up or fail. -/
def SupervisorState.isLate : SupervisorState → Bool
  | .waitingForReady => false
  | .waitingForActivation => false
  | .active => false
  | _ => true

namespace SupervisorHelperConversation

variable {conversation : SupervisorHelperConversation}

/-- What holds of the conversation from `READY` on. -/
structure Inv (conversation : SupervisorHelperConversation) : Prop where
  ready : conversation.state ≠ .waitingForReady
  pending : conversation.pendingProfileChange.isSome = true → conversation.state = .active

theorem receiveReply_none (h : conversation.pendingProfileChange = none) (line : Bytes) :
    conversation.receiveReply line = none := by
  unfold receiveReply
  rw [h]
  cases conversation.state <;> rfl

/-- A reply answers the pending change. -/
theorem receiveReply_some {line : Bytes} {outcome : SupervisorHelperConversation × HelperConversationEvent}
    (h : conversation.receiveReply line = some outcome) :
    ∃ change, conversation.state = .active ∧ conversation.pendingProfileChange = some change ∧
      (line = profileOkLine ∧ outcome = ({ conversation with pendingProfileChange := none },
          .profileChangeResult .applied change) ∨
        line = profileFailedLine ∧ outcome = ({ conversation with pendingProfileChange := none },
          .profileChangeResult .restoredAfterFailure change) ∨
        line = profileStateUnknownLine ∧ outcome =
          ({ conversation with pendingProfileChange := none, state := .profileStateUnknown },
            .profileStateUnknown)) := by
  unfold receiveReply at h
  split at h
  · rename_i change hstate hpending
    refine ⟨change, hstate, hpending, ?_⟩
    split at h
    · rename_i hline
      cases h
      exact Or.inl ⟨hline, rfl⟩
    · split at h
      · rename_i hline
        cases h
        exact Or.inr (Or.inl ⟨hline, rfl⟩)
      · split at h
        · rename_i hline
          cases h
          exact Or.inr (Or.inr ⟨hline, rfl⟩)
        · cases h
  · cases h

theorem receiveTerminal_late (conversation : SupervisorHelperConversation) (line : Bytes) :
    (conversation.receiveTerminal line).1.state.isLate = true ∧
      (conversation.receiveTerminal line).1.pendingProfileChange = none ∧
      (conversation.receiveTerminal line).2.isLate = true := by
  unfold receiveTerminal
  split
  · exact ⟨rfl, rfl, rfl⟩
  · split <;> exact ⟨rfl, rfl, rfl⟩

/-- With no change pending, a line after the activation leads on to a late state. -/
theorem receiveLine_settled (hpending : conversation.pendingProfileChange = none)
    (hready : conversation.state ≠ .waitingForReady)
    (hactivation : conversation.state ≠ .waitingForActivation) (line : Bytes) :
    (conversation.receiveLine line).1.state.isLate = true ∧
      (conversation.receiveLine line).1.pendingProfileChange = none ∧
      (conversation.receiveLine line).2.isLate = true := by
  unfold receiveLine
  rw [receiveReply_none hpending]
  dsimp only
  split
  · exact ⟨rfl, rfl, rfl⟩
  · split
    · exact absurd ‹_› hready
    · exact absurd ‹_› hactivation
    · exact conversation.receiveTerminal_late line
    · exact conversation.receiveTerminal_late line
    · split
      · exact ⟨rfl, hpending, rfl⟩
      · split
        · exact ⟨rfl, hpending, rfl⟩
        · exact ⟨rfl, rfl, rfl⟩
    · exact ⟨rfl, rfl, rfl⟩
    · exact ⟨rfl, rfl, rfl⟩

/-- What the first line can be: the activation, a reply to the pending change, or a late event. -/
inductive FirstEvent (conversation next : SupervisorHelperConversation) :
    HelperConversationEvent → Prop
  | activated (workloadPid : Int) (before : conversation.state = .waitingForActivation)
      (after : next = { conversation with state := .active }) : FirstEvent conversation next
        (.activated workloadPid)
  | activationFailed (result : Int) (before : conversation.state = .waitingForActivation)
      (after : next = { conversation with state := .waitingForCleanup }) :
      FirstEvent conversation next (.activationFailed result)
  | result (result : ProfileChangeResult) (change : ProfileChange)
      (before : conversation.state = .active)
      (pending : conversation.pendingProfileChange = some change)
      (after : next = { conversation with pendingProfileChange := none }) :
      FirstEvent conversation next (.profileChangeResult result change)
  | unknown (change : ProfileChange) (before : conversation.state = .active)
      (pending : conversation.pendingProfileChange = some change)
      (after : next = { conversation with pendingProfileChange := none, state := .profileStateUnknown }) :
      FirstEvent conversation next .profileStateUnknown
  | late (event : HelperConversationEvent) (islate : event.isLate = true)
      (after : next.state.isLate = true) (settled : next.pendingProfileChange = none) :
      FirstEvent conversation next event

theorem receiveLine_first (h : Inv conversation) (line : Bytes) :
    FirstEvent conversation (conversation.receiveLine line).1 (conversation.receiveLine line).2 := by
  unfold receiveLine
  cases hreply : conversation.receiveReply line with
  | some outcome =>
      obtain ⟨change, hstate, hpending, hline⟩ := receiveReply_some hreply
      dsimp only
      rcases hline with ⟨_, rfl⟩ | ⟨_, rfl⟩ | ⟨_, rfl⟩
      · exact .result .applied change hstate hpending rfl
      · exact .result .restoredAfterFailure change hstate hpending rfl
      · exact .unknown change hstate hpending rfl
  | none =>
      have hpending : conversation.state ≠ .active → conversation.pendingProfileChange = none := by
        intro hstate
        by_contra hsome
        exact hstate (h.pending (Option.ne_none_iff_isSome.mp hsome))
      dsimp only
      split
      · exact .late _ rfl rfl rfl
      · split
        · exact absurd ‹_› h.ready
        · rename_i hstate
          split
          · exact .activated _ hstate rfl
          · split
            · exact .activationFailed _ hstate rfl
            · exact .late _ rfl rfl rfl
        · obtain ⟨hlate, hsettled, hevent⟩ := conversation.receiveTerminal_late line
          exact .late _ hevent hlate hsettled
        · obtain ⟨hlate, hsettled, hevent⟩ := conversation.receiveTerminal_late line
          exact .late _ hevent hlate hsettled
        · rename_i hstate
          have hnone := hpending (by rw [hstate]; decide)
          split
          · exact .late _ rfl rfl hnone
          · split
            · exact .late _ rfl rfl hnone
            · exact .late _ rfl rfl rfl
        · exact .late _ rfl rfl rfl
        · exact .late _ rfl rfl rfl

/-- After the first event of a read there are only late ones. -/
theorem receiveLines_late (lines : List Bytes) :
    ∀ {conversation : SupervisorHelperConversation}, conversation.pendingProfileChange = none →
      conversation.state ≠ .waitingForReady → conversation.state ≠ .waitingForActivation →
      (∀ event ∈ (conversation.receiveLines lines).2, event.isLate = true) ∧
        (conversation.receiveLines lines).1.pendingProfileChange = none ∧
        (lines = [] ∧ (conversation.receiveLines lines).1 = conversation ∨
          (conversation.receiveLines lines).1.state.isLate = true) := by
  induction lines with
  | nil =>
      intro conversation hpending _ _
      exact ⟨fun _ h => absurd h List.not_mem_nil, hpending, Or.inl ⟨rfl, rfl⟩⟩
  | cons line lines ih =>
      intro conversation hpending hready hactivation
      have hlost : ∀ event ∈ [HelperConversationEvent.conversationLost], event.isLate = true := by
        decide
      unfold receiveLines
      dsimp only
      split
      · exact ⟨hlost, rfl, Or.inr rfl⟩
      · obtain ⟨hlate, hsettled, hevent⟩ := receiveLine_settled hpending hready hactivation line
        split
        · refine ⟨fun event h => ?_, rfl, Or.inr rfl⟩
          rw [List.mem_singleton.mp h]
          exact hevent
        · have hne : ∀ state : SupervisorState, state.isLate = false →
              (conversation.receiveLine line).1.state ≠ state := by
            rintro state hstate rfl
            exact absurd (hlate.symm.trans hstate) (by decide)
          obtain ⟨hevents, hnone, hstate⟩ := ih hsettled (hne _ rfl) (hne _ rfl)
          refine ⟨fun event h => ?_, hnone, Or.inr ?_⟩
          · rcases List.mem_cons.mp h with rfl | h
            · exact hevent
            · exact hevents event h
          · rcases hstate with ⟨_, hsame⟩ | hstate
            · rw [hsame]
              exact hlate
            · exact hstate

/-- The events of one read, and the state it leads to. -/
inductive ReadEvents (conversation next : SupervisorHelperConversation) :
    List HelperConversationEvent → Prop
  | nothing (state : next.state = conversation.state)
      (pending : next.pendingProfileChange = conversation.pendingProfileChange) :
      ReadEvents conversation next []
  | one (middle : SupervisorHelperConversation) (event : HelperConversationEvent)
      (first : FirstEvent conversation middle event) (state : next.state = middle.state)
      (pending : next.pendingProfileChange = middle.pendingProfileChange) :
      ReadEvents conversation next [event]
  | more (middle : SupervisorHelperConversation) (event : HelperConversationEvent)
      (rest : List HelperConversationEvent) (first : FirstEvent conversation middle event)
      (lateEvents : ∀ event ∈ rest, event.isLate = true) (state : next.state.isLate = true)
      (settled : next.pendingProfileChange = none) : ReadEvents conversation next (event :: rest)

theorem FirstEvent.settled {middle : SupervisorHelperConversation} {event : HelperConversationEvent}
    (h : Inv conversation) (hfirst : FirstEvent conversation middle event) :
    middle.pendingProfileChange = none ∧ middle.state ≠ .waitingForReady ∧
      middle.state ≠ .waitingForActivation := by
  have hnone : conversation.state ≠ .active → conversation.pendingProfileChange = none := by
    intro hstate
    by_contra hsome
    exact hstate (h.pending (Option.ne_none_iff_isSome.mp hsome))
  cases hfirst with
  | activated pid before after =>
      rw [after]
      exact ⟨hnone (by rw [before]; decide), by simp, by simp⟩
  | activationFailed result before after =>
      rw [after]
      exact ⟨hnone (by rw [before]; decide), by simp, by simp⟩
  | result result change before pending after =>
      rw [after]
      exact ⟨rfl, by rw [before]; decide, by rw [before]; decide⟩
  | unknown change before pending after =>
      rw [after]
      exact ⟨rfl, by simp, by simp⟩
  | late event islate after settled =>
      refine ⟨settled, ?_, ?_⟩ <;>
        · intro hstate
          rw [hstate] at after
          cases after

/-- Anything that loses the conversation. -/
theorem readEvents_lost (conversation : SupervisorHelperConversation) :
    ReadEvents conversation lost [.conversationLost] :=
  .one lost .conversationLost (.late _ rfl rfl rfl) rfl rfl

theorem receiveLines_events (h : Inv conversation) (lines : List Bytes) :
    ReadEvents conversation (conversation.receiveLines lines).1 (conversation.receiveLines lines).2 := by
  cases lines with
  | nil => exact .nothing rfl rfl
  | cons line lines =>
      have hfirst := receiveLine_first h line
      unfold receiveLines
      dsimp only
      split
      · exact readEvents_lost conversation
      · split
        · rename_i hfailed
          obtain ⟨hsettled, -, -⟩ := hfirst.settled h
          exact .one _ _ hfirst hfailed.symm hsettled.symm
        · obtain ⟨hsettled, hready, hactivation⟩ := hfirst.settled h
          obtain ⟨hevents, hnone, hstate⟩ := receiveLines_late lines hsettled hready hactivation
          rcases hstate with ⟨rfl, _⟩ | hstate
          · exact .one _ _ hfirst rfl rfl
          · exact .more _ _ _ hfirst hevents hstate hnone

theorem receiveBytes_events (h : Inv conversation) (bytes : Bytes) :
    ReadEvents conversation (conversation.receiveBytes bytes).1 (conversation.receiveBytes bytes).2 := by
  have hevents := receiveLines_events h (splitLines (conversation.buffer ++ bytes)).1
  unfold receiveBytes
  split
  · exact .nothing rfl rfl
  · dsimp only
    split
    · exact hevents
    · split
      · -- an unfinished line that is too long loses the conversation after what was read
        revert hevents
        generalize (conversation.receiveLines (splitLines (conversation.buffer ++ bytes)).1).2 = events
        intro hevents
        cases hevents with
        | nothing state pending => exact readEvents_lost conversation
        | one middle event first state pending =>
            exact .more middle event _ first (by decide) rfl rfl
        | more middle event rest first lateEvents state settled =>
            refine .more middle event _ first (fun late hlate => ?_) rfl rfl
            rcases List.mem_append.mp hlate with hlate | hlate
            · exact lateEvents late hlate
            · rw [List.mem_singleton.mp hlate]
              rfl
      · revert hevents
        generalize (conversation.receiveLines (splitLines (conversation.buffer ++ bytes)).1).2 = events
        intro hevents
        cases hevents with
        | nothing state pending => exact .nothing state pending
        | one middle event first state pending => exact .one middle event first state pending
        | more middle event rest first lateEvents state settled =>
            exact .more middle event rest first lateEvents state settled

theorem peerClosed_events (conversation : SupervisorHelperConversation) :
    ReadEvents conversation conversation.peerClosed.1 conversation.peerClosed.2 := by
  unfold peerClosed
  split
  · exact .nothing rfl rfl
  · split
    · exact .nothing rfl rfl
    · exact readEvents_lost conversation

/-- A read keeps the invariant. -/
theorem ReadEvents.inv {next : SupervisorHelperConversation} {events : List HelperConversationEvent}
    (h : Inv conversation) (hread : ReadEvents conversation next events) : Inv next := by
  have hlate : next.state.isLate = true → next.pendingProfileChange = none → Inv next := by
    intro hstate hsettled
    refine ⟨?_, fun hsome => ?_⟩
    · intro hready
      rw [hready] at hstate
      cases hstate
    · rw [hsettled] at hsome
      cases hsome
  cases hread with
  | nothing state pending =>
      exact ⟨state ▸ h.ready, fun hsome => state.trans (h.pending (pending ▸ hsome))⟩
  | one middle event first state pending =>
      obtain ⟨hsettled, hready, -⟩ := first.settled h
      refine ⟨state ▸ hready, fun hsome => ?_⟩
      rw [pending, hsettled] at hsome
      cases hsome
  | more middle event rest first lateEvents state settled => exact hlate state settled

/-! ### The frames of the helper read back -/

theorem parseBoundedInteger_decimalTextInt {value minimum maximum : Int} (hnonneg : 0 ≤ value)
    (hminimum : minimum ≤ value) (hmaximum : value ≤ maximum) (hrange : value < 2 ^ 31) :
    parseBoundedInteger (decimalTextInt value) minimum maximum = some value := by
  have htext : decimalTextInt value = decimalText value.toNat := if_neg (by omega)
  have hdigits : (decimalText value.toNat).all isDigit = true :=
    List.all_eq_true.mpr fun byte hbyte => isDigit_of_mem_decimalText hbyte
  have hsign : (decimalText value.toNat).head? ≠ some 45 := by
    intro hhead
    exact absurd (isDigit_of_mem_decimalText (List.mem_of_mem_head? hhead)) (by decide)
  rw [parseBoundedInteger, htext]
  simp only [hsign, decide_false, Bool.false_eq_true, if_false, decimalText_ne_nil, hdigits,
    Bool.true_eq_false, or_self, decimalValue_decimalText, Int.toNat_of_nonneg hnonneg]
  rw [if_neg (by omega), if_neg (by omega)]

theorem parseValueAfter_append (start : Bytes) {value minimum maximum : Int} (hnonneg : 0 ≤ value)
    (hminimum : minimum ≤ value) (hmaximum : value ≤ maximum) (hrange : value < 2 ^ 31) :
    parseValueAfter (start ++ decimalTextInt value) start minimum maximum = some value := by
  have hprefix : start.isPrefixOf (start ++ decimalTextInt value) = true :=
    List.isPrefixOf_iff_prefix.mpr (List.prefix_append _ _)
  rw [parseValueAfter, if_pos hprefix, List.drop_left,
    parseBoundedInteger_decimalTextInt hnonneg hminimum hmaximum hrange]

/-- A line of another kind is no reply. -/
theorem receiveReply_of_ne {line : Bytes} (happlied : line ≠ profileOkLine)
    (hrestored : line ≠ profileFailedLine) (hunknown : line ≠ profileStateUnknownLine) :
    conversation.receiveReply line = none := by
  unfold receiveReply
  split
  · rw [if_neg happlied, if_neg hrestored, if_neg hunknown]
  · rfl

/-- The reply to the pending change. -/
theorem receiveLine_reply {change : ProfileChange} (hstate : conversation.state = .active)
    (hpending : conversation.pendingProfileChange = some change) (completion : ProfileChangeCompletion) :
    conversation.receiveLine (replyLine completion) =
      match completion with
      | .applied =>
          ({ conversation with pendingProfileChange := none }, .profileChangeResult .applied change)
      | .restoredAfterFailure =>
          ({ conversation with pendingProfileChange := none },
            .profileChangeResult .restoredAfterFailure change)
      | .stateUnknown =>
          ({ conversation with pendingProfileChange := none, state := .profileStateUnknown },
            .profileStateUnknown) := by
  have hfailed : profileFailedLine ≠ profileOkLine := by decide
  have hunknown : profileStateUnknownLine ≠ profileOkLine := by decide
  have hunknown' : profileStateUnknownLine ≠ profileFailedLine := by decide
  unfold receiveLine receiveReply
  rw [hstate, hpending]
  cases completion with
  | applied => rfl
  | restoredAfterFailure => simp only [replyLine, if_neg hfailed, if_true]
  | stateUnknown => simp only [replyLine, if_neg hunknown, if_neg hunknown', if_true]

end SupervisorHelperConversation

/-- The end of a Workload, with a value that a process can end with. -/
def HelperConversationEvent.EndsWorkload : HelperConversationEvent → Prop
  | .workloadExited result => 0 ≤ result ∧ result ≤ 255
  | .workloadSignaled signal => 1 ≤ signal ∧ signal ≤ 127
  | _ => False

/-- The result of the helper's cleanup. -/
def HelperConversationEvent.EndsCleanup (event : HelperConversationEvent) : Prop :=
  event = .cleanupSucceeded ∨ event = .cleanupFailed

namespace SupervisorHelperConversation

variable {conversation : SupervisorHelperConversation} {event : HelperConversationEvent} {line : Bytes}

theorem line_of_endsWorkload (h : event.EndsWorkload) (hline : helperConversationEventLine event = some line) :
    line.head? = some 87 ∧ newline ∉ line ∧ line.length ≤ maximumHelperMessageSize := by
  have hvalue : ∀ value : Int, 0 ≤ value → value ≤ 255 →
      decimalTextInt value = decimalText value.toNat ∧ (decimalText value.toNat).length ≤ 3 := fun value _ _ =>
    ⟨if_neg (by omega), length_decimalText (by decide) (by omega)⟩
  cases event with
  | workloadExited result =>
      obtain ⟨htext, hlength⟩ := hvalue result h.1 h.2
      cases hline
      rw [htext]
      refine ⟨rfl, ?_, ?_⟩
      · rw [List.mem_append, not_or]
        exact ⟨by decide, newline_notMem_decimalText _⟩
      · rw [List.length_append, show (ascii "WORKLOAD_EXITED ").length = 16 from rfl,
          maximumHelperMessageSize]
        omega
  | workloadSignaled signal =>
      obtain ⟨htext, hlength⟩ := hvalue signal (by have := h.1; omega) (by have := h.2; omega)
      cases hline
      rw [htext]
      refine ⟨rfl, ?_, ?_⟩
      · rw [List.mem_append, not_or]
        exact ⟨by decide, newline_notMem_decimalText _⟩
      · rw [List.length_append, show (ascii "WORKLOAD_SIGNALED ").length = 18 from rfl,
          maximumHelperMessageSize]
        omega
  | _ => exact h.elim

theorem receiveTerminal_of_endsWorkload (h : event.EndsWorkload)
    (hline : helperConversationEventLine event = some line) :
    conversation.receiveTerminal line =
      ({ conversation with pendingProfileChange := none, state := .waitingForCleanup }, event) := by
  cases event with
  | workloadExited result =>
      cases hline
      have hparse := parseValueAfter_append (ascii "WORKLOAD_EXITED ") h.1 h.1 h.2
        (by have := h.2; omega)
      rw [receiveTerminal, hparse]
  | workloadSignaled signal =>
      cases hline
      have hother : parseValueAfter (ascii "WORKLOAD_SIGNALED " ++ decimalTextInt signal)
          (ascii "WORKLOAD_EXITED ") 0 255 = none := rfl
      have hparse := parseValueAfter_append (ascii "WORKLOAD_SIGNALED ")
        (by have := h.1; omega) h.1 h.2 (by have := h.2; omega)
      rw [receiveTerminal, hother]
      dsimp only
      rw [hparse]
  | _ => exact h.elim

/-- The frame that reports the end of the Workload. -/
theorem receiveLine_terminal (hstate : conversation.state = .active ∨ conversation.state = .profileStateUnknown)
    (h : event.EndsWorkload) (hline : helperConversationEventLine event = some line) :
    conversation.receiveLine line =
      ({ conversation with pendingProfileChange := none, state := .waitingForCleanup }, event) := by
  have hhead := (line_of_endsWorkload h hline).1
  have hne : ∀ other : Bytes, other.head? ≠ some 87 → line ≠ other := by
    rintro other hother rfl
    exact hother hhead
  have herror : helperErrorPrefix.isPrefixOf line = false := by
    cases line with
    | nil => rfl
    | cons byte line =>
        rw [List.head?_cons, Option.some.injEq] at hhead
        rw [hhead]
        rfl
  unfold receiveLine
  rw [receiveReply_of_ne (hne _ (by decide)) (hne _ (by decide)) (hne _ (by decide))]
  dsimp only
  rw [herror, if_neg Bool.false_ne_true]
  rcases hstate with hstate | hstate
  · rw [hstate]
    exact receiveTerminal_of_endsWorkload h hline
  · rw [hstate]
    exact receiveTerminal_of_endsWorkload h hline

/-- The frame that reports the result of the cleanup. -/
theorem receiveLine_cleanup (hstate : conversation.state = .waitingForCleanup) (h : event.EndsCleanup)
    (hline : helperConversationEventLine event = some line) :
    conversation.receiveLine line = ({ conversation with state := .finished }, event) := by
  have hreply : conversation.receiveReply line = none := by
    unfold receiveReply
    rw [hstate]
  unfold receiveLine
  rw [hreply, hstate]
  rcases h with rfl | rfl
  · cases hline
    rfl
  · cases hline
    rfl

end SupervisorHelperConversation

end NetLagLab
