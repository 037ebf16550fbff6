import NetLagLab.CommandCodec
import NetLagLab.SupervisorConversation

/-! The language of the helper. A conversation is the frames of the helper in their order, with the changes that the
Supervisor sends between them; it is described here as a grammar, and the Supervisor accepts that grammar. -/

namespace NetLagLab

open ByteLines HelperRuntimeConversation

/-! ### The grammar -/

/-- A frame of the helper, or a change that is sent to it. -/
inductive ConversationItem where
  | frame (line : Bytes)
  | sent (change : ProfileChange)

/-- The answers that leave a profile known. -/
inductive ReplyFrame (line : Bytes) : ProfileChangeResult → Prop
  | ok (text : line = profileOkLine) : ReplyFrame line .applied
  | failed (text : line = profileFailedLine) : ReplyFrame line .restoredAfterFailure

inductive TerminalFrame : Bytes → HelperConversationEvent → Prop
  | exited {line : Bytes} {result : Int} (value : parseValueAfter line (ascii "WORKLOAD_EXITED ") 0 255 = some result) :
      TerminalFrame line (.workloadExited result)
  | signaled {line : Bytes} {signal : Int}
      (value : parseValueAfter line (ascii "WORKLOAD_SIGNALED ") 1 127 = some signal) :
      TerminalFrame line (.workloadSignaled signal)

inductive CleanupFrame : Bytes → HelperConversationEvent → Prop
  | ok : CleanupFrame (ascii "CLEANUP_OK") .cleanupSucceeded
  | failed : CleanupFrame (ascii "CLEANUP_FAILED") .cleanupFailed

/-- What is said once nothing but the cleanup is to come. -/
inductive CleanupPart : List ConversationItem → List HelperConversationEvent → Prop
  | nothing : CleanupPart [] []
  | cleanup {line : Bytes} {event : HelperConversationEvent} (frame : CleanupFrame line event) :
      CleanupPart [.frame line] [event]

/-- What is said once no change is to come. -/
inductive EndPart : List ConversationItem → List HelperConversationEvent → Prop
  | nothing : EndPart [] []
  | terminal {line : Bytes} {event : HelperConversationEvent} {items : List ConversationItem}
      {said : List HelperConversationEvent} (frame : TerminalFrame line event) (rest : CleanupPart items said) :
      EndPart (.frame line :: items) (event :: said)

/-- What is said while the Workload runs, with a change waiting for its answer or none. -/
inductive ActivePart : Option ProfileChange → List ConversationItem → List HelperConversationEvent → Prop
  | ended {pending : Option ProfileChange} {items : List ConversationItem} {said : List HelperConversationEvent}
      (rest : EndPart items said) : ActivePart pending items said
  | sent {change : ProfileChange} {items : List ConversationItem} {said : List HelperConversationEvent}
      (legal : change.Legal) (rest : ActivePart (some change) items said) : ActivePart none (.sent change :: items) said
  | answered {change : ProfileChange} {line : Bytes} {result : ProfileChangeResult} {items : List ConversationItem}
      {said : List HelperConversationEvent} (frame : ReplyFrame line result) (rest : ActivePart none items said) :
      ActivePart (some change) (.frame line :: items) (.profileChangeResult result change :: said)
  | unknown {change : ProfileChange} {line : Bytes} {items : List ConversationItem}
      {said : List HelperConversationEvent} (text : line = profileStateUnknownLine) (rest : EndPart items said) :
      ActivePart (some change) (.frame line :: items) (.profileStateUnknown :: said)

/-- What is said once the helper is ready. -/
inductive StartPart : List ConversationItem → List HelperConversationEvent → Prop
  | nothing : StartPart [] []
  | active {line : Bytes} {pid : Int} {items : List ConversationItem} {said : List HelperConversationEvent}
      (value : parseValueAfter line (ascii "ACTIVE ") 1 1000000000 = some pid) (rest : ActivePart none items said) :
      StartPart (.frame line :: items) (.activated pid :: said)
  | startFailed {line : Bytes} {result : Int} {items : List ConversationItem} {said : List HelperConversationEvent}
      (value : parseValueAfter line (ascii "START_FAILED ") 125 127 = some result) (rest : CleanupPart items said) :
      StartPart (.frame line :: items) (.activationFailed result :: said)

/-- A conversation up to some point, with the events that it stands for. -/
inductive Spoken : List ConversationItem → List HelperConversationEvent → Prop
  | nothing : Spoken [] []
  | ready {items : List ConversationItem} {said : List HelperConversationEvent} (rest : StartPart items said) :
      Spoken (.frame (ascii "READY") :: items) (.ready :: said)

/-- No frame is longer than a message may be. -/
def Short (items : List ConversationItem) : Prop :=
  ∀ line, .frame line ∈ items → line.length ≤ maximumHelperMessageSize

/-! ### What the Supervisor accepts -/

namespace SupervisorHelperConversation

/-- What is said from a state of the conversation on. -/
def Says (conversation : SupervisorHelperConversation) (items : List ConversationItem)
    (said : List HelperConversationEvent) : Prop :=
  match conversation.state with
  | .waitingForReady => Spoken items said
  | .waitingForActivation => StartPart items said
  | .active => ActivePart conversation.pendingProfileChange items said
  | .profileStateUnknown => EndPart items said
  | .waitingForCleanup => CleanupPart items said
  | .finished => items = [] ∧ said = []
  | .failed => False

/-- A change only waits for its answer while the Workload runs. -/
def Waits (conversation : SupervisorHelperConversation) : Prop :=
  conversation.pendingProfileChange.isSome = true → conversation.state = .active

/-! ### One frame -/

section Frames

variable {conversation : SupervisorHelperConversation} {line : Bytes} {change : ProfileChange}
  {items : List ConversationItem} {said : List HelperConversationEvent}

/-- No frame of another kind begins as an error does. -/
theorem parseValueAfter_error (h : helperErrorPrefix.isPrefixOf line = true) {start : Bytes}
    (hstart : start.head?.any (· ≠ 69) = true) (minimum maximum : Int) :
    parseValueAfter line start minimum maximum = none := by
  obtain ⟨rest, rfl⟩ := List.isPrefixOf_iff_prefix.mp h
  rcases start with _ | ⟨byte, start⟩
  · exact nomatch hstart
  · have hbyte : byte ≠ 69 := of_decide_eq_true hstart
    refine if_neg ?_
    rw [List.isPrefixOf_iff_prefix]
    exact fun hprefix => hbyte (List.cons_prefix_cons.mp hprefix).1

theorem receiveLine_waitingForReady (hstate : conversation.state = .waitingForReady) :
    conversation.receiveLine line =
      if line = ascii "READY" then ({ conversation with state := .waitingForActivation }, .ready)
      else (lost, .conversationLost) := by
  have hreply : conversation.receiveReply line = none := by
    unfold receiveReply
    rw [hstate]
  unfold receiveLine
  rw [hreply, hstate]
  dsimp only
  by_cases herror : helperErrorPrefix.isPrefixOf line = true
  · rw [if_pos herror, if_neg]
    rintro rfl
    exact nomatch herror
  · rw [if_neg herror]

theorem receiveLine_waitingForActivation (hstate : conversation.state = .waitingForActivation) :
    conversation.receiveLine line =
      match parseValueAfter line (ascii "ACTIVE ") 1 1000000000 with
      | some pid => ({ conversation with state := .active }, .activated pid)
      | none =>
          match parseValueAfter line (ascii "START_FAILED ") 125 127 with
          | some result => ({ conversation with state := .waitingForCleanup }, .activationFailed result)
          | none => (lost, .conversationLost) := by
  have hreply : conversation.receiveReply line = none := by
    unfold receiveReply
    rw [hstate]
  unfold receiveLine
  rw [hreply, hstate]
  dsimp only
  by_cases herror : helperErrorPrefix.isPrefixOf line = true
  · rw [if_pos herror, parseValueAfter_error herror (by decide), parseValueAfter_error herror (by decide)]
  · exact (if_neg herror).trans rfl

theorem receiveTerminal_error (h : helperErrorPrefix.isPrefixOf line = true) :
    conversation.receiveTerminal line = (lost, .conversationLost) := by
  unfold receiveTerminal
  rw [parseValueAfter_error h (by decide), parseValueAfter_error h (by decide)]

theorem receiveLine_end (hstate : conversation.state = .active ∨ conversation.state = .profileStateUnknown)
    (hreply : conversation.receiveReply line = none) :
    conversation.receiveLine line = conversation.receiveTerminal line := by
  unfold receiveLine
  rw [hreply]
  dsimp only
  by_cases herror : helperErrorPrefix.isPrefixOf line = true
  · rw [if_pos herror, receiveTerminal_error herror]
  · rw [if_neg herror]
    rcases hstate with hstate | hstate <;> rw [hstate]

theorem receiveLine_waitingForCleanup (hstate : conversation.state = .waitingForCleanup) :
    conversation.receiveLine line =
      if line = ascii "CLEANUP_OK" then ({ conversation with state := .finished }, .cleanupSucceeded)
      else if line = ascii "CLEANUP_FAILED" then ({ conversation with state := .finished }, .cleanupFailed)
      else (lost, .conversationLost) := by
  have hreply : conversation.receiveReply line = none := by
    unfold receiveReply
    rw [hstate]
  unfold receiveLine
  rw [hreply, hstate]
  dsimp only
  by_cases herror : helperErrorPrefix.isPrefixOf line = true
  · rw [if_pos herror, if_neg, if_neg]
    · rintro rfl
      exact nomatch herror
    · rintro rfl
      exact nomatch herror
  · rw [if_neg herror]

theorem receiveLine_over (hstate : conversation.state = .finished ∨ conversation.state = .failed) :
    conversation.receiveLine line = (lost, .conversationLost) := by
  have hreply : conversation.receiveReply line = none := by
    unfold receiveReply
    rcases hstate with hstate | hstate <;> rw [hstate]
  unfold receiveLine
  rw [hreply]
  rcases hstate with hstate | hstate
  · rw [hstate]
    exact ite_self _
  · rw [hstate]
    exact ite_self _

/-- A line has the number of one kind of frame only. -/
theorem parseValueAfter_other {start other : Bytes} {minimum maximum value : Int} (hother : ¬ start <+: other)
    (hstart : ¬ other <+: start) (h : parseValueAfter line start minimum maximum = some value) (least most : Int) :
    parseValueAfter line other least most = none := by
  unfold parseValueAfter at h
  rw [Option.ite_none_right_eq_some, List.isPrefixOf_iff_prefix] at h
  refine if_neg fun hprefix => ?_
  rcases List.prefix_or_prefix_of_prefix h.1 (List.isPrefixOf_iff_prefix.mp hprefix) with hfirst | hfirst
  · exact hother hfirst
  · exact hstart hfirst

/-- What a terminal frame makes of the conversation, or that it is none. -/
theorem receiveTerminal_cases (conversation : SupervisorHelperConversation) (line : Bytes) :
    (∃ event, TerminalFrame line event ∧ (∀ other, TerminalFrame line other → other = event) ∧
      conversation.receiveTerminal line =
        ({ conversation with pendingProfileChange := none, state := .waitingForCleanup }, event)) ∨
    (∀ event, ¬ TerminalFrame line event) ∧ conversation.receiveTerminal line = (lost, .conversationLost) := by
  unfold receiveTerminal
  cases hexited : parseValueAfter line (ascii "WORKLOAD_EXITED ") 0 255 with
  | some result =>
      refine Or.inl ⟨_, .exited hexited, fun other hframe => ?_, rfl⟩
      cases hframe with
      | exited value => rw [Option.some.inj (value.symm.trans hexited)]
      | signaled value =>
          rw [parseValueAfter_other (by decide) (by decide) hexited] at value
          exact nomatch value
  | none =>
      cases hsignaled : parseValueAfter line (ascii "WORKLOAD_SIGNALED ") 1 127 with
      | some signal =>
          refine Or.inl ⟨_, .signaled hsignaled, fun other hframe => ?_, rfl⟩
          cases hframe with
          | exited value => exact nomatch value.symm.trans hexited
          | signaled value => rw [Option.some.inj (value.symm.trans hsignaled)]
      | none =>
          refine Or.inr ⟨fun event hframe => ?_, rfl⟩
          cases hframe with
          | exited value => exact nomatch value.symm.trans hexited
          | signaled value => exact nomatch value.symm.trans hsignaled

/-- The frame after which only the cleanup can come. -/
theorem endPart_frame_iff (conversation : SupervisorHelperConversation) : EndPart (.frame line :: items) said ↔
    (conversation.receiveTerminal line).1.state ≠ .failed ∧ ∃ rest,
      said = (conversation.receiveTerminal line).2 :: rest ∧ (conversation.receiveTerminal line).1.Says items rest := by
  rcases conversation.receiveTerminal_cases line with ⟨event, hframe, honly, hterminal⟩ | ⟨hnone, hterminal⟩
  · rw [hterminal]
    constructor
    · intro h
      cases h with
      | terminal frame rest =>
          rw [honly _ frame]
          exact ⟨(fun h => nomatch h), _, rfl, rest⟩
    · rintro ⟨-, rest, rfl, hrest⟩
      exact .terminal hframe hrest
  · rw [hterminal]
    constructor
    · intro h
      cases h with
      | terminal frame rest => exact absurd frame (hnone _)
    · rintro ⟨hfailed, -⟩
      exact absurd rfl hfailed

theorem spoken_frame_iff (hstate : conversation.state = .waitingForReady) : Spoken (.frame line :: items) said ↔
    (conversation.receiveLine line).1.state ≠ .failed ∧ ∃ rest,
      said = (conversation.receiveLine line).2 :: rest ∧ (conversation.receiveLine line).1.Says items rest := by
  rw [receiveLine_waitingForReady hstate]
  by_cases hline : line = ascii "READY"
  · rw [if_pos hline]
    constructor
    · intro h
      cases h with
      | ready rest => exact ⟨(fun h => nomatch h), _, rfl, rest⟩
    · rintro ⟨-, rest, rfl, hrest⟩
      rw [hline]
      exact .ready hrest
  · rw [if_neg hline]
    constructor
    · intro h
      cases h with
      | ready rest => exact absurd rfl hline
    · rintro ⟨hfailed, -⟩
      exact absurd rfl hfailed

theorem startPart_frame_iff (hstate : conversation.state = .waitingForActivation)
    (hnone : conversation.pendingProfileChange = none) : StartPart (.frame line :: items) said ↔
    (conversation.receiveLine line).1.state ≠ .failed ∧ ∃ rest,
      said = (conversation.receiveLine line).2 :: rest ∧ (conversation.receiveLine line).1.Says items rest := by
  rw [receiveLine_waitingForActivation hstate]
  cases hactive : parseValueAfter line (ascii "ACTIVE ") 1 1000000000 with
  | some pid =>
      constructor
      · intro h
        cases h with
        | active value rest =>
            rw [Option.some.inj (value.symm.trans hactive)]
            refine ⟨(fun h => nomatch h), _, rfl, ?_⟩
            change ActivePart conversation.pendingProfileChange _ _
            rwa [hnone]
        | startFailed value rest =>
            rw [parseValueAfter_other (by decide) (by decide) hactive] at value
            exact nomatch value
      · rintro ⟨-, rest, rfl, hrest⟩
        change ActivePart conversation.pendingProfileChange _ _ at hrest
        rw [hnone] at hrest
        exact .active hactive hrest
  | none =>
      cases hfailed : parseValueAfter line (ascii "START_FAILED ") 125 127 with
      | some result =>
          constructor
          · intro h
            cases h with
            | active value rest => exact nomatch value.symm.trans hactive
            | startFailed value rest =>
                rw [Option.some.inj (value.symm.trans hfailed)]
                exact ⟨(fun h => nomatch h), _, rfl, rest⟩
          · rintro ⟨-, rest, rfl, hrest⟩
            exact .startFailed hfailed hrest
      | none =>
          constructor
          · intro h
            cases h with
            | active value rest => exact nomatch value.symm.trans hactive
            | startFailed value rest => exact nomatch value.symm.trans hfailed
          · rintro ⟨hlost, -⟩
            exact absurd rfl hlost

theorem cleanupPart_frame_iff (hstate : conversation.state = .waitingForCleanup) :
    CleanupPart (.frame line :: items) said ↔
    (conversation.receiveLine line).1.state ≠ .failed ∧ ∃ rest,
      said = (conversation.receiveLine line).2 :: rest ∧ (conversation.receiveLine line).1.Says items rest := by
  rw [receiveLine_waitingForCleanup hstate]
  by_cases hok : line = ascii "CLEANUP_OK"
  · rw [if_pos hok]
    constructor
    · intro h
      cases h with
      | cleanup frame =>
          cases frame with
          | ok => exact ⟨(fun h => nomatch h), [], rfl, rfl, rfl⟩
          | failed => exact absurd hok (by decide)
    · rintro ⟨-, rest, rfl, rfl, rfl⟩
      rw [hok]
      exact .cleanup .ok
  · rw [if_neg hok]
    by_cases hfailed : line = ascii "CLEANUP_FAILED"
    · rw [if_pos hfailed]
      constructor
      · intro h
        cases h with
        | cleanup frame =>
            cases frame with
            | ok => exact absurd rfl hok
            | failed => exact ⟨(fun h => nomatch h), [], rfl, rfl, rfl⟩
      · rintro ⟨-, rest, rfl, rfl, rfl⟩
        rw [hfailed]
        exact .cleanup .failed
    · rw [if_neg hfailed]
      constructor
      · intro h
        cases h with
        | cleanup frame =>
            cases frame with
            | ok => exact absurd rfl hok
            | failed => exact absurd rfl hfailed
      · rintro ⟨hlost, -⟩
        exact absurd rfl hlost

theorem not_terminalFrame (event : HelperConversationEvent)
    (h : line = profileOkLine ∨ line = profileFailedLine ∨ line = profileStateUnknownLine) :
    ¬ TerminalFrame line event := by
  have hother : ∀ line ∈ [profileOkLine, profileFailedLine, profileStateUnknownLine],
      parseValueAfter line (ascii "WORKLOAD_EXITED ") 0 255 = none ∧
        parseValueAfter line (ascii "WORKLOAD_SIGNALED ") 1 127 = none := by decide
  obtain ⟨hexited, hsignaled⟩ := hother line (by simpa using h)
  intro hframe
  cases hframe with
  | exited value => exact nomatch value.symm.trans hexited
  | signaled value => exact nomatch value.symm.trans hsignaled

theorem replyLines_ne : profileOkLine ≠ profileFailedLine ∧ profileOkLine ≠ profileStateUnknownLine ∧
    profileFailedLine ≠ profileStateUnknownLine := by decide

/-- A line is one answer at most. -/
theorem ReplyFrame.unique {result other : ProfileChangeResult} (h : ReplyFrame line result)
    (hother : ReplyFrame line other) : other = result := by
  cases h with
  | ok text =>
      cases hother with
      | ok => rfl
      | failed other => exact absurd (text.symm.trans other) replyLines_ne.1
  | failed text =>
      cases hother with
      | ok other => exact absurd (other.symm.trans text) replyLines_ne.1
      | failed => rfl

theorem ReplyFrame.ne_unknown {result : ProfileChangeResult} (h : ReplyFrame line result) :
    line ≠ profileStateUnknownLine := by
  intro hline
  cases h with
  | ok text => exact replyLines_ne.2.1 (text.symm.trans hline)
  | failed text => exact replyLines_ne.2.2 (text.symm.trans hline)

/-- The line of an answer says nothing else while a change waits. -/
theorem activePart_reply_iff {result : ProfileChangeResult} (hframe : ReplyFrame line result) :
    ActivePart (some change) (.frame line :: items) said ↔
      ∃ rest, said = .profileChangeResult result change :: rest ∧ ActivePart none items rest := by
  constructor
  · intro h
    cases h with
    | ended rest =>
        cases rest with
        | terminal frame rest =>
            refine absurd frame (not_terminalFrame _ ?_)
            cases hframe with
            | ok text => exact Or.inl text
            | failed text => exact Or.inr (Or.inl text)
    | answered frame rest =>
        obtain rfl := ReplyFrame.unique hframe frame
        exact ⟨_, rfl, rest⟩
    | unknown text rest => exact absurd text (ReplyFrame.ne_unknown hframe)
  · rintro ⟨rest, rfl, hrest⟩
    exact .answered hframe hrest

theorem activePart_unknown_iff (hline : line = profileStateUnknownLine) :
    ActivePart (some change) (.frame line :: items) said ↔
      ∃ rest, said = .profileStateUnknown :: rest ∧ EndPart items rest := by
  constructor
  · intro h
    cases h with
    | ended rest =>
        cases rest with
        | terminal frame rest => exact absurd frame (not_terminalFrame _ (Or.inr (Or.inr hline)))
    | answered frame rest => exact absurd hline (ReplyFrame.ne_unknown frame)
    | unknown text rest => exact ⟨_, rfl, rest⟩
  · rintro ⟨rest, rfl, hrest⟩
    exact .unknown hline hrest

/-- Any other line is not for a change. -/
theorem activePart_other_iff {pending : Option ProfileChange} (hok : line ≠ profileOkLine)
    (hfailed : line ≠ profileFailedLine) (hunknown : line ≠ profileStateUnknownLine) :
    ActivePart pending (.frame line :: items) said ↔ EndPart (.frame line :: items) said := by
  constructor
  · intro h
    cases h with
    | ended rest => exact rest
    | answered frame rest =>
        cases frame with
        | ok text => exact absurd text hok
        | failed text => exact absurd text hfailed
    | unknown text rest => exact absurd text hunknown
  · exact .ended

/-- With nothing pending, the Workload can only end. -/
theorem activePart_none_iff : ActivePart none (.frame line :: items) said ↔ EndPart (.frame line :: items) said := by
  constructor
  · intro h
    cases h with
    | ended rest => exact rest
  · exact .ended

theorem activePart_frame_iff (hstate : conversation.state = .active) :
    ActivePart conversation.pendingProfileChange (.frame line :: items) said ↔
    (conversation.receiveLine line).1.state ≠ .failed ∧ ∃ rest,
      said = (conversation.receiveLine line).2 :: rest ∧ (conversation.receiveLine line).1.Says items rest := by
  cases hreply : conversation.receiveReply line with
  | none =>
      rw [receiveLine_end (Or.inl hstate) hreply, ← endPart_frame_iff]
      cases hpending : conversation.pendingProfileChange with
      | none => exact activePart_none_iff
      | some change =>
          unfold receiveReply at hreply
          rw [hstate, hpending] at hreply
          dsimp only at hreply
          split at hreply
          · exact nomatch hreply
          · rename_i hok
            split at hreply
            · exact nomatch hreply
            · rename_i hfailed
              split at hreply
              · exact nomatch hreply
              · rename_i hunknown
                exact activePart_other_iff hok hfailed hunknown
  | some outcome =>
      have houtcome : conversation.receiveLine line = outcome := by
        unfold receiveLine
        rw [hreply]
      have hrest : ∀ rest, ({ conversation with pendingProfileChange := none } : SupervisorHelperConversation).Says
          items rest ↔ ActivePart none items rest := by
        intro rest
        unfold Says
        rw [hstate]
      have hgoing : conversation.state ≠ .failed := by
        rw [hstate]
        exact fun h => nomatch h
      obtain ⟨change, -, hpending, hline⟩ := receiveReply_some hreply
      rw [houtcome, hpending]
      rcases hline with ⟨hline, rfl⟩ | ⟨hline, rfl⟩ | ⟨hline, rfl⟩
      · rw [activePart_reply_iff (.ok hline)]
        simp only [hrest]
        exact (and_iff_right hgoing).symm
      · rw [activePart_reply_iff (.failed hline)]
        simp only [hrest]
        exact (and_iff_right hgoing).symm
      · have hend : ∀ rest, ({ conversation with pendingProfileChange := none, state := .profileStateUnknown } :
            SupervisorHelperConversation).Says items rest ↔ EndPart items rest := fun rest => Iff.rfl
        have hknown : SupervisorState.profileStateUnknown ≠ .failed := by decide
        rw [activePart_unknown_iff hline]
        simp only [hend]
        exact (and_iff_right hknown).symm

/-- What can be said from a state begins with a frame that the state takes, and goes on from where it leads. -/
theorem says_frame_iff (hwaits : conversation.Waits) : conversation.Says (.frame line :: items) said ↔
    (conversation.receiveLine line).1.state ≠ .failed ∧ ∃ rest,
      said = (conversation.receiveLine line).2 :: rest ∧ (conversation.receiveLine line).1.Says items rest := by
  have hsettled : conversation.state ≠ .active → conversation.pendingProfileChange = none := by
    intro hstate
    by_contra hsome
    exact hstate (hwaits (Option.ne_none_iff_isSome.mp hsome))
  rw [Says]
  cases hstate : conversation.state with
  | waitingForReady => exact spoken_frame_iff hstate
  | waitingForActivation => exact startPart_frame_iff hstate (hsettled (by rw [hstate]; exact fun h => nomatch h))
  | active => exact activePart_frame_iff hstate
  | profileStateUnknown =>
      have hreply := receiveReply_none (hsettled (by rw [hstate]; exact fun h => nomatch h)) line
      rw [receiveLine_end (Or.inr hstate) hreply]
      exact endPart_frame_iff conversation
  | waitingForCleanup => exact cleanupPart_frame_iff hstate
  | finished =>
      rw [receiveLine_over (Or.inl hstate)]
      exact ⟨(fun h => nomatch h.1), fun h => absurd rfl h.1⟩
  | failed =>
      rw [receiveLine_over (Or.inr hstate)]
      exact ⟨False.elim, fun h => absurd rfl h.1⟩

theorem says_nil_iff : conversation.Says [] said ↔ conversation.state ≠ .failed ∧ said = [] := by
  rw [Says]
  cases hstate : conversation.state with
  | waitingForReady =>
      refine ⟨fun h => ⟨(fun h => nomatch h), ?_⟩, ?_⟩
      · cases h
        rfl
      · rintro ⟨-, rfl⟩
        exact .nothing
  | waitingForActivation =>
      refine ⟨fun h => ⟨(fun h => nomatch h), ?_⟩, ?_⟩
      · cases h
        rfl
      · rintro ⟨-, rfl⟩
        exact .nothing
  | active =>
      generalize conversation.pendingProfileChange = pending
      refine ⟨fun h => ⟨(fun h => nomatch h), ?_⟩, ?_⟩
      · cases h with
        | ended rest =>
            cases rest
            rfl
      · rintro ⟨-, rfl⟩
        exact .ended .nothing
  | profileStateUnknown =>
      refine ⟨fun h => ⟨(fun h => nomatch h), ?_⟩, ?_⟩
      · cases h
        rfl
      · rintro ⟨-, rfl⟩
        exact .nothing
  | waitingForCleanup =>
      refine ⟨fun h => ⟨(fun h => nomatch h), ?_⟩, ?_⟩
      · cases h
        rfl
      · rintro ⟨-, rfl⟩
        exact .nothing
  | finished => exact ⟨fun h => ⟨(fun h => nomatch h), h.2⟩, fun h => ⟨rfl, h.2⟩⟩
  | failed => exact ⟨False.elim, fun h => absurd rfl h.1⟩

/-- After any frame nothing is pending. -/
theorem receiveLine_settles (hwaits : conversation.Waits) (line : Bytes) :
    (conversation.receiveLine line).1.pendingProfileChange = none := by
  by_cases hready : conversation.state = .waitingForReady
  · have hnone : conversation.pendingProfileChange = none := by
      by_contra hsome
      exact nomatch hready.symm.trans (hwaits (Option.ne_none_iff_isSome.mp hsome))
    rw [receiveLine_waitingForReady hready]
    split
    · exact hnone
    · rfl
  · exact ((receiveLine_first ⟨hready, hwaits⟩ line).settled ⟨hready, hwaits⟩).1

end Frames

/-! ### One change -/

section Sent

variable [DecimalText] {conversation : SupervisorHelperConversation} {change : ProfileChange}
  {items : List ConversationItem} {said : List HelperConversationEvent}

/-- A change is sent while the Workload runs and nothing is pending, if it is legal. -/
theorem beginProfileChange_eq_some_iff {outcome : Bytes × SupervisorHelperConversation} :
    conversation.beginProfileChange change = some outcome ↔ conversation.state = .active ∧
      conversation.pendingProfileChange = none ∧ change.Legal ∧
      outcome = (serializeProfileChange change, { conversation with pendingProfileChange := some change }) := by
  have hlegal : serializeProfileChange change = [] ↔ ¬ change.Legal := by
    constructor
    · intro hnil h
      obtain ⟨line, -, hline, -⟩ := coded_of_legal h
      rw [show helperRuntimeCommandMessage (.profileChange change) = serializeProfileChange change from rfl, hnil] at hline
      exact List.append_ne_nil_of_right_ne_nil line (List.cons_ne_nil newline []) hline.symm
    · intro hillegal
      unfold serializeProfileChange
      split
      · rfl
      · exact absurd (legal_of_applyProfileChange validate_default ‹_›).1 hillegal
  rw [beginProfileChange, Option.ite_none_left_eq_some, not_or, not_not, Bool.not_eq_true, Option.isSome_eq_false_iff,
    Option.isNone_iff_eq_none, and_assoc]
  refine and_congr_right fun _ => and_congr_right fun _ => ?_
  dsimp only
  rw [Option.ite_none_left_eq_some, hlegal, not_not, Option.some.injEq, eq_comm]

/-- A change stands among what is said only where it can be sent. -/
theorem says_sent_iff : conversation.Says (.sent change :: items) said ↔
    ∃ outcome, conversation.beginProfileChange change = some outcome ∧ outcome.2.Says items said := by
  simp only [beginProfileChange_eq_some_iff]
  rw [Says]
  cases hstate : conversation.state with
  | active =>
      cases hpending : conversation.pendingProfileChange with
      | none =>
          constructor
          · intro h
            cases h with
            | ended rest => cases rest
            | sent legal rest =>
                refine ⟨_, ⟨rfl, rfl, legal, rfl⟩, ?_⟩
                rw [Says]
                exact rest
          · rintro ⟨_, ⟨-, -, hlegal, rfl⟩, hrest⟩
            rw [Says] at hrest
            exact .sent hlegal hrest
      | some pending =>
          constructor
          · intro h
            cases h with
            | ended rest => cases rest
          · rintro ⟨_, ⟨-, hnone, -⟩, -⟩
            exact nomatch hnone
  | waitingForReady => exact ⟨(fun h => by cases h), fun ⟨_, h, _⟩ => nomatch h.1⟩
  | waitingForActivation => exact ⟨(fun h => by cases h), fun ⟨_, h, _⟩ => nomatch h.1⟩
  | profileStateUnknown => exact ⟨(fun h => by cases h), fun ⟨_, h, _⟩ => nomatch h.1⟩
  | waitingForCleanup => exact ⟨(fun h => by cases h), fun ⟨_, h, _⟩ => nomatch h.1⟩
  | finished => exact ⟨(fun h => nomatch h.1), fun ⟨_, h, _⟩ => nomatch h.1⟩
  | failed => exact ⟨False.elim, fun ⟨_, h, _⟩ => nomatch h.1⟩

end Sent

end SupervisorHelperConversation

end NetLagLab
