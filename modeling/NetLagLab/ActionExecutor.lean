import NetLagLab.ControlPlaneHistory
import NetLagLab.FrameLanguage
import NetLagLab.SessionExecution

/-! The control plane and the conversation with the helper, joined by the executor of their actions: whatever
becomes of the texts, the two agree on the change in flight. -/

namespace NetLagLab

open ByteLines ControllerControlPlane ControlHistory

namespace SupervisorHelperConversation

/-- One complete frame of the helper. -/
def receiveFrame (conversation : SupervisorHelperConversation) (line : Bytes) :
    SupervisorHelperConversation × HelperConversationEvent :=
  if maximumHelperMessageSize < line.length then (lost, .conversationLost) else conversation.receiveLine line

/-- A read that brings one frame does what that frame does. -/
theorem receiveBytes_frame {conversation : SupervisorHelperConversation} (hbuffer : conversation.buffer = [])
    (hstate : conversation.state ≠ .failed) {line : Bytes} (hline : newline ∉ line) :
    (conversation.receiveBytes (line ++ [newline])).2 = [(conversation.receiveFrame line).2] ∧
      (conversation.receiveBytes (line ++ [newline])).1.state = (conversation.receiveFrame line).1.state ∧
      ((conversation.receiveFrame line).1.state ≠ .failed →
        (conversation.receiveBytes (line ++ [newline])).1 = { (conversation.receiveFrame line).1 with buffer := [] }) := by
  have hsplit : splitLines (conversation.buffer ++ (line ++ [newline])) = ([line], []) := by
    rw [hbuffer, List.nil_append]
    exact splitAtMark_piece hline []
  unfold receiveBytes receiveFrame
  rw [if_neg hstate, hsplit]
  dsimp only
  unfold receiveLines
  by_cases hlong : maximumHelperMessageSize < line.length
  · rw [if_pos hlong, if_pos hlong]
    exact ⟨rfl, rfl, fun hopen => absurd rfl hopen⟩
  · rw [if_neg hlong, if_neg hlong]
    by_cases hfailed : (conversation.receiveLine line).1.state = .failed
    · rw [if_pos hfailed]
      exact ⟨rfl, hfailed.symm, fun hopen => absurd hfailed hopen⟩
    · rw [if_neg hfailed]
      unfold receiveLines
      dsimp only
      rw [if_neg hfailed]
      exact ⟨rfl, rfl, fun _ => rfl⟩

end SupervisorHelperConversation

/-- The event of the control plane that an event of the helper stands for. -/
def controlPlaneEvent : HelperConversationEvent → Option ControlPlaneEvent
  | .profileChangeResult result change =>
      some (.helperProfileChangeResult (SessionAdapter.controlPlaneResult result) change)
  | .profileStateUnknown => some .helperProfileStateUnknown
  | .workloadExited _ => some .workloadTerminal
  | .workloadSignaled _ => some .workloadTerminal
  | _ => none

/-- What a batch can be about. -/
inductive ExecutorInput where
  | attach (connection : Connection)
  | receive (bytes : Bytes)
  | disconnect
  | interrupt
  | frame (line : Bytes)
  | helperClosed

namespace SessionLinks

/-- The links when an input has come in, and the event that the control plane is told of. -/
def take (links : SessionLinks) : ExecutorInput → SessionLinks × Option ControlPlaneEvent
  | .attach connection => ({ links with controller := some connection }, some .controllerAttached)
  | .receive bytes => (links, some (.controllerBytesReceived bytes))
  | .disconnect => ({ links with controller := none }, some .controllerDisconnected)
  | .interrupt => (links, some .sessionStopping)
  | .frame line =>
      ({ links with conversation := (links.conversation.receiveFrame line).1 },
        controlPlaneEvent (links.conversation.receiveFrame line).2)
  | .helperClosed => ({ links with conversation := links.conversation.peerClosed.1 }, none)

variable [DecimalText]

/-- The control plane has handled an event. The sends to the Controller will have the results, those to the
helper succeed. -/
def handling (links : SessionLinks) (event : ControlPlaneEvent) (results : List Bool) : SessionLinks :=
  { links with
    controlPlane := (links.controlPlane.handle event).1
    sends := ⟨results, []⟩ }

/-- The control plane is told of an event, and its batch is executed. -/
def executeBatch (links : SessionLinks) (event : ControlPlaneEvent) (results : List Bool) :
    SessionLinks × List LifecycleEvent :=
  executeControlPlaneActions (links.controlPlane.handle event).2 (links.handling event results)

/-- An input and the batch it leads to. -/
def turn (links : SessionLinks) (input : ExecutorInput) (results : List Bool) :
    SessionLinks × List LifecycleEvent :=
  match (links.take input).2 with
  | none => ((links.take input).1, [])
  | some event => (links.take input).1.executeBatch event results

/-- The links of a Workload that has just become active. -/
def activated (workloadPid : Int) (childArguments : List Bytes) : SessionLinks where
  controlPlane := { workloadPid := workloadPid, childArguments := childArguments }
  controller := none
  conversation := { state := .active }
  sends := {}
  texts := []
  commands := []

end SessionLinks

/-- One turn of the executor. -/
structure ExecutorTurn where
  before : SessionLinks
  input : ExecutorInput
  results : List Bool
  after : SessionLinks
  events : List LifecycleEvent

/-- The turns from the activation on, with any inputs and any results of the sends to the Controller; a
Controller is accepted only while there is none. -/
inductive ExecutorRun [DecimalText] (workloadPid : Int) (childArguments : List Bytes) :
    List ExecutorTurn → SessionLinks → Prop
  | start : ExecutorRun workloadPid childArguments [] (.activated workloadPid childArguments)
  | turn {turns : List ExecutorTurn} {links : SessionLinks}
      (earlier : ExecutorRun workloadPid childArguments turns links) (input : ExecutorInput) (results : List Bool)
      (free : ∀ connection, input = .attach connection → links.controller = none) :
      ExecutorRun workloadPid childArguments
        (turns ++ [⟨links, input, results, (links.turn input results).1, (links.turn input results).2⟩])
        (links.turn input results).1

/-! ### One batch -/

section Batches

variable [DecimalText] {batch : ActionBatch} {links after : SessionLinks} {plane : ControllerControlPlane}

/-- What executing a batch does: every text goes out and its dispatch, if it has one, is begun or refused; or
the Controller is dropped and nothing else happens. -/
inductive BatchResult (batch : ActionBatch) (links : SessionLinks) : SessionLinks → Prop
  | done {after : SessionLinks} (dispatch : batch.dispatch = none) (plane : after.controlPlane = links.controlPlane)
      (controller : after.controller = if batch.disconnect then none else links.controller)
      (conversation : after.conversation = links.conversation) : BatchResult batch links after
  | begun {after : SessionLinks} (change : ProfileChange) (frame : Bytes) (dispatch : batch.dispatch = some change)
      (plane : after.controlPlane = links.controlPlane)
      (controller : after.controller = if batch.disconnect then none else links.controller)
      (begins : links.conversation.beginProfileChange change = some (frame, after.conversation)) :
      BatchResult batch links after
  | refused {after : SessionLinks} (change : ProfileChange) (dispatch : batch.dispatch = some change)
      (plane : after.controlPlane = links.controlPlane)
      (controller : after.controller = if batch.disconnect then none else links.controller)
      (refuses : links.conversation.beginProfileChange change = none)
      (conversation : after.conversation = links.conversation) : BatchResult batch links after
  | dropped {after : SessionLinks} (plane : after.controlPlane = links.controlPlane.controllerWriteFailed)
      (controller : after.controller = none) (conversation : after.conversation = links.conversation) :
      BatchResult batch links after

theorem execute_batch (hcontroller : batch.texts ≠ [] → links.controller.isSome = true)
    (hhelper : links.sends.helper = []) :
    BatchResult batch links (executeControlPlaneActions batch.actions links).1 ∧
      (batch.stop = true → .stopRequested ∈ (executeControlPlaneActions batch.actions links).2) := by
  by_cases hsent : batch.sent links.sends.controller = true
  · obtain ⟨middle, hplane, hmiddle, hconversation, hcommands, hsends, hexecute⟩ := execute_sent hcontroller hsent
    rw [hexecute]
    refine ⟨?_, fun hstop => by simp [ActionBatch.stopEvents, hstop]⟩
    cases hdispatch : batch.dispatch with
    | none => exact .done hdispatch hplane hmiddle hconversation
    | some change =>
        change BatchResult batch links (executeControlPlaneActions [.dispatchProfileChange change] middle).1
        unfold executeControlPlaneActions
        rw [hconversation, hsends, hhelper]
        cases hbegin : links.conversation.beginProfileChange change with
        | none => exact .refused change hdispatch hplane hmiddle hbegin hconversation
        | some begun => exact .begun change begun.1 hdispatch hplane hmiddle hbegin
  · obtain ⟨last, hplane, hnone, hconversation, hcommands, hsends, hexecute⟩ :=
      execute_dropped hcontroller (Bool.eq_false_iff.mpr hsent)
    rw [hexecute]
    exact ⟨.dropped hplane hnone hconversation, fun hstop => by simp [ActionBatch.stopEvents, hstop]⟩

/-- An active conversation without a pending change takes every change that can be put on the wire. -/
theorem beginProfileChange_isSome {conversation : SupervisorHelperConversation} {change : ProfileChange}
    (hactive : conversation.state = .active) (hpending : conversation.pendingProfileChange = none)
    (hcanonical : change.Canonical) :
    conversation.beginProfileChange change =
      some (serializeProfileChange change, { conversation with pendingProfileChange := some change }) := by
  rw [SupervisorHelperConversation.beginProfileChange, if_neg (by simp [hactive, hpending])]
  exact if_neg (serializeProfileChange_ne_nil hcanonical)

theorem beginProfileChange_spec {conversation next : SupervisorHelperConversation} {change : ProfileChange}
    {frame : Bytes} (h : conversation.beginProfileChange change = some (frame, next)) :
    conversation.state = .active ∧ next = { conversation with pendingProfileChange := some change } := by
  unfold SupervisorHelperConversation.beginProfileChange at h
  split at h
  · cases h
  · rename_i hbegin
    rw [not_or, ne_eq, not_not] at hbegin
    dsimp only at h
    split at h
    · cases h
    · cases h
      exact ⟨hbegin.1, rfl⟩

end Batches

/-! ### What holds between batches -/

/-- The control plane and the conversation agree: on the change in flight while the conversation is active, and
on what has ended otherwise. -/
structure Agreeing (plane : ControllerControlPlane) (conversation : SupervisorHelperConversation)
    (inFlight : Option ProfileChange) : Prop where
  pending : conversation.pendingProfileChange.isSome = true → conversation.state = .active
  begun : conversation.state ≠ .waitingForReady ∧ conversation.state ≠ .waitingForActivation
  active : conversation.state = .active → inFlight = conversation.pendingProfileChange
  unknown : conversation.state = .profileStateUnknown → plane.profileStateFailed = true
  ended : conversation.state = .waitingForCleanup ∨ conversation.state = .finished → plane.workloadTerminal = true

structure Joined (links : SessionLinks) : Prop where
  inv : Inv links.controlPlane
  attached : links.controlPlane.controllerAttached = links.controller.isSome
  agreeing : Agreeing links.controlPlane links.conversation links.controlPlane.inFlightChange

theorem joined_activated (workloadPid : Int) (childArguments : List Bytes) :
    Joined (.activated workloadPid childArguments) where
  inv := inv_initial _ _
  attached := rfl
  agreeing := {
    pending := fun _ => rfl
    begun := ⟨(fun hstate => nomatch hstate), fun hstate => nomatch hstate⟩
    active := fun _ => rfl
    unknown := fun hstate => nomatch hstate
    ended := fun hstate => by rcases hstate with hstate | hstate <;> exact nomatch hstate }

/-- An input that the control plane is told of: what the links are when it handles the event. -/
structure Told (links : SessionLinks) (event : ControlPlaneEvent) : Prop where
  inv : Inv links.controlPlane
  ordinary : event ≠ .controllerWriteFailed
  free : event = .controllerAttached → links.controlPlane.controllerAttached = false
  attached : links.controlPlane.attachedAfter event = links.controller.isSome
  pending : links.conversation.pendingProfileChange.isSome = true → links.conversation.state = .active
  begun : links.conversation.state ≠ .waitingForReady ∧ links.conversation.state ≠ .waitingForActivation
  active : links.conversation.state = .active →
    links.controlPlane.remainingChange event = links.conversation.pendingProfileChange
  unknown : links.conversation.state = .profileStateUnknown →
    links.controlPlane.profileStateFailed = true ∨ event = .helperProfileStateUnknown
  ended : links.conversation.state = .waitingForCleanup ∨ links.conversation.state = .finished →
    links.controlPlane.workloadTerminal = true ∨ event = .workloadTerminal

section Inputs

variable {links : SessionLinks}

theorem Joined.told {controller : Option Connection} {event : ControlPlaneEvent} (h : Joined links)
    (hordinary : event ≠ .controllerWriteFailed)
    (hfree : event = .controllerAttached → links.controlPlane.controllerAttached = false)
    (hattached : links.controlPlane.attachedAfter event = controller.isSome)
    (hremaining : links.controlPlane.remainingChange event = links.controlPlane.inFlightChange) :
    Told { links with controller := controller } event where
  inv := h.inv
  ordinary := hordinary
  free := hfree
  attached := hattached
  pending := h.agreeing.pending
  begun := h.agreeing.begun
  active := fun hactive => hremaining.trans (h.agreeing.active hactive)
  unknown := fun hunknown => .inl (h.agreeing.unknown hunknown)
  ended := fun hended => .inl (h.agreeing.ended hended)

theorem Joined.lost (h : Joined links) : Joined { links with conversation := .lost } where
  inv := h.inv
  attached := h.attached
  agreeing := {
    pending := fun hsome => nomatch hsome
    begun := ⟨(fun hstate => nomatch hstate), fun hstate => nomatch hstate⟩
    active := fun hstate => nomatch hstate
    unknown := fun hstate => nomatch hstate
    ended := fun hstate => by rcases hstate with hstate | hstate <;> exact nomatch hstate }

/-- What a frame can be once the Workload has become active. -/
inductive FrameEvent (conversation next : SupervisorHelperConversation) : HelperConversationEvent → Prop
  | result (result : ProfileChangeResult) (change : ProfileChange) (before : conversation.state = .active)
      (pending : conversation.pendingProfileChange = some change)
      (after : next = { conversation with pendingProfileChange := none }) :
      FrameEvent conversation next (.profileChangeResult result change)
  | unknown (after : next.state = .profileStateUnknown) (settled : next.pendingProfileChange = none) :
      FrameEvent conversation next .profileStateUnknown
  | ended {event : HelperConversationEvent} (terminal : controlPlaneEvent event = some .workloadTerminal)
      (after : next.state = .waitingForCleanup) (settled : next.pendingProfileChange = none) :
      FrameEvent conversation next event
  | cleaned {event : HelperConversationEvent} (silent : controlPlaneEvent event = none)
      (before : conversation.state = .waitingForCleanup) (after : next.state = .finished)
      (settled : next.pendingProfileChange = none) : FrameEvent conversation next event
  | lost (after : next = .lost) : FrameEvent conversation next .conversationLost

theorem frameEvent_receiveTerminal (conversation : SupervisorHelperConversation) (line : Bytes) :
    FrameEvent conversation (conversation.receiveTerminal line).1 (conversation.receiveTerminal line).2 := by
  rcases conversation.receiveTerminal_cases line with ⟨event, hframe, -, hterminal⟩ | ⟨-, hterminal⟩
  · rw [hterminal]
    cases hframe with
    | exited value => exact .ended rfl rfl rfl
    | signaled value => exact .ended rfl rfl rfl
  · rw [hterminal]
    exact .lost rfl

theorem receiveFrame_cases {conversation : SupervisorHelperConversation} (line : Bytes)
    (hpending : conversation.pendingProfileChange.isSome = true → conversation.state = .active)
    (hbegun : conversation.state ≠ .waitingForReady ∧ conversation.state ≠ .waitingForActivation) :
    FrameEvent conversation (conversation.receiveFrame line).1 (conversation.receiveFrame line).2 := by
  have hnone : conversation.state ≠ .active → conversation.pendingProfileChange = none := by
    intro hstate
    by_contra hsome
    exact hstate (hpending (Option.ne_none_iff_isSome.mp hsome))
  unfold SupervisorHelperConversation.receiveFrame
  split
  · exact .lost rfl
  · unfold SupervisorHelperConversation.receiveLine
    cases hreply : conversation.receiveReply line with
    | some outcome =>
        obtain ⟨change, hstate, hchange, hline⟩ := SupervisorHelperConversation.receiveReply_some hreply
        dsimp only
        rcases hline with ⟨_, rfl⟩ | ⟨_, rfl⟩ | ⟨_, rfl⟩
        · exact .result .applied change hstate hchange rfl
        · exact .result .restoredAfterFailure change hstate hchange rfl
        · exact .unknown rfl rfl
    | none =>
        dsimp only
        split
        · exact .lost rfl
        · split
          · exact absurd ‹_› hbegun.1
          · exact absurd ‹_› hbegun.2
          · exact frameEvent_receiveTerminal conversation line
          · exact frameEvent_receiveTerminal conversation line
          · rename_i hstate
            have hsettled := hnone (by rw [hstate]; decide)
            split
            · exact .cleaned rfl hstate rfl hsettled
            · split
              · exact .cleaned rfl hstate rfl hsettled
              · exact .lost rfl
          · exact .lost rfl
          · exact .lost rfl

/-- A frame of the helper leads to an event that the control plane is told of, or ends without one. -/
theorem Joined.frame (h : Joined links) (line : Bytes) :
    match controlPlaneEvent (links.conversation.receiveFrame line).2 with
    | some event => Told { links with conversation := (links.conversation.receiveFrame line).1 } event
    | none => Joined { links with conversation := (links.conversation.receiveFrame line).1 } := by
  have hcases := receiveFrame_cases line h.agreeing.pending h.agreeing.begun
  generalize (links.conversation.receiveFrame line).1 = next at hcases ⊢
  generalize (links.conversation.receiveFrame line).2 = event at hcases ⊢
  cases hcases with
  | result result change before pending after =>
      have hinFlight := (h.agreeing.active before).trans pending
      have hcanonical : change.Canonical := by
        obtain ⟨inFlight, hsome, rfl⟩ := Option.map_eq_some_iff.mp hinFlight
        exact h.inv.canonical inFlight hsome
      subst after
      exact {
        inv := h.inv
        ordinary := by simp
        free := fun hevent => by cases hevent
        attached := h.attached
        pending := fun hsome => by cases hsome
        begun := h.agreeing.begun
        active := fun _ => by
          rw [remainingChange, hinFlight, Option.filter_some, ProfileChange.same_self hcanonical.legal]
          rfl
        unknown := fun hunknown => by cases hunknown.symm.trans before
        ended := fun hended => by rcases hended with hended | hended <;> cases hended.symm.trans before }
  | unknown after settled =>
      exact {
        inv := h.inv
        ordinary := by simp
        free := fun hevent => by cases hevent
        attached := h.attached
        pending := fun hsome => absurd hsome (by rw [settled]; decide)
        begun := by rw [after]; exact ⟨by decide, by decide⟩
        active := fun hactive => by cases hactive.symm.trans after
        unknown := fun _ => .inr rfl
        ended := fun hended => by rcases hended with hended | hended <;> cases hended.symm.trans after }
  | ended terminal after settled =>
      rw [terminal]
      exact {
        inv := h.inv
        ordinary := by simp
        free := fun hevent => by cases hevent
        attached := h.attached
        pending := fun hsome => absurd hsome (by rw [settled]; decide)
        begun := by rw [after]; exact ⟨by decide, by decide⟩
        active := fun hactive => by cases hactive.symm.trans after
        unknown := fun hunknown => by cases hunknown.symm.trans after
        ended := fun _ => .inr rfl }
  | cleaned silent before after settled =>
      rw [silent]
      exact { h with
        agreeing := {
          pending := fun hsome => absurd hsome (by rw [settled]; decide)
          begun := by rw [after]; exact ⟨by decide, by decide⟩
          active := fun hactive => by cases hactive.symm.trans after
          unknown := fun hunknown => by cases hunknown.symm.trans after
          ended := fun _ => h.agreeing.ended (.inl before) } }
  | lost after =>
      subst after
      exact h.lost

/-- An input leads to an event that the control plane is told of, or to nothing. -/
theorem Joined.take (h : Joined links) (input : ExecutorInput)
    (hfree : ∀ connection, input = .attach connection → links.controller = none) :
    match (links.take input).2 with
    | some event => Told (links.take input).1 event
    | none => Joined (links.take input).1 := by
  cases input with
  | attach connection =>
      have hdetached : links.controlPlane.controllerAttached = false := by
        rw [h.attached, hfree connection rfl]
        rfl
      exact h.told (by decide) (fun _ => hdetached) rfl rfl
  | receive bytes => exact h.told (by simp) (fun hevent => nomatch hevent) h.attached rfl
  | disconnect => exact h.told (by decide) (fun hevent => nomatch hevent) rfl rfl
  | interrupt => exact h.told (by decide) (fun hevent => nomatch hevent) h.attached rfl
  | frame line => exact h.frame line
  | helperClosed =>
      change Joined { links with conversation := links.conversation.peerClosed.1 }
      unfold SupervisorHelperConversation.peerClosed
      split
      · exact h
      · split
        · exact h
        · exact h.lost

end Inputs

/-! ### The batch of an event -/

section Execution

variable [DecimalText] {links : SessionLinks} {event : ControlPlaneEvent} {received : List ControllerCommand}
  {batch : ActionBatch}

/-- In a conversation that is not lost no dispatch is refused. -/
theorem Told.begins (h : Told links event) (htaken : Taken ⟨links.controlPlane, event,
      (links.controlPlane.handle event).2, (links.controlPlane.handle event).1⟩ received batch)
    (hopen : links.conversation.state ≠ .failed) {change : ProfileChange} (hdispatch : batch.dispatch = some change) :
    (links.conversation.beginProfileChange change).isSome = true := by
  obtain ⟨hstopping, hterminal, hfailed⟩ := htaken.dispatch_going hdispatch
  have houtcome := htaken.outcome h.ordinary
  have hactive : links.conversation.state = .active := by
    cases hstate : links.conversation.state with
    | active => rfl
    | waitingForReady => exact absurd hstate h.begun.1
    | waitingForActivation => exact absurd hstate h.begun.2
    | failed => exact absurd hstate hopen
    | profileStateUnknown =>
        rcases h.unknown hstate with hbefore | rfl
        · exact absurd ((houtcome.stillFailed hbefore).symm.trans hfailed) (by decide)
        · exact absurd (hfailed.symm.trans houtcome.marked) (by decide)
    | waitingForCleanup =>
        exact absurd (htaken.progress.terminal.mpr (h.ended (.inl hstate))) (by rw [hterminal]; decide)
    | finished =>
        exact absurd (htaken.progress.terminal.mpr (h.ended (.inr hstate))) (by rw [hterminal]; decide)
  have hpending : links.conversation.pendingProfileChange = none :=
    (h.active hactive).symm.trans (htaken.dispatch_free hdispatch)
  have hcanonical : change.Canonical :=
    (inFlightChange_of_pendingDispatch (houtcome.pending.symm.trans hdispatch)).2.2 houtcome.inv
  rw [beginProfileChange_isSome hactive hpending hcanonical]
  rfl

theorem Told.agreeing (h : Told links event) (htaken : Taken ⟨links.controlPlane, event,
      (links.controlPlane.handle event).2, (links.controlPlane.handle event).1⟩ received batch) :
    Agreeing (links.controlPlane.handle event).1 links.conversation (links.controlPlane.remainingChange event) where
  pending := h.pending
  begun := h.begun
  active := h.active
  unknown := fun hunknown => by
    have houtcome := htaken.outcome h.ordinary
    rcases h.unknown hunknown with hbefore | rfl
    · exact houtcome.stillFailed hbefore
    · exact houtcome.marked
  ended := fun hended => htaken.progress.terminal.mpr (h.ended hended)

/-- After its batch the two agree again, and a change that the event has not ended is still in flight. -/
theorem Told.joined (h : Told links event) (htaken : Taken ⟨links.controlPlane, event,
      (links.controlPlane.handle event).2, (links.controlPlane.handle event).1⟩ received batch)
    {results : List Bool} {after : SessionLinks} (hresult : BatchResult batch (links.handling event results) after) :
    Joined after ∧ ∀ change, links.controlPlane.remainingChange event = some change →
      after.controlPlane.inFlightChange = some change := by
  have houtcome := htaken.outcome h.ordinary
  have hagreeing := h.agreeing htaken
  have hattached : ∀ {controller : Option Connection},
      controller = (if batch.disconnect then none else links.controller) →
      (links.controlPlane.handle event).1.controllerAttached = controller.isSome := by
    rintro controller rfl
    rw [houtcome.attached, h.attached]
    cases batch.disconnect
    · exact Bool.and_true _
    · exact Bool.and_false _
  cases hresult with
  | done dispatch plane controller conversation =>
      replace plane : after.controlPlane = (links.controlPlane.handle event).1 := plane
      replace conversation : after.conversation = links.conversation := conversation
      have hinFlight : after.controlPlane.inFlightChange = links.controlPlane.remainingChange event := by
        rw [plane, ← settledChange_of_pendingDispatch (houtcome.pending.symm.trans dispatch), houtcome.settled]
      refine ⟨⟨plane ▸ houtcome.inv, plane ▸ hattached controller, ?_⟩, fun change hchange => hinFlight.trans hchange⟩
      rw [hinFlight, conversation, plane]
      exact hagreeing
  | begun change frame dispatch plane controller begins =>
      replace plane : after.controlPlane = (links.controlPlane.handle event).1 := plane
      replace begins : links.conversation.beginProfileChange change = some (frame, after.conversation) := begins
      have hfree := htaken.dispatch_free dispatch
      have hinFlight := (inFlightChange_of_pendingDispatch (houtcome.pending.symm.trans dispatch)).1
      obtain ⟨hactive, hbegun⟩ := beginProfileChange_spec begins
      refine ⟨⟨plane ▸ houtcome.inv, plane ▸ hattached controller, ?_⟩, fun other hother =>
        nomatch hfree.symm.trans hother⟩
      rw [plane, hinFlight, hbegun]
      exact {
        pending := fun _ => hactive
        begun := h.begun
        active := fun _ => rfl
        unknown := fun hunknown => nomatch hunknown.symm.trans hactive
        ended := fun hended => by rcases hended with hended | hended <;> exact nomatch hended.symm.trans hactive }
  | refused change dispatch plane controller refuses conversation =>
      -- only a lost conversation refuses, and nothing is asked of it
      replace plane : after.controlPlane = (links.controlPlane.handle event).1 := plane
      replace conversation : after.conversation = links.conversation := conversation
      have hlost : links.conversation.state = .failed := by
        by_contra hopen
        have hbegins := h.begins htaken hopen dispatch
        rw [show links.conversation.beginProfileChange change = none from refuses] at hbegins
        exact nomatch hbegins
      have hfree := htaken.dispatch_free dispatch
      refine ⟨⟨plane ▸ houtcome.inv, plane ▸ hattached controller, ?_⟩, fun other hother =>
        nomatch hfree.symm.trans hother⟩
      rw [conversation]
      exact {
        pending := h.pending
        begun := h.begun
        active := fun hactive => nomatch hactive.symm.trans hlost
        unknown := fun hunknown => nomatch hunknown.symm.trans hlost
        ended := fun hended => by rcases hended with hended | hended <;> exact nomatch hended.symm.trans hlost }
  | dropped plane controller conversation =>
      replace plane : after.controlPlane = (links.controlPlane.handle event).1.controllerWriteFailed := plane
      replace conversation : after.conversation = links.conversation := conversation
      have hinFlight : after.controlPlane.inFlightChange = links.controlPlane.remainingChange event := by
        rw [plane, inFlightChange_controllerWriteFailed, houtcome.settled]
      refine ⟨⟨plane ▸ inv_controllerWriteFailed houtcome.inv, ?_, ?_⟩, fun change hchange => hinFlight.trans hchange⟩
      · rw [plane, controller]
        rfl
      · rw [hinFlight, conversation, plane]
        exact { hagreeing with }

theorem Told.execute (h : Told links event) (results : List Bool) :
    Joined (links.executeBatch event results).1 ∧
    (∀ change, links.controlPlane.remainingChange event = some change →
      (links.executeBatch event results).1.controlPlane.inFlightChange = some change) ∧
    (links.conversation.state ≠ .failed → ∀ change,
      .dispatchProfileChange change ∈ (links.controlPlane.handle event).2 →
      (links.conversation.beginProfileChange change).isSome = true) ∧
    (.requestLifecycleStop ∈ (links.controlPlane.handle event).2 →
      .stopRequested ∈ (links.executeBatch event results).2) := by
  obtain ⟨received, batch, htaken⟩ := taken_handle h.inv event h.free
  have hactions : (links.controlPlane.handle event).2 = batch.actions := htaken.actions
  have hcontroller : batch.texts ≠ [] → (links.handling event results).controller.isSome = true := by
    intro htexts
    by_contra hnone
    have hdetached : links.controller.isSome = false := Bool.eq_false_iff.mpr hnone
    rw [← h.attached] at hdetached
    exact htexts ((htaken.outcome h.ordinary).silent hdetached).1
  obtain ⟨hresult, hstopped⟩ := execute_batch hcontroller rfl
  have hjoined := h.joined htaken hresult
  unfold SessionLinks.executeBatch
  rw [hactions]
  exact ⟨hjoined.1, hjoined.2, fun hopen change hdispatch =>
    h.begins htaken hopen (batch.dispatchProfileChange_mem.mp hdispatch),
    fun hstop => hstopped (batch.requestLifecycleStop_mem.mp hstop)⟩

end Execution

/-! ### Runs of the executor -/

section Runs

variable [DecimalText] {workloadPid : Int} {childArguments : List Bytes} {turns : List ExecutorTurn}
  {links : SessionLinks}

theorem Joined.turn (h : Joined links) (input : ExecutorInput) (results : List Bool)
    (hfree : ∀ connection, input = .attach connection → links.controller = none) :
    Joined (links.turn input results).1 := by
  have htake := h.take input hfree
  unfold SessionLinks.turn
  cases hevent : (links.take input).2 with
  | none =>
      rw [hevent] at htake
      exact htake
  | some event =>
      rw [hevent] at htake
      exact (Told.execute htake results).1

theorem ExecutorRun.joined (h : ExecutorRun workloadPid childArguments turns links) : Joined links := by
  induction h with
  | start => exact joined_activated workloadPid childArguments
  | turn earlier input results free ih => exact ih.turn input results free

/-- Every turn starts from joined links, with a Controller accepted only while there is none. -/
theorem ExecutorRun.of_mem {turn : ExecutorTurn} (h : ExecutorRun workloadPid childArguments turns links)
    (hmem : turn ∈ turns) : Joined turn.before ∧
      (∀ connection, turn.input = .attach connection → turn.before.controller = none) ∧
      (turn.after, turn.events) = turn.before.turn turn.input turn.results := by
  induction h with
  | start => exact absurd hmem List.not_mem_nil
  | turn earlier input results free ih =>
      rcases List.mem_append.mp hmem with hearlier | hlast
      · exact ih hearlier
      · rw [List.mem_singleton.mp hlast]
        exact ⟨earlier.joined, free, rfl⟩

omit [DecimalText] in
theorem remainingChange_of_other {plane : ControllerControlPlane} {event : ControlPlaneEvent} {change : ProfileChange}
    (hcurrent : plane.inFlightChange = some change)
    (hother : ∀ result carried, event = .helperProfileChangeResult result carried → change.same carried = false) :
    plane.remainingChange event = some change := by
  unfold remainingChange
  split
  · rename_i result carried
    rw [hcurrent, Option.filter_some, hother result carried rfl]
    rfl
  · exact hcurrent

omit [DecimalText] in
theorem controlPlane_take (links : SessionLinks) (input : ExecutorInput) :
    (links.take input).1.controlPlane = links.controlPlane := by
  cases input <;> rfl

end Runs

/-- After every batch of a run, whichever texts could be sent: while the conversation with the helper is active,
the change in flight is its pending one; a change dispatched before stays in flight until its own result; no
dispatch is refused by a conversation that is not lost; and a stop that is requested is reported. -/
theorem executeControlPlaneActions_consistent [DecimalText] {workloadPid : Int} {childArguments : List Bytes}
    {turns : List ExecutorTurn} {links : SessionLinks}
    (h : ExecutorRun workloadPid childArguments turns links) :
    ∀ turn ∈ turns,
      (turn.after.conversation.state = .active →
        turn.after.controlPlane.inFlightChange = turn.after.conversation.pendingProfileChange) ∧
      (∀ change, turn.before.controlPlane.inFlightChange = some change →
        (∀ result carried, (turn.before.take turn.input).2 = some (.helperProfileChangeResult result carried) →
          change.same carried = false) →
        turn.after.controlPlane.inFlightChange = some change) ∧
      ∀ event, (turn.before.take turn.input).2 = some event →
        ((turn.before.take turn.input).1.conversation.state ≠ .failed → ∀ change,
          .dispatchProfileChange change ∈ (turn.before.controlPlane.handle event).2 →
          ((turn.before.take turn.input).1.conversation.beginProfileChange change).isSome = true) ∧
        (.requestLifecycleStop ∈ (turn.before.controlPlane.handle event).2 → .stopRequested ∈ turn.events) := by
  intro turn hturn
  obtain ⟨hbefore, hfree, heq⟩ := h.of_mem hturn
  unfold SessionLinks.turn at heq
  obtain ⟨hafter, hevents⟩ := Prod.mk.inj heq
  have hjoined := hbefore.turn turn.input turn.results hfree
  have hagreeing : Joined turn.after := hafter ▸ hjoined
  have htake := hbefore.take turn.input hfree
  have hplane := controlPlane_take turn.before turn.input
  refine ⟨hagreeing.agreeing.active, ?_⟩
  cases hevent : (turn.before.take turn.input).2 with
  | none =>
      rw [hevent] at hafter
      refine ⟨fun change hcurrent hother => ?_, fun event hsome => nomatch hsome⟩
      rw [hafter, hplane]
      exact hcurrent
  | some event =>
      rw [hevent] at hafter hevents htake
      obtain ⟨-, hkept, hbegins, hstops⟩ := Told.execute htake turn.results
      rw [hplane] at hkept hbegins hstops
      refine ⟨fun change hcurrent hother => ?_, ?_⟩
      · rw [hafter]
        refine hkept change (remainingChange_of_other hcurrent fun result carried hresult => ?_)
        exact hother result carried (congrArg some hresult)
      · rintro _ ⟨⟩
        exact ⟨hbegins, fun hstop => hevents ▸ hstops hstop⟩

section Sample

attribute [local instance] bitPatternText

/-- A Controller that cannot be written to: its change is taken back with the failed text. The next one's change
stays in flight when the answer to its stop fails. -/
theorem executeControlPlaneActions_consistent_unsent :
    ∃ turns links, ExecutorRun 41 [] turns links ∧
      turns.map (fun turn => turn.after.controlPlane.inFlightChange) =
        [none, none, none, some (.setDelay .outbound 5), some (.setDelay .outbound 5)] ∧
      turns.map (fun turn => turn.after.conversation.pendingProfileChange) =
        [none, none, none, some (.setDelay .outbound 5), some (.setDelay .outbound 5)] ∧
      ∀ turn ∈ turns, turn.after.conversation.state = .active →
        turn.after.controlPlane.inFlightChange = turn.after.conversation.pendingProfileChange := by
  have hstart : ExecutorRun 41 [] [] _ := .start
  have hrun := ((((hstart.turn (.attach 0) [] fun _ _ => rfl).turn
    (.receive (ascii "help\nset outbound delay 5\n")) [false] fun _ h => nomatch h).turn
    (.attach 1) [] fun _ _ => by decide).turn
    (.receive (ascii "set outbound delay 5\n")) [] fun _ h => nomatch h).turn
    (.receive (ascii "stop\n")) [false] fun _ h => nomatch h
  exact ⟨_, _, hrun, by decide, by decide,
    fun turn hturn => (executeControlPlaneActions_consistent hrun turn hturn).1⟩

end Sample

end NetLagLab
