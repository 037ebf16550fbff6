import NetLagLab.ReadGroups

/-! How the bytes of the helper are cut into reads. However they are cut, the reads lead to what one
frame per read leads to, unless the end of a change dispatches a queued one and the same read carries
on to the end of the Workload. -/

namespace NetLagLab

open ByteLines
open HelperRuntimeConversation (profileOkLine profileFailedLine replyLine)

section

variable [DecimalText]

/-! ### What the helper can have sent -/

/-- A reply, the end of the Workload and the result of the cleanup, in this order. -/
structure HelperFrames where
  reply : Option ProfileChangeCompletion := none
  terminal : Option HelperConversationEvent := none
  cleanup : Option HelperConversationEvent := none

namespace HelperFrames

/-- The lines after the reply. -/
def lateLines (frames : HelperFrames) : List Bytes :=
  (frames.terminal.toList ++ frames.cleanup.toList).filterMap helperConversationEventLine

def lines (frames : HelperFrames) : List Bytes :=
  frames.reply.toList.map replyLine ++ frames.lateLines

/-- The frames that the helper can already have sent: a reply only to a pending change, the end of a
Workload that is not reported finished, and a cleanup only after that. -/
structure CanHaveBeenSent (frames : HelperFrames) (conversation : SupervisorHelperConversation) : Prop where
  activated : conversation.state ≠ .waitingForActivation
  reply : frames.reply.isSome = true → conversation.pendingProfileChange.isSome = true
  terminal : ∀ event, frames.terminal = some event → event.EndsWorkload ∧
    (conversation.state = .active ∨ conversation.state = .profileStateUnknown ∨
      conversation.state = .failed)
  cleanup : ∀ event, frames.cleanup = some event → event.EndsCleanup ∧
    (frames.terminal.isSome = true ∨ conversation.state = .waitingForCleanup ∨
      conversation.state = .failed)

variable {frames : HelperFrames} {conversation : SupervisorHelperConversation}

omit [DecimalText]

theorem mem_lateLines (h : frames.CanHaveBeenSent conversation) {line : Bytes} (hline : line ∈ frames.lateLines) :
    line ≠ profileOkLine ∧ line ≠ profileFailedLine ∧ newline ∉ line ∧
      line.length ≤ maximumHelperMessageSize := by
  obtain ⟨event, hevent, hline⟩ := List.mem_filterMap.mp hline
  rw [List.mem_append, Option.mem_toList, Option.mem_toList] at hevent
  rcases hevent with hevent | hevent
  · obtain ⟨hhead, hnewline, hlength⟩ :=
      SupervisorHelperConversation.line_of_endsWorkload (h.terminal event hevent).1 hline
    refine ⟨?_, ?_, hnewline, hlength⟩
    · rintro rfl
      exact absurd hhead (by decide)
    · rintro rfl
      exact absurd hhead (by decide)
  · rcases (h.cleanup event hevent).1 with rfl | rfl
    · cases hline
      decide
    · cases hline
      decide

theorem mem_lines (h : frames.CanHaveBeenSent conversation) {line : Bytes} (hline : line ∈ frames.lines) :
    newline ∉ line ∧ line.length ≤ maximumHelperMessageSize := by
  rcases List.mem_append.mp hline with hline | hline
  · obtain ⟨completion, -, rfl⟩ := List.mem_map.mp hline
    cases completion <;> decide
  · exact (mem_lateLines h hline).2.2

end HelperFrames

/-! ### What carrying out actions leaves alone -/

theorem beginProfileChange_frame {conversation next : SupervisorHelperConversation} {change : ProfileChange}
    {frame : Bytes} (h : conversation.beginProfileChange change = some (frame, next)) :
    next.state = conversation.state ∧ next.buffer = conversation.buffer := by
  unfold SupervisorHelperConversation.beginProfileChange at h
  split at h
  · cases h
  · dsimp only at h
    split at h
    · cases h
    · cases h
      exact ⟨rfl, rfl⟩

theorem execute_frame (actions : List ControlPlaneAction) : ∀ links : SessionLinks,
    (executeControlPlaneActions actions links).1.conversation.state = links.conversation.state ∧
      (executeControlPlaneActions actions links).1.conversation.buffer = links.conversation.buffer ∧
      (links.sends = {} → (executeControlPlaneActions actions links).1.sends = {}) := by
  induction actions with
  | nil => exact fun _ => ⟨rfl, rfl, id⟩
  | cons action actions ih =>
      intro links
      cases action with
      | requestLifecycleStop => exact ih links
      | failSessionForUnknownProfileState => exact ih links
      | disconnectController => exact ih { links with controller := none }
      | sendControllerText text =>
          have htail : links.sends = {} →
              ({ links.sends with controller := links.sends.controller.tail } : SendResults) = {} := by
            intro hsends
            rw [hsends]
            rfl
          unfold executeControlPlaneActions
          dsimp only
          split
          · obtain ⟨hstate, hbuffer, hsends⟩ := ih _
            exact ⟨hstate, hbuffer, fun hempty => hsends (htail hempty)⟩
          · exact ⟨rfl, rfl, htail⟩
          · exact ⟨rfl, rfl, id⟩
      | dispatchProfileChange change =>
          have htail : links.sends = {} →
              ({ links.sends with helper := links.sends.helper.tail } : SendResults) = {} := by
            intro hsends
            rw [hsends]
            rfl
          unfold executeControlPlaneActions
          split
          · exact ⟨rfl, rfl, id⟩
          · rename_i frame next hbegin
            obtain ⟨hnextState, hnextBuffer⟩ := beginProfileChange_frame hbegin
            dsimp only
            split
            · obtain ⟨hstate, hbuffer, hsends⟩ := ih _
              exact ⟨hstate.trans hnextState, hbuffer.trans hnextBuffer, fun hempty => hsends (htail hempty)⟩
            · exact ⟨hnextState, hnextBuffer, htail⟩

namespace SessionAdapter

open ControllerControlPlane SupervisorHelperConversation

variable {adapter : SessionAdapter}

/-- What delivering events leaves alone. -/
structure SameReader (adapter after : SessionAdapter) : Prop where
  state : after.conversation.state = adapter.conversation.state
  buffer : after.conversation.buffer = adapter.conversation.buffer
  sends : adapter.sends = {} → after.sends = {}

omit [DecimalText] in
theorem SameReader.trans {middle after : SessionAdapter} (h : SameReader adapter middle)
    (hnext : SameReader middle after) : SameReader adapter after :=
  ⟨hnext.state.trans h.state, hnext.buffer.trans h.buffer, hnext.sends ∘ h.sends⟩

theorem sameReader_handleControlEvent (adapter : SessionAdapter) (event : ControlPlaneEvent) :
    SameReader adapter (adapter.handleControlEvent event) := by
  unfold handleControlEvent
  split
  · exact ⟨rfl, rfl, id⟩
  · rename_i plane _
    obtain ⟨hstate, hbuffer, hsends⟩ := execute_frame (plane.handle event).2 (adapter.links (plane.handle event).1)
    exact ⟨hstate, hbuffer, hsends⟩

theorem sameReader_deliver (adapter : SessionAdapter) (listens : Bool) (event : HelperConversationEvent) :
    SameReader adapter (adapter.deliverHelperEvent listens event) := by
  cases event with
  | activated workloadPid =>
      unfold deliverHelperEvent
      dsimp only
      split <;> exact ⟨rfl, rfl, id⟩
  | profileChangeResult result change => exact sameReader_handleControlEvent adapter _
  | profileStateUnknown => exact sameReader_handleControlEvent adapter _
  | workloadExited result =>
      obtain ⟨hstate, hbuffer, hsends⟩ := sameReader_handleControlEvent adapter .workloadTerminal
      exact ⟨hstate, hbuffer, hsends⟩
  | workloadSignaled signal =>
      obtain ⟨hstate, hbuffer, hsends⟩ := sameReader_handleControlEvent adapter .workloadTerminal
      exact ⟨hstate, hbuffer, hsends⟩
  | _ => exact ⟨rfl, rfl, id⟩

theorem sameReader_deliver_all (listens : Bool) (events : List HelperConversationEvent) :
    ∀ adapter : SessionAdapter, SameReader adapter (events.foldl (deliverHelperEvent listens) adapter) := by
  induction events with
  | nil => exact fun _ => ⟨rfl, rfl, id⟩
  | cons event events ih => exact fun adapter => (sameReader_deliver adapter listens event).trans (ih _)

theorem sameReader_step {after : SessionAdapter} (h : CycleStep adapter after) :
    after.conversation.buffer = adapter.conversation.buffer := by
  cases h with
  | lose => rfl
  | sends results => rfl
  | interrupt => exact (sameReader_handleControlEvent adapter .sessionStopping).buffer
  | accept accepts activated =>
      unfold acceptController
      split
      · rfl
      · split
        · rfl
        · exact (sameReader_handleControlEvent adapter.connect .controllerAttached).buffer
  | receive bytes connected => exact (sameReader_handleControlEvent adapter _).buffer
  | hangUp connected => rfl

theorem sameReader_steps {after : SessionAdapter} (h : Relation.ReflTransGen CycleStep adapter after) :
    after.conversation.buffer = adapter.conversation.buffer := by
  induction h with
  | refl => rfl
  | tail _ hstep ih => exact (sameReader_step hstep).trans ih

omit [DecimalText] in
theorem receiveLines_failed (lines : List Bytes) : ∀ {conversation : SupervisorHelperConversation},
    conversation.state ≠ .failed → (conversation.receiveLines lines).1.state = .failed →
    (conversation.receiveLines lines).1 = lost := by
  induction lines with
  | nil => exact fun hgoes hfailed => absurd hfailed hgoes
  | cons line lines ih =>
      intro conversation hgoes
      unfold receiveLines
      dsimp only
      split
      · exact fun _ => rfl
      · split
        · exact fun _ => rfl
        · rename_i hnext
          exact ih hnext

omit [DecimalText] in
/-- What is kept of the helper's stream is an unfinished line. -/
theorem newline_notMem_receiveBytes {conversation : SupervisorHelperConversation}
    (h : newline ∉ conversation.buffer) (bytes : Bytes) :
    newline ∉ (conversation.receiveBytes bytes).1.buffer := by
  unfold receiveBytes
  split
  · exact h
  · rename_i hgoes
    dsimp only
    split
    · rename_i hfailed
      rw [receiveLines_failed _ hgoes hfailed]
      exact List.not_mem_nil
    · split
      · exact List.not_mem_nil
      · exact notMem_splitAtMark_snd _

omit [DecimalText] in
theorem newline_notMem_peerClosed {conversation : SupervisorHelperConversation}
    (h : newline ∉ conversation.buffer) : newline ∉ conversation.peerClosed.1.buffer := by
  unfold peerClosed
  split
  · exact h
  · split
    · exact h
    · exact List.not_mem_nil

theorem Reachable.unfinished {inputs : CycleInput → Prop} (h : Reachable inputs adapter) :
    newline ∉ adapter.conversation.buffer := by
  induction h with
  | begun childArguments buffer unfinished => exact unfinished
  | take _ _ ih => exact ih
  | stop _ _ ih => exact ih
  | @cycle adapter input _ _ _ ih =>
      have hread : newline ∉ (if input.helper.pollin || input.helper.pollhup then
          (adapter.withSends input).readHelperEvents input.listens input.helperRead
          else adapter.withSends input).conversation.buffer := by
        split
        · cases input.helperRead with
          | failed => exact ih
          | data bytes =>
              have hsame := sameReader_deliver_all input.listens (adapter.conversation.receiveBytes bytes).2
                ((adapter.withSends input).withConversation (adapter.conversation.receiveBytes bytes).1)
              exact hsame.buffer.symm ▸ newline_notMem_receiveBytes ih bytes
          | peerClosed =>
              have hsame := sameReader_deliver_all input.listens adapter.conversation.peerClosed.2
                ((adapter.withSends input).withConversation adapter.conversation.peerClosed.1)
              exact hsame.buffer.symm ▸ newline_notMem_peerClosed ih
        · exact ih
      exact (sameReader_steps (waitCycle_steps adapter input)).symm ▸ hread

/-! ### Lost conversations -/

/-- New lifecycle events, none of which is a lost conversation. -/
def Kept (adapter after : SessionAdapter) : Prop :=
  ∃ events, after.pendingEvents = adapter.pendingEvents ++ events ∧ .conversationLost ∉ events

omit [DecimalText] in
theorem Kept.trans {middle after : SessionAdapter} (h : Kept adapter middle) (hnext : Kept middle after) :
    Kept adapter after := by
  obtain ⟨events, hevents, hkept⟩ := h
  obtain ⟨more, hmore, hkept'⟩ := hnext
  refine ⟨events ++ more, by rw [hmore, hevents, List.append_assoc], ?_⟩
  rw [List.mem_append, not_or]
  exact ⟨hkept, hkept'⟩

omit [DecimalText] in
theorem Kept.push {after : SessionAdapter} (h : Kept adapter after) {event : LifecycleEvent} (hevent : event ≠ .conversationLost) :
    Kept adapter (after.push event) := by
  refine h.trans ⟨[event], rfl, ?_⟩
  rw [List.mem_singleton]
  exact hevent.symm

/-- A batch whose texts all go out: its events, and its dispatch if it has one. -/
theorem handleControlEvent_sent {plane : ControllerControlPlane} {event : ControlPlaneEvent}
    (hplane : adapter.controlPlane = some plane) (hinv : plane.Inv)
    (hattached : plane.controllerAttached = adapter.client.isSome)
    (hwrite : event ≠ .controllerWriteFailed) (hattach : event ≠ .controllerAttached)
    (hsame : plane.attachedAfter event = plane.controllerAttached) (hsends : adapter.sends = {}) :
    ∃ (links : SessionLinks) (events : List LifecycleEvent), .conversationLost ∉ events ∧
      links.conversation = adapter.conversation ∧ links.sends.helper = [] ∧
      adapter.handleControlEvent event =
        adapter.afterActions
          (executeControlPlaneActions ((plane.handle event).1.pendingDispatch.toList.map
            .dispatchProfileChange) links).1
          (events ++ (executeControlPlaneActions ((plane.handle event).1.pendingDispatch.toList.map
            .dispatchProfileChange) links).2) := by
  obtain ⟨batch, hactions, houtcome⟩ :=
    plane.handle_outcome hinv hwrite fun hevent => absurd hevent hattach
  have hcontroller : batch.texts ≠ [] →
      (adapter.links (plane.handle event).1).controller.isSome = true := by
    intro hsome
    by_contra hnone
    rw [Bool.not_eq_true, show (adapter.links _).controller = adapter.client from rfl, ← hattached, ← hsame]
      at hnone
    exact hsome (houtcome.silent hnone).1
  have hsent : batch.sent (adapter.links (plane.handle event).1).sends.controller = true := by
    rw [show (adapter.links (plane.handle event).1).sends = {} from hsends]
    exact congrArg (fun results => results.all id) List.take_nil
  obtain ⟨links, -, -, hconversation, -, hhelper, hexecute⟩ := execute_sent hcontroller hsent
  refine ⟨links, batch.stopEvents ++ batch.failEvents, ?_, hconversation, ?_, ?_⟩
  · rw [List.mem_append, not_or]
    unfold ActionBatch.stopEvents ActionBatch.failEvents
    constructor
    · split <;> decide
    · split <;> decide
  · rw [hhelper, show (adapter.links (plane.handle event).1).sends = {} from hsends]
  · rw [handleControlEvent, hplane]
    dsimp only
    rw [hactions, hexecute, houtcome.pending]

/-- A dispatch that the conversation accepts. -/
theorem execute_dispatch_begun {links : SessionLinks} {change : ProfileChange}
    (hstate : links.conversation.state = .active) (hpending : links.conversation.pendingProfileChange = none)
    (hcanonical : change.Canonical) (hsends : links.sends.helper = []) :
    (executeControlPlaneActions [.dispatchProfileChange change] links).2 = [] := by
  have hbegin : links.conversation.beginProfileChange change =
      some (serializeProfileChange change,
        { links.conversation with pendingProfileChange := some change }) := by
    rw [beginProfileChange, if_neg (by rw [hstate, hpending]; decide)]
    exact if_neg (serializeProfileChange_ne_nil hcanonical)
  simp only [executeControlPlaneActions, hbegin, hsends, List.headD_nil, if_true]

/-- A dispatch while the Workload has already ended. -/
theorem execute_dispatch_refused {links : SessionLinks} (change : ProfileChange)
    (hstate : links.conversation.state ≠ .active) :
    (executeControlPlaneActions [.dispatchProfileChange change] links).2 = [.conversationLost] := by
  have hbegin : links.conversation.beginProfileChange change = none := if_pos (Or.inl hstate)
  simp only [executeControlPlaneActions, hbegin]

theorem readLines_singleton {line : Bytes} (hstate : adapter.conversation.state ≠ .failed)
    (hlength : line.length ≤ maximumHelperMessageSize)
    (hnext : (adapter.conversation.receiveLine line).1.state ≠ .failed) :
    adapter.readLines [line] =
      (adapter.withConversation (adapter.conversation.receiveLine line).1).deliverHelperEvent true
        (adapter.conversation.receiveLine line).2 := by
  rw [readLines, if_neg hstate]
  dsimp only [receiveLines]
  rw [if_neg (Nat.not_lt.mpr hlength), if_neg hnext]
  rfl

theorem kept_terminal {event : HelperConversationEvent} (h : event.EndsWorkload) (adapter : SessionAdapter) :
    Kept adapter (adapter.deliverHelperEvent true event) := by
  have hsilent : Kept adapter (adapter.handleControlEvent .workloadTerminal).finishWorkload := by
    unfold handleControlEvent
    split
    · exact ⟨[], (List.append_nil _).symm, List.not_mem_nil⟩
    · exact ⟨[], rfl, List.not_mem_nil⟩
  cases event with
  | workloadExited result => exact hsilent.push (by simp)
  | workloadSignaled signal => exact hsilent.push (by simp)
  | _ => exact h.elim

/-- The end of the Workload and the result of the cleanup, one line at a time. -/
theorem kept_lateLines {frames : HelperFrames} (hframes : frames.CanHaveBeenSent adapter.conversation)
    (hgoes : adapter.conversation.state ≠ .failed) :
    Kept adapter (frames.lateLines.foldl (fun current line => current.readLines [line]) adapter) := by
  have hcleanup : ∀ (current : SessionAdapter) (event : HelperConversationEvent),
      current.conversation.state = .waitingForCleanup → event.EndsCleanup →
      Kept current (([event].filterMap helperConversationEventLine).foldl
        (fun current line => current.readLines [line]) current) := by
    intro current event hstate hevent
    obtain ⟨line, hline, hlength⟩ : ∃ line, helperConversationEventLine event = some line ∧
        line.length ≤ maximumHelperMessageSize := by
      rcases hevent with rfl | rfl
      · exact ⟨_, rfl, by decide⟩
      · exact ⟨_, rfl, by decide⟩
    have hreceive := receiveLine_cleanup hstate hevent hline
    rw [List.filterMap_cons_some hline, List.filterMap_nil, List.foldl_cons, List.foldl_nil,
      readLines_singleton (by rw [hstate]; decide) hlength (by simp [hreceive]), hreceive]
    rcases hevent with rfl | rfl
    · exact ⟨[.cleanupSucceeded], rfl, by decide⟩
    · exact ⟨[.cleanupFailed], rfl, by decide⟩
  obtain ⟨reply, terminal, cleanup⟩ := frames
  unfold HelperFrames.lateLines
  cases terminal with
  | none =>
      cases cleanup with
      | none => exact ⟨[], (List.append_nil _).symm, List.not_mem_nil⟩
      | some event =>
          obtain ⟨hevent, hnone | hstate | hfailed⟩ := hframes.cleanup event rfl
          · cases hnone
          · exact hcleanup adapter event hstate hevent
          · exact absurd hfailed hgoes
  | some event =>
      obtain ⟨hevent, hstate⟩ := hframes.terminal event rfl
      have hopen : adapter.conversation.state = .active ∨
          adapter.conversation.state = .profileStateUnknown := by
        rcases hstate with hstate | hstate | hstate
        · exact Or.inl hstate
        · exact Or.inr hstate
        · exact absurd hstate hgoes
      obtain ⟨line, hline⟩ : ∃ line, helperConversationEventLine event = some line := by
        cases event <;> first | exact ⟨_, rfl⟩ | exact hevent.elim
      have hreceive := receiveLine_terminal hopen hevent hline
      have hread := readLines_singleton hgoes (line_of_endsWorkload hevent hline).2.2
        (by simp [hreceive])
      rw [hreceive] at hread
      have hkept := kept_terminal hevent (adapter.withConversation { adapter.conversation with
        pendingProfileChange := none, state := .waitingForCleanup })
      have hafter := (sameReader_deliver (adapter.withConversation { adapter.conversation with
        pendingProfileChange := none, state := .waitingForCleanup }) true event).state
      rw [← hread] at hkept hafter
      rw [Option.toList_some, List.singleton_append, List.filterMap_cons_some hline, List.foldl_cons]
      refine Kept.trans hkept ?_
      cases cleanup with
      | none => exact ⟨[], (List.append_nil _).symm, List.not_mem_nil⟩
      | some last => exact hcleanup _ last hafter (hframes.cleanup last rfl).1

/-- The end of the pending change while the Workload goes on. -/
theorem kept_result (hinv : adapter.Inv) (hsends : adapter.sends = {})
    (hstate : adapter.conversation.state = .active) (result : ControlPlaneProfileChangeResult)
    (change : ProfileChange) :
    Kept adapter ((adapter.withConversation { adapter.conversation with
      pendingProfileChange := none }).handleControlEvent (.helperProfileChangeResult result change)) := by
  cases hplane : adapter.controlPlane with
  | none =>
      rw [handleControlEvent_none (by exact hplane)]
      exact ⟨[], (List.append_nil _).symm, List.not_mem_nil⟩
  | some plane =>
      obtain ⟨hplaneInv, hattached⟩ := hinv.plane plane hplane
      obtain ⟨links, events, hkept, hconversation, hhelper, hhandle⟩ :=
        handleControlEvent_sent (show (adapter.withConversation { adapter.conversation with
            pendingProfileChange := none }).controlPlane = some plane from hplane) hplaneInv hattached
          (show ControlPlaneEvent.helperProfileChangeResult result change ≠ .controllerWriteFailed by simp)
          (by simp) rfl hsends
      rw [hhandle]
      refine ⟨_, rfl, ?_⟩
      rw [List.mem_append, not_or]
      refine ⟨hkept, ?_⟩
      cases hdispatch : (plane.handle (.helperProfileChangeResult result change)).1.pendingDispatch with
      | none => exact List.not_mem_nil
      | some next =>
          obtain ⟨batch, -, houtcome⟩ := plane.handle_outcome hplaneInv
            (show ControlPlaneEvent.helperProfileChangeResult result change ≠ .controllerWriteFailed by simp)
            (by simp)
          have hcanonical := (inFlightChange_of_pendingDispatch hdispatch).2.2 houtcome.inv
          rw [Option.toList_some, List.map_singleton, execute_dispatch_begun _ _ hcanonical hhelper]
          · exact List.not_mem_nil
          · rw [hconversation]
            exact hstate
          · rw [hconversation]
            rfl

/-- The reply to the pending change in a read of its own. -/
theorem kept_reply (hinv : adapter.Inv) (hsends : adapter.sends = {})
    (hstate : adapter.conversation.state = .active) {change : ProfileChange}
    (hpending : adapter.conversation.pendingProfileChange = some change)
    (completion : ProfileChangeCompletion) :
    Kept adapter (adapter.readLines [replyLine completion]) ∧
      (adapter.readLines [replyLine completion]).conversation.state =
        (if completion = .stateUnknown then .profileStateUnknown else .active) := by
  have hgoes : adapter.conversation.state ≠ .failed := by
    rw [hstate]
    decide
  have hreceive := receiveLine_reply hstate hpending completion
  have hlength : (replyLine completion).length ≤ maximumHelperMessageSize := by
    cases completion <;> decide
  have hread := readLines_singleton hgoes hlength (by rw [hreceive]; cases completion <;> simp [hstate])
  rw [hread, hreceive]
  constructor
  · cases completion with
    | applied => exact kept_result hinv hsends hstate _ change
    | restoredAfterFailure => exact kept_result hinv hsends hstate _ change
    | stateUnknown =>
        dsimp only [deliverHelperEvent]
        unfold handleControlEvent
        split
        · exact ⟨[], (List.append_nil _).symm, List.not_mem_nil⟩
        · rename_i plane _
          dsimp only
          rcases plane.handle_helperProfileStateUnknown_actions with hactions | hactions
          · rw [hactions]
            exact ⟨[], rfl, List.not_mem_nil⟩
          · rw [hactions]
            exact ⟨[.profileStateUnknown], rfl, by decide⟩
  · rw [(sameReader_deliver _ true _).state]
    cases completion <;> simp [withConversation, hstate]

theorem extends_handleControlEvent (adapter : SessionAdapter) (event : ControlPlaneEvent) :
    adapter.pendingEvents <+: (adapter.handleControlEvent event).pendingEvents := by
  unfold handleControlEvent
  split
  · exact List.prefix_refl _
  · exact List.prefix_append _ _

theorem extends_deliver (listens : Bool) (adapter : SessionAdapter) (event : HelperConversationEvent) :
    adapter.pendingEvents <+: (adapter.deliverHelperEvent listens event).pendingEvents := by
  cases event with
  | activated workloadPid =>
      unfold deliverHelperEvent
      dsimp only
      split <;> exact List.prefix_append _ _
  | profileChangeResult result change => exact extends_handleControlEvent adapter _
  | profileStateUnknown => exact extends_handleControlEvent adapter _
  | workloadExited result => exact (extends_handleControlEvent adapter _).trans (List.prefix_append _ _)
  | workloadSignaled signal => exact (extends_handleControlEvent adapter _).trans (List.prefix_append _ _)
  | _ => exact List.prefix_append _ _

theorem extends_deliver_all (listens : Bool) (events : List HelperConversationEvent) :
    ∀ adapter : SessionAdapter, adapter.pendingEvents <+:
      (events.foldl (deliverHelperEvent listens) adapter).pendingEvents := by
  induction events with
  | nil => exact fun _ => List.prefix_refl _
  | cons event events ih => exact fun adapter => (extends_deliver listens adapter event).trans (ih _)

theorem extends_readLines (adapter : SessionAdapter) (lines : List Bytes) :
    adapter.pendingEvents <+: (adapter.readLines lines).pendingEvents := by
  unfold readLines
  split
  · exact List.prefix_refl _
  · exact extends_deliver_all true (adapter.conversation.receiveLines lines).2
      (adapter.withConversation (adapter.conversation.receiveLines lines).1)

theorem extends_foldl_readLines (groups : List (List Bytes)) : ∀ adapter : SessionAdapter,
    adapter.pendingEvents <+: (groups.foldl readLines adapter).pendingEvents := by
  induction groups with
  | nil => exact fun _ => List.prefix_refl _
  | cons lines groups ih => exact fun adapter => (extends_readLines adapter lines).trans (ih _)

/-- New lifecycle events that report a lost conversation. -/
def Loses (adapter after : SessionAdapter) : Prop :=
  ∃ events, adapter.pendingEvents ++ events <+: after.pendingEvents ∧ .conversationLost ∈ events

/-- A dispatch at the end of a change loses the conversation when the same read carried on to the end
of the Workload. -/
theorem loses_merged (hinv : adapter.Inv) (hsends : adapter.sends = {})
    (hstate : adapter.conversation.state = .active) {change next : ProfileChange}
    (hpending : adapter.conversation.pendingProfileChange = some change)
    {plane : ControllerControlPlane} (hplane : adapter.controlPlane = some plane)
    (hnext : nextQueuedChange plane.commandQueue = some next) {completion : ProfileChangeCompletion}
    (hknown : completion ≠ .stateUnknown) (line : Bytes) (lines : List Bytes) :
    Loses adapter (adapter.readLines (replyLine completion :: line :: lines)) := by
  obtain ⟨result, hreceive⟩ : ∃ result, adapter.conversation.receiveLine (replyLine completion) =
      ({ adapter.conversation with pendingProfileChange := none },
        .profileChangeResult result change) := by
    rw [receiveLine_reply hstate hpending]
    cases completion with
    | applied => exact ⟨_, rfl⟩
    | restoredAfterFailure => exact ⟨_, rfl⟩
    | stateUnknown => exact absurd rfl hknown
  have hlength : (replyLine completion).length ≤ maximumHelperMessageSize := by
    cases completion <;> decide
  obtain ⟨-, -, hnil | hlate⟩ := receiveLines_late (line :: lines)
    (show ({ adapter.conversation with pendingProfileChange := none } :
      SupervisorHelperConversation).pendingProfileChange = none from rfl)
    (show adapter.conversation.state ≠ .waitingForReady by rw [hstate]; decide)
    (show adapter.conversation.state ≠ .waitingForActivation by rw [hstate]; decide)
  · cases hnil.1
  · rw [readLines, if_neg (by rw [hstate]; decide), receiveLines, if_neg (Nat.not_lt.mpr hlength), hreceive]
    dsimp only
    rw [if_neg (by rw [hstate]; decide), List.foldl_cons]
    generalize ({ adapter.conversation with pendingProfileChange := none } :
      SupervisorHelperConversation).receiveLines (line :: lines) = received at hlate ⊢
    obtain ⟨hplaneInv, hattached⟩ := hinv.plane plane hplane
    obtain ⟨hinFlight, -, -⟩ := hinv.remaining_result hstate hpending hplane .applied
    obtain ⟨links, events, -, hconversation, -, hhandle⟩ :=
      handleControlEvent_sent (show (adapter.withConversation received.1).controlPlane = some plane from hplane)
        hplaneInv hattached (show ControlPlaneEvent.helperProfileChangeResult (controlPlaneResult result)
          change ≠ .controllerWriteFailed by simp) (by simp) rfl hsends
    rw [handle_result_pendingDispatch hplaneInv hinFlight, hnext, Option.toList_some, List.map_singleton,
      execute_dispatch_refused] at hhandle
    · refine ⟨events ++ [.conversationLost], ?_, List.mem_append_right _ (List.mem_singleton.mpr rfl)⟩
      rw [show (adapter.withConversation received.1).deliverHelperEvent true (.profileChangeResult result change)
        = _ from hhandle]
      exact extends_deliver_all true received.2 ((adapter.withConversation received.1).afterActions
        (executeControlPlaneActions [.dispatchProfileChange next] links).1
        (events ++ [.conversationLost]))
    · rw [hconversation]
      intro hactive
      rw [show (adapter.withConversation received.1).conversation = received.1 from rfl] at hactive
      rw [hactive] at hlate
      cases hlate

/-! ### Reads cut in any way -/

/-- Some read completes the reply and another frame behind it. -/
def MergesReply (adapter : SessionAdapter) (frames : HelperFrames) (reads : List Bytes) : Prop :=
  ∃ completion line lines, frames.reply = some completion ∧
    replyLine completion :: line :: lines ∈ completedPieces newline adapter.conversation.buffer reads

/-- The reply ends a change behind which another one is queued. -/
def DispatchesOnReply (adapter : SessionAdapter) (frames : HelperFrames) : Prop :=
  frames.reply ≠ some .stateUnknown ∧
    ∃ plane, adapter.controlPlane = some plane ∧ (nextQueuedChange plane.commandQueue).isSome = true

/-- The frames that go on from the unfinished line of the adapter, one in each read. -/
def oneFramePerRead (adapter : SessionAdapter) (frames : HelperFrames) : List Bytes :=
  onePiecePerRead newline adapter.conversation.buffer frames.lines

/-- The reads lead to what one frame per read leads to, and do not lose the conversation. -/
structure Uniform (adapter : SessionAdapter) (frames : HelperFrames) (reads : List Bytes) : Prop where
  events : (adapter.readAll reads).pendingEvents =
    (adapter.readAll (adapter.oneFramePerRead frames)).pendingEvents
  texts : (adapter.readAll reads).texts = (adapter.readAll (adapter.oneFramePerRead frames)).texts
  confirmed : (adapter.readAll reads).controlPlane.map (·.confirmedProfile) =
    (adapter.readAll (adapter.oneFramePerRead frames)).controlPlane.map (·.confirmedProfile)
  kept : .conversationLost ∉ (adapter.readAll reads).pendingEvents.drop adapter.pendingEvents.length

variable {frames : HelperFrames} {reads : List Bytes}

theorem readAll_groups (hunfinished : newline ∉ adapter.conversation.buffer)
    (hframes : frames.CanHaveBeenSent adapter.conversation)
    (hreads : adapter.conversation.buffer ++ reads.flatten = encodeLines frames.lines) :
    adapter.readAll reads =
      ((completedPieces newline adapter.conversation.buffer reads).foldl readLines
        (adapter.withSends {})).mapConversation (SupervisorHelperConversation.resume []) := by
  have hsame : (adapter.withSends {}).mapConversation
      (SupervisorHelperConversation.resume adapter.conversation.buffer) = adapter.withSends {} := by
    have hconversation : adapter.conversation.resume adapter.conversation.buffer = adapter.conversation := by
      unfold SupervisorHelperConversation.resume
      split <;> rfl
    exact congrArg (adapter.withSends {}).withConversation hconversation
  rw [readAll, ← foldl_readHelperEvents hunfinished (fun line hline => (frames.mem_lines hframes hline).1)
    (fun line hline => (frames.mem_lines hframes hline).2) hreads, hsame]

/-- One frame per read. -/
theorem readAll_oneFramePerRead (hunfinished : newline ∉ adapter.conversation.buffer)
    (hframes : frames.CanHaveBeenSent adapter.conversation)
    (hreads : adapter.conversation.buffer ++ reads.flatten = encodeLines frames.lines) :
    adapter.readAll (adapter.oneFramePerRead frames) =
      (frames.lines.foldl (fun current line => current.readLines [line])
        (adapter.withSends {})).mapConversation (SupervisorHelperConversation.resume []) := by
  obtain ⟨hcarries, hgroups⟩ := onePiecePerRead_spec hunfinished
    (fun line hline => (frames.mem_lines hframes hline).1) hreads
  rw [oneFramePerRead, readAll_groups hunfinished hframes hcarries, hgroups, List.foldl_map]

theorem beginsAlike_of_pendingDispatch {plane : ControllerControlPlane} {event : ControlPlaneEvent}
    (hinv : plane.Inv) (hwrite : event ≠ .controllerWriteFailed) (hattach : event ≠ .controllerAttached)
    (hnone : (plane.handle event).1.pendingDispatch = none)
    {replace : SupervisorHelperConversation → SupervisorHelperConversation} :
    BeginsAlike replace (plane.handle event).2 := by
  intro change hchange
  obtain ⟨batch, hactions, houtcome⟩ := plane.handle_outcome hinv hwrite fun hevent => absurd hevent hattach
  rw [hactions, ActionBatch.actions, houtcome.pending.trans hnone] at hchange
  rcases List.mem_append.mp hchange with hchange | hchange
  · exact absurd (ActionBatch.isDispatch_of_mem_front hchange) Bool.noConfusion
  · cases hchange

omit [DecimalText] in
/-- The group of the reply, and that the frames behind it are no replies. -/
theorem groups_of_reply (hframes : frames.CanHaveBeenSent adapter.conversation)
    {groups : List (List Bytes)} (hgroups : groups.flatten = frames.lines)
    {completion : ProfileChangeCompletion} (hreply : frames.reply = some completion) :
    ∃ before merged after, groups = before ++ (replyLine completion :: merged) :: after ∧
      (∀ lines ∈ before, lines = []) ∧ frames.lines = replyLine completion :: (merged ++ after.flatten) ∧
      (∀ line ∈ merged ++ after.flatten, line ≠ profileOkLine ∧ line ≠ profileFailedLine) := by
  have hlines : frames.lines = replyLine completion :: frames.lateLines := by
    rw [HelperFrames.lines, hreply]
    rfl
  obtain ⟨before, merged, after, rfl, hbefore, hrest⟩ :=
    List.flatten_eq_cons_iff.mp (hgroups.trans hlines)
  refine ⟨before, merged, after, rfl, hbefore, hrest ▸ hlines, fun line hline => ?_⟩
  rw [← hrest] at hline
  exact ⟨(frames.mem_lateLines hframes hline).1, (frames.mem_lateLines hframes hline).2.1⟩

/-- The groups that the reads complete lead to what the lines one by one lead to. -/
theorem foldl_groups_of_separate (hinv : adapter.Inv) (hframes : frames.CanHaveBeenSent adapter.conversation)
    {groups : List (List Bytes)} (hgroups : groups.flatten = frames.lines)
    (hseparate : ¬((∃ completion line lines, frames.reply = some completion ∧
      replyLine completion :: line :: lines ∈ groups) ∧ adapter.DispatchesOnReply frames)) :
    groups.foldl readLines adapter =
      frames.lines.foldl (fun current line => current.readLines [line]) adapter := by
  cases hreply : frames.reply with
  | none =>
      have hlines : frames.lines = frames.lateLines := by
        rw [HelperFrames.lines, hreply]
        rfl
      rw [← hgroups]
      refine foldl_readLines_of_ne groups (fun line hline => ?_) adapter
      rw [hgroups, hlines] at hline
      exact ⟨(frames.mem_lateLines hframes hline).1, (frames.mem_lateLines hframes hline).2.1⟩
  | some completion =>
      obtain ⟨change, hpending⟩ := Option.isSome_iff_exists.mp (hframes.reply (by rw [hreply]; rfl))
      have hstate := hinv.conversation.pending (by rw [hpending]; rfl)
      obtain ⟨before, merged, after, rfl, hbefore, hlines, hlate⟩ := groups_of_reply hframes hgroups hreply
      have hcut : adapter.readLines (replyLine completion :: merged) =
          (adapter.readLines [replyLine completion]).readLines merged := by
        cases merged with
        | nil => exact (readLines_nil _).symm
        | cons line lines =>
            refine readLines_cons (line :: lines) fun next result reported plane hevent hplane => ?_
            have hinFlight := (hinv.remaining_result hstate hpending hplane .applied).1
            rw [receiveLine_reply hstate hpending completion] at hevent
            have hknown : completion ≠ .stateUnknown := by
              rintro rfl
              cases hevent
            have hchange : reported = change := by
              cases completion with
              | applied => cases hevent; rfl
              | restoredAfterFailure => cases hevent; rfl
              | stateUnknown => exact absurd rfl hknown
            subst hchange
            have hnone : nextQueuedChange plane.commandQueue = none := by
              by_contra hsome
              exact hseparate ⟨⟨completion, line, lines, hreply, List.mem_append_right _ List.mem_cons_self⟩,
                by rw [hreply]; simpa using hknown, plane, hplane, Option.ne_none_iff_isSome.mp hsome⟩
            exact beginsAlike_of_pendingDispatch (hinv.plane plane hplane).1 (by simp) (by simp)
              ((handle_result_pendingDispatch (hinv.plane plane hplane).1 hinFlight _).trans hnone)
      rw [hlines, List.foldl_append, foldl_readLines_empty before hbefore, List.foldl_cons, hcut,
        readLines_of_ne merged fun line hline => hlate line (List.mem_append_left _ hline),
        foldl_readLines_of_ne after fun line hline => hlate line (List.mem_append_right _ hline),
        List.foldl_cons, List.foldl_append]

/-- A merged reply that dispatches loses the conversation. -/
theorem foldl_groups_of_merged (hinv : adapter.Inv) (hsends : adapter.sends = {})
    (hframes : frames.CanHaveBeenSent adapter.conversation) {groups : List (List Bytes)}
    (hgroups : groups.flatten = frames.lines) {completion : ProfileChangeCompletion} {line : Bytes}
    {lines : List Bytes} (hreply : frames.reply = some completion)
    (hmerged : replyLine completion :: line :: lines ∈ groups)
    (hdispatch : adapter.DispatchesOnReply frames) : Loses adapter (groups.foldl readLines adapter) := by
  obtain ⟨change, hpending⟩ := Option.isSome_iff_exists.mp (hframes.reply (by rw [hreply]; rfl))
  have hstate := hinv.conversation.pending (by rw [hpending]; rfl)
  obtain ⟨hunknown, plane, hplane, hnext⟩ := hdispatch
  obtain ⟨next, hnext⟩ := Option.isSome_iff_exists.mp hnext
  have hknown : completion ≠ .stateUnknown := fun hstateUnknown => hunknown (hstateUnknown ▸ hreply)
  obtain ⟨before, merged, after, rfl, hbefore, -, hlate⟩ := groups_of_reply hframes hgroups hreply
  have hgroup : merged = line :: lines := by
    rcases List.mem_append.mp hmerged with hmem | hmem
    · cases hbefore _ hmem
    · rcases List.mem_cons.mp hmem with hsame | hmem
      · exact (List.cons.inj hsame).2.symm
      · obtain ⟨happlied, hrestored⟩ := hlate (replyLine completion)
          (List.mem_append_right _ (List.mem_flatten.mpr ⟨_, hmem, List.mem_cons_self⟩))
        cases completion with
        | applied => exact absurd rfl happlied
        | restoredAfterFailure => exact absurd rfl hrestored
        | stateUnknown => exact absurd rfl hknown
  rw [hgroup, List.foldl_append, foldl_readLines_empty before hbefore, List.foldl_cons]
  obtain ⟨events, hevents, hlost⟩ := loses_merged hinv hsends hstate hpending hplane hnext hknown line lines
  exact ⟨events, hevents.trans (extends_foldl_readLines after _), hlost⟩

/-- One frame per read loses no conversation. -/
theorem kept_lines (hinv : adapter.Inv) (hsends : adapter.sends = {})
    (hframes : frames.CanHaveBeenSent adapter.conversation) :
    Kept adapter (frames.lines.foldl (fun current line => current.readLines [line]) adapter) := by
  by_cases hfailed : adapter.conversation.state = .failed
  · have hsame : ∀ lines : List Bytes,
        lines.foldl (fun current line => current.readLines [line]) adapter = adapter := by
      intro lines
      induction lines with
      | nil => rfl
      | cons line lines ih =>
          rw [List.foldl_cons, readLines, if_pos hfailed]
          exact ih
    rw [hsame]
    exact ⟨[], (List.append_nil _).symm, List.not_mem_nil⟩
  · cases hreply : frames.reply with
    | none =>
        have hlines : frames.lines = frames.lateLines := by
          rw [HelperFrames.lines, hreply]
          rfl
        rw [hlines]
        exact kept_lateLines hframes hfailed
    | some completion =>
        have hlines : frames.lines = replyLine completion :: frames.lateLines := by
          rw [HelperFrames.lines, hreply]
          rfl
        obtain ⟨change, hpending⟩ := Option.isSome_iff_exists.mp (hframes.reply (by rw [hreply]; rfl))
        have hstate := hinv.conversation.pending (by rw [hpending]; rfl)
        obtain ⟨hkept, hafter⟩ := kept_reply hinv hsends hstate hpending completion
        have hopen : (adapter.readLines [replyLine completion]).conversation.state = .active ∨
            (adapter.readLines [replyLine completion]).conversation.state = .profileStateUnknown := by
          rw [hafter]
          split
          · exact Or.inr rfl
          · exact Or.inl rfl
        have hlate : HelperFrames.CanHaveBeenSent { frames with reply := none }
            (adapter.readLines [replyLine completion]).conversation := {
          activated := by rcases hopen with hopen | hopen <;> rw [hopen] <;> decide
          reply := fun hsome => by cases hsome
          terminal := fun event hevent =>
            ⟨(hframes.terminal event hevent).1, hopen.imp_right Or.inl⟩
          cleanup := fun event hevent => by
            obtain ⟨hends, hcleanup⟩ := hframes.cleanup event hevent
            refine ⟨hends, Or.inl ?_⟩
            rcases hcleanup with hterminal | hwaiting | hfailed
            · exact hterminal
            · rw [hstate] at hwaiting
              cases hwaiting
            · rw [hstate] at hfailed
              cases hfailed }
        rw [hlines, List.foldl_cons]
        have hrest := kept_lateLines hlate (by rcases hopen with hopen | hopen <;> rw [hopen] <;> decide)
        exact hkept.trans hrest

/-- However the bytes of the helper are cut into reads, they lead to what one frame per read leads to,
unless a read completes the reply and another frame behind it and the reply lets a queued change be
dispatched; then the conversation is lost. -/
theorem readAll_uniform_iff (h : Reachable CycleInput.AllSent adapter)
    (hframes : frames.CanHaveBeenSent adapter.conversation)
    (hreads : adapter.conversation.buffer ++ reads.flatten = encodeLines frames.lines) :
    adapter.Uniform frames reads ↔ ¬(adapter.MergesReply frames reads ∧ adapter.DispatchesOnReply frames) := by
  have hinv : (adapter.withSends {}).Inv := { h.inv with }
  have hcut := readAll_groups h.unfinished hframes hreads
  have hone := readAll_oneFramePerRead h.unfinished hframes hreads
  have hgroups := flatten_completedPieces h.unfinished
    (fun line hline => (frames.mem_lines hframes hline).1) hreads
  obtain ⟨events, hevents, hkept⟩ := kept_lines hinv rfl hframes
  constructor
  · rintro huniform ⟨⟨completion, line, lines, hreply, hmerged⟩, hdispatch⟩
    obtain ⟨lost, ⟨more, hmore⟩, hlost⟩ :=
      foldl_groups_of_merged hinv rfl hframes hgroups hreply hmerged hdispatch
    have hpending : (adapter.readAll reads).pendingEvents = adapter.pendingEvents ++ (lost ++ more) := by
      rw [hcut, ← List.append_assoc]
      exact hmore.symm
    apply huniform.kept
    rw [hpending, List.drop_left]
    exact List.mem_append_left more hlost
  · intro hseparate
    have hall : adapter.readAll reads = adapter.readAll (adapter.oneFramePerRead frames) := by
      rw [hcut, hone, foldl_groups_of_separate hinv hframes hgroups hseparate]
    have hpending : (adapter.readAll reads).pendingEvents = adapter.pendingEvents ++ events := by
      rw [hall, hone]
      exact hevents
    refine ⟨by rw [hall], by rw [hall], by rw [hall], ?_⟩
    rw [hpending, List.drop_left]
    exact hkept

end SessionAdapter

end

namespace SessionAdapter

section Merged

attribute [local instance] bitPatternText

/-- The helper has applied a change and the Workload has ended. -/
def appliedAndExited : HelperFrames where
  reply := some .applied
  terminal := some (.workloadExited 0)

/-- Two changes were asked for: the first is in flight and the second waits. -/
def queuedSession : SessionAdapter := attachedSession "set outbound delay 5\nset inbound delay 5\n"

theorem appliedAndExited_canHaveBeenSent : appliedAndExited.CanHaveBeenSent queuedSession.conversation where
  activated := by decide
  reply := fun _ => by decide
  terminal := fun event hevent => by
    cases hevent
    exact ⟨⟨by decide, by decide⟩, Or.inl (by decide)⟩
  cleanup := fun event hevent => by cases hevent

/-- Both frames in one read lose the conversation. -/
theorem readAll_not_uniform_queued :
    Reachable CycleInput.AllSent queuedSession ∧
      appliedAndExited.CanHaveBeenSent queuedSession.conversation ∧
      queuedSession.conversation.buffer ++ [ascii "PROFILE_OK\nWORKLOAD_EXITED 0\n"].flatten =
        encodeLines appliedAndExited.lines ∧
      ¬queuedSession.Uniform appliedAndExited [ascii "PROFILE_OK\nWORKLOAD_EXITED 0\n"] := by
  refine ⟨attachedSession_reachable (fun _ h => h) _, appliedAndExited_canHaveBeenSent,
    by decide, fun huniform => huniform.kept ?_⟩
  decide

theorem readAll_uniform_iff_queued :
    queuedSession.Uniform appliedAndExited [ascii "PROFILE_OK\nWORKLOAD", ascii "_EXITED 0\n"] ↔
      ¬(queuedSession.MergesReply appliedAndExited [ascii "PROFILE_OK\nWORKLOAD", ascii "_EXITED 0\n"] ∧
        queuedSession.DispatchesOnReply appliedAndExited) :=
  readAll_uniform_iff (attachedSession_reachable (fun _ h => h) _) appliedAndExited_canHaveBeenSent
    (by decide)

end Merged

end SessionAdapter

end NetLagLab
