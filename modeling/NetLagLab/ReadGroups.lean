import NetLagLab.SessionInvariant

/-! What one read of the helper's bytes does. The read takes the conversation over all of its lines
before the control plane sees the first event, so the events are delivered under another conversation
than the one they came from. That is no difference to a read of their own, unless an event that is not
the last one dispatches a queued change. -/

namespace NetLagLab

open ByteLines
open HelperRuntimeConversation (profileOkLine profileFailedLine replyLine)

/-! ### What the end of a change dispatches -/

/-- The change that is dispatched when the change in flight has ended: the first command in the queue
that is a change or asks to be detached, if it is a change. -/
def nextQueuedChange : List QueuedCommand → Option ProfileChange
  | [] => none
  | queued :: rest =>
      match queued.command with
      | .profileChange change => some change
      | .detach => none
      | _ => nextQueuedChange rest

namespace ControllerControlPlane

section

variable [DecimalText]

/-- Nothing is taken out of the queue while nobody is attached or a change is in flight. -/
theorem drainQueue_of_blocked {plane : ControllerControlPlane} (actions : List ControlPlaneAction)
    (h : plane.controllerAttached = false ∨ plane.inFlightProfileChange.isSome = true) (fuel : Nat) :
    plane.drainQueue actions fuel = (plane, actions) := by
  cases fuel with
  | zero => rfl
  | succ fuel =>
      have hblocked : (plane.controllerAttached && plane.inFlightProfileChange.isNone) = false := by
        rcases h with h | h
        · rw [h, Bool.false_and]
        · rw [← Option.not_isSome, h, Bool.not_true, Bool.and_false]
      rw [drainQueue, if_neg (Bool.eq_false_iff.mp hblocked)]

omit [DecimalText] in
theorem pendingDispatch_of_none {plane : ControllerControlPlane} (h : plane.inFlightProfileChange = none) :
    plane.pendingDispatch = none := by
  rw [pendingDispatch, h]
  rfl

/-- One turn of the drain. -/
theorem drainQueue_cons {plane : ControllerControlPlane} {queued : QueuedCommand}
    {rest : List QueuedCommand} (h : QueueInv plane) (hqueue : plane.commandQueue = queued :: rest)
    (hinFlight : plane.inFlightProfileChange = none) (actions : List ControlPlaneAction) (fuel : Nat) :
    plane.drainQueue actions (fuel + 1) =
      ({ plane with commandQueue := rest }.processCommand queued.command actions).1.drainQueue
        ({ plane with commandQueue := rest }.processCommand queued.command actions).2 fuel := by
  obtain ⟨hattached, -, -, -⟩ := h.waits (hqueue ▸ List.cons_ne_nil queued rest)
  obtain ⟨hgeneration, -, -⟩ := h.entries queued (hqueue ▸ List.mem_cons_self)
  have hgoes : (plane.controllerAttached && plane.inFlightProfileChange.isNone) = true := by
    rw [hattached, hinFlight]
    rfl
  rw [drainQueue, if_pos hgoes]
  simp only [hqueue, hgeneration, ne_eq, not_true_eq_false, if_false]

theorem drainQueue_pendingDispatch {fuel : Nat} :
    ∀ {plane : ControllerControlPlane} {actions : List ControlPlaneAction}, QueueInv plane →
      plane.inFlightProfileChange = none → plane.commandQueue.length ≤ fuel →
      (plane.drainQueue actions fuel).1.pendingDispatch = nextQueuedChange plane.commandQueue := by
  induction fuel with
  | zero =>
      intro plane actions _ hinFlight hlength
      rw [List.length_eq_zero_iff.mp (Nat.le_zero.mp hlength)]
      exact pendingDispatch_of_none hinFlight
  | succ fuel ih =>
      intro plane actions h hinFlight hlength
      cases hqueue : plane.commandQueue with
      | nil =>
          rw [drainQueue, hqueue]
          split <;> exact pendingDispatch_of_none hinFlight
      | cons queued rest =>
          have hnonempty : plane.commandQueue ≠ [] := hqueue ▸ List.cons_ne_nil queued rest
          have hstopping := (h.waits hnonempty).2.1
          have hpopped : QueueInv { plane with commandQueue := rest } := {
            waits := fun _ => h.waits hnonempty
            entries := fun other hother => h.entries other (hqueue ▸ List.mem_cons_of_mem _ hother)
            canonical := h.canonical }
          have hrest : rest.length ≤ fuel := by
            rw [hqueue, List.length_cons] at hlength
            omega
          rw [drainQueue_cons h hqueue hinFlight]
          -- the queue goes on after a command that only answers, and not after the others
          have hexecute : ∀ command, ({ plane with commandQueue := rest }.enqueueOrExecute command actions) =
              { plane with commandQueue := rest }.executeCommand command actions := fun command =>
            if_neg (by rw [show ({ plane with commandQueue := rest } :
              ControllerControlPlane).inFlightProfileChange = none from hinFlight]; exact Bool.false_ne_true)
          cases hcommand : queued.command with
          | stop => exact absurd hcommand (h.entries queued (hqueue ▸ List.mem_cons_self)).2.1
          | help =>
              rw [processCommand, hexecute, nextQueuedChange, hcommand]
              · exact ih hpopped hinFlight hrest
              · simp
              · simp
          | status =>
              rw [processCommand, hexecute, nextQueuedChange, hcommand]
              · exact ih hpopped hinFlight hrest
              · simp
              · simp
          | detach =>
              rw [processCommand, hexecute, nextQueuedChange, hcommand]
              · rw [drainQueue_of_blocked _ (Or.inl rfl)]
                exact (pendingDispatch_disconnect _).trans (pendingDispatch_of_none hinFlight)
              · simp
              · simp
          | profileChange change =>
              rw [processCommand, if_neg (by rw [show ({ plane with commandQueue := rest } :
                ControllerControlPlane).stopping = false from hstopping]; exact Bool.false_ne_true),
                hexecute, nextQueuedChange, hcommand, drainQueue_of_blocked _ (Or.inr rfl)]
              rfl
/-- The result of the change in flight dispatches the next change in the queue. -/
theorem handle_result_pendingDispatch {plane : ControllerControlPlane} (h : Inv plane)
    {change : ProfileChange} (hinFlight : plane.inFlightChange = some change)
    (result : ControlPlaneProfileChangeResult) :
    (plane.handle (.helperProfileChangeResult result change)).1.pendingDispatch =
      nextQueuedChange plane.commandQueue := by
  obtain ⟨inFlight, hsome, rfl⟩ := Option.map_eq_some_iff.mp hinFlight
  have hlegal := (h.canonical inFlight hsome).legal
  have hsettled : plane.settled.inFlightProfileChange =
      some { inFlight with dispatchPendingExecution := false } := by
    rw [settled, hsome]
    rfl
  have hdrained : ∀ (landed : ControllerControlPlane) (actions : List ControlPlaneAction),
      QueueInv landed → landed.inFlightProfileChange = none →
      (if !landed.workloadTerminal && !landed.profileStateFailed then
        landed.drainQueue actions landed.commandQueue.length else (landed, actions)).1.pendingDispatch =
          nextQueuedChange landed.commandQueue := by
    intro landed actions hqueue hnone
    split
    · exact drainQueue_pendingDispatch hqueue hnone le_rfl
    · rename_i hover
      have hempty : landed.commandQueue = [] := by
        by_contra hne
        obtain ⟨-, -, hterminal, hfailed⟩ := hqueue.waits hne
        rw [hterminal, hfailed] at hover
        exact hover rfl
      rw [hempty]
      exact pendingDispatch_of_none hnone
  rw [handle, if_neg (by simp), handleSettled, hsettled]
  dsimp only
  rw [if_pos (ProfileChange.same_self hlegal)]
  unfold finishProfileChange
  cases result with
  | restoredAfterFailure =>
      exact hdrained { plane.settled with inFlightProfileChange := none } _
        ⟨h.waits, h.entries, fun _ hnone => by cases hnone⟩ rfl
  | applied =>
      dsimp only
      rw [show plane.settled.confirmedProfile = plane.confirmedProfile from rfl,
        applyProfileChange_of_legal h.valid hlegal]
      exact hdrained { plane.settled with
          inFlightProfileChange := none, confirmedProfile := _, shapingApplied := true } _
        ⟨h.waits, h.entries, fun _ hnone => by cases hnone⟩ rfl

end

end ControllerControlPlane

/-! ### Another conversation under the same adapter -/

/-- A change begins after the conversation was replaced just as before. -/
def BeginsAlike [DecimalText] (replace : SupervisorHelperConversation → SupervisorHelperConversation)
    (actions : List ControlPlaneAction) : Prop :=
  ∀ change, .dispatchProfileChange change ∈ actions → ∀ conversation,
    (replace conversation).beginProfileChange change =
      (conversation.beginProfileChange change).map fun begun => (begun.1, replace begun.2)

def SessionLinks.mapConversation (links : SessionLinks)
    (replace : SupervisorHelperConversation → SupervisorHelperConversation) : SessionLinks :=
  { links with conversation := replace links.conversation }

def SessionAdapter.mapConversation (adapter : SessionAdapter)
    (replace : SupervisorHelperConversation → SupervisorHelperConversation) : SessionAdapter :=
  adapter.withConversation (replace adapter.conversation)

section

variable [DecimalText] {replace : SupervisorHelperConversation → SupervisorHelperConversation}

theorem execute_mapConversation (actions : List ControlPlaneAction) (h : BeginsAlike replace actions) :
    ∀ links : SessionLinks, executeControlPlaneActions actions (links.mapConversation replace) =
      ((executeControlPlaneActions actions links).1.mapConversation replace,
        (executeControlPlaneActions actions links).2) := by
  induction actions with
  | nil => exact fun _ => rfl
  | cons action actions ih =>
      intro links
      have hrest : BeginsAlike replace actions := fun change hchange =>
        h change (List.mem_cons_of_mem _ hchange)
      cases action with
      | requestLifecycleStop =>
          simp only [executeControlPlaneActions, ih hrest]
      | failSessionForUnknownProfileState =>
          simp only [executeControlPlaneActions, ih hrest]
      | disconnectController => exact ih hrest { links with controller := none }
      | sendControllerText text =>
          obtain ⟨plane, controller, conversation, ⟨results, helper⟩, texts, commands⟩ := links
          rcases controller with _ | connection
          · rfl
          · cases hresult : results.headD true with
            | false => simp only [executeControlPlaneActions, SessionLinks.mapConversation, hresult]; rfl
            | true =>
                simp only [executeControlPlaneActions, SessionLinks.mapConversation, hresult]
                exact ih hrest ⟨plane, some connection, conversation, ⟨results.tail, helper⟩,
                  texts ++ [(connection, text)], commands⟩
      | dispatchProfileChange change =>
          have hbegin := h change List.mem_cons_self links.conversation
          cases hbegun : links.conversation.beginProfileChange change with
          | none =>
              rw [hbegun] at hbegin
              simp only [executeControlPlaneActions, SessionLinks.mapConversation, hbegin, hbegun]
              rfl
          | some begun =>
              rw [hbegun] at hbegin
              cases hresult : links.sends.helper.headD true with
              | false =>
                  simp only [executeControlPlaneActions, SessionLinks.mapConversation, hbegin, hbegun, hresult]
                  rfl
              | true =>
                  simp only [executeControlPlaneActions, SessionLinks.mapConversation, hbegin, hbegun, hresult]
                  exact ih hrest { links with
                    conversation := begun.2
                    sends.helper := links.sends.helper.tail
                    commands := links.commands ++ [.profileChange change] }

namespace ControllerControlPlane

/-- Only the end of a change or a Controller's command asks for a dispatch. -/
theorem handle_workloadTerminal_actions (plane : ControllerControlPlane) :
    (plane.handle .workloadTerminal).2 = [] := rfl

theorem handle_helperProfileStateUnknown_actions (plane : ControllerControlPlane) :
    (plane.handle .helperProfileStateUnknown).2 = [] ∨
      (plane.handle .helperProfileStateUnknown).2 = [.failSessionForUnknownProfileState] := by
  rw [handle, if_neg (by simp), handleSettled]
  split
  · exact Or.inl rfl
  · exact Or.inr rfl

end ControllerControlPlane

namespace SessionAdapter

variable {adapter : SessionAdapter}

theorem handleControlEvent_mapConversation {event : ControlPlaneEvent}
    (h : ∀ plane, adapter.controlPlane = some plane → BeginsAlike replace (plane.handle event).2) :
    (adapter.mapConversation replace).handleControlEvent event =
      (adapter.handleControlEvent event).mapConversation replace := by
  cases hplane : adapter.controlPlane with
  | none =>
      rw [handleControlEvent_none hplane, handleControlEvent_none (show (adapter.mapConversation
        replace).controlPlane = none from hplane)]
  | some plane =>
      have hexecute := execute_mapConversation _ (h plane hplane) (adapter.links (plane.handle event).1)
      simp only [handleControlEvent, hplane, show (adapter.mapConversation replace).controlPlane =
        some plane from hplane]
      rw [show (adapter.mapConversation replace).links (plane.handle event).1 =
        (adapter.links (plane.handle event).1).mapConversation replace from rfl, hexecute]
      rfl

/-- The end of a change whose dispatch, if there is one, does not depend on the replacement. -/
def DispatchesAlike (adapter : SessionAdapter)
    (replace : SupervisorHelperConversation → SupervisorHelperConversation)
    (event : HelperConversationEvent) : Prop :=
  ∀ result change plane, event = .profileChangeResult result change →
    adapter.controlPlane = some plane →
    BeginsAlike replace (plane.handle (.helperProfileChangeResult (controlPlaneResult result) change)).2

theorem deliver_mapConversation (listens : Bool) {event : HelperConversationEvent}
    (h : adapter.DispatchesAlike replace event) :
    (adapter.mapConversation replace).deliverHelperEvent listens event =
      (adapter.deliverHelperEvent listens event).mapConversation replace := by
  have hterminal : (adapter.mapConversation replace).handleControlEvent .workloadTerminal =
      (adapter.handleControlEvent .workloadTerminal).mapConversation replace :=
    handleControlEvent_mapConversation fun plane _ change hchange => by
      rw [plane.handle_workloadTerminal_actions] at hchange
      cases hchange
  cases event with
  | activated workloadPid =>
      unfold deliverHelperEvent
      dsimp only
      split <;> rfl
  | profileChangeResult result change =>
      exact handleControlEvent_mapConversation fun plane hplane => h result change plane rfl hplane
  | profileStateUnknown =>
      refine handleControlEvent_mapConversation fun plane _ change hchange => ?_
      rcases plane.handle_helperProfileStateUnknown_actions with hactions | hactions
      · rw [hactions] at hchange
        cases hchange
      · rw [hactions, List.mem_singleton] at hchange
        cases hchange
  | workloadExited result => simp only [deliverHelperEvent, hterminal]; rfl
  | workloadSignaled signal => simp only [deliverHelperEvent, hterminal]; rfl
  | _ => rfl

/-- The lines of one read: all of them go through the conversation before the first event is
delivered. A failed conversation reads nothing. -/
def readLines (adapter : SessionAdapter) (lines : List Bytes) : SessionAdapter :=
  if adapter.conversation.state = .failed then adapter
  else
    let received := adapter.conversation.receiveLines lines
    received.2.foldl (deliverHelperEvent true) (adapter.withConversation received.1)

end SessionAdapter

/-! ### The unfinished line -/

namespace SupervisorHelperConversation

/-- The conversation with the unfinished line it goes on with; a failed one keeps nothing. -/
def resume (unfinished : Bytes) (conversation : SupervisorHelperConversation) :
    SupervisorHelperConversation :=
  if conversation.state = .failed then conversation else { conversation with buffer := unfinished }

variable {conversation : SupervisorHelperConversation} {unfinished : Bytes}

omit [DecimalText]

theorem resume_of_failed (unfinished : Bytes) (h : conversation.state = .failed) : conversation.resume unfinished = conversation :=
  if_pos h

theorem resume_of_ne (h : conversation.state ≠ .failed) :
    conversation.resume unfinished = { conversation with buffer := unfinished } := if_neg h

theorem resume_state : (conversation.resume unfinished).state = conversation.state := by
  unfold resume
  split <;> rfl

theorem receiveTerminal_resume (line : Bytes) :
    ({ conversation with buffer := unfinished } : SupervisorHelperConversation).receiveTerminal line =
      ((conversation.receiveTerminal line).1.resume unfinished, (conversation.receiveTerminal line).2) := by
  unfold receiveTerminal
  split
  · rfl
  · split <;> rfl

/-- The events of a line do not depend on the buffer. -/
theorem receiveLine_resume (h : conversation.state ≠ .failed) (line : Bytes) :
    (conversation.resume unfinished).receiveLine line =
      ((conversation.receiveLine line).1.resume unfinished, (conversation.receiveLine line).2) := by
  have hreply : ({ conversation with buffer := unfinished } : SupervisorHelperConversation).receiveReply line =
      (conversation.receiveReply line).map fun outcome => (outcome.1.resume unfinished, outcome.2) := by
    obtain ⟨buffer, pending, state⟩ := conversation
    unfold receiveReply
    cases state <;> cases pending <;> dsimp only <;> repeat' split
    all_goals rfl
  rw [resume_of_ne h]
  unfold receiveLine
  rw [hreply]
  cases conversation.receiveReply line with
  | some outcome => rfl
  | none =>
      dsimp only [Option.map_none]
      split
      · rfl
      · cases hstate : conversation.state <;> dsimp only
        case active => exact receiveTerminal_resume line
        case profileStateUnknown => exact receiveTerminal_resume line
        all_goals repeat' split
        all_goals rfl

theorem receiveLines_resume (unfinished : Bytes) (lines : List Bytes) : ∀ {conversation : SupervisorHelperConversation},
    conversation.state ≠ .failed →
    (conversation.resume unfinished).receiveLines lines =
      ((conversation.receiveLines lines).1.resume unfinished, (conversation.receiveLines lines).2) := by
  induction lines with
  | nil => exact fun _ => rfl
  | cons line lines ih =>
      intro conversation h
      unfold receiveLines
      rw [receiveLine_resume h]
      dsimp only
      rw [resume_state]
      split
      · rfl
      · split
        · rfl
        · rename_i hgoes
          rw [ih hgoes]

end SupervisorHelperConversation

namespace SessionAdapter

open SupervisorHelperConversation

variable {adapter : SessionAdapter}

theorem beginsAlike_resume (unfinished : Bytes) (actions : List ControlPlaneAction) :
    BeginsAlike (SupervisorHelperConversation.resume unfinished) actions := by
  intro change _ conversation
  unfold beginProfileChange
  by_cases hbegin : conversation.state ≠ .active ∨ conversation.pendingProfileChange.isSome = true
  · rw [if_pos hbegin, if_pos]
    · rfl
    · unfold SupervisorHelperConversation.resume
      split <;> exact hbegin
  · have hactive := not_or.mp hbegin
    rw [ne_eq, not_not] at hactive
    have hgoes : conversation.state ≠ .failed := by
      rw [hactive.1]
      decide
    rw [resume_of_ne hgoes, if_neg hbegin, if_neg hbegin]
    dsimp only
    split
    · rfl
    · have hbegun : ({ conversation with pendingProfileChange := some change } :
          SupervisorHelperConversation).state ≠ .failed := hgoes
      exact congrArg (fun next => some (serializeProfileChange change, next)) (resume_of_ne hbegun).symm

theorem deliver_all_resume (unfinished : Bytes) (events : List HelperConversationEvent) :
    ∀ adapter : SessionAdapter, events.foldl (deliverHelperEvent true)
        (adapter.mapConversation (SupervisorHelperConversation.resume unfinished)) =
      (events.foldl (deliverHelperEvent true) adapter).mapConversation
        (SupervisorHelperConversation.resume unfinished) := by
  induction events with
  | nil => exact fun _ => rfl
  | cons event events ih =>
      intro adapter
      rw [List.foldl_cons, deliver_mapConversation true fun _ _ _ _ _ => beginsAlike_resume unfinished _]
      exact ih _

/-- One read, for an adapter whose conversation goes on with an unfinished line. -/
theorem readHelperEvents_resume (adapter : SessionAdapter) (unfinished bytes : Bytes)
    (hrest : (splitLines (unfinished ++ bytes)).2.length ≤ maximumHelperMessageSize) :
    (adapter.mapConversation (SupervisorHelperConversation.resume unfinished)).readHelperEvents true
        (.data bytes) =
      (adapter.readLines (splitLines (unfinished ++ bytes)).1).mapConversation
        (SupervisorHelperConversation.resume (splitLines (unfinished ++ bytes)).2) := by
  have hread : ∀ (current : SessionAdapter) (received : SupervisorHelperConversation ×
      List HelperConversationEvent), current.conversation.receiveBytes bytes = received →
      current.readHelperEvents true (.data bytes) =
        received.2.foldl (deliverHelperEvent true) (current.withConversation received.1) := by
    rintro current received rfl
    rfl
  by_cases hfailed : adapter.conversation.state = .failed
  · have hsame : ∀ rest, adapter.mapConversation (SupervisorHelperConversation.resume rest) = adapter :=
      fun rest => congrArg adapter.withConversation (resume_of_failed rest hfailed)
    rw [readLines, if_pos hfailed, hsame, hsame, hread adapter (adapter.conversation, [])]
    · rfl
    · rw [receiveBytes, if_pos hfailed]
  · have hlines := receiveLines_resume unfinished (splitLines (unfinished ++ bytes)).1 hfailed
    have hbuffer : (adapter.conversation.resume unfinished).buffer = unfinished := by
      rw [resume_of_ne hfailed]
    rw [readLines, if_neg hfailed]
    dsimp only
    rw [← deliver_all_resume]
    by_cases hlost : (adapter.conversation.receiveLines (splitLines (unfinished ++ bytes)).1).1.state = .failed
    · rw [hread _ (adapter.conversation.receiveLines (splitLines (unfinished ++ bytes)).1)]
      · have hsame := congrArg adapter.withConversation
          (resume_of_failed (splitLines (unfinished ++ bytes)).2 hlost)
        exact congrArg (List.foldl _ · _) hsame.symm
      · rw [receiveBytes, if_neg (by exact fun h => hfailed (resume_state.symm.trans h))]
        dsimp only [mapConversation, withConversation]
        rw [hbuffer, hlines, resume_of_failed unfinished hlost, if_pos hlost]
    · rw [hread _ ((adapter.conversation.receiveLines (splitLines (unfinished ++ bytes)).1).1.resume
          (splitLines (unfinished ++ bytes)).2,
        (adapter.conversation.receiveLines (splitLines (unfinished ++ bytes)).1).2)]
      · rfl
      · rw [receiveBytes, if_neg (by exact fun h => hfailed (resume_state.symm.trans h))]
        dsimp only [mapConversation, withConversation]
        rw [hbuffer, hlines, resume_of_ne hlost, resume_of_ne hlost, if_neg hlost,
          if_neg (Nat.not_lt.mpr hrest)]

/-- The helper's bytes read one after the other, with every send succeeding. -/
def readAll (adapter : SessionAdapter) (reads : List Bytes) : SessionAdapter :=
  reads.foldl (fun current bytes => current.readHelperEvents true (.data bytes)) (adapter.withSends {})

/-- Reads that carry a list of lines are a list of groups of these lines. -/
theorem foldl_readHelperEvents {reads : List Bytes} : ∀ {adapter : SessionAdapter} {unfinished : Bytes}
    {lines : List Bytes}, newline ∉ unfinished → (∀ line ∈ lines, newline ∉ line) →
    (∀ line ∈ lines, line.length ≤ maximumHelperMessageSize) →
    unfinished ++ reads.flatten = encodeLines lines →
    reads.foldl (fun current bytes => current.readHelperEvents true (.data bytes))
        (adapter.mapConversation (SupervisorHelperConversation.resume unfinished)) =
      ((completedPieces newline unfinished reads).foldl readLines adapter).mapConversation
        (SupervisorHelperConversation.resume []) := by
  induction reads with
  | nil =>
      intro adapter unfinished lines hunfinished _ _ h
      rw [List.flatten_nil, List.append_nil] at h
      cases lines with
      | nil =>
          rw [h]
          rfl
      | cons line lines =>
          rw [encodeLines, encodeMarked_cons] at h
          exact absurd (by rw [h]; simp) hunfinished
  | cons bytes reads ih =>
      intro adapter unfinished lines _ hlines hshort h
      rw [List.flatten_cons, ← List.append_assoc] at h
      obtain ⟨rest, hsplit, hrest⟩ := splitAtMark_of_append_eq hlines h
      have hmem : ∀ line ∈ rest, line ∈ lines := fun line hline => hsplit ▸ List.mem_append_right _ hline
      have hlength := length_le_of_append_eq (notMem_splitAtMark_snd (unfinished ++ bytes))
        (fun line hline => hshort line (hmem line hline)) hrest
      rw [List.foldl_cons, readHelperEvents_resume adapter unfinished bytes hlength,
        ih (notMem_splitAtMark_snd _) (fun line hline => hlines line (hmem line hline))
          (fun line hline => hshort line (hmem line hline)) hrest]
      rfl

/-! ### Groups of lines -/

theorem readLines_nil (adapter : SessionAdapter) : adapter.readLines [] = adapter := by
  unfold readLines
  split <;> rfl

/-- A group can be cut after its first line when the event of that line dispatches nothing. -/
theorem readLines_cons {line : Bytes} (lines : List Bytes)
    (hquiet : ∀ next, adapter.DispatchesAlike (fun _ => next) (adapter.conversation.receiveLine line).2) :
    adapter.readLines (line :: lines) = (adapter.readLines [line]).readLines lines := by
  have hlost : ∀ (current : SessionAdapter) (events : List HelperConversationEvent),
      (events.foldl (deliverHelperEvent true) (current.withConversation lost)).readLines lines =
        events.foldl (deliverHelperEvent true) (current.withConversation lost) := by
    intro current events
    have hstate := (deliver_all_inactive true events (show (current.withConversation
      lost).conversation.state ≠ .active from (by decide : SupervisorState.failed ≠ .active))).1
    rw [readLines, hstate]
    rfl
  unfold readLines
  by_cases hfailed : adapter.conversation.state = .failed
  · rw [if_pos hfailed, if_pos hfailed, if_pos hfailed]
  · rw [if_neg hfailed, if_neg hfailed, ← readLines]
    dsimp only [receiveLines]
    split
    · exact (hlost _ _).symm
    · split
      · exact (hlost _ _).symm
      · rename_i hgoes
        have hdelivered : ∀ next, (adapter.withConversation next).deliverHelperEvent true
              (adapter.conversation.receiveLine line).2 =
            ((adapter.withConversation (adapter.conversation.receiveLine line).1).deliverHelperEvent true
              (adapter.conversation.receiveLine line).2).withConversation next := fun next =>
          (adapter.withConversation (adapter.conversation.receiveLine line).1).deliver_mapConversation true
            (hquiet next)
        generalize hafter : (adapter.withConversation (adapter.conversation.receiveLine
          line).1).deliverHelperEvent true (adapter.conversation.receiveLine line).2 = after at hdelivered
        have hconversation : after.conversation = (adapter.conversation.receiveLine line).1 := by
          rw [← hafter, hdelivered]
          rfl
        rw [List.foldl_cons, hdelivered, List.foldl_cons, List.foldl_nil, hafter, readLines,
          hconversation, if_neg hgoes]

/-- Only a report of an applied or a restored change dispatches another one. -/
theorem dispatchesAlike_of_ne {line : Bytes} (happlied : line ≠ profileOkLine)
    (hrestored : line ≠ profileFailedLine) (conversation : SupervisorHelperConversation)
    (replace : SupervisorHelperConversation → SupervisorHelperConversation) :
    adapter.DispatchesAlike replace (conversation.receiveLine line).2 := by
  intro result change plane hevent
  exfalso
  have hterminal : (conversation.receiveTerminal line).2 ≠ .profileChangeResult result change := by
    unfold receiveTerminal
    split
    · simp
    · split <;> simp
  unfold receiveLine at hevent
  cases hreply : conversation.receiveReply line with
  | some outcome =>
      rw [hreply] at hevent
      obtain ⟨pending, -, -, ⟨hline, -⟩ | ⟨hline, -⟩ | ⟨-, rfl⟩⟩ := receiveReply_some hreply
      · exact happlied hline
      · exact hrestored hline
      · cases hevent
  | none =>
      rw [hreply] at hevent
      dsimp only at hevent
      split at hevent
      · cases hevent
      · cases hstate : conversation.state <;> rw [hstate] at hevent <;> dsimp only at hevent
        case active => exact hterminal hevent
        case profileStateUnknown => exact hterminal hevent
        all_goals repeat' split at hevent
        all_goals cases hevent

/-- Lines that report no end of a change may be cut into groups in any way. -/
theorem readLines_of_ne (lines : List Bytes) (h : ∀ line ∈ lines, line ≠ profileOkLine ∧
    line ≠ profileFailedLine) : ∀ adapter : SessionAdapter,
    adapter.readLines lines = lines.foldl (fun current line => current.readLines [line]) adapter := by
  induction lines with
  | nil => exact readLines_nil
  | cons line lines ih =>
      intro adapter
      obtain ⟨happlied, hrestored⟩ := h line List.mem_cons_self
      rw [readLines_cons lines fun next => dispatchesAlike_of_ne happlied hrestored _ _, List.foldl_cons]
      exact ih (fun other hother => h other (List.mem_cons_of_mem _ hother)) _

theorem foldl_readLines_of_ne (groups : List (List Bytes)) (h : ∀ line ∈ groups.flatten,
    line ≠ profileOkLine ∧ line ≠ profileFailedLine) : ∀ adapter : SessionAdapter,
    groups.foldl readLines adapter =
      groups.flatten.foldl (fun current line => current.readLines [line]) adapter := by
  induction groups with
  | nil => exact fun _ => rfl
  | cons lines groups ih =>
      intro adapter
      rw [List.flatten_cons] at h
      rw [List.foldl_cons, List.flatten_cons, List.foldl_append,
        readLines_of_ne lines (fun line hline => h line (List.mem_append_left _ hline))]
      exact ih (fun line hline => h line (List.mem_append_right _ hline)) _

theorem foldl_readLines_empty (groups : List (List Bytes)) (h : ∀ lines ∈ groups, lines = []) :
    groups.foldl readLines adapter = adapter := by
  induction groups with
  | nil => rfl
  | cons lines groups ih =>
      rw [List.foldl_cons, h lines List.mem_cons_self, readLines_nil]
      exact ih fun other hother => h other (List.mem_cons_of_mem _ hother)

end SessionAdapter

end

end NetLagLab
