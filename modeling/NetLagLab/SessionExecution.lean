import NetLagLab.ControlPlaneBatches
import NetLagLab.SessionAdapter

/-! What the Supervisor's adapter makes of one event of the control plane. Either every text of the
batch goes out and its dispatch, if it has one, begins a Profile Change on the helper's socket; or the
Controller is dropped at the first text that fails and the dispatch never happens. -/

namespace NetLagLab

open ByteLines

namespace ControllerControlPlane

section WriteFailed

variable {plane : ControllerControlPlane}

theorem marked_controllerWriteFailed {event : ControlPlaneEvent} (h : plane.Marked event) :
    plane.controllerWriteFailed.Marked event := by
  cases event <;> exact h

end WriteFailed

end ControllerControlPlane

/-! ### Carrying out a batch -/

namespace ActionBatch

def stopEvents (batch : ActionBatch) : List LifecycleEvent :=
  if batch.stop then [.stopRequested] else []

def failEvents (batch : ActionBatch) : List LifecycleEvent :=
  if batch.fail then [.profileStateUnknown] else []

/-- Every text of the batch goes out. -/
def sent (batch : ActionBatch) (results : List Bool) : Bool :=
  (results.take batch.texts.length).all id

end ActionBatch

section Executor

variable [DecimalText]

theorem execute_texts {connection : Connection} (texts : List Bytes) (rest : List ControlPlaneAction)
    (links : SessionLinks) (h : links.controller = some connection) :
    executeControlPlaneActions (texts.map .sendControllerText ++ rest) links =
      if (links.sends.controller.take texts.length).all id then
        executeControlPlaneActions rest { links with
          sends.controller := links.sends.controller.drop texts.length
          texts := links.texts ++ texts.map (connection, ·) }
      else
        ({ links with
            sends.controller := links.sends.controller.drop
              ((links.sends.controller.take texts.length).takeWhile id).length.succ
            texts := links.texts ++ (texts.take
              ((links.sends.controller.take texts.length).takeWhile id).length).map (connection, ·)
            }.dropController, []) := by
  induction texts generalizing links with
  | nil => simp
  | cons text texts ih =>
      obtain ⟨plane, controller, conversation, ⟨results, helper⟩, sentTexts, commands⟩ := links
      dsimp only at h
      subst h
      rcases results with _ | ⟨result, results⟩
      · rw [List.map_cons, List.cons_append, executeControlPlaneActions]
        simp only [List.headD_nil, List.tail_nil]
        rw [ih _ rfl]
        simp
      · cases result with
        | false =>
            rw [List.map_cons, List.cons_append, executeControlPlaneActions]
            simp [SessionLinks.dropController]
        | true =>
            rw [List.map_cons, List.cons_append, executeControlPlaneActions]
            simp only [List.headD_cons, List.tail_cons]
            rw [ih _ rfl]
            simp

/-- Outside the active state no Profile Change begins. -/
theorem execute_inactive (actions : List ControlPlaneAction) :
    ∀ {links : SessionLinks}, links.conversation.state ≠ .active →
      (executeControlPlaneActions actions links).1.conversation = links.conversation ∧
        (executeControlPlaneActions actions links).1.commands = links.commands := by
  induction actions with
  | nil => exact fun _ => ⟨rfl, rfl⟩
  | cons action actions ih =>
      intro links h
      cases action with
      | requestLifecycleStop => exact ih h
      | failSessionForUnknownProfileState => exact ih h
      | disconnectController =>
          exact ih (show ({ links with controller := none } : SessionLinks).conversation.state ≠ .active from h)
      | sendControllerText text =>
          unfold executeControlPlaneActions
          dsimp only
          split
          · exact ih h
          · exact ⟨rfl, rfl⟩
          · exact ⟨rfl, rfl⟩
      | dispatchProfileChange change =>
          have hnone : links.conversation.beginProfileChange change = none := if_pos (Or.inl h)
          unfold executeControlPlaneActions
          rw [hnone]
          exact ⟨rfl, rfl⟩

/-- The stop request of a batch is reported whatever becomes of the rest. -/
theorem execute_stop (batch : ActionBatch) (rest : List ControlPlaneAction) (links : SessionLinks) :
    executeControlPlaneActions
        ((if batch.stop then [.requestLifecycleStop] else []) ++ rest) links =
      ((executeControlPlaneActions rest links).1,
        batch.stopEvents ++ (executeControlPlaneActions rest links).2) := by
  unfold ActionBatch.stopEvents
  split <;> rfl

/-- A batch all of whose texts go out: what is left to do is its dispatch. -/
theorem execute_sent {batch : ActionBatch} {links : SessionLinks}
    (hcontroller : batch.texts ≠ [] → links.controller.isSome = true)
    (hsent : batch.sent links.sends.controller = true) :
    ∃ after : SessionLinks, after.controlPlane = links.controlPlane ∧
      after.controller = (if batch.disconnect then none else links.controller) ∧
      after.conversation = links.conversation ∧ after.commands = links.commands ∧
      after.sends.helper = links.sends.helper ∧
      executeControlPlaneActions batch.actions links =
        ((executeControlPlaneActions (batch.dispatch.toList.map .dispatchProfileChange) after).1,
          batch.stopEvents ++ batch.failEvents ++
            (executeControlPlaneActions (batch.dispatch.toList.map .dispatchProfileChange) after).2) := by
  have htexts : ∃ middle : SessionLinks, middle.controlPlane = links.controlPlane ∧
      middle.controller = links.controller ∧ middle.conversation = links.conversation ∧
      middle.commands = links.commands ∧ middle.sends.helper = links.sends.helper ∧
      ∀ rest, executeControlPlaneActions (batch.texts.map .sendControllerText ++ rest) links =
        executeControlPlaneActions rest middle := by
    by_cases hnone : batch.texts = []
    · exact ⟨links, rfl, rfl, rfl, rfl, rfl, fun rest => by rw [hnone]; rfl⟩
    · obtain ⟨connection, hconnection⟩ := Option.isSome_iff_exists.mp (hcontroller hnone)
      refine ⟨_, ?_, ?_, ?_, ?_, ?_,
        fun rest => (execute_texts batch.texts rest links hconnection).trans (if_pos hsent)⟩ <;> rfl
  obtain ⟨middle, hplane, hmiddle, hconversation, hcommands, hhelper, hrest⟩ := htexts
  refine ⟨if batch.disconnect then { middle with controller := none } else middle, ?_⟩
  rw [ActionBatch.actions, ActionBatch.front, List.append_assoc, List.append_assoc, List.append_assoc,
    List.append_assoc, execute_stop, hrest]
  unfold ActionBatch.failEvents
  cases batch.disconnect <;> cases batch.fail <;>
    simp [executeControlPlaneActions, hplane, hmiddle, hconversation, hcommands, hhelper]

/-- A batch one of whose texts does not go out: the Controller is dropped and nothing else
happens. -/
theorem execute_dropped {batch : ActionBatch} {links : SessionLinks}
    (hcontroller : batch.texts ≠ [] → links.controller.isSome = true)
    (hsent : batch.sent links.sends.controller = false) :
    ∃ after : SessionLinks,
      after.controlPlane = (links.controlPlane.handle .controllerWriteFailed).1 ∧
      after.controller = none ∧ after.conversation = links.conversation ∧
      after.commands = links.commands ∧ after.sends.helper = links.sends.helper ∧
      executeControlPlaneActions batch.actions links = (after, batch.stopEvents) := by
  have hsome : batch.texts ≠ [] := by
    intro hnone
    rw [ActionBatch.sent, hnone] at hsent
    cases hsent
  obtain ⟨connection, hconnection⟩ := Option.isSome_iff_exists.mp (hcontroller hsome)
  have htexts : ∃ after : SessionLinks,
      after.controlPlane = (links.controlPlane.handle .controllerWriteFailed).1 ∧
      after.controller = none ∧ after.conversation = links.conversation ∧
      after.commands = links.commands ∧ after.sends.helper = links.sends.helper ∧
      ∀ rest, executeControlPlaneActions (batch.texts.map .sendControllerText ++ rest) links =
        (after, []) := by
    refine ⟨_, ?_, ?_, ?_, ?_, ?_, fun rest =>
      (execute_texts batch.texts rest links hconnection).trans
        (if_neg (Bool.eq_false_iff.mp hsent))⟩ <;> rfl
  obtain ⟨after, hplane, hafter, hconversation, hcommands, hhelper, hrest⟩ := htexts
  refine ⟨after, hplane, hafter, hconversation, hcommands, hhelper, ?_⟩
  rw [ActionBatch.actions, ActionBatch.front, List.append_assoc, List.append_assoc, List.append_assoc,
    execute_stop, hrest]
  simp

end Executor

/-! ### Handling one event -/

/-- What of the control plane's next state does not depend on the sends. -/
structure ControllerControlPlane.Followed (plane : ControllerControlPlane) (event : ControlPlaneEvent)
    (next : ControllerControlPlane) : Prop where
  inv : next.Inv
  stillStopping : plane.stopping = true → next.stopping = true
  stillFailed : plane.profileStateFailed = true → next.profileStateFailed = true
  confirmed : next.confirmedProfile = plane.confirmedAfter event
  marked : next.Marked event

/-- What no action changes of the adapter. -/
structure SessionAdapter.SameSession (adapter after : SessionAdapter) : Prop where
  activated : after.activated = adapter.activated
  listening : after.listening = adapter.listening
  workloadFinished : after.workloadFinished = adapter.workloadFinished
  connections : after.connections = adapter.connections
  childArguments : after.childArguments = adapter.childArguments

/-- The lifecycle events that the actions of a batch lead to. -/
def LifecycleEvent.OfBatch (next : ControllerControlPlane) (lifecycle : LifecycleEvent) : Prop :=
  lifecycle = .stopRequested ∧ next.stopping = true ∨
  lifecycle = .profileStateUnknown ∧ next.profileStateFailed = true ∨ lifecycle = .conversationLost

/-- How the change in flight and the conversation with the helper go on when an event is handled. -/
inductive DispatchOutcome [DecimalText] (adapter after : SessionAdapter) (remaining : Option ProfileChange)
    (next : ControllerControlPlane) : Prop
  /-- There is no dispatch, or it was dropped with the Controller. -/
  | nothing (conversation : after.conversation = adapter.conversation)
      (commands : after.commands = adapter.commands) (inFlight : next.inFlightChange = remaining)
  | begun (change : ProfileChange) (frame : Bytes) (free : remaining = none)
      (inFlight : next.inFlightChange = some change) (canonical : change.Canonical)
      (going : next.stopping = false ∧ next.workloadTerminal = false ∧ next.profileStateFailed = false)
      (begins : adapter.conversation.beginProfileChange change = some (frame, after.conversation))
      (commands : after.commands = adapter.commands ++ [.profileChange change] ∨
        after.commands = adapter.commands ∧ adapter.sends.helper ≠ [])
  | refused (change : ProfileChange) (free : remaining = none)
      (inFlight : next.inFlightChange = some change) (canonical : change.Canonical)
      (going : next.stopping = false ∧ next.workloadTerminal = false ∧ next.profileStateFailed = false)
      (refuses : adapter.conversation.beginProfileChange change = none)
      (conversation : after.conversation = adapter.conversation)
      (commands : after.commands = adapter.commands)
      (lost : LifecycleEvent.conversationLost ∈ after.pendingEvents)

/-- What handling an event does to the adapter. -/
structure Handled [DecimalText] (adapter : SessionAdapter) (plane : ControllerControlPlane)
    (event : ControlPlaneEvent) (after : SessionAdapter) (next : ControllerControlPlane) : Prop extends
    plane.Followed event next, adapter.SameSession after where
  controlPlane : after.controlPlane = some next
  attached : next.controllerAttached = after.client.isSome
  dispatch : DispatchOutcome adapter after (plane.remainingChange event) next
  client : after.client = adapter.client ∨ after.client = none
  events : ∃ events, after.pendingEvents = adapter.pendingEvents ++ events ∧
    ∀ lifecycle ∈ events, LifecycleEvent.OfBatch next lifecycle
  helperSends : adapter.sends.helper = [] → after.sends.helper = []

namespace SessionAdapter

open ControllerControlPlane

variable [DecimalText] {adapter : SessionAdapter} {plane : ControllerControlPlane}
  {event : ControlPlaneEvent}

theorem handled_afterActions {next : ControllerControlPlane} {links : SessionLinks}
    {events : List LifecycleEvent} (hfollowed : plane.Followed event next)
    (hplane : links.controlPlane = next) (hattached : next.controllerAttached = links.controller.isSome)
    (hdispatch : DispatchOutcome adapter (adapter.afterActions links events)
      (plane.remainingChange event) next)
    (hclient : links.controller = adapter.client ∨ links.controller = none)
    (hevents : ∀ lifecycle ∈ events, LifecycleEvent.OfBatch next lifecycle)
    (hsends : adapter.sends.helper = [] → links.sends.helper = []) :
    Handled adapter plane event (adapter.afterActions links events) next :=
  { hfollowed with
    controlPlane := congrArg some hplane
    attached := hattached
    dispatch := hdispatch
    client := hclient
    events := ⟨events, rfl, hevents⟩
    helperSends := hsends
    activated := rfl
    listening := rfl
    workloadFinished := rfl
    connections := rfl
    childArguments := rfl }

omit [DecimalText] in
theorem ofBatch_of_mem {next : ControllerControlPlane} {batch : ActionBatch}
    (houtcome : plane.Outcome event next batch) :
    ∀ lifecycle ∈ batch.stopEvents ++ batch.failEvents, LifecycleEvent.OfBatch next lifecycle := by
  intro lifecycle hlifecycle
  rw [List.mem_append, ActionBatch.stopEvents, ActionBatch.failEvents] at hlifecycle
  rcases hlifecycle with hlifecycle | hlifecycle
  · split at hlifecycle
    · rename_i hstop
      exact Or.inl ⟨List.mem_singleton.mp hlifecycle, houtcome.stopped hstop⟩
    · cases hlifecycle
  · split at hlifecycle
    · rename_i hfail
      exact Or.inr (Or.inl ⟨List.mem_singleton.mp hlifecycle, houtcome.failed hfail⟩)
    · cases hlifecycle

/-- The dispatch of a batch whose texts are all out. -/
theorem handled_dispatch {next : ControllerControlPlane} {links : SessionLinks} {change : ProfileChange}
    {events : List LifecycleEvent} (hfollowed : plane.Followed event next)
    (hdispatch : next.pendingDispatch = some change) (hsettled : next.settledChange = plane.remainingChange event)
    (hgoing : next.stopping = false ∧ next.workloadTerminal = false ∧ next.profileStateFailed = false)
    (hplane : links.controlPlane = next) (hattached : next.controllerAttached = links.controller.isSome)
    (hclient : links.controller = adapter.client ∨ links.controller = none)
    (hconversation : links.conversation = adapter.conversation)
    (hcommands : links.commands = adapter.commands)
    (hsends : links.sends.helper = adapter.sends.helper)
    (hevents : ∀ lifecycle ∈ events, LifecycleEvent.OfBatch next lifecycle) :
    Handled adapter plane event
      (adapter.afterActions (executeControlPlaneActions [.dispatchProfileChange change] links).1
        (events ++ (executeControlPlaneActions [.dispatchProfileChange change] links).2)) next := by
  obtain ⟨hinFlight, hnone, hcanonical⟩ := inFlightChange_of_pendingDispatch hdispatch
  have hfree : plane.remainingChange event = none := hsettled.symm.trans hnone
  have hlost : ∀ lifecycle ∈ events ++ [LifecycleEvent.conversationLost],
      LifecycleEvent.OfBatch next lifecycle := by
    intro lifecycle hlifecycle
    rcases List.mem_append.mp hlifecycle with hlifecycle | hlifecycle
    · exact hevents lifecycle hlifecycle
    · exact Or.inr (Or.inr (List.mem_singleton.mp hlifecycle))
  simp only [executeControlPlaneActions]
  rw [hconversation]
  cases hbegin : adapter.conversation.beginProfileChange change with
  | none =>
      exact handled_afterActions hfollowed hplane hattached
        (.refused change hfree hinFlight (hcanonical hfollowed.inv) hgoing hbegin hconversation
          hcommands (List.mem_append_right _ (List.mem_append_right _ (List.mem_singleton.mpr rfl))))
        hclient hlost fun hnil => hsends.trans hnil
  | some begun =>
      obtain ⟨frame, conversation⟩ := begun
      dsimp only
      cases hresult : links.sends.helper.headD true with
      | true =>
          refine handled_afterActions hfollowed hplane hattached
            (.begun change frame hfree hinFlight (hcanonical hfollowed.inv) hgoing hbegin (Or.inl ?_))
            hclient ?_ fun hnil => congrArg List.tail (hsends.trans hnil)
          · exact congrArg (fun commands => commands ++ [HelperRuntimeCommand.profileChange change])
              hcommands
          · rw [if_pos rfl, List.append_nil]
            exact hevents
      | false =>
          have hsome : adapter.sends.helper ≠ [] := by
            intro hnil
            rw [hsends, hnil] at hresult
            cases hresult
          exact handled_afterActions hfollowed hplane hattached
            (.begun change frame hfree hinFlight (hcanonical hfollowed.inv) hgoing hbegin
              (Or.inr ⟨hcommands, hsome⟩))
            hclient hlost fun hnil => absurd hnil hsome

/-- Every event but a failed write leads to a control plane with a known outcome, whatever the
sends give. -/
theorem handled (hplane : adapter.controlPlane = some plane) (hinv : plane.Inv)
    (hwrite : event ≠ .controllerWriteFailed)
    (hattach : event = .controllerAttached → plane.controllerAttached = false)
    (hattached : plane.attachedAfter event = adapter.client.isSome) :
    ∃ next, Handled adapter plane event (adapter.handleControlEvent event) next := by
  obtain ⟨batch, hactions, houtcome⟩ := plane.handle_outcome hinv hwrite hattach
  have hcontroller : batch.texts ≠ [] →
      (adapter.links (plane.handle event).1).controller.isSome = true := by
    intro hsome
    by_contra hnone
    rw [Bool.not_eq_true, show (adapter.links _).controller = adapter.client from rfl, ← hattached]
      at hnone
    exact hsome (houtcome.silent hnone).1
  have hfollowed : plane.Followed event (plane.handle event).1 :=
    ⟨houtcome.inv, houtcome.stillStopping, houtcome.stillFailed, houtcome.confirmed, houtcome.marked⟩
  have hevents := ofBatch_of_mem houtcome
  have hhandle : adapter.handleControlEvent event =
      adapter.afterActions
        (executeControlPlaneActions batch.actions (adapter.links (plane.handle event).1)).1
        (executeControlPlaneActions batch.actions (adapter.links (plane.handle event).1)).2 := by
    rw [handleControlEvent, hplane, ← hactions]
  rw [hhandle]
  by_cases hsent : batch.sent adapter.sends.controller = true
  · obtain ⟨links, hlinks, hcontroller', hconversation, hcommands, hhelper, hexecute⟩ :=
      execute_sent hcontroller hsent
    rw [hexecute]
    have hattached' : (plane.handle event).1.controllerAttached = links.controller.isSome := by
      rw [houtcome.attached, hattached, hcontroller']
      change _ = (if batch.disconnect = true then none else adapter.client).isSome
      cases batch.disconnect
      · exact Bool.and_true _
      · exact Bool.and_false _
    have hclient : links.controller = adapter.client ∨ links.controller = none := by
      rw [hcontroller']
      cases batch.disconnect
      · exact Or.inl rfl
      · exact Or.inr rfl
    refine ⟨(plane.handle event).1, ?_⟩
    cases hdispatch : batch.dispatch with
    | none =>
        have hinFlight : (plane.handle event).1.inFlightChange = plane.remainingChange event := by
          rw [← settledChange_of_pendingDispatch (houtcome.pending.symm.trans hdispatch),
            houtcome.settled]
        refine handled_afterActions hfollowed hlinks hattached'
          (.nothing hconversation hcommands hinFlight) hclient ?_ hhelper.trans
        rw [show executeControlPlaneActions (List.map _ (Option.toList none)) links = (links, []) from rfl,
          List.append_nil]
        exact hevents
    | some change =>
        exact handled_dispatch hfollowed (houtcome.pending.symm.trans hdispatch) houtcome.settled
          (houtcome.going (by rw [hdispatch]; exact Option.some_ne_none change)) hlinks hattached'
          hclient hconversation hcommands hhelper hevents
  · obtain ⟨links, hlinks, hnone, hconversation, hcommands, hhelper, hexecute⟩ :=
      execute_dropped hcontroller (Bool.eq_false_iff.mpr hsent)
    rw [hexecute]
    refine ⟨(plane.handle event).1.controllerWriteFailed, ?_⟩
    exact handled_afterActions
      ⟨inv_controllerWriteFailed hfollowed.inv, hfollowed.stillStopping, hfollowed.stillFailed,
        hfollowed.confirmed, marked_controllerWriteFailed hfollowed.marked⟩
      hlinks (congrArg Option.isSome hnone).symm
      (.nothing hconversation hcommands (inFlightChange_controllerWriteFailed.trans houtcome.settled))
      (Or.inr hnone) (fun lifecycle hlifecycle => hevents lifecycle (List.mem_append_left _ hlifecycle))
      hhelper.trans

end SessionAdapter

end NetLagLab
