import NetLagLab.SessionInvariant

/-! Which connection the ready flags of a turn are used for. `poll` reports on the Controller that is
connected when the turn begins. Handling the helper's frames can drop that Controller, and the same
turn can accept another one; its flags are then those of the Controller that is gone. -/

namespace NetLagLab

open ByteLines ControllerControlPlane SupervisorHelperConversation

def ControlPlaneAction.isText : ControlPlaneAction → Bool
  | .sendControllerText _ => true
  | _ => false

/-- Carrying out the actions leaves no Controller connected: they disconnect it, or one of their texts
is not sent. -/
def dropsController (actions : List ControlPlaneAction) (results : List Bool) : Bool :=
  decide (ControlPlaneAction.disconnectController ∈ actions)
    || !(results.take (actions.countP (·.isText))).all id

/-- The end of the Workload. -/
def HelperConversationEvent.isTerminal : HelperConversationEvent → Bool
  | .workloadExited _ => true
  | .workloadSignaled _ => true
  | _ => false

theorem mem_disconnect_actions (batch : ActionBatch) :
    ControlPlaneAction.disconnectController ∈ batch.actions ↔ batch.disconnect = true := by
  unfold ActionBatch.actions ActionBatch.front
  cases batch.stop <;> cases batch.disconnect <;> cases batch.fail <;> cases batch.dispatch <;> simp

theorem countP_isText_actions (batch : ActionBatch) :
    batch.actions.countP (·.isText) = batch.texts.length := by
  have htexts : (batch.texts.map ControlPlaneAction.sendControllerText).countP (·.isText) =
      batch.texts.length := by
    rw [List.countP_map]
    exact List.countP_eq_length.mpr fun _ _ => rfl
  unfold ActionBatch.actions ActionBatch.front
  rw [List.countP_append, List.countP_append, List.countP_append, List.countP_append, htexts]
  cases batch.stop <;> cases batch.disconnect <;> cases batch.fail <;> cases batch.dispatch <;>
    simp [ControlPlaneAction.isText]

namespace SessionAdapter

variable {adapter : SessionAdapter}

/-- What the later phases of a turn look at. -/
structure SameClient (adapter after : SessionAdapter) : Prop where
  client : after.client = adapter.client
  activated : after.activated = adapter.activated
  listening : after.listening = adapter.listening
  connections : after.connections = adapter.connections

theorem sameClient_push (adapter : SessionAdapter) (event : LifecycleEvent) :
    SameClient adapter (adapter.push event) := ⟨rfl, rfl, rfl, rfl⟩

theorem SameClient.trans {middle after : SessionAdapter} (h : SameClient adapter middle)
    (hnext : SameClient middle after) : SameClient adapter after :=
  ⟨hnext.client.trans h.client, hnext.activated.trans h.activated, hnext.listening.trans h.listening,
    hnext.connections.trans h.connections⟩

section

variable [DecimalText]

/-- The events of a read from the helper. -/
def helperEvents (adapter : SessionAdapter) : SocketRead → List HelperConversationEvent
  | .data bytes => (adapter.conversation.receiveBytes bytes).2
  | .peerClosed => adapter.conversation.peerClosed.2
  | .failed => []

/-- What the control plane asks for when the first event of a read is the end of a change. -/
def resultActions (adapter : SessionAdapter) (events : List HelperConversationEvent) :
    List ControlPlaneAction :=
  match events.head?, adapter.controlPlane with
  | some (.profileChangeResult result change), some plane =>
      (plane.handle (.helperProfileChangeResult (controlPlaneResult result) change)).2
  | _, _ => []

/-- A turn that uses flags for a connection they were not reported for: the end of a change drops the
polled Controller, the Session still takes Controllers, another one is accepted and greeted, and the
flags of the first ask for something. -/
structure StaleReadiness (adapter : SessionAdapter) (input : CycleInput) : Prop where
  connected : adapter.client.isSome = true
  activated : adapter.activated = true
  helper : (input.helper.pollin || input.helper.pollhup) = true
  dropped : dropsController (adapter.resultActions (adapter.helperEvents input.helperRead))
    input.resultSends = true
  continuing : (adapter.helperEvents input.helperRead).any (·.isTerminal) = false
  accepted : (input.listening.pollin && input.accepts && input.greets) = true
  reported : (input.controller.pollin || input.controller.pollhup || input.controller.pollerr
    || input.controller.pollnval) = true

/-! ### The connected Controller during the helper's part of a turn -/

theorem sameClient_of_quiet {event : ControlPlaneEvent}
    (h : ∀ plane : ControllerControlPlane, adapter.controlPlane = some plane →
      (plane.handle event).2 = [] ∨ (plane.handle event).2 = [.failSessionForUnknownProfileState]) :
    SameClient adapter (adapter.handleControlEvent event) := by
  unfold handleControlEvent
  split
  · exact ⟨rfl, rfl, rfl, rfl⟩
  · rename_i plane hplane
    dsimp only
    rcases h plane hplane with hactions | hactions
    · rw [hactions]
      exact ⟨rfl, rfl, rfl, rfl⟩
    · rw [hactions]
      exact ⟨rfl, rfl, rfl, rfl⟩

/-- A late event drops nobody, and the end of the Workload closes the Session to Controllers. -/
theorem deliver_late_client (adapter : SessionAdapter) (listens : Bool) {event : HelperConversationEvent}
    (hlate : event.isLate = true) :
    (adapter.deliverHelperEvent listens event).client = adapter.client ∧
      (adapter.deliverHelperEvent listens event).activated =
        (adapter.activated && !event.isTerminal) ∧
      (adapter.deliverHelperEvent listens event).listening = adapter.listening ∧
      (adapter.deliverHelperEvent listens event).connections = adapter.connections := by
  have hterminal : SameClient adapter (adapter.handleControlEvent .workloadTerminal) :=
    sameClient_of_quiet fun _ _ => Or.inl rfl
  have hkeep : adapter.activated = (adapter.activated && !false) := (Bool.and_true _).symm
  have hclose : false = (adapter.activated && !true) := (Bool.and_false _).symm
  cases event with
  | workloadExited result => exact ⟨hterminal.client, hclose, hterminal.listening, hterminal.connections⟩
  | workloadSignaled signal => exact ⟨hterminal.client, hclose, hterminal.listening, hterminal.connections⟩
  | cleanupSucceeded => exact ⟨rfl, hkeep, rfl, rfl⟩
  | cleanupFailed => exact ⟨rfl, hkeep, rfl, rfl⟩
  | conversationLost => exact ⟨rfl, hkeep, rfl, rfl⟩
  | _ => cases hlate

theorem deliver_lates_client (listens : Bool) (events : List HelperConversationEvent) :
    ∀ adapter : SessionAdapter, (∀ event ∈ events, event.isLate = true) →
      (events.foldl (deliverHelperEvent listens) adapter).client = adapter.client ∧
      (events.foldl (deliverHelperEvent listens) adapter).activated =
        (adapter.activated && !events.any (·.isTerminal)) ∧
      (events.foldl (deliverHelperEvent listens) adapter).listening = adapter.listening ∧
      (events.foldl (deliverHelperEvent listens) adapter).connections = adapter.connections := by
  induction events with
  | nil => exact fun _ _ => ⟨rfl, (Bool.and_true _).symm, rfl, rfl⟩
  | cons event events ih =>
      intro adapter hlate
      obtain ⟨hclient, hactivated, hlistening, hconnections⟩ :=
        deliver_late_client adapter listens (hlate event List.mem_cons_self)
      obtain ⟨hclients, hactivates, hlistens, hcounts⟩ :=
        ih (adapter.deliverHelperEvent listens event)
          fun other hother => hlate other (List.mem_cons_of_mem _ hother)
      refine ⟨hclients.trans hclient, hactivates.trans ?_, hlistens.trans hlistening,
        hcounts.trans hconnections⟩
      rw [hactivated, List.any_cons, Bool.not_or, Bool.and_assoc]

theorem execute_dispatch_controller (dispatch : Option ProfileChange) (links : SessionLinks) :
    (executeControlPlaneActions (dispatch.toList.map .dispatchProfileChange) links).1.controller =
      links.controller := by
  cases dispatch with
  | none => rfl
  | some change =>
      simp only [Option.toList_some, List.map_cons, List.map_nil, executeControlPlaneActions]
      split
      · rfl
      · split <;> rfl

/-- The end of a change drops the Controller exactly when its actions do. -/
theorem handle_result_client {plane : ControllerControlPlane} (hcore : adapter.Core)
    (hplane : adapter.controlPlane = some plane) (result : ControlPlaneProfileChangeResult)
    (change : ProfileChange) :
    (adapter.handleControlEvent (.helperProfileChangeResult result change)).client =
      if dropsController (plane.handle (.helperProfileChangeResult result change)).2
        adapter.sends.controller then none else adapter.client := by
  obtain ⟨hinv, hattached⟩ := hcore.plane plane hplane
  obtain ⟨batch, hactions, houtcome⟩ := plane.handle_outcome hinv
    (show ControlPlaneEvent.helperProfileChangeResult result change ≠ .controllerWriteFailed by simp)
    (by simp)
  have hcontroller : batch.texts ≠ [] → (adapter.links
      (plane.handle (.helperProfileChangeResult result change)).1).controller.isSome = true := by
    intro hsome
    by_contra hnone
    rw [Bool.not_eq_true, show (adapter.links _).controller = adapter.client from rfl, ← hattached]
      at hnone
    exact hsome (houtcome.silent hnone).1
  have hdrops : dropsController batch.actions adapter.sends.controller =
      (batch.disconnect || !batch.sent adapter.sends.controller) := by
    rw [dropsController, countP_isText_actions, ActionBatch.sent]
    congr 1
    exact Bool.eq_iff_iff.mpr (decide_eq_true_iff.trans (mem_disconnect_actions batch))
  have hhandle : (adapter.handleControlEvent (.helperProfileChangeResult result change)).client =
      (executeControlPlaneActions batch.actions (adapter.links
        (plane.handle (.helperProfileChangeResult result change)).1)).1.controller := by
    rw [handleControlEvent, hplane, ← hactions]
    rfl
  rw [hhandle, hactions, hdrops]
  by_cases hsent : batch.sent adapter.sends.controller = true
  · obtain ⟨links, -, hlinks, -, -, -, hexecute⟩ := execute_sent hcontroller hsent
    rw [hexecute, execute_dispatch_controller, hlinks, hsent, Bool.not_true, Bool.or_false]
    rfl
  · obtain ⟨links, -, hnone, -, -, -, hexecute⟩ :=
      execute_dropped hcontroller (Bool.eq_false_iff.mpr hsent)
    rw [hexecute, hnone, Bool.eq_false_iff.mpr hsent, Bool.not_false, Bool.or_true]
    rfl

/-- The events that are no end of a change have no actions for the Controller. -/
theorem resultActions_of_not_result {event : HelperConversationEvent}
    {events : List HelperConversationEvent}
    (h : ∀ result change, event ≠ .profileChangeResult result change) :
    adapter.resultActions (event :: events) = [] := by
  unfold resultActions
  rw [List.head?_cons]
  split
  · rename_i hevent _
    exact absurd (Option.some.inj hevent) (h _ _)
  · rfl

/-- The first event of a read, while a Controller is connected. -/
theorem deliver_first_client (hinv : adapter.Inv) {plane : ControllerControlPlane}
    (hplane : adapter.controlPlane = some plane) (listens : Bool)
    {middle : SupervisorHelperConversation} (next : SupervisorHelperConversation)
    {event : HelperConversationEvent} (hfirst : FirstEvent adapter.conversation middle event)
    (rest : List HelperConversationEvent) :
    ((adapter.withConversation next).deliverHelperEvent listens event).client =
        (if dropsController (adapter.resultActions (event :: rest)) adapter.sends.controller then none
          else adapter.client) ∧
      ((adapter.withConversation next).deliverHelperEvent listens event).activated =
        (adapter.activated && !event.isTerminal) ∧
      ((adapter.withConversation next).deliverHelperEvent listens event).listening =
        adapter.listening ∧
      ((adapter.withConversation next).deliverHelperEvent listens event).connections =
        adapter.connections := by
  have hkeep : adapter.activated = (adapter.activated && !false) := (Bool.and_true _).symm
  have hother : (∀ result change, event ≠ .profileChangeResult result change) →
      adapter.client = if dropsController (adapter.resultActions (event :: rest))
        adapter.sends.controller then none else adapter.client := by
    intro hevent
    rw [resultActions_of_not_result hevent]
    rfl
  cases hfirst with
  | activated workloadPid before after =>
      rw [(hinv.waiting before).1] at hplane
      cases hplane
  | activationFailed result before after => exact ⟨hother (by simp), hkeep, rfl, rfl⟩
  | result result change before pending after =>
      have hclient := handle_result_client (hinv.toCore.withConversation next)
        (show (adapter.withConversation next).controlPlane = some plane from hplane)
        (controlPlaneResult result) change
      have hsame := sameSession_handleControlEvent (adapter.withConversation next)
        (.helperProfileChangeResult (controlPlaneResult result) change)
      refine ⟨hclient.trans ?_, hsame.activated.trans hkeep, hsame.listening, hsame.connections⟩
      rw [resultActions, List.head?_cons, hplane]
      rfl
  | unknown change before pending after =>
      have hsame : SameClient (adapter.withConversation next)
          ((adapter.withConversation next).handleControlEvent .helperProfileStateUnknown) :=
        sameClient_of_quiet fun current _ => by
          change (current.settled.handleSettled .helperProfileStateUnknown).2 = [] ∨
            (current.settled.handleSettled .helperProfileStateUnknown).2 = _
          unfold handleSettled
          dsimp only
          split
          · exact Or.inl rfl
          · exact Or.inr rfl
      exact ⟨hsame.client.trans (hother (by simp)), hsame.activated.trans hkeep, hsame.listening,
        hsame.connections⟩
  | late event islate after settled =>
      obtain ⟨hclient, hactivated, hlistening, hconnections⟩ :=
        deliver_late_client (adapter.withConversation next) listens islate
      refine ⟨hclient.trans (hother fun result change hevent => ?_), hactivated, hlistening, hconnections⟩
      rw [hevent] at islate
      cases islate

/-- A read from the helper while a Controller is connected. -/
theorem readHelperEvents_client (hinv : adapter.Inv) (hconnected : adapter.client.isSome = true)
    (listens : Bool) (read : SocketRead) :
    (adapter.readHelperEvents listens read).client =
        (if dropsController (adapter.resultActions (adapter.helperEvents read)) adapter.sends.controller
          then none else adapter.client) ∧
      (adapter.readHelperEvents listens read).activated =
        (adapter.activated && !(adapter.helperEvents read).any (·.isTerminal)) ∧
      (adapter.readHelperEvents listens read).listening = adapter.listening ∧
      (adapter.readHelperEvents listens read).connections = adapter.connections := by
  have hplane : ∃ plane, adapter.controlPlane = some plane := by
    by_contra hnone
    rw [← Option.isSome_iff_exists, Option.not_isSome_iff_eq_none] at hnone
    rw [(hinv.noPlane hnone).1] at hconnected
    cases hconnected
  obtain ⟨plane, hplane⟩ := hplane
  have hdeliver : ∀ (next : SupervisorHelperConversation) (events : List HelperConversationEvent),
      ReadEvents adapter.conversation next events →
      (events.foldl (deliverHelperEvent listens) (adapter.withConversation next)).client =
        (if dropsController (adapter.resultActions events) adapter.sends.controller then none
          else adapter.client) ∧
      (events.foldl (deliverHelperEvent listens) (adapter.withConversation next)).activated =
        (adapter.activated && !events.any (·.isTerminal)) ∧
      (events.foldl (deliverHelperEvent listens) (adapter.withConversation next)).listening =
        adapter.listening ∧
      (events.foldl (deliverHelperEvent listens) (adapter.withConversation next)).connections =
        adapter.connections := by
    intro next events hevents
    cases hevents with
    | nothing state pending => exact ⟨rfl, (Bool.and_true _).symm, rfl, rfl⟩
    | one middle event first state pending =>
        obtain ⟨hclient, hactivated, hrest⟩ :=
          deliver_first_client hinv hplane listens next first []
        refine ⟨hclient, hactivated.trans ?_, hrest⟩
        rw [List.any_cons, List.any_nil, Bool.or_false]
    | more middle event rest first lateEvents state settled =>
        obtain ⟨hclient, hactivated, hlistening, hconnections⟩ :=
          deliver_first_client hinv hplane listens next first rest
        obtain ⟨hclients, hactivates, hlistens, hcounts⟩ := deliver_lates_client listens rest
          ((adapter.withConversation next).deliverHelperEvent listens event) lateEvents
        refine ⟨hclients.trans hclient, hactivates.trans ?_, hlistens.trans hlistening,
          hcounts.trans hconnections⟩
        rw [hactivated, List.any_cons, Bool.not_or, Bool.and_assoc]
  cases read with
  | data bytes => exact hdeliver _ _ (receiveBytes_events hinv.conversation bytes)
  | peerClosed => exact hdeliver _ _ (peerClosed_events adapter.conversation)
  | failed => exact ⟨rfl, (Bool.and_true _).symm, rfl, rfl⟩

/-! ### The other phases -/

/-- An interrupt drops nobody: it has no action for the Controller. -/
theorem sameClient_signalPhase (adapter : SessionAdapter) (input : CycleInput) :
    SameClient adapter (adapter.signalPhase input) := by
  unfold signalPhase
  split
  · generalize input.interrupts = count
    induction count with
    | zero => exact ⟨rfl, rfl, rfl, rfl⟩
    | succ count ih =>
        rw [Function.iterate_succ_apply']
        exact (ih.trans (sameClient_of_quiet fun _ _ => Or.inl rfl)).trans (sameClient_push _ _)
  · exact ⟨rfl, rfl, rfl, rfl⟩

/-- Whether the helper's part of a turn drops the connected Controller. -/
def dropsPolled (adapter : SessionAdapter) (input : CycleInput) : Bool :=
  (input.helper.pollin || input.helper.pollhup) &&
    dropsController (adapter.resultActions (adapter.helperEvents input.helperRead)) input.resultSends

/-- Whether the Session still takes Controllers after the helper's part of a turn. -/
def stillActivated (adapter : SessionAdapter) (input : CycleInput) : Bool :=
  adapter.activated && !((input.helper.pollin || input.helper.pollhup) &&
    (adapter.helperEvents input.helperRead).any (·.isTerminal))

/-- The adapter when the listening socket is looked at. -/
theorem signaled_client (hinv : adapter.Inv) (hconnected : adapter.client.isSome = true)
    (input : CycleInput) :
    (((adapter.withSends input).helperPhase input).signalPhase input).client =
        (if adapter.dropsPolled input then none else adapter.client) ∧
      (((adapter.withSends input).helperPhase input).signalPhase input).activated =
        adapter.stillActivated input ∧
      (((adapter.withSends input).helperPhase input).signalPhase input).listening =
        adapter.listening ∧
      (((adapter.withSends input).helperPhase input).signalPhase input).connections =
        adapter.connections := by
  have hsends : (adapter.withSends input).Inv := { hinv with }
  have hsignal := sameClient_signalPhase ((adapter.withSends input).helperPhase input) input
  rw [hsignal.client, hsignal.activated, hsignal.listening, hsignal.connections]
  have hpush : ∀ read : SessionAdapter, SameClient read
      (if input.helper.pollerr || input.helper.pollnval then read.push .conversationLost else read) := by
    intro read
    split
    · exact sameClient_push _ _
    · exact ⟨rfl, rfl, rfl, rfl⟩
  unfold helperPhase
  dsimp only
  rw [(hpush _).client, (hpush _).activated, (hpush _).listening, (hpush _).connections]
  cases hready : (input.helper.pollin || input.helper.pollhup) with
  | false =>
      refine ⟨?_, ?_, rfl, rfl⟩
      · rw [dropsPolled, hready]
        rfl
      · rw [stillActivated, hready]
        exact (Bool.and_true _).symm
  | true =>
      obtain ⟨hclient, hactivated, hrest⟩ :=
        readHelperEvents_client hsends hconnected input.listens input.helperRead
      refine ⟨hclient.trans ?_, hactivated.trans ?_, hrest⟩
      · rw [dropsPolled, hready]
        rfl
      · rw [stillActivated, hready]
        rfl

/-- An accepted Controller is connected when nobody was and it can be greeted. -/
theorem acceptPhase_client (hinv : adapter.Inv) (flags : Readiness) (input : CycleInput) :
    (adapter.acceptPhase flags input).client =
        (if adapter.activated && flags.pollin && input.accepts && adapter.client.isNone then
          (if input.greets then some adapter.connections else none) else adapter.client) ∧
      (adapter.acceptPhase flags input).activated = adapter.activated := by
  have hpush : ∀ accepted : SessionAdapter, SameClient accepted
      (if flags.pollhup || flags.pollerr || flags.pollnval then accepted.push .conversationLost
        else accepted) := by
    intro accepted
    split
    · exact sameClient_push _ _
    · exact ⟨rfl, rfl, rfl, rfl⟩
  unfold acceptPhase
  dsimp only
  rw [(hpush _).client, (hpush _).activated]
  cases hready : (adapter.activated && flags.pollin) with
  | false => exact ⟨rfl, rfl⟩
  | true =>
      rw [if_pos rfl, Bool.true_and]
      unfold acceptController
      cases haccepts : input.accepts with
      | false => exact ⟨rfl, rfl⟩
      | true =>
          cases hclient : adapter.client with
          | some connection =>
              rw [if_neg (by decide), if_pos (show ((adapter.withControllerSends
                [input.greets]).client).isSome = true from congrArg Option.isSome hclient)]
              exact ⟨hclient, rfl⟩
          | none =>
              rw [if_neg (by decide), if_neg (by
                rw [show (adapter.withControllerSends [input.greets]).client = none from hclient]
                decide)]
              rw [Bool.and_eq_true] at hready
              cases hplane : adapter.controlPlane with
              | none =>
                  rw [(hinv.noPlane hplane).2] at hready
                  cases hready.1
              | some plane =>
                  rw [handleControlEvent, show (adapter.withControllerSends
                    [input.greets]).connect.controlPlane = some plane from hplane]
                  cases hgreets : input.greets with
                  | true => exact ⟨rfl, rfl⟩
                  | false => exact ⟨rfl, rfl⟩

theorem execute_controller_cases (actions : List ControlPlaneAction) :
    ∀ links : SessionLinks, (executeControlPlaneActions actions links).1.controller = links.controller ∨
      (executeControlPlaneActions actions links).1.controller = none := by
  induction actions with
  | nil => exact fun _ => Or.inl rfl
  | cons action actions ih =>
      intro links
      cases action with
      | requestLifecycleStop => exact ih links
      | failSessionForUnknownProfileState => exact ih links
      | disconnectController =>
          rcases ih { links with controller := none } with hnone | hnone
          · exact Or.inr hnone
          · exact Or.inr hnone
      | sendControllerText text =>
          unfold executeControlPlaneActions
          dsimp only
          split
          · exact ih _
          · exact Or.inr rfl
          · exact Or.inr rfl
      | dispatchProfileChange change =>
          unfold executeControlPlaneActions
          split
          · exact Or.inl rfl
          · dsimp only
            split
            · exact ih _
            · exact Or.inl rfl

theorem handleControlEvent_client_cases (adapter : SessionAdapter) (event : ControlPlaneEvent) :
    (adapter.handleControlEvent event).client = adapter.client ∨
      (adapter.handleControlEvent event).client = none := by
  unfold handleControlEvent
  split
  · exact Or.inl rfl
  · exact execute_controller_cases _ _

theorem readController_client_cases (drainToEof : Bool) (reads : List SocketRead) :
    ∀ adapter : SessionAdapter, (readController drainToEof adapter reads).1.client = adapter.client ∨
      (readController drainToEof adapter reads).1.client = none := by
  induction reads with
  | nil => exact fun _ => Or.inl rfl
  | cons read reads ih =>
      intro adapter
      cases read with
      | peerClosed => exact Or.inl rfl
      | failed => exact Or.inl rfl
      | data bytes =>
          have hreceive := handleControlEvent_client_cases adapter (.controllerBytesReceived bytes)
          unfold readController
          dsimp only
          split
          · rcases ih (adapter.handleControlEvent (.controllerBytesReceived bytes)) with hsame | hnone
            · rw [hsame]
              exact hreceive
            · exact Or.inr hnone
          · exact hreceive

theorem readPhase_client_cases (adapter : SessionAdapter) (flags : Readiness) (input : CycleInput) :
    (adapter.readPhase flags input).client = adapter.client ∨
      (adapter.readPhase flags input).client = none := by
  unfold readPhase
  split
  · dsimp only
    split
    · exact Or.inr rfl
    · exact readController_client_cases _ _ _
  · exact Or.inl rfl

/-- The Controller's part of a turn acts on nobody but the Controller connected at its start. -/
theorem mem_controllerPhase {flags : Readiness} {input : CycleInput} {connection : Connection}
    (h : connection ∈ (adapter.controllerPhase flags input).2) :
    adapter.client = some connection ∧
      (flags.pollin || flags.pollhup || flags.pollerr || flags.pollnval) = true := by
  rcases List.mem_append.mp h with hread | hhangUp
  · split at hread
    · rename_i hreading
      rw [reading, Bool.and_eq_true] at hreading
      rw [hreading.2]
      exact ⟨Option.mem_toList.mp hread, rfl⟩
    · cases hread
  · split at hhangUp
    · rename_i hhanging
      rw [hangingUp, Bool.and_eq_true, Bool.or_eq_true, Bool.or_eq_true] at hhanging
      have hconnection := Option.mem_toList.mp hhangUp
      refine ⟨?_, ?_⟩
      · rcases readPhase_client_cases adapter flags input with hsame | hnone
        · exact hsame ▸ hconnection
        · rw [hnone] at hconnection
          cases hconnection
      · rcases hhanging.2 with (hflag | hflag) | hflag <;> simp [hflag]
    · cases hhangUp

/-- While the Workload runs, any flag is a reason to act on the connected Controller. -/
theorem mem_controllerPhase_of_reported {flags : Readiness} {input : CycleInput}
    {connection : Connection} (hclient : adapter.client = some connection)
    (hfinished : adapter.workloadFinished = false)
    (hreported : (flags.pollin || flags.pollhup || flags.pollerr || flags.pollnval) = true) :
    connection ∈ (adapter.controllerPhase flags input).2 := by
  have hreading : adapter.reading flags = flags.pollin := by
    rw [reading, hfinished, hclient]
    rfl
  refine List.mem_append.mpr ?_
  cases hpollin : flags.pollin with
  | true =>
      left
      rw [hreading, hpollin, if_pos rfl, hclient]
      exact List.mem_singleton.mpr rfl
  | false =>
      right
      have hread : adapter.readPhase flags input = adapter := by
        rw [readPhase, hreading, hpollin]
        rfl
      have hhanging : adapter.hangingUp flags = true := by
        rw [hpollin, Bool.false_or] at hreported
        rw [hangingUp, hclient, hreported]
        rfl
      rw [hread, hhanging, if_pos rfl, hclient]
      exact List.mem_singleton.mpr rfl

theorem Inv.signaled (h : adapter.Inv) (input : CycleInput) :
    (((adapter.withSends input).helperPhase input).signalPhase input).Inv := by
  have hsends : (adapter.withSends input).Inv := { h with }
  refine Inv.steps ?_ ((helperPhase_steps (adapter.withSends input) input).trans
    (signalPhase_steps _ input))
  split
  · exact hsends.readHelperEvents input.listens input.helperRead
  · exact hsends

/-- A turn acts only on the Controller that `poll` reported on, unless it is one of the turns
`StaleReadiness` describes; in those it acts on the Controller it has just accepted. -/
theorem waitCycle_acts_on_polled_iff {inputs : CycleInput → Prop} (h : Reachable inputs adapter)
    (input : CycleInput) :
    (∀ connection ∈ (adapter.waitCycle input).2, adapter.client = some connection) ↔
      ¬adapter.StaleReadiness input := by
  have hinv := h.inv
  have hsignaled := hinv.signaled input
  obtain ⟨hclient, hactivated⟩ := acceptPhase_client hsignaled (polled adapter.listening input.listening)
    input
  have haccepted := hsignaled.steps (acceptPhase_steps _ (polled adapter.listening input.listening) input)
  by_cases hconnected : adapter.client.isSome = true
  · obtain ⟨hsignaledClient, hstill, -, hconnections⟩ := signaled_client hinv hconnected input
    have hflags : polled adapter.client.isSome input.controller = input.controller := if_pos hconnected
    rw [hstill, hsignaledClient, hconnections] at hclient
    constructor
    · intro hall hstale
      have hdrops : adapter.dropsPolled input = true := by
        rw [dropsPolled, hstale.helper, hstale.dropped]
        rfl
      have hopen : adapter.stillActivated input = true := by
        rw [stillActivated, hstale.activated, hstale.continuing, Bool.and_false]
        rfl
      have hready := hstale.accepted
      rw [Bool.and_eq_true, Bool.and_eq_true] at hready
      have hlistens : (polled adapter.listening input.listening).pollin = true := by
        rw [(hinv.activated hstale.activated).2]
        exact hready.1.1
      rw [hdrops, hopen, hlistens, hready.1.2, hready.2] at hclient
      have hfinished := (haccepted.activated (hactivated.trans (hstill.trans hopen))).1
      have hacts := hall adapter.connections (mem_controllerPhase_of_reported hclient hfinished
        (hflags.symm ▸ hstale.reported))
      exact absurd (hinv.fresh _ hacts) (Nat.lt_irrefl _)
    · intro hstale connection hacts
      obtain ⟨hcurrent, hreported⟩ := mem_controllerPhase hacts
      have hcurrent' := hclient.symm.trans hcurrent
      rw [hflags] at hreported
      by_contra hother
      apply hstale
      cases hdrops : adapter.dropsPolled input with
      | false =>
          obtain ⟨polledConnection, hpolled⟩ := Option.isSome_iff_exists.mp hconnected
          simp only [hdrops, hpolled, Bool.false_eq_true, if_false, Option.isNone_some,
            Bool.and_false] at hcurrent'
          exact absurd (hpolled.trans hcurrent') hother
      | true =>
          rw [hdrops, if_pos rfl, Option.isNone_none, Bool.and_true] at hcurrent'
          split at hcurrent'
          · rename_i hgo
            rw [Bool.and_eq_true, Bool.and_eq_true] at hgo
            split at hcurrent'
            · rename_i hgreets
              have hactive := hgo.1.1
              have hlistens := hgo.1.2
              rw [dropsPolled, Bool.and_eq_true] at hdrops
              rw [stillActivated, Bool.and_eq_true, hdrops.1, Bool.true_and, Bool.not_eq_true'] at hactive
              rw [(hinv.activated hactive.1).2] at hlistens
              exact {
                connected := hconnected
                activated := hactive.1
                helper := hdrops.1
                dropped := hdrops.2
                continuing := hactive.2
                accepted := by
                  rw [show input.listening.pollin = true from hlistens, hgo.2, hgreets]
                  rfl
                reported := hreported }
            · cases hcurrent'
          · cases hcurrent'
  · constructor
    · exact fun _ hstale => hconnected hstale.connected
    · intro _ connection hacts
      obtain ⟨_, hreported⟩ := mem_controllerPhase hacts
      rw [polled, if_neg hconnected] at hreported
      cases hreported

end

section Stale

attribute [local instance] bitPatternText

/-- The reply to the Controller's change arrives while its connection hangs up and another one
waits to be accepted. -/
def hangUpTurn : CycleInput where
  helper := { pollin := true }
  listening := { pollin := true }
  controller := { pollin := true, pollhup := true }
  helperRead := .data (ascii "PROFILE_OK\n")

/-- The queued `detach` drops the Controller, and the flags of its descriptor fall on the next one. -/
theorem waitCycle_acts_on_accepted :
    Reachable (fun _ => True) (attachedSession "set outbound delay 5\ndetach\n") ∧
      (attachedSession "set outbound delay 5\ndetach\n").client = some 0 ∧
      1 ∈ ((attachedSession "set outbound delay 5\ndetach\n").waitCycle hangUpTurn).2 :=
  ⟨attachedSession_reachable (fun _ _ => trivial) _, by decide, by decide⟩

theorem waitCycle_acts_on_polled_iff_attached :
    (∀ connection ∈ ((attachedSession "set outbound delay 5\ndetach\n").waitCycle hangUpTurn).2,
      (attachedSession "set outbound delay 5\ndetach\n").client = some connection) ↔
      ¬(attachedSession "set outbound delay 5\ndetach\n").StaleReadiness hangUpTurn :=
  waitCycle_acts_on_polled_iff (attachedSession_reachable (fun _ (_ : CycleInput.AllSent _) => trivial) _)
    hangUpTurn

end Stale

end SessionAdapter

end NetLagLab
