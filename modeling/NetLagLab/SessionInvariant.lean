import Mathlib.Logic.Relation
import NetLagLab.SessionExecution

/-! The invariant of the Supervisor's adapter. The three parts it is made of stay together: a
Controller is connected exactly when the control plane has one attached, and while the conversation
with the helper is active, its pending change is the one the control plane has in flight. A turn of
the wait is a read from the helper followed by steps that keep the invariant one by one. -/

namespace NetLagLab

open ByteLines ControllerControlPlane SupervisorHelperConversation

/-- A turn in which every send succeeds. -/
structure CycleInput.AllSent (input : CycleInput) : Prop where
  helper : input.helperSends = []
  results : input.resultSends = []
  greeting : input.greets = true
  commands : input.commandSends = []

section Dispatch

variable [DecimalText] {adapter after : SessionAdapter} {remaining : Option ProfileChange}
  {next : ControllerControlPlane}

/-- A dispatch keeps the change in flight and the pending change of the conversation the same. -/
theorem DispatchOutcome.inFlight (h : DispatchOutcome adapter after remaining next)
    (hbefore : adapter.conversation.state = .active →
      remaining = adapter.conversation.pendingProfileChange)
    (hactive : after.conversation.state = .active) :
    next.inFlightChange = after.conversation.pendingProfileChange := by
  cases h with
  | nothing conversation commands inFlight =>
      rw [conversation] at hactive ⊢
      rw [inFlight, hbefore hactive]
  | begun change frame free inFlight canonical going begins commands =>
      rw [inFlight]
      unfold beginProfileChange at begins
      split at begins
      · cases begins
      · dsimp only at begins
        split at begins
        · cases begins
        · rw [Option.some.injEq, Prod.mk.injEq] at begins
          rw [← begins.2]
  | refused change free inFlight canonical going refuses conversation commands lost =>
      rw [conversation] at hactive
      have hnone : adapter.conversation.pendingProfileChange = none := (hbefore hactive).symm.trans free
      rw [beginProfileChange, if_neg (by rw [hactive, hnone]; decide)] at refuses
      dsimp only at refuses
      rw [if_neg (serializeProfileChange_ne_nil canonical)] at refuses
      cases refuses

/-- The conversation after a dispatch is the one before it, or an active one. -/
theorem DispatchOutcome.conversation_cases (h : DispatchOutcome adapter after remaining next) :
    after.conversation = adapter.conversation ∨
      adapter.conversation.state = .active ∧ after.conversation.state = .active ∧
        after.conversation.buffer = adapter.conversation.buffer := by
  cases h with
  | nothing conversation commands inFlight => exact Or.inl conversation
  | refused change free inFlight canonical going refuses conversation commands lost =>
      exact Or.inl conversation
  | begun change frame free inFlight canonical going begins commands =>
      unfold beginProfileChange at begins
      split at begins
      · cases begins
      · rename_i hbegin
        rw [not_or, ne_eq, not_not] at hbegin
        dsimp only at begins
        split at begins
        · cases begins
        · rw [Option.some.injEq, Prod.mk.injEq] at begins
          rw [← begins.2]
          exact Or.inr ⟨hbegin.1, hbegin.1, rfl⟩

end Dispatch

namespace SessionAdapter

/-- The part of the invariant that does not look at the conversation with the helper. -/
structure Core (adapter : SessionAdapter) : Prop where
  plane : ∀ plane, adapter.controlPlane = some plane →
    plane.Inv ∧ plane.controllerAttached = adapter.client.isSome
  noPlane : adapter.controlPlane = none → adapter.client = none ∧ adapter.activated = false
  activated : adapter.activated = true → adapter.workloadFinished = false ∧ adapter.listening = true
  fresh : ∀ connection, adapter.client = some connection → connection < adapter.connections

structure Inv (adapter : SessionAdapter) : Prop extends Core adapter where
  conversation : adapter.conversation.Inv
  waiting : adapter.conversation.state = .waitingForActivation →
    adapter.controlPlane = none ∧ adapter.workloadFinished = false
  inFlight : adapter.conversation.state = .active → ∀ plane, adapter.controlPlane = some plane →
    plane.inFlightChange = adapter.conversation.pendingProfileChange

theorem inv_begun (childArguments : List Bytes) (buffer : Bytes) : (begun childArguments buffer).Inv where
  plane := fun _ h => by cases h
  noPlane := fun _ => ⟨rfl, rfl⟩
  activated := fun h => by cases h
  fresh := fun _ h => by cases h
  conversation := ⟨by simp [begun], fun h => by cases h⟩
  waiting := fun _ => ⟨rfl, rfl⟩
  inFlight := fun h => by simp [begun] at h

variable {adapter : SessionAdapter}

theorem Inv.push (h : adapter.Inv) (event : LifecycleEvent) : (adapter.push event).Inv := { h with }

theorem Core.push (h : adapter.Core) (event : LifecycleEvent) : (adapter.push event).Core := { h with }

section

variable [DecimalText] {plane : ControllerControlPlane} {event : ControlPlaneEvent}

theorem handleControlEvent_none (h : adapter.controlPlane = none) (event : ControlPlaneEvent) :
    adapter.handleControlEvent event = adapter := by
  rw [handleControlEvent, h]

theorem sameSession_handleControlEvent (adapter : SessionAdapter) (event : ControlPlaneEvent) :
    adapter.SameSession (adapter.handleControlEvent event) := by
  unfold handleControlEvent
  split
  · exact ⟨rfl, rfl, rfl, rfl, rfl⟩
  · exact ⟨rfl, rfl, rfl, rfl, rfl⟩

/-- Handling an event keeps the core, whoever was connected before. -/
theorem Core.of_handled {after : SessionAdapter} {next : ControllerControlPlane}
    (hactivated : adapter.activated = true → adapter.workloadFinished = false ∧ adapter.listening = true)
    (hfresh : ∀ connection, adapter.client = some connection → connection < adapter.connections)
    (h : Handled adapter plane event after next) : after.Core where
  plane := fun current hcurrent => by
    rw [h.controlPlane, Option.some.injEq] at hcurrent
    subst hcurrent
    exact ⟨h.inv, h.attached⟩
  noPlane := fun hnone => by
    rw [h.controlPlane] at hnone
    cases hnone
  activated := fun hafter => by
    rw [h.workloadFinished, h.listening]
    exact hactivated (h.activated ▸ hafter)
  fresh := fun connection hconnection => by
    rw [h.connections]
    rcases h.client with hsame | hnone
    · exact hfresh connection (hsame ▸ hconnection)
    · rw [hnone] at hconnection
      cases hconnection

theorem Core.handle (h : adapter.Core) (hwrite : event ≠ .controllerWriteFailed)
    (hevent : ∀ plane : ControllerControlPlane,
      plane.attachedAfter event = plane.controllerAttached ∧ event ≠ .controllerAttached) :
    (adapter.handleControlEvent event).Core ∧ ∀ plane, adapter.controlPlane = some plane →
      ∃ next, Handled adapter plane event (adapter.handleControlEvent event) next := by
  cases hplane : adapter.controlPlane with
  | none =>
      rw [handleControlEvent_none hplane]
      exact ⟨h, fun _ hsome => by cases hsome⟩
  | some current =>
      obtain ⟨hinv, hattached⟩ := h.plane current hplane
      obtain ⟨next, hnext⟩ := handled hplane hinv hwrite (fun hattach => absurd hattach (hevent current).2)
        ((hevent current).1.trans hattached)
      refine ⟨Core.of_handled h.activated h.fresh hnext, fun plane hsome => ?_⟩
      rw [Option.some.injEq] at hsome
      exact ⟨next, hsome ▸ hnext⟩

/-- Handling an event keeps the invariant when the change that the event leaves in flight is the
pending one. -/
theorem Inv.of_handled {after : SessionAdapter} {next : ControllerControlPlane}
    (hactivated : adapter.activated = true → adapter.workloadFinished = false ∧ adapter.listening = true)
    (hfresh : ∀ connection, adapter.client = some connection → connection < adapter.connections)
    (hconversation : adapter.conversation.Inv)
    (hwaiting : adapter.conversation.state ≠ .waitingForActivation)
    (hremaining : adapter.conversation.state = .active →
      plane.remainingChange event = adapter.conversation.pendingProfileChange)
    (h : Handled adapter plane event after next) : after.Inv :=
  { Core.of_handled hactivated hfresh h with
    conversation := by
      rcases h.dispatch.conversation_cases with hsame | ⟨_, hactive, _⟩
      · rw [hsame]
        exact hconversation
      · exact ⟨by rw [hactive]; decide, fun _ => hactive⟩
    waiting := fun hstate => by
      rcases h.dispatch.conversation_cases with hsame | ⟨_, hactive, _⟩
      · rw [hsame] at hstate
        exact absurd hstate hwaiting
      · rw [hactive] at hstate
        cases hstate
    inFlight := fun hactive current hcurrent => by
      rw [h.controlPlane, Option.some.injEq] at hcurrent
      subst hcurrent
      exact h.dispatch.inFlight hremaining hactive }

/-- An event that leaves the change in flight alone keeps the invariant. -/
theorem Inv.handle (h : adapter.Inv) (hwrite : event ≠ .controllerWriteFailed)
    (hevent : ∀ plane : ControllerControlPlane, plane.attachedAfter event = plane.controllerAttached ∧
      event ≠ .controllerAttached ∧ plane.remainingChange event = plane.inFlightChange) :
    (adapter.handleControlEvent event).Inv := by
  cases hplane : adapter.controlPlane with
  | none =>
      rw [handleControlEvent_none hplane]
      exact h
  | some current =>
      obtain ⟨hinv, hattached⟩ := h.plane current hplane
      obtain ⟨next, hnext⟩ := handled hplane hinv hwrite
        (fun hattach => absurd hattach (hevent current).2.1) ((hevent current).1.trans hattached)
      refine Inv.of_handled h.activated h.fresh h.conversation (fun hwaiting => ?_) (fun hactive => ?_)
        hnext
      · rw [(h.waiting hwaiting).1] at hplane
        cases hplane
      · rw [(hevent current).2.2, h.inFlight hactive current hplane]

theorem inFlightChange_disconnected (plane : ControllerControlPlane) :
    (plane.handle .controllerDisconnected).1.inFlightChange = plane.inFlightChange := by
  have hsame : plane.settled.disconnectController.inFlightChange = plane.settled.inFlightChange := by
    rw [inFlightChange, disconnectController, Option.map_map]
    rfl
  exact hsame.trans inFlightChange_settled

theorem Inv.loseController (h : adapter.Inv) : adapter.loseController.Inv := by
  have hplane : ∀ plane, adapter.loseController.controlPlane = some plane →
      ∃ current, adapter.controlPlane = some current ∧
        plane = (current.handle .controllerDisconnected).1 := by
    intro plane hsome
    obtain ⟨current, hcurrent, rfl⟩ := Option.map_eq_some_iff.mp hsome
    exact ⟨current, hcurrent, rfl⟩
  have hnone : adapter.loseController.controlPlane = none → adapter.controlPlane = none :=
    Option.map_eq_none_iff.mp
  have hwrite : ControlPlaneEvent.controllerDisconnected ≠ .controllerWriteFailed := by decide
  exact {
    plane := fun plane hsome => by
      obtain ⟨current, hcurrent, rfl⟩ := hplane plane hsome
      obtain ⟨batch, -, houtcome⟩ :=
        current.handle_outcome (h.plane current hcurrent).1 hwrite fun hattach => by cases hattach
      exact ⟨houtcome.inv, houtcome.attached⟩
    noPlane := fun hgone => ⟨rfl, (h.noPlane (hnone hgone)).2⟩
    activated := h.activated
    fresh := fun _ hconnection => by cases hconnection
    conversation := h.conversation
    waiting := fun hstate =>
      ⟨Option.map_eq_none_iff.mpr (h.waiting hstate).1, (h.waiting hstate).2⟩
    inFlight := fun hactive plane hsome => by
      obtain ⟨current, hcurrent, rfl⟩ := hplane plane hsome
      rw [inFlightChange_disconnected]
      exact h.inFlight hactive current hcurrent }

theorem Inv.acceptController (h : adapter.Inv) (hactivated : adapter.activated = true) (accepts : Bool) :
    (adapter.acceptController accepts).Inv := by
  unfold SessionAdapter.acceptController
  split
  · exact h.push _
  · split
    · exact { h with fresh := fun connection hconnection =>
        Nat.lt_succ_of_lt (h.fresh connection hconnection) }
    · rename_i hclient
      rw [Option.not_isSome_iff_eq_none] at hclient
      cases hplane : adapter.controlPlane with
      | none =>
          rw [(h.noPlane hplane).2] at hactivated
          cases hactivated
      | some current =>
          obtain ⟨hinv, hattached⟩ := h.plane current hplane
          rw [hclient] at hattached
          obtain ⟨next, hnext⟩ := handled (show adapter.connect.controlPlane = some current from hplane)
            hinv (show ControlPlaneEvent.controllerAttached ≠ .controllerWriteFailed by decide)
            (fun _ => hattached) rfl
          refine Inv.of_handled (show adapter.connect.activated = true → _ from h.activated)
            (fun connection hconnection => ?_) h.conversation (fun hwaiting => ?_) (fun hactive => ?_)
            hnext
          · rw [← Option.some.inj hconnection]
            exact Nat.lt_succ_self _
          · rw [(h.waiting hwaiting).1] at hplane
            cases hplane
          · exact h.inFlight hactive current hplane

/-! ### Reading from the helper -/

/-- The late events only tell the control plane of the end of the Workload. -/
theorem Core.deliver_late (h : adapter.Core) (listens : Bool) {event : HelperConversationEvent}
    (hlate : event.isLate = true) : (adapter.deliverHelperEvent listens event).Core := by
  have hterminal : (adapter.handleControlEvent .workloadTerminal).Core :=
    (h.handle (by decide) fun plane => ⟨rfl, by decide⟩).1
  have hfinished : ∀ lifecycle,
      ((adapter.handleControlEvent .workloadTerminal).finishWorkload.push lifecycle).Core :=
    fun lifecycle =>
    { hterminal with
      noPlane := fun hnone => ⟨(hterminal.noPlane hnone).1, rfl⟩
      activated := fun hactivated => by cases hactivated }
  cases event with
  | workloadExited result => exact hfinished _
  | workloadSignaled signal => exact hfinished _
  | cleanupSucceeded => exact h.push _
  | cleanupFailed => exact h.push _
  | conversationLost => exact h.push _
  | _ => cases hlate

theorem Core.deliver_lates (listens : Bool) (events : List HelperConversationEvent) :
    ∀ {adapter : SessionAdapter}, adapter.Core → (∀ event ∈ events, event.isLate = true) →
      (events.foldl (deliverHelperEvent listens) adapter).Core := by
  induction events with
  | nil => exact fun h _ => h
  | cons event events ih =>
      intro adapter h hlate
      exact ih (h.deliver_late listens (hlate event List.mem_cons_self))
        fun other hother => hlate other (List.mem_cons_of_mem _ hother)

/-- A conversation that is not active is not changed by the delivery of events, and no command is
sent. -/
theorem handleControlEvent_inactive (h : adapter.conversation.state ≠ .active)
    (event : ControlPlaneEvent) :
    (adapter.handleControlEvent event).conversation = adapter.conversation ∧
      (adapter.handleControlEvent event).commands = adapter.commands := by
  unfold handleControlEvent
  split
  · exact ⟨rfl, rfl⟩
  · rename_i plane hplane
    exact execute_inactive (plane.handle event).2
      (show (adapter.links (plane.handle event).1).conversation.state ≠ .active from h)

theorem deliver_inactive (h : adapter.conversation.state ≠ .active) (listens : Bool)
    (event : HelperConversationEvent) :
    (adapter.deliverHelperEvent listens event).conversation = adapter.conversation ∧
      (adapter.deliverHelperEvent listens event).commands = adapter.commands := by
  cases event with
  | activated workloadPid => cases listens <;> exact ⟨rfl, rfl⟩
  | profileChangeResult result change => exact handleControlEvent_inactive h _
  | profileStateUnknown => exact handleControlEvent_inactive h _
  | workloadExited result => exact handleControlEvent_inactive h _
  | workloadSignaled signal => exact handleControlEvent_inactive h _
  | _ => exact ⟨rfl, rfl⟩

theorem deliver_all_inactive (listens : Bool) (events : List HelperConversationEvent) :
    ∀ {adapter : SessionAdapter}, adapter.conversation.state ≠ .active →
      (events.foldl (deliverHelperEvent listens) adapter).conversation = adapter.conversation ∧
        (events.foldl (deliverHelperEvent listens) adapter).commands = adapter.commands := by
  induction events with
  | nil => exact fun _ => ⟨rfl, rfl⟩
  | cons event events ih =>
      intro adapter h
      obtain ⟨hconversation, hcommands⟩ := deliver_inactive h listens event
      have hstill : (adapter.deliverHelperEvent listens event).conversation.state ≠ .active := by
        rw [hconversation]
        exact h
      obtain ⟨hconversations, hall⟩ := ih hstill
      exact ⟨hconversations.trans hconversation, hall.trans hcommands⟩

end

theorem Core.withConversation (h : adapter.Core) (conversation : SupervisorHelperConversation) :
    (adapter.withConversation conversation).Core := { h with }

/-- With the core and a late conversation the invariant holds. -/
theorem Inv.of_late (h : adapter.Core) (hstate : adapter.conversation.state.isLate = true)
    (hsettled : adapter.conversation.pendingProfileChange = none) : adapter.Inv where
  toCore := h
  conversation := by
    refine ⟨fun hready => ?_, fun hsome => ?_⟩
    · rw [hready] at hstate
      cases hstate
    · rw [hsettled] at hsome
      cases hsome
  waiting := fun hwaiting => by
    rw [hwaiting] at hstate
    cases hstate
  inFlight := fun hactive => by
    rw [hactive] at hstate
    cases hstate

/-- The result of the pending change leaves none in flight. -/
theorem Inv.remaining_result (h : adapter.Inv) (hactive : adapter.conversation.state = .active)
    {change : ProfileChange} (hpending : adapter.conversation.pendingProfileChange = some change)
    {plane : ControllerControlPlane} (hplane : adapter.controlPlane = some plane)
    (result : ControlPlaneProfileChangeResult) :
    plane.inFlightChange = some change ∧ change.Canonical ∧
      plane.remainingChange (.helperProfileChangeResult result change) = none := by
  have hinFlight := (h.inFlight hactive plane hplane).trans hpending
  have hcanonical : change.Canonical := by
    obtain ⟨inFlight, hsome, rfl⟩ := Option.map_eq_some_iff.mp hinFlight
    exact (h.plane plane hplane).1.canonical inFlight hsome
  refine ⟨hinFlight, hcanonical, ?_⟩
  rw [remainingChange, hinFlight, Option.filter_some, ProfileChange.same_self hcanonical.legal]
  rfl

section

variable [DecimalText]

/-- The adapter that has read from the helper, before the events are delivered: its conversation is
already the one after the whole read. -/
structure Reading (adapter : SessionAdapter) (next : SupervisorHelperConversation) : Prop where
  before : adapter.Inv
  conversation : next.Inv
  activation : next.state ≠ .waitingForActivation
  settled : next.state = .active → next.pendingProfileChange = none

variable {next middle : SupervisorHelperConversation}

/-- An event of the control plane delivered during a read. -/
theorem Reading.handle (h : Reading adapter next) {event : ControlPlaneEvent}
    (hwrite : event ≠ .controllerWriteFailed)
    (hevent : ∀ plane : ControllerControlPlane,
      plane.attachedAfter event = plane.controllerAttached ∧ event ≠ .controllerAttached)
    (hremaining : next.state = .active → ∀ plane, adapter.controlPlane = some plane →
      plane.remainingChange event = none) :
    ((adapter.withConversation next).handleControlEvent event).Inv := by
  have hcore := h.before.toCore.withConversation next
  cases hplane : adapter.controlPlane with
  | none =>
      rw [handleControlEvent_none (show (adapter.withConversation next).controlPlane = none from hplane)]
      exact { hcore with
        conversation := h.conversation
        waiting := fun hwaiting => absurd hwaiting h.activation
        inFlight := fun _ plane hsome => absurd (hplane.symm.trans hsome) (by simp) }
  | some plane =>
      obtain ⟨after, hafter⟩ := (hcore.handle hwrite hevent).2 plane hplane
      exact Inv.of_handled hcore.activated hcore.fresh h.conversation h.activation
        (fun hactive => (hremaining hactive plane hplane).trans (h.settled hactive).symm) hafter

/-- The first event of a read. -/
theorem Reading.deliver_first (h : Reading adapter next) (listens : Bool)
    {event : HelperConversationEvent} (hfirst : FirstEvent adapter.conversation middle event)
    (hactive : next.state = .active → middle.state = .active) :
    ((adapter.withConversation next).deliverHelperEvent listens event).Inv := by
  have hcore := h.before.toCore.withConversation next
  have hinv : (adapter.controlPlane = none ∨ next.state ≠ .active) →
      (adapter.withConversation next).Inv := fun hstill => { hcore with
    conversation := h.conversation
    waiting := fun hwaiting => absurd hwaiting h.activation
    inFlight := fun hstate plane hsome => by
      rcases hstill with hnone | hlate
      · exact absurd (hnone.symm.trans hsome) (by simp)
      · exact absurd hstate hlate }
  cases hfirst with
  | activated workloadPid before after =>
      obtain ⟨hnone, hfinished⟩ := h.before.waiting before
      have hcreated : ((adapter.withConversation next).createControlPlane workloadPid).Inv := { hcore with
        plane := fun plane hsome => by
          rw [← Option.some.inj hsome]
          exact ⟨inv_initial _ _, (congrArg Option.isSome (h.before.noPlane hnone).1).symm⟩
        noPlane := fun hgone => by cases hgone
        conversation := h.conversation
        waiting := fun hwaiting => absurd hwaiting h.activation
        inFlight := fun hstate plane hsome => by
          rw [← Option.some.inj hsome]
          exact (h.settled hstate).symm }
      unfold deliverHelperEvent
      dsimp only
      split
      · exact { hcreated with
          noPlane := fun hgone => by cases hgone
          activated := fun _ => ⟨hfinished, rfl⟩ }
      · exact hcreated.push _
  | activationFailed result before after =>
      exact (hinv (Or.inl (h.before.waiting before).1)).push _
  | result result change before pending after =>
      exact h.handle (by simp) (fun _ => ⟨rfl, by simp⟩) fun _ plane hplane =>
        (h.before.remaining_result before pending hplane _).2.2
  | unknown change before pending after =>
      refine h.handle (by simp) (fun _ => ⟨rfl, by simp⟩) fun hstate => ?_
      have hmiddle := hactive hstate
      rw [after] at hmiddle
      cases hmiddle
  | late event islate after settled =>
      have hstate : next.state ≠ .active := by
        intro hstate
        rw [hactive hstate] at after
        cases after
      have hconversation : ((adapter.withConversation next).deliverHelperEvent listens event).conversation
          = next := (deliver_inactive (show (adapter.withConversation next).conversation.state ≠ .active from hstate)
          listens event).1
      exact { hcore.deliver_late listens islate with
        conversation := by rw [hconversation]; exact h.conversation
        waiting := fun hwaiting => absurd (hconversation ▸ hwaiting) h.activation
        inFlight := fun hstill => absurd (hconversation ▸ hstill) hstate }

theorem Inv.deliver (h : adapter.Inv) (listens : Bool) {events : List HelperConversationEvent}
    (hread : ReadEvents adapter.conversation next events) :
    (events.foldl (deliverHelperEvent listens) (adapter.withConversation next)).Inv := by
  have hnext := hread.inv h.conversation
  cases hread with
  | nothing state pending =>
      exact { h.toCore.withConversation next with
        conversation := hnext
        waiting := fun hwaiting => h.waiting (state ▸ hwaiting)
        inFlight := fun hactive plane hplane =>
          (h.inFlight (state.symm.trans hactive) plane hplane).trans pending.symm }
  | one middle event first state pending =>
      obtain ⟨hsettled, hready, hactivation⟩ := first.settled h.conversation
      have hreading : Reading adapter next :=
        ⟨h, hnext, state ▸ hactivation, fun _ => pending.trans hsettled⟩
      exact hreading.deliver_first listens first state.symm.trans
  | more middle event rest first lateEvents state settled =>
      have hne : ∀ current : SupervisorState, current.isLate = false → next.state ≠ current := by
        rintro current hcurrent rfl
        exact absurd (state.symm.trans hcurrent) (by decide)
      have hreading : Reading adapter next := ⟨h, hnext, hne _ rfl, fun hactive => absurd hactive (hne _ rfl)⟩
      have hfirst := hreading.deliver_first listens first fun hactive => absurd hactive (hne _ rfl)
      have hconversation : ((event :: rest).foldl (deliverHelperEvent listens)
          (adapter.withConversation next)).conversation = next :=
        (deliver_all_inactive listens (event :: rest)
          (show (adapter.withConversation next).conversation.state ≠ .active from hne _ rfl)).1
      exact Inv.of_late (Core.deliver_lates listens rest hfirst.toCore lateEvents)
        (hconversation.symm ▸ state) (hconversation.symm ▸ settled)

/-- Reading from the helper keeps the invariant, whatever is read. -/
theorem Inv.readHelperEvents (h : adapter.Inv) (listens : Bool) (read : SocketRead) :
    (adapter.readHelperEvents listens read).Inv := by
  cases read with
  | failed => exact h.push _
  | data bytes => exact h.deliver listens (receiveBytes_events h.conversation bytes)
  | peerClosed => exact h.deliver listens (peerClosed_events adapter.conversation)

/-! ### One turn of the wait -/

/-- What happens in a turn after the read from the helper. -/
inductive CycleStep : SessionAdapter → SessionAdapter → Prop
  | lose (adapter : SessionAdapter) : CycleStep adapter (adapter.push .conversationLost)
  | sends (adapter : SessionAdapter) (results : List Bool) :
      CycleStep adapter (adapter.withControllerSends results)
  | interrupt (adapter : SessionAdapter) : CycleStep adapter adapter.interrupt
  | accept (adapter : SessionAdapter) (accepts : Bool) (activated : adapter.activated = true) :
      CycleStep adapter (adapter.acceptController accepts)
  | receive (adapter : SessionAdapter) (bytes : Bytes) (connected : adapter.client.isSome = true) :
      CycleStep adapter (adapter.handleControlEvent (.controllerBytesReceived bytes))
  | hangUp (adapter : SessionAdapter) (connected : adapter.client.isSome = true) :
      CycleStep adapter adapter.loseController

open Relation

theorem signalPhase_steps (adapter : SessionAdapter) (input : CycleInput) :
    ReflTransGen CycleStep adapter (adapter.signalPhase input) := by
  unfold signalPhase
  split
  · generalize input.interrupts = count
    induction count with
    | zero => exact .refl
    | succ count ih =>
        rw [Function.iterate_succ_apply']
        exact ih.tail (.interrupt _)
  · exact .refl

theorem acceptPhase_steps (adapter : SessionAdapter) (flags : Readiness) (input : CycleInput) :
    ReflTransGen CycleStep adapter (adapter.acceptPhase flags input) := by
  have haccept : ReflTransGen CycleStep adapter (if adapter.activated && flags.pollin then
      (adapter.withControllerSends [input.greets]).acceptController input.accepts else adapter) := by
    split
    · rename_i hactivated
      rw [Bool.and_eq_true] at hactivated
      exact (ReflTransGen.single (.sends adapter [input.greets])).tail
        (.accept _ input.accepts hactivated.1)
    · exact .refl
  unfold acceptPhase
  dsimp only
  split
  · exact haccept.tail (.lose _)
  · exact haccept

theorem readController_steps (drainToEof : Bool) (reads : List SocketRead) :
    ∀ {adapter : SessionAdapter}, adapter.client.isSome = true →
      ReflTransGen CycleStep adapter (readController drainToEof adapter reads).1 := by
  induction reads with
  | nil => exact fun _ => .refl
  | cons read reads ih =>
      intro adapter hconnected
      cases read with
      | data bytes =>
          have hreceive := CycleStep.receive adapter bytes hconnected
          unfold readController
          dsimp only
          split
          · rename_i hstill
            rw [Bool.and_eq_true] at hstill
            exact (ih hstill.1).head hreceive
          · exact .single hreceive
      | peerClosed => exact .refl
      | failed => exact .refl

theorem controllerPhase_steps (adapter : SessionAdapter) (flags : Readiness) (input : CycleInput) :
    ReflTransGen CycleStep adapter (adapter.controllerPhase flags input).1 := by
  have hread : ReflTransGen CycleStep adapter (adapter.readPhase flags input) := by
    unfold readPhase
    split
    · rename_i hreading
      rw [reading, Bool.and_eq_true, Bool.and_eq_true] at hreading
      have hreads := readController_steps flags.pollhup input.controllerReads hreading.1.2
      dsimp only
      split
      · rename_i hlast
        rw [Bool.and_eq_true] at hlast
        exact hreads.tail (.hangUp _ hlast.1)
      · exact hreads
    · exact .refl
  refine hread.trans ?_
  change ReflTransGen CycleStep _ (hangUpPhase _ flags)
  unfold hangUpPhase
  split
  · rename_i hhangUp
    rw [hangingUp, Bool.and_eq_true] at hhangUp
    exact .single (.hangUp _ hhangUp.1)
  · exact .refl

/-- The helper's part of a turn: at most one read, and a descriptor in error. -/
theorem helperPhase_steps (adapter : SessionAdapter) (input : CycleInput) :
    ReflTransGen CycleStep (if input.helper.pollin || input.helper.pollhup then
      adapter.readHelperEvents input.listens input.helperRead else adapter)
      (adapter.helperPhase input) := by
  unfold helperPhase
  dsimp only
  by_cases hbroken : (input.helper.pollerr || input.helper.pollnval) = true
  · rw [if_pos hbroken]
    exact .single (.lose _)
  · rw [if_neg hbroken]

/-- A turn of the wait is at most one read from the helper, followed by steps. -/
theorem waitCycle_steps (adapter : SessionAdapter) (input : CycleInput) :
    ReflTransGen CycleStep (if input.helper.pollin || input.helper.pollhup then
      (adapter.withSends input).readHelperEvents input.listens input.helperRead
      else adapter.withSends input) (adapter.waitCycle input).1 :=
  ((((helperPhase_steps _ input).trans (signalPhase_steps _ input)).trans
    (acceptPhase_steps _ _ input)).tail (.sends _ input.commandSends)).trans
    (controllerPhase_steps _ _ input)

theorem Inv.step {after : SessionAdapter} (h : adapter.Inv) (hstep : CycleStep adapter after) :
    after.Inv := by
  cases hstep with
  | lose => exact h.push _
  | sends results => exact { h with }
  | interrupt => exact (h.handle (by decide) fun _ => ⟨rfl, by decide, rfl⟩).push _
  | accept accepts activated => exact h.acceptController activated accepts
  | receive bytes connected => exact h.handle (by simp) fun _ => ⟨rfl, by simp, rfl⟩
  | hangUp connected => exact h.loseController

theorem Inv.steps {after : SessionAdapter} (h : adapter.Inv)
    (hsteps : ReflTransGen CycleStep adapter after) : after.Inv := by
  induction hsteps with
  | refl => exact h
  | tail _ hstep ih => exact ih.step hstep

theorem Inv.waitCycle (h : adapter.Inv) (input : CycleInput) : (adapter.waitCycle input).1.Inv := by
  have hsends : (adapter.withSends input).Inv := { h with }
  refine Inv.steps ?_ (waitCycle_steps adapter input)
  split
  · exact hsends.readHelperEvents input.listens input.helperRead
  · exact hsends

end

/-! ### Runs -/

/-- The states of the adapter between the turns of its waits, each turn with an input of the given
kind. -/
inductive Reachable [DecimalText] (inputs : CycleInput → Prop) : SessionAdapter → Prop
  | begun (childArguments : List Bytes) (buffer : Bytes) (unfinished : newline ∉ buffer) :
      Reachable inputs (begun childArguments buffer)
  | take {adapter : SessionAdapter} {event : LifecycleEvent} {events : List LifecycleEvent}
      (reached : Reachable inputs adapter) (pending : adapter.pendingEvents = event :: events) :
      Reachable inputs { adapter with pendingEvents := events }
  | cycle {adapter : SessionAdapter} (input : CycleInput) (reached : Reachable inputs adapter)
      (pending : adapter.pendingEvents = []) (allowed : inputs input) :
      Reachable inputs (adapter.waitCycle input).1
  | stop {adapter : SessionAdapter} (command : HelperRuntimeCommand) (reached : Reachable inputs adapter) :
      Reachable inputs { adapter with commands := adapter.commands ++ [command] }

theorem Reachable.inv [DecimalText] {inputs : CycleInput → Prop} (h : Reachable inputs adapter) :
    adapter.Inv := by
  induction h with
  | begun childArguments buffer unfinished => exact inv_begun childArguments buffer
  | take _ pending ih => exact { ih with }
  | cycle input _ _ _ ih => exact ih.waitCycle input
  | stop command _ ih => exact { ih with }

/-! ### A Session with a Controller -/

section Sample

attribute [local instance] bitPatternText

def activationTurn : CycleInput where
  helper := { pollin := true }
  helperRead := .data (ascii "ACTIVE 7\n")

def attachTurn : CycleInput where
  listening := { pollin := true }

def commandTurn (text : String) : CycleInput where
  controller := { pollin := true }
  controllerReads := [.data (ascii text)]

/-- The Workload is active and nobody is attached. -/
def activeSession : SessionAdapter :=
  { ((begun [ascii "sleep"] []).waitCycle activationTurn).1 with pendingEvents := [] }

/-- The first Controller has attached and sent its first commands. -/
def attachedSession (commands : String) : SessionAdapter :=
  ((activeSession.waitCycle attachTurn).1.waitCycle (commandTurn commands)).1

theorem attachedSession_reachable {inputs : CycleInput → Prop} (h : ∀ input : CycleInput,
    input.AllSent → inputs input) (commands : String) : Reachable inputs (attachedSession commands) := by
  have hbegun : Reachable inputs (begun [ascii "sleep"] []) := .begun _ _ List.not_mem_nil
  have hactivated := hbegun.cycle activationTurn rfl (h _ ⟨rfl, rfl, rfl, rfl⟩)
  have hactive : Reachable inputs activeSession :=
    hactivated.take (show _ = [LifecycleEvent.activated 7] by decide)
  have hattached := hactive.cycle attachTurn rfl (h _ ⟨rfl, rfl, rfl, rfl⟩)
  exact hattached.cycle (commandTurn commands) (by decide) (h _ ⟨rfl, rfl, rfl, rfl⟩)

end Sample

end SessionAdapter

end NetLagLab
