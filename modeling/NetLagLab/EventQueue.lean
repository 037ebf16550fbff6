import NetLagLab.ProductionLifecycle

/-! The events that the adapter holds back for the lifecycle. Whatever the helper, the Controllers and the
terminal do, the queue is one that the lifecycle expects in turn: an event is queued only behind those that
bring the lifecycle to a state that has a use for it, or behind one that ends the Session. -/

namespace NetLagLab

open ByteLines

/-! ### What a state expects -/

namespace LifecycleState

/-- The state after an event that is expected, unless the lifecycle ends its loop with it. -/
def after : LifecycleState → LifecycleEvent → Option LifecycleState
  | _, .activated _ => some .active
  | _, .activationFailed _ | _, .workloadExited _ | _, .workloadSignaled _ => some .waitingForCleanup
  | _, .cleanupSucceeded | _, .cleanupFailed | _, .conversationLost => none
  | .waitingForActivation, .terminalInterrupt => none
  | state, _ => some state

/-- What may be queued for a state. An interrupt always may, and before the activation it ends the
Session. -/
def Expects (state : LifecycleState) : LifecycleEvent → Prop
  | .activated _ | .activationFailed _ => state = .waitingForActivation
  | .workloadExited _ | .workloadSignaled _ | .profileStateUnknown => state = .active
  | .stopRequested => state ≠ .waitingForActivation
  | .cleanupSucceeded => state = .waitingForCleanup
  | .deadlineExpired => False
  | .cleanupFailed | .conversationLost | .controllerLost | .terminalInterrupt => True

end LifecycleState

/-- Events that are expected in turn, up to one that ends the loop, and the state after them. -/
def Queued : Option LifecycleState → List LifecycleEvent → Option LifecycleState → Prop
  | none, _, last => last = none
  | some state, [], last => last = some state
  | some state, event :: events, last => state.Expects event ∧ Queued (state.after event) events last

section Queued

variable {start middle last : Option LifecycleState} {events more : List LifecycleEvent}

@[simp] theorem queued_none : Queued none events last ↔ last = none := by
  cases events <;> exact Iff.rfl

@[simp] theorem queued_nil : Queued start [] last ↔ last = start := by
  cases start <;> exact Iff.rfl

@[simp] theorem queued_cons {state : LifecycleState} {event : LifecycleEvent} :
    Queued (some state) (event :: events) last ↔
      state.Expects event ∧ Queued (state.after event) events last := Iff.rfl

theorem Queued.append (h : Queued start events middle) (hmore : Queued middle more last) :
    Queued start (events ++ more) last := by
  induction events generalizing start with
  | nil =>
      obtain rfl := queued_nil.mp h
      exact hmore
  | cons event events ih =>
      cases start with
      | none =>
          obtain rfl := queued_none.mp h
          rw [queued_none] at hmore ⊢
          exact hmore
      | some state =>
          rw [List.cons_append, queued_cons]
          exact ⟨h.1, ih h.2⟩

end Queued

/-! ### The moves of the helper -/

/-- The state that the helper's events have led to, once they are all consumed. -/
def SupervisorState.lifecycle : SupervisorState → Option LifecycleState
  | .waitingForActivation => some .waitingForActivation
  | .active | .profileStateUnknown => some .active
  | .waitingForCleanup => some .waitingForCleanup
  | .waitingForReady | .finished | .failed => none

inductive HelperMove : Option LifecycleState → HelperConversationEvent → Option LifecycleState → Prop
  | activated (workloadPid : Int) :
      HelperMove (some .waitingForActivation) (.activated workloadPid) (some .active)
  | activationFailed (result : Int) :
      HelperMove (some .waitingForActivation) (.activationFailed result) (some .waitingForCleanup)
  | result (result : ProfileChangeResult) (change : ProfileChange) :
      HelperMove (some .active) (.profileChangeResult result change) (some .active)
  | unknown : HelperMove (some .active) .profileStateUnknown (some .active)
  | ended {event : HelperConversationEvent} (ends : event.EndsWorkload) :
      HelperMove (some .active) event (some .waitingForCleanup)
  | cleaned {event : HelperConversationEvent} (ends : event.EndsCleanup) :
      HelperMove (some .waitingForCleanup) event none
  | lost (state : Option LifecycleState) : HelperMove state .conversationLost none

inductive HelperMoves : Option LifecycleState → List HelperConversationEvent → Option LifecycleState → Prop
  | nil (state : Option LifecycleState) : HelperMoves state [] state
  | cons {state next last : Option LifecycleState} {event : HelperConversationEvent}
      {events : List HelperConversationEvent} (move : HelperMove state event next)
      (rest : HelperMoves next events last) : HelperMoves state (event :: events) last

theorem HelperMoves.append {state middle last : Option LifecycleState} {events more : List HelperConversationEvent}
    (h : HelperMoves state events middle) (hmore : HelperMoves middle more last) :
    HelperMoves state (events ++ more) last := by
  induction h with
  | nil state => exact hmore
  | cons move rest ih => exact .cons move (ih hmore)

theorem parseValueAfter_bounds {line start : Bytes} {minimum maximum value : Int}
    (h : parseValueAfter line start minimum maximum = some value) : minimum ≤ value ∧ value ≤ maximum := by
  unfold parseValueAfter at h
  split at h
  · simp only [parseBoundedInteger, Option.ite_none_left_eq_some, Option.some.injEq, not_or, Int.not_lt] at h
    obtain ⟨-, -, hbounds, hvalue⟩ := h
    rwa [hvalue] at hbounds
  · cases h

namespace SupervisorHelperConversation

variable {conversation : SupervisorHelperConversation}

theorem receiveTerminal_move (line : Bytes) :
    HelperMove (some .active) (conversation.receiveTerminal line).2
        (conversation.receiveTerminal line).1.state.lifecycle ∧
      (conversation.receiveTerminal line).1.state ≠ .waitingForReady := by
  unfold receiveTerminal
  split
  · rename_i result hresult
    have hends : (HelperConversationEvent.workloadExited result).EndsWorkload := parseValueAfter_bounds hresult
    exact ⟨.ended hends, by simp⟩
  · split
    · rename_i signal hsignal
      have hends : (HelperConversationEvent.workloadSignaled signal).EndsWorkload := parseValueAfter_bounds hsignal
      exact ⟨.ended hends, by simp⟩
    · exact ⟨.lost _, by simp [lost]⟩

theorem receiveLine_move (h : conversation.state ≠ .waitingForReady) (line : Bytes) :
    HelperMove conversation.state.lifecycle (conversation.receiveLine line).2
        (conversation.receiveLine line).1.state.lifecycle ∧
      (conversation.receiveLine line).1.state ≠ .waitingForReady := by
  unfold receiveLine
  cases hreply : conversation.receiveReply line with
  | some outcome =>
      obtain ⟨change, hstate, -, hline⟩ := receiveReply_some hreply
      dsimp only
      rw [hstate]
      rcases hline with ⟨-, rfl⟩ | ⟨-, rfl⟩ | ⟨-, rfl⟩
      · refine ⟨show HelperMove (some .active) _ conversation.state.lifecycle from ?_, h⟩
        rw [hstate]
        exact .result .applied change
      · refine ⟨show HelperMove (some .active) _ conversation.state.lifecycle from ?_, h⟩
        rw [hstate]
        exact .result .restoredAfterFailure change
      · exact ⟨.unknown, by simp⟩
  | none =>
      dsimp only
      split
      · exact ⟨.lost _, by simp [lost]⟩
      · split
        · exact absurd ‹_› h
        · rename_i hstate
          rw [hstate]
          split
          · exact ⟨.activated _, by simp⟩
          · split
            · exact ⟨.activationFailed _, by simp⟩
            · exact ⟨.lost _, by simp [lost]⟩
        · rename_i hstate
          rw [hstate]
          exact receiveTerminal_move line
        · rename_i hstate
          rw [hstate]
          exact receiveTerminal_move line
        · rename_i hstate
          rw [hstate]
          split
          · exact ⟨.cleaned (Or.inl rfl), by simp⟩
          · split
            · exact ⟨.cleaned (Or.inr rfl), by simp⟩
            · exact ⟨.lost _, by simp [lost]⟩
        · exact ⟨.lost _, by simp [lost]⟩
        · exact ⟨.lost _, by simp [lost]⟩

theorem receiveLines_moves (lines : List Bytes) :
    ∀ {conversation : SupervisorHelperConversation}, conversation.state ≠ .waitingForReady →
      HelperMoves conversation.state.lifecycle (conversation.receiveLines lines).2
          (conversation.receiveLines lines).1.state.lifecycle ∧
        (conversation.receiveLines lines).1.state ≠ .waitingForReady := by
  induction lines with
  | nil => exact fun h => ⟨.nil _, h⟩
  | cons line lines ih =>
      intro conversation h
      have hlost : lost.state ≠ .waitingForReady := by decide
      obtain ⟨hmove, hnext⟩ := receiveLine_move h line
      unfold receiveLines
      dsimp only
      split
      · exact ⟨.cons (.lost _) (.nil _), hlost⟩
      · split
        · rename_i hfailed
          rw [hfailed] at hmove
          exact ⟨.cons hmove (.nil _), hlost⟩
        · obtain ⟨hrest, hlast⟩ := ih hnext
          exact ⟨.cons hmove hrest, hlast⟩

theorem receiveBytes_moves (h : conversation.state ≠ .waitingForReady) (bytes : Bytes) :
    HelperMoves conversation.state.lifecycle (conversation.receiveBytes bytes).2
        (conversation.receiveBytes bytes).1.state.lifecycle ∧
      (conversation.receiveBytes bytes).1.state ≠ .waitingForReady := by
  obtain ⟨hmoves, hlast⟩ := receiveLines_moves (splitLines (conversation.buffer ++ bytes)).1 h
  unfold receiveBytes
  split
  · exact ⟨.nil _, h⟩
  · dsimp only
    split
    · exact ⟨hmoves, hlast⟩
    · split
      · exact ⟨hmoves.append (.cons (.lost _) (.nil _)), by simp [lost]⟩
      · exact ⟨hmoves, hlast⟩

theorem peerClosed_moves (h : conversation.state ≠ .waitingForReady) :
    HelperMoves conversation.state.lifecycle conversation.peerClosed.2 conversation.peerClosed.1.state.lifecycle ∧
      conversation.peerClosed.1.state ≠ .waitingForReady := by
  unfold peerClosed
  split
  · exact ⟨.nil _, h⟩
  · split
    · exact ⟨.nil _, h⟩
    · exact ⟨.cons (.lost _) (.nil _), by simp [lost]⟩

end SupervisorHelperConversation

/-! ### The adapter keeps the queue in order -/

section Executor

variable [DecimalText]

theorem beginProfileChange_state {conversation next : SupervisorHelperConversation} {change : ProfileChange}
    {frame : Bytes} (h : conversation.beginProfileChange change = some (frame, next)) :
    next.state = conversation.state := by
  unfold SupervisorHelperConversation.beginProfileChange at h
  split at h
  · exact nomatch h
  · dsimp only at h
    split at h
    · exact nomatch h
    · rw [← (Prod.mk.inj (Option.some.inj h)).2]

/-- What the actions of the control plane can queue: all of it is for a running Workload. -/
theorem execute_queues (actions : List ControlPlaneAction) :
    ∀ links : SessionLinks, (executeControlPlaneActions actions links).1.conversation.state = links.conversation.state ∧
      ∀ event ∈ (executeControlPlaneActions actions links).2,
        event = .stopRequested ∨ event = .profileStateUnknown ∨ event = .conversationLost := by
  induction actions with
  | nil => exact fun links => ⟨rfl, fun _ hmem => nomatch hmem⟩
  | cons action actions ih =>
      intro links
      cases action with
      | requestLifecycleStop =>
          obtain ⟨hstate, hevents⟩ := ih links
          exact ⟨hstate, List.forall_mem_cons.mpr ⟨Or.inl rfl, hevents⟩⟩
      | failSessionForUnknownProfileState =>
          obtain ⟨hstate, hevents⟩ := ih links
          exact ⟨hstate, List.forall_mem_cons.mpr ⟨Or.inr (Or.inl rfl), hevents⟩⟩
      | disconnectController => exact ih { links with controller := none }
      | sendControllerText text =>
          unfold executeControlPlaneActions
          dsimp only
          split
          · exact ih _
          · exact ⟨rfl, fun _ hmem => nomatch hmem⟩
          · exact ⟨rfl, fun _ hmem => nomatch hmem⟩
      | dispatchProfileChange change =>
          have hlost : ∀ event ∈ [LifecycleEvent.conversationLost],
              event = .stopRequested ∨ event = .profileStateUnknown ∨ event = .conversationLost :=
            List.forall_mem_singleton.mpr (Or.inr (Or.inr rfl))
          unfold executeControlPlaneActions
          split
          · exact ⟨rfl, hlost⟩
          · rename_i frame conversation hbegin
            have hstate := beginProfileChange_state hbegin
            dsimp only
            split
            · obtain ⟨hsame, hevents⟩ := ih _
              exact ⟨hsame.trans hstate, hevents⟩
            · exact ⟨hstate, hlost⟩

end Executor

theorem queued_of_actions {events : List LifecycleEvent} (h : ∀ event ∈ events,
    event = .stopRequested ∨ event = .profileStateUnknown ∨ event = .conversationLost) :
    ∃ last, Queued (some .active) events last ∧ (last = none ∨ last = some .active) := by
  induction events with
  | nil => exact ⟨_, queued_nil.mpr rfl, Or.inr rfl⟩
  | cons event events ih =>
      obtain ⟨hevent, hevents⟩ := List.forall_mem_cons.mp h
      obtain ⟨last, hqueued, hlast⟩ := ih hevents
      rcases hevent with rfl | rfl | rfl
      · exact ⟨last, ⟨show LifecycleState.active ≠ .waitingForActivation by decide, hqueued⟩, hlast⟩
      · exact ⟨last, ⟨rfl, hqueued⟩, hlast⟩
      · exact ⟨none, ⟨trivial, queued_none.mpr rfl⟩, Or.inl rfl⟩

namespace SessionAdapter

/-- What the adapter has when the helper is in a state of the lifecycle. -/
def Fits (adapter : SessionAdapter) : Option LifecycleState → Prop
  | some .waitingForActivation =>
      adapter.controlPlane = none ∧ adapter.client = none ∧ adapter.activated = false ∧
        adapter.workloadFinished = false
  | some .active => adapter.workloadFinished = false
  | some .waitingForCleanup =>
      adapter.activated = false ∧
        (adapter.workloadFinished = true ∨ adapter.controlPlane = none ∧ adapter.client = none)
  | none => True

/-- Consumed from the first state on, the queue leads to the state that the helper is in, unless it ends the
Session before. -/
structure Tracks (start state : Option LifecycleState) (adapter : SessionAdapter) : Prop where
  queue : ∃ last, Queued start adapter.pendingEvents last ∧ (last = none ∨ last = state)
  fits : adapter.Fits state

section Tracks

variable {start state next : Option LifecycleState} {adapter after : SessionAdapter} {event : LifecycleEvent}
  {events : List LifecycleEvent}

theorem Fits.congr (h : adapter.Fits state)
    (hsame : after.controlPlane = adapter.controlPlane ∧ after.client = adapter.client ∧
      after.activated = adapter.activated ∧ after.workloadFinished = adapter.workloadFinished) : after.Fits state := by
  obtain ⟨hplane, hclient, hactivated, hfinished⟩ := hsame
  rcases state with _ | _ | _ | _
  · trivial
  · exact ⟨hplane.trans h.1, hclient.trans h.2.1, hactivated.trans h.2.2.1, hfinished.trans h.2.2.2⟩
  · exact hfinished.trans h
  · exact ⟨hactivated.trans h.1, h.2.imp hfinished.trans fun hnone => ⟨hplane.trans hnone.1, hclient.trans hnone.2⟩⟩

/-- Where the control plane is told of something, the Workload runs or there is no control plane. -/
theorem Fits.running (h : adapter.Fits state)
    (hacts : adapter.activated = true ∨ adapter.workloadFinished = false) :
    state = none ∨ state = some .active ∨ adapter.controlPlane = none := by
  rcases state with _ | _ | _ | _
  · exact Or.inl rfl
  · exact Or.inr (Or.inr h.1)
  · exact Or.inr (Or.inl rfl)
  · rcases hacts with hactivated | hrunning
    · exact nomatch h.1.symm.trans hactivated
    · rcases h.2 with hfinished | hnone
      · exact nomatch hfinished.symm.trans hrunning
      · exact Or.inr (Or.inr hnone.1)

/-- More events are queued, and the helper has gone on. -/
theorem Tracks.append (h : Tracks start state adapter)
    (hpending : after.pendingEvents = adapter.pendingEvents ++ events)
    (hqueued : ∃ last, Queued state events last ∧ (last = none ∨ last = next)) (hfits : after.Fits next) :
    Tracks start next after := by
  refine ⟨?_, hfits⟩
  obtain ⟨middle, hmiddle, hstate⟩ := h.queue
  obtain ⟨last, hevents, hlast⟩ := hqueued
  rw [hpending]
  rcases hstate with rfl | rfl
  · exact ⟨none, hmiddle.append (queued_none.mpr rfl), Or.inl rfl⟩
  · exact ⟨last, hmiddle.append hevents, hlast⟩

/-- Nothing is queued. -/
theorem Tracks.same (h : Tracks start state adapter) (hpending : after.pendingEvents = adapter.pendingEvents)
    (hfits : after.Fits state) : Tracks start state after :=
  h.append (hpending.trans (List.append_nil _).symm) ⟨state, queued_nil.mpr rfl, Or.inr rfl⟩ hfits

/-- An event that any state of the helper allows. -/
theorem Tracks.push (h : Tracks start state adapter) (hpending : after.pendingEvents = adapter.pendingEvents ++ [event])
    (hexpects : ∀ current, state = some current →
      current.Expects event ∧ (current.after event = none ∨ current.after event = some current))
    (hfits : after.Fits state) : Tracks start state after := by
  refine h.append hpending ?_ hfits
  cases state with
  | none => exact ⟨none, queued_none.mpr rfl, Or.inl rfl⟩
  | some current =>
      obtain ⟨hevent, hafter⟩ := hexpects current rfl
      exact ⟨current.after event, ⟨hevent, queued_nil.mpr rfl⟩, hafter⟩

theorem Tracks.lose (h : Tracks start state adapter) : Tracks start state (adapter.push .conversationLost) :=
  h.push (show _ = _ ++ [LifecycleEvent.conversationLost] from rfl) (fun _ _ => ⟨trivial, Or.inl rfl⟩) h.fits

section Handle

variable [DecimalText]

theorem handleControlEvent_state (adapter : SessionAdapter) (event : ControlPlaneEvent) :
    (adapter.handleControlEvent event).conversation.state = adapter.conversation.state := by
  unfold handleControlEvent
  split
  · rfl
  · exact (execute_queues _ _).1

theorem Fits.handle (h : adapter.Fits state) (event : ControlPlaneEvent) :
    (adapter.handleControlEvent event).Fits state := by
  have hsame := sameSession_handleControlEvent adapter event
  cases state with
  | none => trivial
  | some current =>
      cases current with
      | waitingForActivation => rwa [handleControlEvent_none h.1]
      | active => exact hsame.workloadFinished.trans h
      | waitingForCleanup =>
          rcases h.2 with hfinished | hnone
          · exact ⟨hsame.activated.trans h.1, Or.inl (hsame.workloadFinished.trans hfinished)⟩
          · rwa [handleControlEvent_none hnone.1]

/-- The control plane acts while the Workload runs, or there is none. -/
theorem Tracks.handle (h : Tracks start state adapter)
    (hstate : state = none ∨ state = some .active ∨ adapter.controlPlane = none) (event : ControlPlaneEvent) :
    Tracks start state (adapter.handleControlEvent event) := by
  cases hplane : adapter.controlPlane with
  | none => rwa [handleControlEvent_none hplane]
  | some plane =>
      have hhandle : adapter.handleControlEvent event =
          adapter.afterActions (executeControlPlaneActions (plane.handle event).2 (adapter.links (plane.handle event).1)).1
            (executeControlPlaneActions (plane.handle event).2 (adapter.links (plane.handle event).1)).2 := by
        rw [handleControlEvent, hplane]
      refine h.append (congrArg SessionAdapter.pendingEvents hhandle) ?_ (h.fits.handle event)
      rcases hstate with rfl | rfl | hnone
      · exact ⟨none, queued_none.mpr rfl, Or.inl rfl⟩
      · exact queued_of_actions (execute_queues _ _).2
      · cases hplane.symm.trans hnone

/-! ### Reading from the helper -/

theorem deliverHelperEvent_state (listens : Bool) (adapter : SessionAdapter) (event : HelperConversationEvent) :
    (adapter.deliverHelperEvent listens event).conversation.state = adapter.conversation.state := by
  cases event with
  | activated workloadPid => cases listens <;> rfl
  | profileChangeResult result change => exact handleControlEvent_state _ _
  | profileStateUnknown => exact handleControlEvent_state _ _
  | workloadExited result => exact handleControlEvent_state _ _
  | workloadSignaled signal => exact handleControlEvent_state _ _
  | _ => rfl

theorem Tracks.deliver (h : Tracks start state adapter) (listens : Bool) {event : HelperConversationEvent}
    (hmove : HelperMove state event next) : Tracks start next (adapter.deliverHelperEvent listens event) := by
  cases hmove with
  | activated workloadPid =>
      obtain ⟨-, -, -, hfinished⟩ := h.fits
      cases listens with
      | true => exact h.append rfl ⟨some .active, ⟨rfl, rfl⟩, Or.inr rfl⟩ hfinished
      | false => exact h.append rfl ⟨none, ⟨trivial, rfl⟩, Or.inl rfl⟩ hfinished
  | activationFailed result =>
      obtain ⟨hplane, hclient, hactivated, -⟩ := h.fits
      exact h.append rfl ⟨some .waitingForCleanup, ⟨rfl, rfl⟩, Or.inr rfl⟩ ⟨hactivated, Or.inr ⟨hplane, hclient⟩⟩
  | result result change => exact h.handle (Or.inr (Or.inl rfl)) _
  | unknown => exact h.handle (Or.inr (Or.inl rfl)) _
  | ended ends =>
      have hterminal := h.handle (Or.inr (Or.inl rfl)) .workloadTerminal
      cases event with
      | workloadExited result =>
          exact hterminal.append rfl ⟨some .waitingForCleanup, ⟨rfl, rfl⟩, Or.inr rfl⟩ ⟨rfl, Or.inl rfl⟩
      | workloadSignaled signal =>
          exact hterminal.append rfl ⟨some .waitingForCleanup, ⟨rfl, rfl⟩, Or.inr rfl⟩ ⟨rfl, Or.inl rfl⟩
      | _ => exact ends.elim
  | cleaned ends =>
      rcases ends with rfl | rfl
      · exact h.append rfl ⟨none, ⟨rfl, rfl⟩, Or.inl rfl⟩ trivial
      · exact h.append rfl ⟨none, ⟨trivial, rfl⟩, Or.inl rfl⟩ trivial
  | lost =>
      refine h.append rfl ⟨none, ?_, Or.inl rfl⟩ trivial
      cases state with
      | none => exact queued_none.mpr rfl
      | some current => exact ⟨trivial, rfl⟩

theorem Tracks.deliver_all (listens : Bool) {events : List HelperConversationEvent} :
    ∀ {state : Option LifecycleState} {adapter : SessionAdapter}, Tracks start state adapter →
      HelperMoves state events next → Tracks start next (events.foldl (deliverHelperEvent listens) adapter) ∧
        (events.foldl (deliverHelperEvent listens) adapter).conversation.state = adapter.conversation.state := by
  induction events with
  | nil =>
      intro state adapter h hmoves
      cases hmoves with
      | nil => exact ⟨h, rfl⟩
  | cons event events ih =>
      intro state adapter h hmoves
      cases hmoves with
      | cons move rest =>
          obtain ⟨htracks, hstate⟩ := ih (h.deliver listens move) rest
          exact ⟨htracks, hstate.trans (deliverHelperEvent_state listens adapter event)⟩

end Handle

end Tracks

/-- The queue of an adapter whose conversation has begun, for a lifecycle in the first state. -/
structure Coherent (start : Option LifecycleState) (adapter : SessionAdapter) : Prop where
  ready : adapter.conversation.state ≠ .waitingForReady
  tracks : Tracks start adapter.conversation.state.lifecycle adapter

section Coherent

variable {start : Option LifecycleState} {adapter after : SessionAdapter}

theorem Coherent.of_state (h : adapter.Coherent start) (hstate : after.conversation.state = adapter.conversation.state)
    (htracks : Tracks start adapter.conversation.state.lifecycle after) : after.Coherent start :=
  ⟨hstate ▸ h.ready, hstate ▸ htracks⟩

theorem Coherent.lose (h : adapter.Coherent start) : (adapter.push .conversationLost).Coherent start :=
  ⟨h.ready, h.tracks.lose⟩

theorem Coherent.congr (h : adapter.Coherent start) (hconversation : after.conversation = adapter.conversation)
    (hpending : after.pendingEvents = adapter.pendingEvents)
    (hsame : after.controlPlane = adapter.controlPlane ∧ after.client = adapter.client ∧
      after.activated = adapter.activated ∧ after.workloadFinished = adapter.workloadFinished) :
    after.Coherent start :=
  h.of_state (congrArg _ hconversation) (h.tracks.same hpending (h.tracks.fits.congr hsame))

theorem Coherent.withControllerSends (h : adapter.Coherent start) (results : List Bool) :
    (adapter.withControllerSends results).Coherent start :=
  h.congr rfl rfl ⟨rfl, rfl, rfl, rfl⟩

section Cycle

variable [DecimalText]

theorem Coherent.loseController (h : adapter.Coherent start) : adapter.loseController.Coherent start := by
  refine h.of_state rfl (h.tracks.push (show _ = _ ++ [LifecycleEvent.controllerLost] from rfl) ?_ ?_)
  · intro current _
    exact ⟨trivial, Or.inr (by cases current <;> rfl)⟩
  · have hplane : adapter.controlPlane = none → adapter.loseController.controlPlane = none := fun hnone =>
      Option.map_eq_none_iff.mpr hnone
    have hfits := h.tracks.fits
    revert hfits
    rcases adapter.conversation.state.lifecycle with _ | _ | _ | _
    · exact fun _ => trivial
    · exact fun hfits => ⟨hplane hfits.1, rfl, hfits.2.2⟩
    · exact fun hfits => hfits
    · exact fun hfits => ⟨hfits.1, hfits.2.imp_right fun hnone => ⟨hplane hnone.1, rfl⟩⟩

theorem Coherent.handle (h : adapter.Coherent start)
    (hacts : adapter.activated = true ∨ adapter.workloadFinished = false) (event : ControlPlaneEvent) :
    (adapter.handleControlEvent event).Coherent start :=
  h.of_state (handleControlEvent_state adapter event) (h.tracks.handle (h.tracks.fits.running hacts) event)

theorem Coherent.readHelperEvents (h : adapter.Coherent start) (listens : Bool) (read : SocketRead) :
    (adapter.readHelperEvents listens read).Coherent start := by
  have hread : ∀ {next : SupervisorHelperConversation} {events : List HelperConversationEvent},
      HelperMoves adapter.conversation.state.lifecycle events next.state.lifecycle → next.state ≠ .waitingForReady →
      (events.foldl (deliverHelperEvent listens) (adapter.withConversation next)).Coherent start := by
    intro next events hmoves hready
    have hnext : Tracks start adapter.conversation.state.lifecycle (adapter.withConversation next) :=
      h.tracks.same rfl h.tracks.fits
    obtain ⟨htracks, hstate⟩ := Tracks.deliver_all listens hnext hmoves
    exact ⟨hstate ▸ hready, hstate ▸ htracks⟩
  cases read with
  | failed => exact h.lose
  | data bytes =>
      obtain ⟨hmoves, hready⟩ := SupervisorHelperConversation.receiveBytes_moves h.ready bytes
      exact hread hmoves hready
  | peerClosed =>
      obtain ⟨hmoves, hready⟩ := SupervisorHelperConversation.peerClosed_moves h.ready
      exact hread hmoves hready

theorem Coherent.helperPhase (h : adapter.Coherent start) (input : CycleInput) :
    (adapter.helperPhase input).Coherent start := by
  have hread : (if input.helper.pollin || input.helper.pollhup then
      adapter.readHelperEvents input.listens input.helperRead else adapter).Coherent start := by
    split
    · exact h.readHelperEvents input.listens input.helperRead
    · exact h
  unfold SessionAdapter.helperPhase
  dsimp only
  split
  · exact hread.lose
  · exact hread

theorem Coherent.interrupt (h : adapter.Coherent start) (hrunning : adapter.workloadFinished = false) :
    adapter.interrupt.Coherent start ∧ adapter.interrupt.workloadFinished = false := by
  have hhandled := h.handle (Or.inr hrunning) .sessionStopping
  have hfinished := (sameSession_handleControlEvent adapter .sessionStopping).workloadFinished.trans hrunning
  refine ⟨hhandled.of_state rfl (hhandled.tracks.push (show _ = _ ++ [LifecycleEvent.terminalInterrupt] from rfl) ?_
    hhandled.tracks.fits), hfinished⟩
  intro current _
  refine ⟨trivial, ?_⟩
  cases current with
  | waitingForActivation => exact Or.inl rfl
  | active => exact Or.inr rfl
  | waitingForCleanup => exact Or.inr rfl

theorem Coherent.signalPhase (h : adapter.Coherent start) (input : CycleInput) :
    (adapter.signalPhase input).Coherent start := by
  unfold SessionAdapter.signalPhase
  split
  · rename_i hsignal
    rw [Bool.and_eq_true, Bool.not_eq_true'] at hsignal
    suffices hboth : (SessionAdapter.interrupt^[input.interrupts] adapter).Coherent start ∧
        (SessionAdapter.interrupt^[input.interrupts] adapter).workloadFinished = false from hboth.1
    generalize input.interrupts = count
    induction count with
    | zero => exact ⟨h, hsignal.2⟩
    | succ count ih =>
        rw [Function.iterate_succ_apply']
        exact ih.1.interrupt ih.2
  · exact h

theorem Coherent.acceptController (h : adapter.Coherent start) (hactivated : adapter.activated = true)
    (accepts : Bool) : (adapter.acceptController accepts).Coherent start := by
  unfold SessionAdapter.acceptController
  split
  · exact h.lose
  · split
    · exact h.congr rfl rfl ⟨rfl, rfl, rfl, rfl⟩
    · have hconnected : adapter.connect.Coherent start := by
        refine h.of_state rfl (h.tracks.same rfl ?_)
        have hfits := h.tracks.fits
        revert hfits
        rcases adapter.conversation.state.lifecycle with _ | _ | _ | _
        · exact fun _ => trivial
        · exact fun hfits => nomatch hactivated.symm.trans hfits.2.2.1
        · exact fun hfits => hfits
        · exact fun hfits => nomatch hactivated.symm.trans hfits.1
      exact hconnected.handle (Or.inl hactivated) _

theorem Coherent.acceptPhase (h : adapter.Coherent start) (flags : Readiness) (input : CycleInput) :
    (adapter.acceptPhase flags input).Coherent start := by
  have haccept : (if adapter.activated && flags.pollin then
      (adapter.withControllerSends [input.greets]).acceptController input.accepts else adapter).Coherent start := by
    split
    · rename_i hactivated
      rw [Bool.and_eq_true] at hactivated
      exact (h.withControllerSends [input.greets]).acceptController hactivated.1 input.accepts
    · exact h
  unfold SessionAdapter.acceptPhase
  dsimp only
  split
  · exact haccept.lose
  · exact haccept

theorem Coherent.readController (drainToEof : Bool) (reads : List SocketRead) :
    ∀ {adapter : SessionAdapter}, adapter.Coherent start → adapter.workloadFinished = false →
      (readController drainToEof adapter reads).1.Coherent start := by
  induction reads with
  | nil => exact fun h _ => h
  | cons read reads ih =>
      intro adapter h hrunning
      cases read with
      | peerClosed => exact h
      | failed => exact h
      | data bytes =>
          have hhandled := h.handle (Or.inr hrunning) (.controllerBytesReceived bytes)
          have hsame := sameSession_handleControlEvent adapter (.controllerBytesReceived bytes)
          unfold SessionAdapter.readController
          dsimp only
          split
          · exact ih hhandled (hsame.workloadFinished.trans hrunning)
          · exact hhandled

theorem Coherent.controllerPhase (h : adapter.Coherent start) (flags : Readiness) (input : CycleInput) :
    (adapter.controllerPhase flags input).1.Coherent start := by
  have hread : (adapter.readPhase flags input).Coherent start := by
    unfold SessionAdapter.readPhase
    split
    · rename_i hreading
      rw [reading, Bool.and_eq_true, Bool.and_eq_true, Bool.not_eq_true'] at hreading
      have hreads := Coherent.readController flags.pollhup input.controllerReads h hreading.1.1
      dsimp only
      split
      · exact hreads.loseController
      · exact hreads
    · exact h
  change (hangUpPhase _ flags).Coherent start
  unfold hangUpPhase
  split
  · exact hread.loseController
  · exact hread

/-- A turn of the wait keeps the queue in order. -/
theorem Coherent.waitCycle (h : adapter.Coherent start) (input : CycleInput) :
    (adapter.waitCycle input).1.Coherent start := by
  have hsends : (adapter.withSends input).Coherent start := h.congr rfl rfl ⟨rfl, rfl, rfl, rfl⟩
  exact ((((hsends.helperPhase input).signalPhase input).acceptPhase _ input).withControllerSends
    input.commandSends).controllerPhase _ input

end Cycle

end Coherent

end SessionAdapter

end NetLagLab
