import NetLagLab.ControlPlaneHistory
import NetLagLab.LifecycleSafety

/-! The outcome of a Session that was started can always be written for its Controller: the values are those of a
process that ends, and the lifecycle is told once of an unknown profile state. -/

namespace NetLagLab

open ByteLines CallPrograms CallPrograms.Program

/-! ### Values -/

/-- An end of the Workload comes with a value that a process can end with. -/
def LifecycleEvent.Worded : LifecycleEvent → Prop
  | .workloadExited value => 0 ≤ value ∧ value ≤ 255
  | .workloadSignaled value => 1 ≤ value ∧ value ≤ 127
  | _ => True

theorem validWorkloadForWire_of_worded {event : LifecycleEvent} {result : WorkloadResult} (h : event.Worded)
    (hresult : event.workloadResult = some result) :
    ControllerSessionOutcome.validWorkloadForWire (some result) = true := by
  cases event with
  | workloadExited value =>
      obtain rfl := Option.some.inj hresult
      exact decide_eq_true h
  | workloadSignaled value =>
      obtain rfl := Option.some.inj hresult
      exact decide_eq_true h
  | _ => exact nomatch hresult

def HelperConversationEvent.Worded : HelperConversationEvent → Prop
  | .workloadExited result => 0 ≤ result ∧ result ≤ 255
  | .workloadSignaled signal => 1 ≤ signal ∧ signal ≤ 127
  | _ => True

theorem HelperMove.worded {state next : Option LifecycleState} {event : HelperConversationEvent}
    (h : HelperMove state event next) : event.Worded := by
  cases h with
  | ended ends =>
      cases event with
      | workloadExited result => exact ends
      | workloadSignaled signal => exact ends
      | _ => trivial
  | cleaned ends => rcases ends with rfl | rfl <;> trivial
  | _ => trivial

theorem HelperMoves.worded {state next : Option LifecycleState} {events : List HelperConversationEvent}
    (h : HelperMoves state events next) : ∀ event ∈ events, event.Worded := by
  induction h with
  | nil state => exact fun event hmem => nomatch hmem
  | cons move rest ih => exact List.forall_mem_cons.mpr ⟨move.worded, ih⟩

/-! ### Once -/

section Once

variable [DecimalText]

/-- The actions queue what they ask for, and leave the control plane but for a Controller that is gone. -/
theorem execute_told (actions : List ControlPlaneAction) : ∀ links : SessionLinks,
    (executeControlPlaneActions actions links).2.count .profileStateUnknown ≤
        actions.count .failSessionForUnknownProfileState ∧
      (executeControlPlaneActions actions links).1.controlPlane.profileStateFailed =
        links.controlPlane.profileStateFailed := by
  induction actions with
  | nil => exact fun links => ⟨le_rfl, rfl⟩
  | cons action actions ih =>
      intro links
      cases action with
      | requestLifecycleStop =>
          obtain ⟨hcount, hfailed⟩ := ih links
          refine ⟨?_, hfailed⟩
          rw [executeControlPlaneActions, List.count_cons_of_ne (by decide), List.count_cons_of_ne (by decide)]
          exact hcount
      | failSessionForUnknownProfileState =>
          obtain ⟨hcount, hfailed⟩ := ih links
          refine ⟨?_, hfailed⟩
          rw [executeControlPlaneActions, List.count_cons_self, List.count_cons_self]
          exact Nat.succ_le_succ hcount
      | disconnectController =>
          obtain ⟨hcount, hfailed⟩ := ih { links with controller := none }
          refine ⟨?_, hfailed⟩
          rw [executeControlPlaneActions, List.count_cons_of_ne (by decide)]
          exact hcount
      | sendControllerText text =>
          rw [List.count_cons_of_ne (by simp)]
          unfold executeControlPlaneActions
          dsimp only
          split
          · exact ih _
          · exact ⟨Nat.zero_le _, rfl⟩
          · exact ⟨Nat.zero_le _, rfl⟩
      | dispatchProfileChange change =>
          rw [List.count_cons_of_ne (by simp)]
          unfold executeControlPlaneActions
          split
          · exact ⟨Nat.zero_le _, rfl⟩
          · dsimp only
            split
            · exact ih _
            · exact ⟨Nat.zero_le _, rfl⟩

/-- A control plane gives the Session up once, and knows that it did. -/
theorem ControllerControlPlane.handle_told {plane : ControllerControlPlane} (hinv : plane.Inv)
    {event : ControlPlaneEvent} (hwrite : event ≠ .controllerWriteFailed) :
    (plane.handle event).2.count .failSessionForUnknownProfileState + plane.profileStateFailed.toNat ≤
      (plane.handle event).1.profileStateFailed.toNat := by
  obtain ⟨received, next, batch, hhandle, hstep⟩ := ControllerControlPlane.eventStep hinv.idle event
  rw [if_neg hwrite] at hstep
  have hprogress := hstep.progress hinv.profileInv.settled
  rw [hhandle]
  cases hfail : batch.fail with
  | true =>
      have hbefore : plane.profileStateFailed = false := (hprogress.failsOnce hfail).1
      have hafter : next.profileStateFailed = true := hprogress.failed.mpr (Or.inr (Or.inr hfail))
      rw [hbefore, hafter]
      exact batch.count_fail_le
  | false =>
      have hnone : batch.actions.count .failSessionForUnknownProfileState = 0 := by
        rw [List.count_eq_zero, ActionBatch.failSession_mem, hfail]
        exact Bool.false_ne_true
      rw [hnone, Nat.zero_add]
      cases hfailed : plane.profileStateFailed with
      | false => exact Nat.zero_le _
      | true =>
          have hafter : next.profileStateFailed = true := hprogress.failed.mpr (Or.inl hfailed)
          rw [hafter]

end Once

namespace SessionAdapter

open SupervisorHelperConversation

/-- Whether the control plane has given the Session up, as a number. -/
def told (adapter : SessionAdapter) : Nat :=
  (adapter.controlPlane.any ControllerControlPlane.profileStateFailed).toNat

/-- What is queued can be written, and the lifecycle, which knows of `count` unknown profile states, is told of
one at most. -/
structure Sound (count : Nat) (adapter : SessionAdapter) : Prop where
  worded : ∀ event ∈ adapter.pendingEvents, event.Worded
  once : count + adapter.pendingEvents.count .profileStateUnknown ≤ adapter.told

section Sound

variable {count : Nat} {adapter after : SessionAdapter} {event : LifecycleEvent} {events : List LifecycleEvent}

theorem told_le_one (adapter : SessionAdapter) : adapter.told ≤ 1 := Bool.toNat_le _

theorem Sound.append (h : adapter.Sound count) (hpending : after.pendingEvents = adapter.pendingEvents ++ events)
    (hworded : ∀ event ∈ events, event.Worded)
    (htold : events.count .profileStateUnknown + adapter.told ≤ after.told) : after.Sound count where
  worded := by
    rw [hpending, List.forall_mem_append]
    exact ⟨h.worded, hworded⟩
  once := by
    have hbefore := h.once
    rw [hpending, List.count_append]
    omega

theorem Sound.same (h : adapter.Sound count) (hpending : after.pendingEvents = adapter.pendingEvents)
    (htold : after.told = adapter.told) : after.Sound count :=
  h.append (hpending.trans (List.append_nil _).symm) (fun _ hmem => nomatch hmem) (by rw [htold]; simp)

theorem Sound.push (h : adapter.Sound count) (hworded : event.Worded) (hknown : event ≠ .profileStateUnknown) :
    (adapter.push event).Sound count := by
  refine h.append rfl (List.forall_mem_singleton.mpr hworded) ?_
  rw [List.count_eq_zero.mpr fun hmem => hknown (List.mem_singleton.mp hmem).symm, Nat.zero_add]
  exact le_rfl

/-- The lifecycle takes the first event. -/
theorem Sound.take (h : adapter.Sound count) (hpending : adapter.pendingEvents = event :: events) :
    event.Worded ∧ ({ adapter with pendingEvents := events } : SessionAdapter).Sound
      (count + [event].count .profileStateUnknown) := by
  have hworded := h.worded
  have honce := h.once
  rw [hpending, List.forall_mem_cons] at hworded
  rw [hpending, ← List.singleton_append, List.count_append, ← Nat.add_assoc] at honce
  exact ⟨hworded.1, hworded.2, honce⟩

section Handle

variable [DecimalText]

theorem Sound.handle (h : adapter.Sound count)
    (hplane : ∀ plane, adapter.controlPlane = some plane → plane.Inv) {event : ControlPlaneEvent}
    (hwrite : event ≠ .controllerWriteFailed) : (adapter.handleControlEvent event).Sound count := by
  cases hcurrent : adapter.controlPlane with
  | none => rwa [handleControlEvent_none hcurrent]
  | some plane =>
      have hhandle : adapter.handleControlEvent event =
          adapter.afterActions (executeControlPlaneActions (plane.handle event).2 (adapter.links (plane.handle event).1)).1
            (executeControlPlaneActions (plane.handle event).2 (adapter.links (plane.handle event).1)).2 := by
        rw [handleControlEvent, hcurrent]
      obtain ⟨hcount, hfailed⟩ := execute_told (plane.handle event).2 (adapter.links (plane.handle event).1)
      have honce := ControllerControlPlane.handle_told (hplane plane hcurrent) hwrite
      refine h.append (congrArg SessionAdapter.pendingEvents hhandle) ?_ ?_
      · intro queued hmem
        rcases (execute_queues _ _).2 queued hmem with rfl | rfl | rfl <;> trivial
      · have hbefore : adapter.told = plane.profileStateFailed.toNat := by
          rw [told, hcurrent]
          rfl
        have hafter : (adapter.handleControlEvent event).told = (plane.handle event).1.profileStateFailed.toNat := by
          rw [hhandle]
          exact congrArg Bool.toNat hfailed
        rw [hbefore, hafter]
        exact (Nat.add_le_add_right hcount _).trans honce

theorem Sound.loseController (h : adapter.Sound count) : adapter.loseController.Sound count := by
  refine h.append (show _ = _ ++ [LifecycleEvent.controllerLost] from rfl) (List.forall_mem_singleton.mpr trivial) ?_
  rw [show [LifecycleEvent.controllerLost].count .profileStateUnknown = 0 from rfl, Nat.zero_add]
  refine le_of_eq ?_
  change (adapter.controlPlane.any _).toNat = ((adapter.controlPlane.map _).any _).toNat
  rw [Option.any_map]
  rfl

theorem Sound.step (h : adapter.Sound count) (hcore : adapter.Core) (hstep : CycleStep adapter after) :
    after.Sound count := by
  have hplane : ∀ plane, adapter.controlPlane = some plane → plane.Inv := fun plane hsome => (hcore.plane plane hsome).1
  cases hstep with
  | lose => exact h.push trivial (by decide)
  | sends results => exact h.same rfl rfl
  | interrupt => exact (h.handle hplane (by decide)).push trivial (by decide)
  | accept accepts activated =>
      unfold SessionAdapter.acceptController
      split
      · exact h.push trivial (by decide)
      · split
        · exact h.same rfl rfl
        · have hconnected : adapter.connect.Sound count := h.same rfl rfl
          exact hconnected.handle hplane (by decide)
  | receive bytes connected => exact h.handle hplane (by simp)
  | hangUp connected => exact h.loseController

theorem Sound.steps (h : adapter.Sound count) (hinv : adapter.Inv)
    (hsteps : Relation.ReflTransGen CycleStep adapter after) : after.Sound count := by
  induction hsteps with
  | refl => exact h
  | tail hfirst hstep ih => exact ih.step (hinv.steps hfirst).toCore hstep

/-! ### Reading from the helper -/

theorem Sound.deliver (h : adapter.Sound count) (hcore : adapter.Core) (listens : Bool)
    {event : HelperConversationEvent} (hworded : event.Worded)
    (hactivated : ∀ workloadPid, event = .activated workloadPid → adapter.controlPlane = none) :
    (adapter.deliverHelperEvent listens event).Sound count := by
  have hplane : ∀ plane, adapter.controlPlane = some plane → plane.Inv := fun plane hsome => (hcore.plane plane hsome).1
  cases event with
  | activated workloadPid =>
      have hnone : adapter.told = 0 := by
        rw [told, hactivated workloadPid rfl]
        rfl
      cases listens with
      | true =>
          exact h.append (show _ = _ ++ [LifecycleEvent.activated workloadPid] from rfl)
            (List.forall_mem_singleton.mpr trivial) (le_of_eq ((Nat.zero_add _).trans hnone))
      | false =>
          exact h.append (show _ = _ ++ [LifecycleEvent.conversationLost] from rfl)
            (List.forall_mem_singleton.mpr trivial) (le_of_eq ((Nat.zero_add _).trans hnone))
  | profileChangeResult result change => exact h.handle hplane (by simp)
  | profileStateUnknown => exact h.handle hplane (by decide)
  | workloadExited result =>
      have hfinished : (adapter.handleControlEvent .workloadTerminal).finishWorkload.Sound count :=
        (h.handle hplane (by decide)).same rfl rfl
      exact hfinished.push hworded (by simp)
  | workloadSignaled signal =>
      have hfinished : (adapter.handleControlEvent .workloadTerminal).finishWorkload.Sound count :=
        (h.handle hplane (by decide)).same rfl rfl
      exact hfinished.push hworded (by simp)
  | ready => exact h.push trivial (by simp)
  | activationFailed result => exact h.push trivial (by simp)
  | cleanupSucceeded => exact h.push trivial (by simp)
  | cleanupFailed => exact h.push trivial (by simp)
  | conversationLost => exact h.push trivial (by simp)

theorem Sound.deliver_lates (listens : Bool) (events : List HelperConversationEvent) :
    ∀ {adapter : SessionAdapter}, adapter.Sound count → adapter.Core → (∀ event ∈ events, event.isLate = true) →
      (∀ event ∈ events, event.Worded) → (events.foldl (deliverHelperEvent listens) adapter).Sound count := by
  induction events with
  | nil => exact fun h _ _ _ => h
  | cons event events ih =>
      intro adapter h hcore hlate hworded
      rw [List.forall_mem_cons] at hlate hworded
      have hnot : ∀ workloadPid, event = .activated workloadPid → adapter.controlPlane = none := by
        rintro workloadPid rfl
        exact nomatch hlate.1
      exact ih (h.deliver hcore listens hworded.1 hnot) (hcore.deliver_late listens hlate.1) hlate.2 hworded.2

/-- A read keeps the queue sound: only its first event can be an activation. -/
theorem Sound.readEvents (h : adapter.Sound count) (hinv : adapter.Inv) (listens : Bool)
    {next : SupervisorHelperConversation} {events : List HelperConversationEvent}
    (hread : ReadEvents adapter.conversation next events) (hworded : ∀ event ∈ events, event.Worded) :
    (events.foldl (deliverHelperEvent listens) (adapter.withConversation next)).Sound count := by
  have hnext : (adapter.withConversation next).Sound count := h.same rfl rfl
  have hcore := hinv.toCore.withConversation next
  have hnot : ∀ {middle : SupervisorHelperConversation} {event : HelperConversationEvent},
      FirstEvent adapter.conversation middle event → ∀ workloadPid, event = .activated workloadPid →
        (adapter.withConversation next).controlPlane = none := by
    rintro middle event hfirst workloadPid rfl
    cases hfirst with
    | activated _ before after => exact (hinv.waiting before).1
    | late _ islate after settled => exact nomatch islate
  cases hread with
  | nothing state pending => exact hnext
  | one middle event first state pending =>
      exact hnext.deliver hcore listens (hworded event List.mem_cons_self) (hnot first)
  | more middle event rest first lateEvents state settled =>
      rw [List.forall_mem_cons] at hworded
      have hfirst := hnext.deliver hcore listens hworded.1 (hnot first)
      have hmiddle : ((adapter.withConversation next).deliverHelperEvent listens event).Core := by
        have hone : (([event] : List HelperConversationEvent).foldl (deliverHelperEvent listens)
            (adapter.withConversation next)).Inv :=
          hinv.deliver listens (.more middle event [] first (fun _ hmem => nomatch hmem) state settled)
        exact hone.toCore
      exact hfirst.deliver_lates listens rest hmiddle lateEvents hworded.2

theorem Sound.readHelperEvents (h : adapter.Sound count) (hinv : adapter.Inv) (listens : Bool) (read : SocketRead) :
    (adapter.readHelperEvents listens read).Sound count := by
  have hready := hinv.conversation.ready
  cases read with
  | failed => exact h.push trivial (by decide)
  | data bytes =>
      obtain ⟨hmoves, -⟩ := SupervisorHelperConversation.receiveBytes_moves hready bytes
      exact h.readEvents hinv listens (receiveBytes_events hinv.conversation bytes) hmoves.worded
  | peerClosed =>
      obtain ⟨hmoves, -⟩ := SupervisorHelperConversation.peerClosed_moves hready
      exact h.readEvents hinv listens (peerClosed_events adapter.conversation) hmoves.worded

theorem Sound.waitCycle (h : adapter.Sound count) (hinv : adapter.Inv) (input : CycleInput) :
    (adapter.waitCycle input).1.Sound count := by
  have hsends : (adapter.withSends input).Sound count := h.same rfl rfl
  have hinvSends : (adapter.withSends input).Inv := { hinv with }
  refine Sound.steps ?_ ?_ (waitCycle_steps adapter input)
  · split
    · exact hsends.readHelperEvents hinvSends input.listens input.helperRead
    · exact hsends
  · split
    · exact hinvSends.readHelperEvents input.listens input.helperRead
    · exact hinvSends

end Handle

end Sound

end SessionAdapter

/-! ### The wait -/

open ProductionLifecycleAdapter

section Wait

variable [DecimalText] {count : Nat} {adapter after : ProductionLifecycleAdapter} {mode : LifecycleWait}
  {event : LifecycleEvent} {turns : List WaitTurn}

/-- The adapter after a wait, for a lifecycle that has heard of the event. -/
structure Heard (count : Nat) (event : LifecycleEvent) (after : ProductionLifecycleAdapter) : Prop where
  worded : event.Worded
  inv : after.session.Inv
  sound : after.session.Sound (count + [event].count .profileStateUnknown)

theorem heard_waitTurn {turn : WaitTurn} (h : adapter.session.Sound count) (hinv : adapter.session.Inv)
    (hturn : adapter.waitTurn turn = (after, some event)) : Heard count event after := by
  unfold waitTurn at hturn
  split at hturn
  · obtain ⟨rfl, hevent⟩ := Prod.mk.inj hturn
    obtain rfl := Option.some.inj hevent
    exact ⟨trivial, hinv, h⟩
  · split at hturn
    · obtain ⟨rfl, hevent⟩ := Prod.mk.inj hturn
      obtain rfl := Option.some.inj hevent
      exact ⟨trivial, hinv, h⟩
    · obtain ⟨rfl, hevent⟩ := Prod.mk.inj hturn
      obtain rfl := Option.some.inj hevent
      exact ⟨trivial, hinv, h⟩
    · rename_i input _
      unfold takePendingEvent at hturn
      split at hturn
      · exact nomatch hturn
      · rename_i next events hpending
        obtain ⟨rfl, hevent⟩ := Prod.mk.inj hturn
        obtain rfl := Option.some.inj hevent
        obtain ⟨hworded, hsound⟩ := (h.waitCycle hinv input).take hpending
        exact ⟨hworded, { hinv.waitCycle input with }, hsound⟩

theorem heard_polls (hpolls : Polls adapter turns event after) (h : adapter.session.Sound count)
    (hinv : adapter.session.Inv) : Heard count event after := by
  induction hpolls with
  | last possible returns => exact heard_waitTurn h hinv returns
  | more possible continues rest ih =>
      obtain ⟨input, rfl, -⟩ := continues_waitTurn continues
      exact ih (h.waitCycle hinv input) (hinv.waitCycle input)

theorem heard_waits (hwaits : adapter.Waits mode event after) (h : adapter.session.Sound count)
    (hinv : adapter.session.Inv) : Heard count event after := by
  cases hwaits with
  | queued pending =>
      obtain ⟨hworded, hsound⟩ := h.take pending
      exact ⟨hworded, { hinv with }, hsound⟩
  | polled now pending polls =>
      have hheard : Heard count event _ := heard_polls polls h hinv
      exact ⟨hheard.worded, hheard.inv, hheard.sound⟩

end Wait

/-! ### The outcome -/

namespace LifecycleLoop

variable {current next : LifecycleLoop} {event : LifecycleEvent} {trace : LifecycleTrace}

/-- A turn that goes on counts the unknown profile states, and words the result of the Workload. -/
theorem Turn.counts (h : current.Turn event trace (.inl next)) :
    next.outcome.infrastructureFailures.count .profileState ≤
        current.outcome.infrastructureFailures.count .profileState + [event].count .profileStateUnknown ∧
      ∀ result, next.outcome.workload = some result →
        current.outcome.workload = some result ∨ result.kind = .startFailure ∨ event.workloadResult = some result := by
  have hadvance : (current.advance event).outcome.infrastructureFailures.count .profileState ≤
      current.outcome.infrastructureFailures.count .profileState + [event].count .profileStateUnknown ∧
        (current.advance event).outcome.workload = current.outcome.workload := by
    unfold advance
    dsimp only
    split
    · rename_i hunknown
      rw [hunknown]
      refine ⟨le_of_eq ?_, rfl⟩
      rw [SessionOutcome.infrastructureFailures_fail, List.count_append]
      rfl
    · exact ⟨Nat.le_add_right _ _, rfl⟩
  cases h with
  | controllerLost => exact ⟨le_rfl, fun _ => Or.inl⟩
  | late state late => exact ⟨Nat.le_add_right _ _, fun _ => Or.inl⟩
  | activated value state => exact ⟨Nat.le_add_right _ _, fun _ => Or.inl⟩
  | activationFailed value state =>
      unfold LifecycleLoop.activationFailed
      split
      · refine ⟨Nat.le_add_right _ _, fun result hresult => Or.inr (Or.inl ?_)⟩
        rw [← Option.some.inj hresult]
      · refine ⟨?_, fun _ => Or.inl⟩
        change ((current.outcome.fail .start).infrastructureFailures.count _) ≤ _
        rw [SessionOutcome.infrastructureFailures_fail, List.count_append]
        exact le_rfl
  | quiet state stops => exact ⟨hadvance.1, fun result hresult => Or.inl (hadvance.2 ▸ hresult)⟩
  | granted state stops => exact ⟨hadvance.1, fun result hresult => Or.inl (hadvance.2 ▸ hresult)⟩
  | ended state ends => exact ⟨Nat.le_add_right _ _, fun result hresult => Or.inr (Or.inr (hresult ▸ ends))⟩

/-- The failures that the last turn leaves with, where the loop handles its event. -/
theorem Turn.leaves_failures {ended : SessionOutcome} (h : current.Turn event trace (.inr ended))
    (hhandles : current.Handles event) : ∃ last, ended.infrastructureFailures =
      current.outcome.infrastructureFailures ++
        List.replicate ([event].count .profileStateUnknown) .profileState ++ last ∧
      (last = [] ∨ last = [.conversation] ∨ last = [.cleanup] ∨ last = [.stopRequest]) := by
  cases h with
  | conversationLost => exact ⟨[.conversation], by simp, Or.inr (Or.inl rfl)⟩
  | cleanupFailed => exact ⟨[.cleanup], by simp, Or.inr (Or.inr (Or.inl rfl))⟩
  | cleanupSucceeded => exact ⟨[], by simp, Or.inl rfl⟩
  | invalid unhandled => exact absurd hhandles unhandled
  | refused state stops =>
      refine ⟨[.stopRequest], ?_, Or.inr (Or.inr (Or.inr rfl))⟩
      rw [SessionOutcome.infrastructureFailures_fail, advance]
      by_cases hunknown : event = .profileStateUnknown
      · rw [if_pos hunknown, hunknown, SessionOutcome.infrastructureFailures_fail]
        rfl
      · rw [if_neg hunknown, List.count_eq_zero.mpr fun hmem => hunknown (List.mem_singleton.mp hmem).symm,
          List.replicate_zero, List.append_nil]

end LifecycleLoop

/-- A Workload that was started has failed only in its profile state, before the loop is left. -/
theorem Reached.started {events : List LifecycleEvent} {requests : List StopRequest} {current : LifecycleLoop}
    (h : Reached events requests current) (hactivated : ∃ workloadPid, .activated workloadPid ∈ events) :
    current.state ≠ .waitingForActivation ∧
      (∃ count, current.outcome.infrastructureFailures = List.replicate count .profileState) ∧
      ∀ result, current.outcome.workload = some result → result.kind ≠ .startFailure := by
  obtain ⟨workloadPid, hmem⟩ := hactivated
  cases h with
  | waiting => exact nomatch hmem
  | active => exact ⟨(fun h => nomatch h), ⟨_, rfl⟩, fun _ hresult => nomatch hresult⟩
  | failed value islate =>
      rcases List.mem_cons.mp hmem with hfirst | hlate
      · exact nomatch hfirst
      · exact nomatch islate _ hlate
  | ended active graced ends islate =>
      rename_i stopped late terminal result
      refine ⟨(fun h => nomatch h), ⟨_, rfl⟩, fun result' hresult => ?_⟩
      obtain rfl := Option.some.inj hresult
      cases terminal with
      | workloadExited value =>
          rw [← Option.some.inj ends]
          exact fun h => nomatch h
      | workloadSignaled value =>
          rw [← Option.some.inj ends]
          exact fun h => nomatch h
      | _ => exact nomatch ends

/-- No failure comes twice. -/
theorem nodup_concluded {ended : SessionOutcome} {count : Nat} {last : List InfrastructureFailure}
    (hended : ended.infrastructureFailures = List.replicate count .profileState ++ last) (hcount : count ≤ 1)
    (hlast : last = [] ∨ last = [.conversation] ∨ last = [.cleanup] ∨ last = [.stopRequest])
    (reaped finalized : Bool) : (ended.concluded reaped finalized).infrastructureFailures.Nodup := by
  have hconcluded : (ended.concluded reaped finalized).infrastructureFailures = ended.infrastructureFailures ++
      ((if reaped = true then [] else [.launcherReaping]) ++
        if finalized = true then [] else [.supervisorCleanup]) := by
    cases reaped <;> cases finalized <;> simp [SessionOutcome.concluded]
  rw [hconcluded, hended]
  interval_cases count
  · rcases hlast with rfl | rfl | rfl | rfl <;> cases reaped <;> cases finalized <;> decide
  · rcases hlast with rfl | rfl | rfl | rfl <;> cases reaped <;> cases finalized <;> decide

/-- What the lifecycle knows at the head of the loop, and what it will hear. -/
structure Owed (current : LifecycleLoop) (adapter : ProductionLifecycleAdapter) : Prop where
  inv : adapter.session.Inv
  sound : adapter.session.Sound (current.outcome.infrastructureFailures.count .profileState)
  workload : ∀ result, current.outcome.workload = some result →
    result.kind = .startFailure ∨ ControllerSessionOutcome.validWorkloadForWire (some result) = true

section Runs

variable [DecimalText] {childArguments : List Bytes} {rounds : Nat} {trace between : LifecycleTrace}
  {outcome : SessionOutcome} {current next : LifecycleLoop} {adapter after final : ProductionLifecycleAdapter}

theorem Owed.turn {event : LifecycleEvent} {rest : LifecycleTrace} (h : Owed current adapter)
    (hwaits : adapter.Waits current.waitMode event after) (hturn : current.Turn event rest (.inl next)) :
    Owed next after := by
  obtain ⟨hworded, hinv, hsound⟩ := heard_waits hwaits h.sound h.inv
  obtain ⟨hcount, hworkload⟩ := hturn.counts
  refine ⟨hinv, ⟨hsound.worded, (Nat.add_le_add_right hcount _).trans hsound.once⟩, fun result hresult => ?_⟩
  rcases hworkload result hresult with hsame | hfailed | hends
  · exact h.workload result hsame
  · exact Or.inl hfailed
  · exact Or.inr (validWorkloadForWire_of_worded hworded hends)

theorem owed_of_rounds {buffer : Bytes} (h : Rounds LifecycleLoop.round {} between current)
    (hanswers : Answers production { session := SessionAdapter.begun childArguments buffer } between adapter) :
    Owed current adapter := by
  refine Rounds.answered (P := Owed) ?_ ?_ h hanswers
  · refine ⟨SessionAdapter.inv_begun childArguments buffer, ⟨(fun _ hmem => nomatch hmem), le_rfl⟩, ?_⟩
    exact fun _ hresult => nomatch hresult
  · intro current before during next after howed hround hduring
    obtain ⟨event, rest, rfl, hturn⟩ := LifecycleLoop.run_round hround
    obtain ⟨middle, hwait, hrest⟩ := answers_cons.mp hduring
    have hnext := howed.turn hwait hturn
    obtain ⟨commands, rfl⟩ := answers_turn hturn hrest
    exact ⟨{ hnext.inv with }, hnext.sound.same rfl rfl, hnext.workload⟩

/-- The outcome of a Session that was started is one that a Controller can be told. -/
theorem deliverable_of_started (hrun : Run (runSessionLifecycle rounds) trace (some outcome))
    (hanswers : Answers production (initial childArguments) trace final)
    (hactivated : ∃ workloadPid, .activated workloadPid ∈ sessionEvents trace) :
    outcome.Deliverable ∧ ∃ before, trace = before ++ [⟨.publishOutcome outcome, ()⟩] := by
  obtain ⟨ended, reaped, finalized, rfl, ⟨rfl, -⟩ | ⟨between, current, buffer, before, event, leaving, rfl, hrounds,
    hbetween, hending⟩⟩ := answers_finished hrun hanswers
  · obtain ⟨workloadPid, hmem⟩ := hactivated
    exact nomatch hmem
  · refine ⟨?_, ⟨⟨.begin, true⟩ :: (between ++ ⟨.wait current.waitMode, event⟩ :: (leaving ++
      [⟨.reapLauncher, reaped⟩, ⟨.finalize, finalized⟩])), by simp⟩⟩
    obtain ⟨after, hwaits, -⟩ := hending.answers
    have hleaves := hending.turn.leaves
    have hreached := (history_of_rounds hrounds).reached
    have howed := owed_of_rounds hrounds hbetween
    have hhandles := handles_of_rounds hrounds hbetween hwaits
    -- the activation came before the last turn, which has no use for one
    have hstarted : ∃ workloadPid, .activated workloadPid ∈ sessionEvents between := by
      obtain ⟨workloadPid, hmem⟩ := hactivated
      have hevents : sessionEvents (⟨.begin, true⟩ :: (between ++ ⟨.wait current.waitMode, event⟩ :: (leaving ++
          [⟨.reapLauncher, reaped⟩, ⟨.finalize, finalized⟩, ⟨.publishOutcome (ended.concluded reaped finalized), ()⟩])) :
          LifecycleTrace) = sessionEvents between ++ [event] := by
        rw [← hleaves.events, ← sessionEvents_append, ← List.append_nil (sessionEvents (between ++ _))]
        change sessionEvents _ = _ ++ sessionEvents [⟨.reapLauncher, reaped⟩, ⟨.finalize, finalized⟩,
          ⟨.publishOutcome (ended.concluded reaped finalized), ()⟩]
        rw [← sessionEvents_append, List.append_assoc, List.cons_append]
        rfl
      rw [hevents] at hmem
      refine ⟨workloadPid, (List.mem_append.mp hmem).resolve_right fun hlast => ?_⟩
      obtain rfl := List.mem_singleton.mp hlast
      rcases hhandles with hhandles | ⟨hinterrupt, -⟩
      · cases hending.turn with
        | invalid unhandled => exact unhandled hhandles
        | refused state stops => exact nomatch stops
      · exact nomatch hinterrupt
    obtain ⟨hstate, ⟨count, hfailures⟩, hkind⟩ := hreached.started hstarted
    obtain ⟨last, hended, hlast⟩ := hending.turn.leaves_failures (hhandles.resolve_right fun h => hstate h.2)
    have hheard := heard_waits hwaits howed.sound howed.inv
    rw [hfailures, ← List.replicate_add] at hended
    have hcount : count + [event].count .profileStateUnknown ≤ 1 := by
      have honce := hheard.sound.once
      rw [hfailures, List.count_replicate_self] at honce
      exact (Nat.le_add_right _ _).trans (honce.trans (SessionAdapter.told_le_one _))
    refine ⟨?_, ?_, nodup_concluded hended hcount hlast reaped finalized⟩
    · rw [workload_concluded, hleaves.workload]
      cases hworkload : current.outcome.workload with
      | none => rfl
      | some result => exact (howed.workload result hworkload).resolve_left (hkind result hworkload)
    · intro hsucceeded
      obtain ⟨-, hcleanup, hclean⟩ := hleaves.succeeded.mp (infrastructureSucceeded_concluded.mp hsucceeded).1
      obtain ⟨result, hresult⟩ := hreached.workload_isSome hcleanup hclean
      rw [workload_concluded, hleaves.workload, hresult]
      exact Option.some_ne_none result

/-- What is published for a Session that was started can be written, and is read back as it was. -/
theorem runSessionLifecycle_delivers (hrun : Run (runSessionLifecycle rounds) trace (some outcome))
    (hanswers : Answers production (initial childArguments) trace final)
    (hactivated : ∃ workloadPid, .activated workloadPid ∈ sessionEvents trace) :
    (∃ before, trace = before ++ [⟨.publishOutcome outcome, ()⟩]) ∧ outcome.infrastructureFailures.Nodup ∧
      ControllerSessionOutcome.validWorkloadForWire outcome.workload = true ∧
      ∃ block, serializeControllerSessionOutcome outcome = .ok block ∧
        block.length ≤ maximumControllerSessionOutcomeSize ∧
        ∀ reads last, last ≠ [] → reads.flatten ++ last = block →
          ControllerSessionOutcomeParser.receiveAll {} (reads ++ [last]) =
            List.replicate reads.length .incomplete ++ [.outcome outcome] := by
  obtain ⟨hdeliverable, hpublished⟩ := deliverable_of_started hrun hanswers hactivated
  refine ⟨hpublished, hdeliverable.once, hdeliverable.workload, _,
    serializeControllerSessionOutcome_eq_ok_iff.mpr ⟨hdeliverable, rfl⟩,
    ControllerSessionOutcome.length_block_le hdeliverable, ?_⟩
  intro reads last hlast hblock
  exact receiveAll_block hdeliverable hlast hblock

end Runs

section Sample

attribute [local instance] bitPatternText

/-- A Workload exits, and the cleanup after it fails. -/
def failedCleanupOutcome : SessionOutcome := ⟨some ⟨.exited, 3⟩, [.cleanup]⟩

def failedCleanupTrace : LifecycleTrace := [⟨.begin, true⟩, ⟨.wait .indefinitely, .activated 7⟩,
  ⟨.wait .indefinitely, .workloadExited 3⟩, ⟨.wait .indefinitely, .cleanupFailed⟩, ⟨.reapLauncher, true⟩,
  ⟨.finalize, true⟩, ⟨.publishOutcome failedCleanupOutcome, ()⟩]

def exitTurn : CycleInput where
  helper := { pollin := true }
  helperRead := .data (ascii "WORKLOAD_EXITED 3\nCLEANUP_FAILED\n")

theorem runSessionLifecycle_delivers_failedCleanup : ∃ final block,
    Run (runSessionLifecycle 3) failedCleanupTrace (some failedCleanupOutcome) ∧
      Answers production (initial [ascii "sleep"]) failedCleanupTrace final ∧
      .activated 7 ∈ sessionEvents failedCleanupTrace ∧
      serializeControllerSessionOutcome failedCleanupOutcome = .ok block ∧
      ControllerSessionOutcomeParser.receiveAll {} [block] = [.outcome failedCleanupOutcome] := by
  have hrun : Run (runSessionLifecycle 3) failedCleanupTrace (some failedCleanupOutcome) := run_of_follow (by decide)
  let begun : ProductionLifecycleAdapter := { session := SessionAdapter.begun [ascii "sleep"] [] }
  have hbegin : production (initial [ascii "sleep"]) .begin true begun :=
    ⟨[.data (ascii "READY\n")], true, true, by decide⟩
  obtain ⟨-, active, hstart, -, -, -, hactive⟩ :=
    waits_ready begun SessionAdapter.activationTurn (.activated 7) [] rfl (by decide)
  change active.session = SessionAdapter.activeSession at hactive
  obtain ⟨-, ended, hend, -, -, -, hended⟩ := waits_ready active exitTurn (.workloadExited 3) [.cleanupFailed]
    (by rw [hactive]; rfl) (by rw [hactive]; decide)
  have hcleanup : ended.Waits .indefinitely .cleanupFailed _ := .queued (by rw [hended])
  have hanswers : Answers production (initial [ascii "sleep"]) failedCleanupTrace _ :=
    .cons hbegin (.cons hstart (.cons hend (.cons hcleanup (.cons rfl (.cons rfl (.cons ⟨true, rfl⟩ (.nil _)))))))
  have hstarted : LifecycleEvent.activated 7 ∈ sessionEvents failedCleanupTrace := List.mem_cons_self
  obtain ⟨-, -, -, block, hblock, hbound, hreads⟩ := runSessionLifecycle_delivers hrun hanswers ⟨7, hstarted⟩
  refine ⟨_, block, hrun, hanswers, hstarted, hblock, hreads [] block ?_ rfl⟩
  rintro rfl
  exact nomatch congrArg (Except.toOption) hblock

end Sample

end NetLagLab
