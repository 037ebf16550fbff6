import NetLagLab.EventQueue
import NetLagLab.StopEscalation

/-! The lifecycle and its real adapter together. Every event that a wait returns is for the state that the
lifecycle is in, but an interrupt before the activation. -/

namespace NetLagLab

open ByteLines CallPrograms CallPrograms.Program ProductionLifecycleAdapter

/-! ### Begin -/

namespace SupervisorHelperConversation

variable {conversation : SupervisorHelperConversation}

/-- Where the helper has said nothing or `READY` alone, no other line has come. -/
theorem receiveLines_ready (lines : List Bytes) (hstate : conversation.state = .waitingForReady)
    (hpending : conversation.pendingProfileChange = none) :
    ((conversation.receiveLines lines).2 = [] → (conversation.receiveLines lines).1 = conversation) ∧
      ((conversation.receiveLines lines).2 = [.ready] →
        (conversation.receiveLines lines).1 = { conversation with state := .waitingForActivation }) := by
  cases lines with
  | nil => exact ⟨fun _ => rfl, fun h => by cases h⟩
  | cons line lines =>
      have hline : conversation.receiveLine line =
          ({ conversation with state := .waitingForActivation }, .ready) ∨
            conversation.receiveLine line = (lost, .conversationLost) := by
        unfold receiveLine
        rw [receiveReply_none hpending, hstate]
        dsimp only
        split
        · exact Or.inr rfl
        · split
          · exact Or.inl rfl
          · exact Or.inr rfl
      unfold receiveLines
      dsimp only
      split
      · exact ⟨(fun h => by cases h), fun h => by cases h⟩
      · rcases hline with hready | hlost
        · rw [hready]
          refine ⟨(fun h => by cases h), fun h => ?_⟩
          cases lines with
          | nil => rfl
          | cons next lines =>
              rw [if_neg (by simp)] at h
              have hnone := (List.cons.inj h).2
              unfold receiveLines at hnone
              dsimp only at hnone
              split at hnone
              · cases hnone
              · split at hnone <;> cases hnone
        · rw [hlost]
          exact ⟨(fun h => by cases h), fun h => by cases h⟩

/-- A read before `READY` leaves the conversation waiting for it, brings it alone, or loses. -/
theorem receiveBytes_ready (hstate : conversation.state = .waitingForReady)
    (hpending : conversation.pendingProfileChange = none) (bytes : Bytes) :
    ((conversation.receiveBytes bytes).2 = [] → (conversation.receiveBytes bytes).1.state = .waitingForReady ∧
        (conversation.receiveBytes bytes).1.pendingProfileChange = none) ∧
      ((conversation.receiveBytes bytes).2 = [.ready] → ∃ buffer, newline ∉ buffer ∧
        (conversation.receiveBytes bytes).1 = { buffer := buffer, state := .waitingForActivation }) := by
  obtain ⟨hnothing, hready⟩ := receiveLines_ready (splitLines (conversation.buffer ++ bytes)).1 hstate hpending
  unfold receiveBytes
  rw [if_neg (by rw [hstate]; decide)]
  dsimp only
  split
  · rename_i hfailed
    refine ⟨fun h => ?_, fun h => ?_⟩
    · rw [hnothing h, hstate] at hfailed
      exact nomatch hfailed
    · rw [hready h] at hfailed
      exact nomatch hfailed
  · split
    · refine ⟨fun h => absurd h (by simp), fun h => ?_⟩
      have hlast := congrArg List.getLast? h
      rw [List.getLast?_concat] at hlast
      exact nomatch hlast
    · refine ⟨fun h => ?_, fun h =>
        ⟨(splitLines (conversation.buffer ++ bytes)).2, notMem_splitAtMark_snd _, ?_⟩⟩
      · rw [hnothing h]
        exact ⟨hstate, hpending⟩
      · rw [hready h, hpending]

end SupervisorHelperConversation

theorem awaitReady_begun {reads : List SocketRead} {conversation next : SupervisorHelperConversation}
    (hstate : conversation.state = .waitingForReady) (hpending : conversation.pendingProfileChange = none)
    (h : awaitReady conversation reads = some (true, next)) :
    ∃ buffer, newline ∉ buffer ∧ next = { buffer := buffer, state := .waitingForActivation } := by
  induction reads generalizing conversation with
  | nil => exact nomatch h
  | cons read reads ih =>
      unfold awaitReady at h
      cases read with
      | failed => exact nomatch h
      | peerClosed =>
          have hlost : receive conversation .peerClosed = some (.lost, [.conversationLost]) := by
            rw [receive, SupervisorHelperConversation.peerClosed, hstate]
            rfl
          rw [hlost] at h
          exact nomatch h
      | data bytes =>
          obtain ⟨hnothing, hready⟩ := SupervisorHelperConversation.receiveBytes_ready hstate hpending bytes
          rw [show receive conversation (.data bytes) = some (conversation.receiveBytes bytes) from rfl] at h
          generalize conversation.receiveBytes bytes = received at h hnothing hready
          obtain ⟨after, events⟩ := received
          cases events with
          | nil =>
              obtain ⟨hstill, hnone⟩ := hnothing rfl
              exact ih hstill hnone h
          | cons event events =>
              obtain ⟨hevents, rfl⟩ := Prod.mk.inj (Option.some.inj h)
              exact hready (of_decide_eq_true hevents)

/-- A Session that has begun. -/
theorem begin_begun [DecimalText] {childArguments : List Bytes} {after : ProductionLifecycleAdapter}
    (h : production (initial childArguments) .begin true after) :
    ∃ buffer, newline ∉ buffer ∧ after = { session := SessionAdapter.begun childArguments buffer } := by
  obtain ⟨reads, transfers, starts, hbegin⟩ := h
  obtain ⟨⟨ready, conversation⟩, hready, hafter⟩ := Option.map_eq_some_iff.mp hbegin
  obtain ⟨hsucceeded, rfl⟩ := Prod.mk.inj hafter
  rw [Bool.and_eq_true, Bool.and_eq_true] at hsucceeded
  obtain ⟨⟨rfl, -⟩, -⟩ := hsucceeded
  obtain ⟨buffer, hbuffer, rfl⟩ := awaitReady_begun rfl rfl hready
  exact ⟨buffer, hbuffer, rfl⟩

/-! ### Wait -/

theorem coherent_take {state : LifecycleState} {event : LifecycleEvent} {session : SessionAdapter} {events : List LifecycleEvent}
    (h : session.Coherent (some state)) (hpending : session.pendingEvents = event :: events) :
    state.Expects event ∧ ({ session with pendingEvents := events } : SessionAdapter).Coherent (state.after event) := by
  obtain ⟨last, hqueued, hlast⟩ := h.tracks.queue
  rw [hpending] at hqueued
  exact ⟨hqueued.1, h.ready, ⟨last, hqueued.2, hlast⟩, h.tracks.fits.congr ⟨rfl, rfl, rfl, rfl⟩⟩

section Wait

variable [DecimalText] {state : LifecycleState} {adapter after : ProductionLifecycleAdapter} {mode : LifecycleWait}
  {event : LifecycleEvent} {turns : List WaitTurn}

/-- The event that a wait returns is one that the state expects, or a deadline. -/
structure Delivered (state : LifecycleState) (deadline : Bool) (event : LifecycleEvent)
    (after : ProductionLifecycleAdapter) : Prop where
  expected : state.Expects event ∨ event = .deadlineExpired ∧ deadline = true
  coherent : after.session.Coherent (state.after event)

theorem delivered_waitTurn {turn : WaitTurn} (h : adapter.session.Coherent (some state))
    (hpossible : Possible adapter.deadline turn) (hturn : adapter.waitTurn turn = (after, some event)) :
    Delivered state adapter.deadline.isSome event after := by
  have hexpired : adapter.deadline.isSome = true →
      Delivered state adapter.deadline.isSome .deadlineExpired (adapter.withDeadline none) := fun hsome =>
    ⟨Or.inr ⟨rfl, hsome⟩, by cases state <;> exact h⟩
  unfold waitTurn at hturn
  split at hturn
  · rename_i hpassed
    obtain ⟨rfl, hevent⟩ := Prod.mk.inj hturn
    obtain rfl := Option.some.inj hevent
    apply hexpired
    obtain ⟨milliseconds, hsome, -⟩ := (Option.any_eq_true _ _).mp hpassed
    obtain ⟨deadline, hdeadline, -⟩ := Option.map_eq_some_iff.mp hsome
    exact hdeadline ▸ rfl
  · split at hturn
    · rename_i hresult
      obtain ⟨rfl, hevent⟩ := Prod.mk.inj hturn
      obtain rfl := Option.some.inj hevent
      apply hexpired
      obtain ⟨milliseconds, hsome, -⟩ := hpossible hresult
      obtain ⟨deadline, hdeadline, -⟩ := Option.map_eq_some_iff.mp hsome
      exact hdeadline ▸ rfl
    · obtain ⟨rfl, hevent⟩ := Prod.mk.inj hturn
      obtain rfl := Option.some.inj hevent
      exact ⟨Or.inl trivial, h.ready, ⟨none, queued_none.mpr rfl, Or.inl rfl⟩, h.tracks.fits⟩
    · rename_i input _
      have hcycle := h.waitCycle input
      unfold takePendingEvent at hturn
      split at hturn
      · exact nomatch hturn
      · rename_i next events hpending
        obtain ⟨rfl, hevent⟩ := Prod.mk.inj hturn
        obtain rfl := Option.some.inj hevent
        obtain ⟨hexpects, hcoherent⟩ := coherent_take hcycle hpending
        exact ⟨Or.inl hexpects, hcoherent⟩

/-- An iteration that goes on has neither changed the deadline nor left an event behind. -/
theorem continues_waitTurn {turn : WaitTurn} {middle : ProductionLifecycleAdapter}
    (hturn : adapter.waitTurn turn = (middle, none)) :
    ∃ input, middle = adapter.withSession (adapter.session.waitCycle input).1 ∧ middle.session.pendingEvents = [] := by
  unfold waitTurn at hturn
  split at hturn
  · exact nomatch hturn
  · split at hturn
    · exact nomatch hturn
    · exact nomatch hturn
    · rename_i input _
      unfold takePendingEvent at hturn
      split at hturn
      · rename_i hpending
        obtain ⟨rfl, -⟩ := Prod.mk.inj hturn
        exact ⟨input, rfl, hpending⟩
      · exact nomatch hturn

theorem delivered_polls (hpolls : Polls adapter turns event after) (h : adapter.session.Coherent (some state)) :
    Delivered state adapter.deadline.isSome event after := by
  induction hpolls with
  | last possible returns => exact delivered_waitTurn h possible returns
  | more possible continues rest ih =>
      obtain ⟨input, rfl, -⟩ := continues_waitTurn continues
      exact ih (h.waitCycle input)

/-- A deadline expires in a wait of five seconds only. -/
theorem delivered_waits (hwaits : adapter.Waits mode event after) (h : adapter.session.Coherent (some state)) :
    Delivered state (decide (mode = .fiveSeconds)) event after := by
  cases hwaits with
  | queued pending =>
      obtain ⟨hexpects, hcoherent⟩ := coherent_take h pending
      exact ⟨Or.inl hexpects, hcoherent⟩
  | polled now pending polls =>
      have hdelivered := delivered_polls polls (show (adapter.enterWait mode now).session.Coherent _ from h)
      have hdeadline : (adapter.enterWait mode now).deadline.isSome = decide (mode = .fiveSeconds) := by
        cases mode <;> rfl
      rw [hdeadline] at hdelivered
      exact ⟨hdelivered.expected, hdelivered.coherent⟩

omit [DecimalText] in
theorem takePendingEvent_cons {events : List LifecycleEvent} (h : adapter.session.pendingEvents = event :: events) :
    adapter.takePendingEvent = (adapter.withSession { adapter.session with pendingEvents := events }, some event) := by
  unfold takePendingEvent
  rw [h]

/-- A wait whose first poll brings events. -/
theorem waits_ready (adapter : ProductionLifecycleAdapter) (input : CycleInput) (event : LifecycleEvent)
    (events : List LifecycleEvent) (hpending : adapter.session.pendingEvents = [])
    (hcycle : (adapter.session.waitCycle input).1.pendingEvents = event :: events) :
    ∃ wait after, adapter.Waits .indefinitely event after ∧ wait.event = event ∧
      after.waits = adapter.waits ++ [wait] ∧ after.deadline = none ∧
      after.session = { (adapter.session.waitCycle input).1 with pendingEvents := events } := by
  have hturn : (adapter.enterWait .indefinitely 0).waitTurn ⟨0, .ready input, 0⟩ =
      ((adapter.enterWait .indefinitely 0).withSession
        { (adapter.session.waitCycle input).1 with pendingEvents := events }, some event) :=
    takePendingEvent_cons hcycle
  have hpossible : Possible (adapter.enterWait .indefinitely 0).deadline ⟨0, .ready input, 0⟩ :=
    fun hresult => nomatch hresult
  exact ⟨_, _, .polled 0 hpending (.last hpossible hturn), rfl, rfl, rfl, rfl⟩

end Wait

/-! ### The loop -/

namespace LifecycleLoop

variable {current next : LifecycleLoop} {event : LifecycleEvent} {trace : LifecycleTrace}

/-- A turn that stays in the loop goes to the state after its event. -/
theorem Turn.after (h : current.Turn event trace (.inl next)) : current.state.after event = some next.state := by
  have hstops : ∀ event : LifecycleEvent, event.isStopEvent = true →
      LifecycleState.active.after event = some .active := by
    intro event hstop
    rcases LifecycleEvent.isStopEvent_iff.mp hstop with rfl | rfl | rfl | rfl <;> rfl
  cases h with
  | controllerLost => cases current.state <;> rfl
  | late state late =>
      rw [state]
      rcases LifecycleEvent.isLate_iff.mp late with rfl | rfl <;> rfl
  | activated value state =>
      rw [state]
      rfl
  | activationFailed value state =>
      rw [state, LifecycleLoop.activationFailed]
      split <;> rfl
  | quiet state stops =>
      rw [advance, state]
      exact hstops event stops
  | granted state stops =>
      rw [advance, state]
      exact hstops event stops
  | ended state ends =>
      rw [state]
      cases event <;> first | rfl | cases ends

/-- An invalid event is recorded for an event that the loop does not handle. -/
theorem Turn.not_handles {ended : SessionOutcome} (h : current.Turn event trace (.inr ended))
    (hbefore : .invalidEvent ∉ current.outcome.infrastructureFailures)
    (hended : .invalidEvent ∈ ended.infrastructureFailures) : ¬ current.Handles event := by
  have hother : ∀ {outcome : SessionOutcome} {failure : InfrastructureFailure}, failure ≠ .invalidEvent →
      .invalidEvent ∉ outcome.infrastructureFailures →
      .invalidEvent ∉ (outcome.fail failure).infrastructureFailures := by
    intro outcome failure hne hnot hmem
    rcases List.mem_append.mp hmem with hmem | hmem
    · exact hnot hmem
    · exact hne (List.mem_singleton.mp hmem).symm
  cases h with
  | conversationLost => exact absurd hended (hother (by decide) hbefore)
  | cleanupFailed => exact absurd hended (hother (by decide) hbefore)
  | refused =>
      refine absurd hended (hother (by decide) ?_)
      unfold advance
      dsimp only
      split
      · exact hother (by decide) hbefore
      · exact hbefore
  | cleanupSucceeded => exact absurd hended hbefore
  | invalid unhandled => exact unhandled

/-- What is expected is handled, but for an interrupt before the activation. -/
theorem handles_of_expects (h : current.state.Expects event) :
    current.Handles event ∨ event = .terminalInterrupt ∧ current.state = .waitingForActivation := by
  cases event with
  | terminalInterrupt =>
      by_cases hstate : current.state = .waitingForActivation
      · exact Or.inr ⟨rfl, hstate⟩
      · exact Or.inl hstate
  | deadlineExpired => exact h.elim
  | _ => exact Or.inl h

end LifecycleLoop

theorem Reached.not_invalidEvent {events : List LifecycleEvent} {requests : List StopRequest} {current : LifecycleLoop}
    (h : Reached events requests current) : .invalidEvent ∉ current.outcome.infrastructureFailures := by
  have hactive : ∀ events, .invalidEvent ∉ (activeLoop events).outcome.infrastructureFailures := fun events hmem =>
    nomatch List.eq_of_mem_replicate hmem
  cases h with
  | waiting => exact List.not_mem_nil
  | active => exact hactive events
  | failed value islate =>
      unfold LifecycleLoop.activationFailed
      split
      · exact List.not_mem_nil
      · exact fun hmem => nomatch List.mem_singleton.mp hmem
  | ended => exact hactive _

section Runs

variable [DecimalText] {childArguments : List Bytes} {rounds : Nat} {trace between : LifecycleTrace}
  {result : Option SessionOutcome} {current : LifecycleLoop} {begun adapter final : ProductionLifecycleAdapter}

/-- The calls of a turn after its wait change only which commands were sent. -/
theorem answers_turn {event : LifecycleEvent} {next : LifecycleLoop ⊕ SessionOutcome}
    (hturn : current.Turn event between next) (hanswers : Answers production adapter between final) :
    ∃ commands, final = adapter.withSession { adapter.session with commands := commands } := by
  rcases hturn.calls with rfl | ⟨request, succeeded, rfl, -⟩
  · exact ⟨adapter.session.commands, answers_nil.mp hanswers⟩
  · obtain ⟨middle, hstop, hnil⟩ := answers_cons.mp hanswers
    obtain rfl := answers_nil.mp hnil
    obtain rfl : final = adapter.requestStop request succeeded := hstop
    unfold requestStop
    split
    · exact ⟨_, rfl⟩
    · exact ⟨adapter.session.commands, rfl⟩

/-- At the head of the loop the queue is in order for its state. -/
theorem coherent_of_rounds {buffer : Bytes} (h : Rounds LifecycleLoop.round {} between current)
    (hanswers : Answers production { session := SessionAdapter.begun childArguments buffer } between adapter) :
    adapter.session.Coherent (some current.state) := by
  refine Rounds.answered (P := fun current adapter => adapter.session.Coherent (some current.state)) ?_ ?_ h hanswers
  · exact ⟨(fun h => nomatch h), ⟨_, queued_nil.mpr rfl, Or.inr rfl⟩, rfl, rfl, rfl, rfl⟩
  · intro current before during next after hcoherent hround hduring
    obtain ⟨event, rest, rfl, hturn⟩ := LifecycleLoop.run_round hround
    obtain ⟨middle, hwait, hrest⟩ := answers_cons.mp hduring
    have hdelivered := delivered_waits hwait hcoherent
    obtain ⟨commands, rfl⟩ := answers_turn hturn hrest
    have hmiddle := hdelivered.coherent
    rw [hturn.after] at hmiddle
    exact hmiddle.congr rfl rfl ⟨rfl, rfl, rfl, rfl⟩

/-- Where a wait stands in a run with the real adapter. -/
theorem answers_wait {first rest : LifecycleTrace} {mode : LifecycleWait} {event : LifecycleEvent}
    (hrun : Run (runSessionLifecycle rounds) (first ++ ⟨.wait mode, event⟩ :: rest) result)
    (hanswers : Answers production (initial childArguments) (first ++ ⟨.wait mode, event⟩ :: rest) final) :
    ∃ between current buffer before after behind more next, first = ⟨.begin, true⟩ :: between ∧
      rest = behind ++ more ∧ Rounds LifecycleLoop.round {} between current ∧ mode = current.waitMode ∧
      current.Turn event behind next ∧
      Answers production { session := SessionAdapter.begun childArguments buffer } between before ∧
      before.Waits mode event after := by
  obtain ⟨between, behind, more, current, next, rfl, rfl, hrounds, hmode, hturn⟩ := run_wait hrun
  obtain ⟨begun, hbegin, hrest⟩ := answers_cons.mp hanswers
  obtain ⟨buffer, -, rfl⟩ := begin_begun hbegin
  obtain ⟨before, hbetween, hwait⟩ := answers_append.mp hrest
  obtain ⟨after, hwaits, -⟩ := answers_cons.mp hwait
  exact ⟨between, current, buffer, before, after, behind, more, next, rfl, rfl, hrounds, hmode, hturn, hbetween,
    hwaits⟩

/-- A run with the real adapter that goes on is at the head of the loop. -/
theorem answers_unfinished (hrun : Run (runSessionLifecycle rounds) trace none)
    (hanswers : Answers production (initial childArguments) trace final) :
    ∃ between current buffer, trace = ⟨.begin, true⟩ :: between ∧ Rounds LifecycleLoop.round {} between current ∧
      Answers production { session := SessionAdapter.begun childArguments buffer } between final := by
  obtain ⟨between, current, rfl, hrounds⟩ := run_unfinished hrun
  obtain ⟨begun, hbegin, hbetween⟩ := answers_cons.mp hanswers
  obtain ⟨buffer, -, rfl⟩ := begin_begun hbegin
  exact ⟨between, current, buffer, rfl, hrounds, hbetween⟩

/-- The last turn of a run with the real adapter, and its end. -/
structure Ending (current : LifecycleLoop) (before : ProductionLifecycleAdapter) (ended : SessionOutcome)
    (event : LifecycleEvent) (leaving conclusion : LifecycleTrace) (final : ProductionLifecycleAdapter) : Prop where
  turn : current.Turn event leaving (.inr ended)
  answers : ∃ after, before.Waits current.waitMode event after ∧
    Answers production after (leaving ++ conclusion) final

/-- A run with the real adapter that has ended failed to begin or left the loop by a last turn. -/
theorem answers_finished {outcome : SessionOutcome} (hrun : Run (runSessionLifecycle rounds) trace (some outcome))
    (hanswers : Answers production (initial childArguments) trace final) :
    ∃ ended reaped finalized, outcome = ended.concluded reaped finalized ∧
      ((trace = [⟨.begin, false⟩, ⟨.reapLauncher, reaped⟩, ⟨.finalize, finalized⟩, ⟨.publishOutcome outcome, ()⟩] ∧
          ended = SessionOutcome.fail {} .start) ∨
        ∃ between current buffer before event leaving, trace =
            ⟨.begin, true⟩ :: (between ++ ⟨.wait current.waitMode, event⟩ :: (leaving ++
              [⟨.reapLauncher, reaped⟩, ⟨.finalize, finalized⟩, ⟨.publishOutcome outcome, ()⟩])) ∧
          Rounds LifecycleLoop.round {} between current ∧
          Answers production { session := SessionAdapter.begun childArguments buffer } between before ∧
          Ending current before ended event leaving
            [⟨.reapLauncher, reaped⟩, ⟨.finalize, finalized⟩, ⟨.publishOutcome outcome, ()⟩] final) := by
  obtain ⟨ended, conclusion, hconclusion, hloop⟩ := run_runSessionLifecycle hrun
  obtain ⟨reaped, finalized, rfl, rfl⟩ := run_concludeSession hconclusion
  refine ⟨ended, reaped, finalized, rfl, ?_⟩
  rcases hloop with ⟨rfl, rfl⟩ | ⟨between, current, event, leaving, rfl, hrounds, hturn⟩
  · exact Or.inl ⟨rfl, rfl⟩
  · rw [List.append_assoc, List.cons_append] at hanswers ⊢
    obtain ⟨begun, hbegin, hrest⟩ := answers_cons.mp hanswers
    obtain ⟨buffer, -, rfl⟩ := begin_begun hbegin
    obtain ⟨before, hbetween, hwait⟩ := answers_append.mp hrest
    obtain ⟨after, hwaits, hend⟩ := answers_cons.mp hwait
    exact Or.inr ⟨between, current, buffer, before, event, leaving, rfl, hrounds, hbetween, hturn, after, hwaits, hend⟩

/-- A wait at the head of the loop returns what the loop handles, or an interrupt before the activation. -/
theorem handles_of_rounds {buffer : Bytes} {event : LifecycleEvent} {after : ProductionLifecycleAdapter}
    (hrounds : Rounds LifecycleLoop.round {} between current)
    (hanswers : Answers production { session := SessionAdapter.begun childArguments buffer } between adapter)
    (hwait : adapter.Waits current.waitMode event after) :
    current.Handles event ∨ event = .terminalInterrupt ∧ current.state = .waitingForActivation := by
  rcases (delivered_waits hwait (coherent_of_rounds hrounds hanswers)).expected with hexpects | ⟨rfl, hmode⟩
  · exact LifecycleLoop.handles_of_expects hexpects
  · -- a wait of five seconds belongs to a grace period
    have hreached := (history_of_rounds hrounds).reached
    obtain ⟨hactive, -⟩ := hreached.waitMode_iff.mp (of_decide_eq_true hmode)
    refine Or.inl ⟨hreached.state_of_whileActive hactive, ?_⟩
    by_contra hgrace
    rw [LifecycleLoop.waitMode, if_neg hgrace] at hmode
    exact absurd hmode (by decide)

/-- The adapter never confuses the lifecycle: an invalid event is recorded only where an interrupt came before
the activation, and every other event that a wait returns is for the state the lifecycle is in. -/
theorem runSessionLifecycle_production (hrun : Run (runSessionLifecycle rounds) trace result)
    (hanswers : Answers production (initial childArguments) trace final) :
    (∀ outcome, result = some outcome → .invalidEvent ∈ outcome.infrastructureFailures →
        ∃ first mode rest, trace = first ++ ⟨.wait mode, .terminalInterrupt⟩ :: rest ∧
          ∀ workloadPid, .activated workloadPid ∉ sessionEvents first) ∧
      ∀ first mode event rest, trace = first ++ ⟨.wait mode, event⟩ :: rest →
        ∃ before current, first = ⟨.begin, true⟩ :: before ∧ Rounds LifecycleLoop.round {} before current ∧
          (current.Handles event ∨ event = .terminalInterrupt ∧ current.state = .waitingForActivation) := by
  constructor
  · rintro outcome rfl hinvalid
    obtain ⟨ended, reaped, finalized, rfl, hloop⟩ := answers_finished hrun hanswers
    have hended : .invalidEvent ∈ ended.infrastructureFailures := by
      cases reaped <;> cases finalized <;> simpa [SessionOutcome.concluded] using hinvalid
    rcases hloop with ⟨-, rfl⟩ | ⟨between, current, buffer, before, event, leaving, rfl, hrounds, hbetween, hending⟩
    · cases List.mem_singleton.mp hended
    · have hreached := (history_of_rounds hrounds).reached
      have hunhandled := hending.turn.not_handles hreached.not_invalidEvent hended
      obtain ⟨after, hwaits, -⟩ := hending.answers
      rcases handles_of_rounds hrounds hbetween hwaits with hhandles | ⟨rfl, hwaiting⟩
      · exact absurd hhandles hunhandled
      · obtain ⟨hnothing, -, -⟩ := hreached.state_eq.1 hwaiting
        refine ⟨⟨.begin, true⟩ :: between, current.waitMode, _, rfl, fun workloadPid hmem => ?_⟩
        rw [show sessionEvents (⟨.begin, true⟩ :: between) = sessionEvents between from rfl, hnothing] at hmem
        cases hmem
  · rintro first mode event rest rfl
    obtain ⟨between, current, buffer, before, after, behind, more, next, rfl, -, hrounds, rfl, -, hbetween, hwait⟩ :=
      answers_wait hrun hanswers
    exact ⟨between, current, rfl, hrounds, handles_of_rounds hrounds hbetween hwait⟩

end Runs

section Sample

attribute [local instance] bitPatternText

/-- An interrupt that comes between `READY` and the activation. -/
theorem runSessionLifecycle_production_interrupted : ∃ trace outcome final,
    Run (runSessionLifecycle 1) trace (some outcome) ∧ Answers production (initial [ascii "sleep"]) trace final ∧
      .invalidEvent ∈ outcome.infrastructureFailures ∧
      ∃ first mode rest, trace = first ++ ⟨.wait mode, .terminalInterrupt⟩ :: rest ∧
        ∀ workloadPid, .activated workloadPid ∉ sessionEvents first := by
  let outcome : SessionOutcome := ⟨none, [.invalidEvent]⟩
  let trace : LifecycleTrace := [⟨.begin, true⟩, ⟨.wait .indefinitely, .terminalInterrupt⟩, ⟨.reapLauncher, true⟩,
    ⟨.finalize, true⟩, ⟨.publishOutcome outcome, ()⟩]
  have hrun : Run (runSessionLifecycle 1) trace (some outcome) := run_of_follow (by decide)
  let interrupt : WaitTurn := ⟨0, .ready { signal := { pollin := true }, interrupts := 1 }, 0⟩
  let begun : ProductionLifecycleAdapter := { session := SessionAdapter.begun [ascii "sleep"] [] }
  have hbegin : production (initial [ascii "sleep"]) .begin true begun :=
    ⟨[.data (ascii "READY\n")], true, true, by decide⟩
  have hpolls : Polls (begun.enterWait .indefinitely 0) [interrupt] .terminalInterrupt begun :=
    .last (fun h => nomatch h) (by decide)
  have hwait : begun.Waits .indefinitely .terminalInterrupt _ := .polled 0 rfl hpolls
  have hanswers : Answers production (initial [ascii "sleep"]) trace _ :=
    .cons hbegin (.cons hwait (.cons rfl (.cons rfl (.cons ⟨true, rfl⟩ (.nil _)))))
  exact ⟨trace, outcome, _, hrun, hanswers, List.mem_singleton.mpr rfl,
    (runSessionLifecycle_production hrun hanswers).1 outcome rfl (List.mem_singleton.mpr rfl)⟩

end Sample

end NetLagLab
