import NetLagLab.StopPolicy

/-! What the lifecycle knows of its Session: at the head of the loop, its variables are those of the events
that were waited for, and every stop it asked for is one of the policy. -/

namespace NetLagLab

open CallPrograms CallPrograms.Program

/-! ### Traces -/

abbrev LifecycleTrace := List (Event LifecycleCall LifecycleAnswer)

/-- The event that a call waited for. -/
def waitedEvent : Event LifecycleCall LifecycleAnswer → Option LifecycleEvent
  | ⟨.wait _, event⟩ => some event
  | _ => none

/-- The stop that a call asked for. -/
def requestedStop : Event LifecycleCall LifecycleAnswer → Option StopRequest
  | ⟨.requestStop request, _⟩ => some request
  | _ => none

/-- A call that can fail did not. -/
def Granted : Event LifecycleCall LifecycleAnswer → Prop
  | ⟨.begin, succeeded⟩ => succeeded = true
  | ⟨.requestStop _, succeeded⟩ => succeeded = true
  | ⟨.reapLauncher, succeeded⟩ => succeeded = true
  | ⟨.finalize, succeeded⟩ => succeeded = true
  | _ => True

/-- The calls inside the loop. -/
def InLoop : Event LifecycleCall LifecycleAnswer → Prop
  | ⟨.wait _, _⟩ => True
  | ⟨.requestStop _, _⟩ => True
  | _ => False

def stopRequests (trace : LifecycleTrace) : List StopRequest := trace.filterMap requestedStop

/-- The events of a trace but the losses of Controllers. -/
def sessionEvents (trace : LifecycleTrace) : List LifecycleEvent :=
  (trace.filterMap waitedEvent).filter fun event => event ≠ .controllerLost

section Traces

variable {first rest : LifecycleTrace} {mode : LifecycleWait} {event : LifecycleEvent} {request : StopRequest}
  {succeeded : Bool}

@[simp] theorem stopRequests_nil : stopRequests [] = [] := rfl

@[simp] theorem stopRequests_append : stopRequests (first ++ rest) = stopRequests first ++ stopRequests rest :=
  List.filterMap_append

@[simp] theorem stopRequests_wait : stopRequests (⟨.wait mode, event⟩ :: rest) = stopRequests rest := rfl

@[simp] theorem stopRequests_requestStop :
    stopRequests (⟨.requestStop request, succeeded⟩ :: rest) = request :: stopRequests rest := rfl

@[simp] theorem sessionEvents_nil : sessionEvents [] = [] := rfl

@[simp] theorem sessionEvents_append :
    sessionEvents (first ++ rest) = sessionEvents first ++ sessionEvents rest := by
  simp [sessionEvents]

@[simp] theorem sessionEvents_requestStop :
    sessionEvents (⟨.requestStop request, succeeded⟩ :: rest) = sessionEvents rest := rfl

@[simp] theorem sessionEvents_controllerLost :
    sessionEvents (⟨.wait mode, .controllerLost⟩ :: rest) = sessionEvents rest := rfl

theorem sessionEvents_wait (h : event ≠ .controllerLost) :
    sessionEvents (⟨.wait mode, event⟩ :: rest) = event :: sessionEvents rest := by
  rw [sessionEvents, List.filterMap_cons_some (show waitedEvent ⟨.wait mode, event⟩ = some event from rfl),
    List.filter_cons_of_pos (by simpa using h)]
  rfl

end Traces

/-! ### One turn -/

namespace LifecycleLoop

/-- A running Workload on the way to its stop. -/
def advance (current : LifecycleLoop) (event : LifecycleEvent) : LifecycleLoop :=
  { current with
    stopStage := current.stopStage.after event
    outcome := if event = .profileStateUnknown then current.outcome.fail .profileState else current.outcome }

/-- The Workload was not started. -/
def activationFailed (current : LifecycleLoop) (value : Int) : LifecycleLoop :=
  if value = 126 ∨ value = 127 then
    { current with state := .waitingForCleanup, outcome.workload := some ⟨.startFailure, value⟩ }
  else { current.fail .start with state := .waitingForCleanup }

/-- An event that the loop has a use for. -/
def Handles (current : LifecycleLoop) (event : LifecycleEvent) : Prop :=
  match event, current.state with
  | .controllerLost, _ | .conversationLost, _ | .cleanupFailed, _ => True
  | .activated _, state | .activationFailed _, state => state = .waitingForActivation
  | .workloadExited _, state | .workloadSignaled _, state => state = .active
  | .profileStateUnknown, state => state = .active
  | .terminalInterrupt, state | .stopRequested, state => state ≠ .waitingForActivation
  | .deadlineExpired, state => state = .active ∧ current.stopStage.isGrace = true
  | .cleanupSucceeded, state => state = .waitingForCleanup

/-- What one turn can do with an event: the calls it makes, and where it leads. -/
inductive Turn (current : LifecycleLoop) :
    LifecycleEvent → LifecycleTrace → LifecycleLoop ⊕ SessionOutcome → Prop
  | controllerLost : Turn current .controllerLost [] (.inl current)
  | late {event : LifecycleEvent} (state : current.state = .waitingForCleanup) (late : event.isLate = true) :
      Turn current event [] (.inl current)
  | conversationLost : Turn current .conversationLost [] (.inr (current.outcome.fail .conversation))
  | cleanupFailed : Turn current .cleanupFailed [] (.inr (current.outcome.fail .cleanup))
  | activated (value : Int) (state : current.state = .waitingForActivation) :
      Turn current (.activated value) [] (.inl { current with state := .active })
  | activationFailed (value : Int) (state : current.state = .waitingForActivation) :
      Turn current (.activationFailed value) [] (.inl (current.activationFailed value))
  | quiet {event : LifecycleEvent} (state : current.state = .active) (stops : event.isStopEvent = true)
      (graced : event = .deadlineExpired → current.stopStage.isGrace = true)
      (asks : current.stopStage.request event = none) : Turn current event [] (.inl (current.advance event))
  | granted {event : LifecycleEvent} {request : StopRequest} (state : current.state = .active)
      (stops : event.isStopEvent = true) (graced : event = .deadlineExpired → current.stopStage.isGrace = true)
      (asks : current.stopStage.request event = some request) :
      Turn current event [⟨.requestStop request, true⟩] (.inl (current.advance event))
  | refused {event : LifecycleEvent} {request : StopRequest} (state : current.state = .active)
      (stops : event.isStopEvent = true) (graced : event = .deadlineExpired → current.stopStage.isGrace = true)
      (asks : current.stopStage.request event = some request) :
      Turn current event [⟨.requestStop request, false⟩] (.inr ((current.advance event).outcome.fail .stopRequest))
  | ended {event : LifecycleEvent} {result : WorkloadResult} (state : current.state = .active)
      (ends : event.workloadResult = some result) : Turn current event [] (.inl (current.workloadEnded result))
  | cleanupSucceeded (state : current.state = .waitingForCleanup) :
      Turn current .cleanupSucceeded [] (.inr current.outcome)
  | invalid {event : LifecycleEvent} (unhandled : ¬ current.Handles event) :
      Turn current event [] (.inr (current.outcome.fail .invalidEvent))

section Turns

variable {current : LifecycleLoop} {event : LifecycleEvent} {trace : LifecycleTrace}
  {next : LifecycleLoop ⊕ SessionOutcome}

theorem run_escalate {request : StopRequest} {stage : StopStage}
    (h : Run (current.escalate request stage) trace next) :
    (trace = [⟨.requestStop request, true⟩] ∧ next = .inl { current with stopStage := stage }) ∨
      (trace = [⟨.requestStop request, false⟩] ∧ next = .inr (current.outcome.fail .stopRequest)) := by
  obtain ⟨succeeded, rest, rfl, hrest⟩ := run_call.mp h
  cases succeeded with
  | true =>
      obtain ⟨rfl, rfl⟩ := run_done.mp hrest
      exact Or.inl ⟨rfl, rfl⟩
  | false =>
      obtain ⟨rfl, rfl⟩ := run_done.mp hrest
      exact Or.inr ⟨rfl, rfl⟩

/-- A stop of a running Workload goes on as the policy says. -/
theorem turn_of_escalate {request : StopRequest} (hstate : current.state = .active)
    (hstops : event.isStopEvent = true) (hgraced : event = .deadlineExpired → current.stopStage.isGrace = true)
    (hasks : current.stopStage.request event = some request)
    (h : Run ({ current.advance event with stopStage := current.stopStage }.escalate request
      (current.stopStage.after event)) trace next) : Turn current event trace next := by
  rcases run_escalate h with ⟨rfl, rfl⟩ | ⟨rfl, rfl⟩
  · exact .granted hstate hstops hgraced hasks
  · exact .refused hstate hstops hgraced hasks

/-- Every turn is one of these. -/
theorem turn_of_run (h : Run (current.handle event) trace next) : Turn current event trace next := by
  have hdone : ∀ {value}, Run (.done value : LifecycleProgram (LifecycleLoop ⊕ SessionOutcome)) trace next →
      Turn current event [] value → Turn current event trace next := by
    intro value hrun hturn
    obtain ⟨rfl, rfl⟩ := run_done.mp hrun
    exact hturn
  obtain ⟨state, stage, outcome⟩ := current
  cases event with
  | controllerLost => exact hdone h .controllerLost
  | conversationLost => exact hdone h .conversationLost
  | cleanupFailed => exact hdone h .cleanupFailed
  | activated value =>
      cases state with
      | waitingForActivation => exact hdone h (.activated value rfl)
      | _ => exact hdone h (.invalid (by simp [Handles]))
  | activationFailed value =>
      cases state with
      | waitingForActivation =>
          have hturn : Turn ⟨.waitingForActivation, stage, outcome⟩ (.activationFailed value) [] _ :=
            .activationFailed value rfl
          unfold LifecycleLoop.activationFailed at hturn
          unfold handle at h
          dsimp only at h
          split at h
          · rw [if_pos ‹_›] at hturn
            exact hdone h hturn
          · rw [if_neg ‹_›] at hturn
            exact hdone h hturn
      | _ => exact hdone h (.invalid (by simp [Handles]))
  | workloadExited value =>
      cases state with
      | active => exact hdone h (.ended rfl rfl)
      | _ => exact hdone h (.invalid (by simp [Handles]))
  | workloadSignaled value =>
      cases state with
      | active => exact hdone h (.ended rfl rfl)
      | _ => exact hdone h (.invalid (by simp [Handles]))
  | cleanupSucceeded =>
      cases state with
      | waitingForCleanup => exact hdone h (.cleanupSucceeded rfl)
      | _ => exact hdone h (.invalid (by simp [Handles]))
  | profileStateUnknown =>
      cases state with
      | active =>
          cases stage with
          | none => exact turn_of_escalate rfl rfl (by simp) rfl h
          | _ => exact hdone h (.quiet rfl rfl (by simp) rfl)
      | _ => exact hdone h (.invalid (by simp [Handles]))
  | terminalInterrupt =>
      cases state with
      | waitingForActivation => exact hdone h (.invalid (by simp [Handles]))
      | waitingForCleanup => exact hdone h (.late rfl rfl)
      | active =>
          cases stage with
          | none => exact hdone h (.quiet rfl rfl (by simp) rfl)
          | killRequested => exact hdone h (.quiet rfl rfl (by simp) rfl)
          | _ => exact turn_of_escalate rfl rfl (by simp) rfl h
  | stopRequested =>
      cases state with
      | waitingForActivation => exact hdone h (.invalid (by simp [Handles]))
      | waitingForCleanup => exact hdone h (.late rfl rfl)
      | active =>
          cases stage with
          | none => exact turn_of_escalate rfl rfl (by simp) rfl h
          | _ => exact hdone h (.quiet rfl rfl (by simp) rfl)
  | deadlineExpired =>
      cases state with
      | active =>
          cases stage with
          | interruptGrace => exact turn_of_escalate rfl rfl (fun _ => rfl) rfl h
          | terminateGrace => exact turn_of_escalate rfl rfl (fun _ => rfl) rfl h
          | _ => exact hdone h (.invalid (by simp [Handles, StopStage.isGrace]))
      | _ => exact hdone h (.invalid (by simp [Handles]))

/-- A turn makes at most one call, to ask for the stop of the policy. -/
theorem Turn.calls (h : Turn current event trace next) :
    trace = [] ∨ ∃ request succeeded, trace = [⟨.requestStop request, succeeded⟩] ∧ current.state = .active ∧
      event.isStopEvent = true ∧ current.stopStage.request event = some request := by
  cases h with
  | granted state stops graced asks => exact Or.inr ⟨_, true, rfl, state, stops, asks⟩
  | refused state stops graced asks => exact Or.inr ⟨_, false, rfl, state, stops, asks⟩
  | _ => exact Or.inl rfl

/-- Where the policy asks for a stop, the turn does. -/
theorem Turn.asks {request : StopRequest} (h : Turn current event trace next) (hstate : current.state = .active)
    (hstops : event.isStopEvent = true) (hasks : current.stopStage.request event = some request) :
    ∃ succeeded, trace = [⟨.requestStop request, succeeded⟩] := by
  cases h with
  | granted _ _ _ asks =>
      obtain rfl := Option.some.inj (asks.symm.trans hasks)
      exact ⟨true, rfl⟩
  | refused _ _ _ asks =>
      obtain rfl := Option.some.inj (asks.symm.trans hasks)
      exact ⟨false, rfl⟩
  | quiet _ _ _ asks => exact nomatch asks.symm.trans hasks
  | late state => exact nomatch state.symm.trans hstate
  | ended _ ends => exact nomatch (not_isStopEvent_of_workloadResult ends).symm.trans hstops
  | activated _ state => exact nomatch state.symm.trans hstate
  | activationFailed _ state => exact nomatch state.symm.trans hstate
  | invalid unhandled =>
      refine absurd ?_ unhandled
      rcases LifecycleEvent.isStopEvent_iff.mp hstops with rfl | rfl | rfl | rfl
      · exact fun h => nomatch h.symm.trans hstate
      · exact fun h => nomatch h.symm.trans hstate
      · exact hstate
      · refine ⟨hstate, ?_⟩
        generalize current.stopStage = stage at hasks
        cases stage <;> first | rfl | exact nomatch hasks
  | _ => exact absurd hstops (by decide)

/-- A turn waits for an event and then does with it what it can. -/
theorem run_round (h : Run current.round trace next) :
    ∃ event rest, trace = ⟨.wait current.waitMode, event⟩ :: rest ∧ Turn current event rest next := by
  obtain ⟨event, rest, rfl, hrest⟩ := run_call.mp h
  exact ⟨event, rest, rfl, turn_of_run hrest⟩

end Turns

end LifecycleLoop

/-! ### The head of the loop -/

/-- The Workload runs: it was started, and what came since then concerns its stop. -/
def WhileActive (events : List LifecycleEvent) : Prop :=
  ∃ pid stops, events = .activated pid :: stops ∧ ∀ event ∈ stops, event.isStopEvent = true

/-- Deadlines expire in grace periods only. -/
def DeadlinesGraced (events : List LifecycleEvent) : Prop :=
  ∀ first rest, events = first ++ .deadlineExpired :: rest → (stageAfter first).isGrace = true

/-- The loop of a running Workload. -/
def activeLoop (events : List LifecycleEvent) : LifecycleLoop where
  state := .active
  stopStage := stageAfter events
  outcome.infrastructureFailures := List.replicate (events.count .profileStateUnknown) .profileState

/-- Where events and requests have brought the loop. -/
inductive Reached : List LifecycleEvent → List StopRequest → LifecycleLoop → Prop
  | waiting : Reached [] [] {}
  | active {events : List LifecycleEvent} (active : WhileActive events) (graced : DeadlinesGraced events) :
      Reached events (requestsFrom .none events) (activeLoop events)
  | failed (value : Int) {late : List LifecycleEvent} (islate : ∀ event ∈ late, event.isLate = true) :
      Reached (.activationFailed value :: late) [] (LifecycleLoop.activationFailed {} value)
  | ended {events late : List LifecycleEvent} {terminal : LifecycleEvent} {result : WorkloadResult}
      (active : WhileActive events) (graced : DeadlinesGraced events)
      (ends : terminal.workloadResult = some result) (islate : ∀ event ∈ late, event.isLate = true) :
      Reached (events ++ terminal :: late) (requestsFrom .none events) ((activeLoop events).workloadEnded result)

section Reached

variable {events : List LifecycleEvent} {requests : List StopRequest} {current next : LifecycleLoop}
  {event : LifecycleEvent} {trace : LifecycleTrace}

theorem not_controllerLost_of_isStopEvent (h : event.isStopEvent = true) : event ≠ .controllerLost := by
  rintro rfl
  exact absurd h (by decide)

theorem not_controllerLost_of_isLate (h : event.isLate = true) : event ≠ .controllerLost := by
  rintro rfl
  exact absurd h (by decide)

theorem WhileActive.append (h : WhileActive events) (hstops : event.isStopEvent = true) :
    WhileActive (events ++ [event]) := by
  obtain ⟨pid, stops, rfl, hall⟩ := h
  refine ⟨pid, stops ++ [event], rfl, ?_⟩
  rw [List.forall_mem_append]
  exact ⟨hall, List.forall_mem_singleton.mpr hstops⟩

theorem DeadlinesGraced.append (h : DeadlinesGraced events)
    (hgraced : event = .deadlineExpired → (stageAfter events).isGrace = true) :
    DeadlinesGraced (events ++ [event]) := by
  intro first rest hsplit
  rcases List.eq_nil_or_concat rest with rfl | ⟨front, last, rfl⟩
  · obtain ⟨rfl, hlast⟩ := List.append_inj' hsplit rfl
    exact hgraced (List.singleton_inj.mp hlast)
  · rw [List.concat_eq_append, ← List.cons_append, ← List.append_assoc] at hsplit
    exact h first front (List.append_inj' hsplit rfl).1

theorem Reached.state_eq (h : Reached events requests current) :
    (current.state = .waitingForActivation → events = [] ∧ requests = [] ∧ current = {}) ∧
      (current.state = .active → WhileActive events ∧ DeadlinesGraced events ∧
        requests = requestsFrom .none events ∧ current = activeLoop events) := by
  cases h with
  | waiting => exact ⟨fun _ => ⟨rfl, rfl, rfl⟩, fun h => nomatch h⟩
  | active hactive hgraced => exact ⟨(fun h => nomatch h), fun _ => ⟨hactive, hgraced, rfl, rfl⟩⟩
  | failed value islate =>
      have hstate : (LifecycleLoop.activationFailed {} value).state = .waitingForCleanup := by
        unfold LifecycleLoop.activationFailed
        split <;> rfl
      rw [hstate]
      exact ⟨(fun h => nomatch h), fun h => nomatch h⟩
  | ended hactive hgraced hends islate => exact ⟨(fun h => nomatch h), fun h => nomatch h⟩

/-- A turn that stays in the loop. -/
theorem Reached.turn (h : Reached events requests current) (mode : LifecycleWait)
    (hturn : current.Turn event trace (.inl next)) :
    Reached (events ++ sessionEvents [⟨.wait mode, event⟩]) (requests ++ stopRequests trace) next := by
  have hadvance : current.state = .active → event.isStopEvent = true →
      (event = .deadlineExpired → current.stopStage.isGrace = true) →
      Reached (events ++ [event]) (requests ++ (current.stopStage.request event).toList)
        (current.advance event) := by
    intro hstate hstops hgraced
    obtain ⟨hactive, hdeadlines, rfl, rfl⟩ := h.state_eq.2 hstate
    have hreached := Reached.active (hactive.append hstops) (hdeadlines.append hgraced)
    have hrequests : requestsFrom .none (events ++ [event]) =
        requestsFrom .none events ++ ((stageAfter events).request event).toList := by
      rw [requestsFrom_append]
      exact congrArg _ (List.append_nil _)
    have hloop : activeLoop (events ++ [event]) = (activeLoop events).advance event := by
      unfold activeLoop LifecycleLoop.advance SessionOutcome.fail
      rw [stageAfter_append, List.count_append, List.count_singleton]
      by_cases hunknown : event = .profileStateUnknown
      · simp [hunknown, List.replicate_succ']
      · simp [hunknown]
    rwa [hrequests, hloop] at hreached
  cases hturn with
  | controllerLost =>
      rw [sessionEvents_controllerLost, sessionEvents_nil, stopRequests_nil, List.append_nil, List.append_nil]
      exact h
  | late hstate hlate =>
      rw [sessionEvents_wait (not_controllerLost_of_isLate hlate), sessionEvents_nil, stopRequests_nil,
        List.append_nil]
      cases h with
      | waiting => exact nomatch hstate
      | active => exact nomatch hstate
      | failed value islate =>
          exact .failed value (List.forall_mem_append.mpr ⟨islate, List.forall_mem_singleton.mpr hlate⟩)
      | ended hactive hgraced hends islate =>
          rw [List.append_assoc]
          exact .ended hactive hgraced hends
            (List.forall_mem_append.mpr ⟨islate, List.forall_mem_singleton.mpr hlate⟩)
  | activated value hstate =>
      obtain ⟨rfl, rfl, rfl⟩ := h.state_eq.1 hstate
      have hgraced : DeadlinesGraced [.activated value] := by
        intro first rest hsplit
        have hmem : LifecycleEvent.deadlineExpired ∈ [LifecycleEvent.activated value] := by
          rw [hsplit]
          exact List.mem_append_right _ List.mem_cons_self
        exact nomatch List.mem_singleton.mp hmem
      exact .active ⟨value, [], rfl, fun _ hmem => nomatch hmem⟩ hgraced
  | activationFailed value hstate =>
      obtain ⟨rfl, rfl, rfl⟩ := h.state_eq.1 hstate
      exact .failed value fun _ hmem => nomatch hmem
  | quiet hstate hstops hgraced hasks =>
      have hreached := hadvance hstate hstops hgraced
      rw [hasks] at hreached
      rwa [sessionEvents_wait (not_controllerLost_of_isStopEvent hstops)]
  | granted hstate hstops hgraced hasks =>
      have hreached := hadvance hstate hstops hgraced
      rw [hasks] at hreached
      rwa [sessionEvents_wait (not_controllerLost_of_isStopEvent hstops)]
  | ended hstate hends =>
      obtain ⟨hactive, hdeadlines, rfl, rfl⟩ := h.state_eq.2 hstate
      have hevent : event ≠ .controllerLost := by
        rintro rfl
        exact nomatch hends
      rw [sessionEvents_wait hevent, stopRequests_nil, List.append_nil]
      exact .ended hactive hdeadlines hends fun _ hmem => nomatch hmem

end Reached

/-- What the calls of whole turns say about the loop. -/
structure History (trace : LifecycleTrace) (current : LifecycleLoop) : Prop where
  granted : ∀ call ∈ trace, Granted call
  calls : ∀ call ∈ trace, InLoop call
  reached : Reached (sessionEvents trace) (stopRequests trace) current

theorem history_of_rounds {trace : LifecycleTrace} {current : LifecycleLoop}
    (h : Rounds LifecycleLoop.round {} trace current) : History trace current := by
  refine Rounds.invariant ⟨(fun _ hmem => nomatch hmem), (fun _ hmem => nomatch hmem), .waiting⟩ ?_ h
  intro before current during next hbefore hround
  obtain ⟨event, rest, rfl, hturn⟩ := LifecycleLoop.run_round hround
  have hreached := hbefore.reached.turn current.waitMode hturn
  have hlater : (∀ call ∈ rest, Granted call) ∧ (∀ call ∈ rest, InLoop call) ∧ sessionEvents rest = [] := by
    cases hturn with
    | granted => exact ⟨List.forall_mem_singleton.mpr rfl, List.forall_mem_singleton.mpr trivial, rfl⟩
    | _ => exact ⟨(fun _ hmem => nomatch hmem), (fun _ hmem => nomatch hmem), rfl⟩
  refine ⟨List.forall_mem_append.mpr ⟨hbefore.granted, List.forall_mem_cons.mpr ⟨trivial, hlater.1⟩⟩,
    List.forall_mem_append.mpr ⟨hbefore.calls, List.forall_mem_cons.mpr ⟨trivial, hlater.2.1⟩⟩, ?_⟩
  have hevents : sessionEvents (⟨.wait current.waitMode, event⟩ :: rest) =
      sessionEvents [⟨.wait current.waitMode, event⟩] := by
    rw [← List.singleton_append, sessionEvents_append, hlater.2.2, List.append_nil]
  rwa [sessionEvents_append, stopRequests_append, hevents, stopRequests_wait]

end NetLagLab
