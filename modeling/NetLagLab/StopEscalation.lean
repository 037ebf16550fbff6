import Mathlib.Data.List.Induction
import NetLagLab.LifecycleResults

/-! The stops that a lifecycle asks for: in which order, when at the latest, and when at the earliest. -/

namespace NetLagLab

open CallPrograms CallPrograms.Program

/-! ### The calls of a run -/

section Calls

variable {rounds : Nat} {trace first rest : LifecycleTrace} {result : Option SessionOutcome}

theorem not_inLoop_of_conclusion {ended final : SessionOutcome} (h : Run (concludeSession ended) trace final) :
    ∀ call ∈ trace, ¬ InLoop call := by
  obtain ⟨reaped, finalized, -, rfl⟩ := run_concludeSession h
  simp only [List.forall_mem_cons]
  exact ⟨id, id, id, fun _ hmem => nomatch hmem⟩

/-- A run begins, goes through the loop and concludes. -/
theorem run_phases (h : Run (runSessionLifecycle rounds) trace result) :
    ∃ began during conclusion, trace = ⟨.begin, began⟩ :: (during ++ conclusion) ∧
      (∀ call ∈ conclusion, ¬ InLoop call) ∧
      (during ≠ [] → began = true ∧ ∃ ended, Run (loop LifecycleLoop.round rounds {}) during ended) ∧
      (result = none → began = true ∧ conclusion = [] ∧ Run (loop LifecycleLoop.round rounds {}) during none) := by
  obtain ⟨began, rest, rfl, hrest⟩ := run_call.mp h
  cases began with
  | false =>
      change Run (concludeSession (SessionOutcome.fail {} .start) >>= fun final => .done (some final)) rest _ at hrest
      obtain ⟨conclusion, final, nothing, rfl, hconclusion, hnothing⟩ := run_bind.mp hrest
      obtain ⟨rfl, rfl⟩ := run_done.mp hnothing
      refine ⟨false, [], conclusion, by rw [List.append_nil, List.nil_append], not_inLoop_of_conclusion hconclusion,
        (fun hne => absurd rfl hne), fun hnone => nomatch hnone⟩
  | true =>
      change Run (loop LifecycleLoop.round rounds {} >>= _) rest _ at hrest
      obtain ⟨during, ended, last, rfl, hloop, hlast⟩ := run_bind.mp hrest
      cases ended with
      | none =>
          obtain ⟨rfl, rfl⟩ := run_done.mp hlast
          exact ⟨true, during, [], rfl, (fun _ hmem => nomatch hmem), fun _ => ⟨rfl, none, hloop⟩,
            fun _ => ⟨rfl, rfl, hloop⟩⟩
      | some ended =>
          obtain ⟨conclusion, final, nothing, rfl, hconclusion, hnothing⟩ := run_bind.mp hlast
          obtain ⟨rfl, rfl⟩ := run_done.mp hnothing
          refine ⟨true, during, conclusion, by rw [List.append_nil], not_inLoop_of_conclusion hconclusion,
            fun _ => ⟨rfl, some ended, hloop⟩, fun hnone => nomatch hnone⟩

/-- A call of the loop belongs to a turn. -/
theorem run_turn {call : Event LifecycleCall LifecycleAnswer} (hcall : InLoop call)
    (h : Run (runSessionLifecycle rounds) (first ++ call :: rest) result) :
    ∃ before during behind more current next, first = ⟨.begin, true⟩ :: (before ++ during) ∧
      rest = behind ++ more ∧ Rounds LifecycleLoop.round {} before current ∧
      Run current.round (during ++ call :: behind) next := by
  obtain ⟨began, during, conclusion, htrace, hconclusion, hloop, -⟩ := run_phases h
  cases first with
  | nil =>
      obtain ⟨rfl, -⟩ := List.cons.inj htrace
      exact hcall.elim
  | cons head first =>
      obtain ⟨rfl, hsplit⟩ := List.cons.inj htrace
      rcases List.append_eq_append_iff.mp hsplit with ⟨between, rfl, hrest⟩ | ⟨between, rfl, rfl⟩
      · cases between with
        | nil => exact absurd hcall (hconclusion call (by
            rw [List.nil_append] at hrest
            rw [← hrest]
            exact List.mem_cons_self))
        | cons head between =>
            obtain ⟨rfl, rfl⟩ := List.cons.inj hrest
            obtain ⟨rfl, ended, hended⟩ := hloop (by simp)
            obtain ⟨before, during, behind, more, current, next, rfl, rfl, hbefore, hduring⟩ := run_loop_split hended
            exact ⟨before, during, behind, more ++ conclusion, current, next, rfl, List.append_assoc _ _ _,
              hbefore, hduring⟩
      · exact absurd hcall (hconclusion call (List.mem_append_right _ List.mem_cons_self))

/-- A wait opens a turn. -/
theorem run_wait {mode : LifecycleWait} {event : LifecycleEvent}
    (h : Run (runSessionLifecycle rounds) (first ++ ⟨.wait mode, event⟩ :: rest) result) :
    ∃ before behind more current next, first = ⟨.begin, true⟩ :: before ∧ rest = behind ++ more ∧
      Rounds LifecycleLoop.round {} before current ∧ mode = current.waitMode ∧ current.Turn event behind next := by
  obtain ⟨before, during, behind, more, current, next, rfl, rfl, hbefore, hround⟩ := run_turn (show InLoop ⟨.wait mode, event⟩ from trivial) h
  obtain ⟨event', rest, htrace, hturn⟩ := LifecycleLoop.run_round hround
  cases during with
  | nil =>
      obtain ⟨hcall, rfl⟩ := List.cons.inj htrace
      cases hcall
      exact ⟨before, behind, more, current, next, by rw [List.append_nil], rfl, hbefore, rfl, hturn⟩
  | cons head during =>
      obtain ⟨rfl, rfl⟩ := List.cons.inj htrace
      rcases hturn.calls with hnone | ⟨request, succeeded, hone, -⟩
      · exact absurd hnone (by simp)
      · have hwait : (⟨.wait mode, event⟩ : Event LifecycleCall LifecycleAnswer) ∈
            [⟨.requestStop request, succeeded⟩] := by
          rw [← hone]
          exact List.mem_append_right during List.mem_cons_self
        exact nomatch List.mem_singleton.mp hwait

/-- A stop is asked for in the turn of a running Workload, right after the event that the policy asks it
for. -/
theorem run_requestStop {request : StopRequest} {succeeded : Bool}
    (h : Run (runSessionLifecycle rounds) (first ++ ⟨.requestStop request, succeeded⟩ :: rest) result) :
    ∃ before current event, first = ⟨.begin, true⟩ :: (before ++ [⟨.wait current.waitMode, event⟩]) ∧
      History before current ∧ current.state = .active ∧ event.isStopEvent = true ∧
      current.stopStage.request event = some request := by
  obtain ⟨before, during, behind, more, current, next, rfl, rfl, hbefore, hround⟩ :=
    run_turn (show InLoop ⟨.requestStop request, succeeded⟩ from trivial) h
  obtain ⟨event, rest, htrace, hturn⟩ := LifecycleLoop.run_round hround
  cases during with
  | nil => exact nomatch (List.cons.inj htrace).1
  | cons head during =>
      obtain ⟨rfl, hrest⟩ := List.cons.inj htrace
      rcases hturn.calls with hnone | ⟨other, answer, hone, state, stops, asks⟩
      · exact absurd (hrest.trans hnone) (by simp)
      · have heq := hrest.trans hone
        cases during with
        | nil =>
            obtain rfl := LifecycleCall.requestStop.inj (Event.mk.inj (List.cons.inj heq).1).1
            exact ⟨before, current, event, rfl, history_of_rounds hbefore, state, stops, asks⟩
        | cons head during => exact absurd (List.cons.inj heq).2 (by simp)

/-- A lifecycle that goes on is at the head of its loop. -/
theorem run_unfinished (h : Run (runSessionLifecycle rounds) trace none) :
    ∃ before current, trace = ⟨.begin, true⟩ :: before ∧ Rounds LifecycleLoop.round {} before current := by
  obtain ⟨began, during, conclusion, rfl, -, -, hunfinished⟩ := run_phases h
  obtain ⟨rfl, rfl, hloop⟩ := hunfinished rfl
  rcases run_loop hloop with ⟨-, last, hlast⟩ | ⟨value, last, before, leaving, hnone, -⟩
  · exact ⟨during, last, by rw [List.append_nil], hlast⟩
  · exact nomatch hnone

end Calls

/-! ### Escalation -/

/-- A grace period of a running Workload. -/
def GraceActive (events : List LifecycleEvent) : Prop := WhileActive events ∧ (stageAfter events).isGrace = true

section Escalation

variable {events first rest : List LifecycleEvent} {requests : List StopRequest} {current : LifecycleLoop}
  {before : LifecycleTrace}

theorem Reached.waitMode_iff (h : Reached events requests current) :
    current.waitMode = .fiveSeconds ↔ GraceActive events := by
  have hmode : current.waitMode = .fiveSeconds ↔ current.stopStage.isGrace = true := by
    rw [LifecycleLoop.waitMode]
    split
    · exact ⟨fun _ => ‹_›, fun _ => rfl⟩
    · exact ⟨(fun h => nomatch h), fun h => absurd h ‹_›⟩
  rw [hmode]
  cases h with
  | waiting => exact ⟨(fun h => nomatch h), fun h => absurd rfl h.1.ne_nil⟩
  | active hactive hgraced => exact ⟨fun hgrace => ⟨hactive, hgrace⟩, fun h => h.2⟩
  | failed value islate =>
      have hstage : (LifecycleLoop.activationFailed {} value).stopStage = .none := by
        unfold LifecycleLoop.activationFailed
        split <;> rfl
      rw [hstage]
      refine ⟨(fun h => nomatch h), fun h => ?_⟩
      obtain ⟨pid, stops, heq, -⟩ := h.1
      exact nomatch (List.cons.inj heq).1
  | ended hactive hgraced hends islate =>
      exact ⟨(fun h => nomatch h), fun h =>
        (h.1.not_append_terminal hactive.ne_nil (not_isStopEvent_of_workloadResult hends)).elim⟩

theorem Reached.requests_sublist (h : Reached events requests current) :
    requests.Sublist [.terminate, .kill] := by
  cases h with
  | waiting => exact List.nil_sublist _
  | active => exact requestsFrom_sublist
  | failed => exact List.nil_sublist _
  | ended => exact requestsFrom_sublist

/-- The requests of whole turns and of one more, wherever that leads. -/
theorem Reached.requests_turn_sublist {event : LifecycleEvent} {during : LifecycleTrace}
    {next : LifecycleLoop ⊕ SessionOutcome} (h : Reached events requests current)
    (hturn : current.Turn event during next) :
    (requests ++ stopRequests during).Sublist [.terminate, .kill] := by
  rcases hturn.calls with rfl | ⟨request, succeeded, rfl, hstate, -, hasks⟩
  · rw [stopRequests_nil, List.append_nil]
    exact h.requests_sublist
  · obtain ⟨-, -, rfl, rfl⟩ := h.state_eq.2 hstate
    have hrequests : requestsFrom .none (events ++ [event]) = requestsFrom .none events ++ [request] := by
      rw [requestsFrom_append, requestsFrom, requestsFrom, List.append_nil]
      exact congrArg (fun asked => _ ++ Option.toList asked) hasks
    rw [stopRequests_requestStop, stopRequests_nil, ← hrequests]
    exact requestsFrom_sublist

theorem stopRequests_eq_nil {trace : LifecycleTrace} (h : ∀ call ∈ trace, ¬ InLoop call) :
    stopRequests trace = [] := by
  rw [stopRequests, List.filterMap_eq_nil_iff]
  intro call hcall
  obtain ⟨request, answer⟩ := call
  cases request with
  | requestStop request => exact absurd trivial (h _ hcall)
  | _ => rfl

theorem stageAfter_ne_none_of_trigger {trigger : LifecycleEvent} (htrigger : trigger.isTrigger = true) :
    stageAfter (first ++ [trigger]) ≠ .none := by
  rw [stageAfter_append]
  by_cases hnone : stageAfter first = .none
  · rw [hnone]
    cases trigger <;> simp_all [LifecycleEvent.isTrigger, StopStage.after]
  · exact after_ne_none hnone

/-- Two periods that expire after a trigger lead to the request to kill. -/
theorem stageAfter_of_deadlines {trigger : LifecycleEvent} (htrigger : trigger.isTrigger = true)
    (h : 2 ≤ rest.count .deadlineExpired) : stageAfter (first ++ trigger :: rest) = .killRequested := by
  have hle : ∀ stage : StopStage, stage.deadlinesLeft ≤ 2 := by
    intro stage
    cases stage <;> decide
  rw [← List.singleton_append, ← List.append_assoc, stageAfter_append]
  exact stageFrom_of_deadlines (stageAfter_ne_none_of_trigger htrigger) (Nat.le_trans (hle _) h)

theorem Reached.kill_mem_iff (h : Reached events requests current) (hactive : WhileActive events) :
    .kill ∈ requests ↔ stageAfter events = .killRequested := by
  obtain ⟨-, -, rfl, -⟩ := h.state_eq.2 (h.state_of_whileActive hactive)
  exact kill_mem_requestsFrom (by decide)

theorem WhileActive.remove {extra : LifecycleEvent} (h : WhileActive (first ++ extra :: rest)) (hfirst : first ≠ []) :
    WhileActive (first ++ rest) := by
  obtain ⟨pid, stops, heq, hall⟩ := h
  cases first with
  | nil => exact absurd rfl hfirst
  | cons head first =>
      obtain ⟨rfl, rfl⟩ := List.cons.inj heq
      refine ⟨pid, first ++ rest, rfl, fun event hevent => hall event ?_⟩
      rcases List.mem_append.mp hevent with hevent | hevent
      · exact List.mem_append_left _ hevent
      · exact List.mem_append_right _ (List.mem_cons_of_mem _ hevent)

end Escalation

/-- Stops escalate. A stop to terminate comes at most once and a stop to kill at most once and last, both
only while the Workload runs; a wait is bounded exactly in a grace period. While the Workload still runs, two
expired periods after any trigger have led to a stop to kill, whatever came in between, and no trigger after
the first one delays that stop. -/
theorem runSessionLifecycle_escalates {rounds : Nat} {trace : LifecycleTrace} {result : Option SessionOutcome}
    (h : Run (runSessionLifecycle rounds) trace result) :
    (stopRequests trace).Sublist [.terminate, .kill] ∧
      (∀ first request succeeded rest, trace = first ++ ⟨.requestStop request, succeeded⟩ :: rest →
        WhileActive (sessionEvents first)) ∧
      (∀ first mode event rest, trace = first ++ ⟨.wait mode, event⟩ :: rest →
        (mode = .fiveSeconds ↔ GraceActive (sessionEvents first))) ∧
      (result = none → WhileActive (sessionEvents trace) →
        (∀ first trigger rest, sessionEvents trace = first ++ trigger :: rest → trigger.isTrigger = true →
          2 ≤ rest.count .deadlineExpired → .kill ∈ stopRequests trace) ∧
        ∀ first trigger front extra back, sessionEvents trace = first ++ trigger :: (front ++ extra :: back) →
          trigger.isTrigger = true → extra.isTrigger = true →
          ∀ rounds' trace', Run (runSessionLifecycle rounds') trace' none →
            sessionEvents trace' = first ++ trigger :: (front ++ back) →
            .kill ∈ stopRequests trace' → .kill ∈ stopRequests trace) := by
  refine ⟨?_, ?_, ?_, ?_⟩
  · obtain ⟨began, during, conclusion, rfl, hconclusion, hloop, -⟩ := run_phases h
    change (stopRequests (during ++ conclusion)).Sublist _
    rw [stopRequests_append, stopRequests_eq_nil hconclusion, List.append_nil]
    by_cases hnil : during = []
    · rw [hnil]
      exact List.nil_sublist _
    · obtain ⟨-, ended, hended⟩ := hloop hnil
      rcases run_loop hended with ⟨-, last, hlast⟩ | ⟨value, last, before, leaving, -, rfl, hlast, hleave⟩
      · exact (history_of_rounds hlast).reached.requests_sublist
      · obtain ⟨event, rest, rfl, hturn⟩ := LifecycleLoop.run_round hleave
        rw [stopRequests_append, stopRequests_wait]
        exact (history_of_rounds hlast).reached.requests_turn_sublist hturn
  · rintro first request succeeded rest rfl
    obtain ⟨before, current, event, rfl, hhistory, hstate, hstops, -⟩ := run_requestStop h
    have hactive := (hhistory.reached.state_eq.2 hstate).1
    have hevents : sessionEvents (⟨.begin, true⟩ :: (before ++ [⟨.wait current.waitMode, event⟩])) =
        sessionEvents before ++ [event] := by
      change sessionEvents (before ++ _) = _
      rw [sessionEvents_append, sessionEvents_wait (not_controllerLost_of_isStopEvent hstops), sessionEvents_nil]
    rw [hevents]
    exact hactive.append hstops
  · rintro first mode event rest rfl
    obtain ⟨before, behind, more, current, next, rfl, rfl, hrounds, rfl, -⟩ := run_wait h
    have hhistory := history_of_rounds hrounds
    exact hhistory.reached.waitMode_iff
  · rintro rfl hactive
    obtain ⟨before, current, rfl, hrounds⟩ := run_unfinished h
    have hhistory := history_of_rounds hrounds
    change WhileActive (sessionEvents before) at hactive
    have hkill := hhistory.reached.kill_mem_iff hactive
    refine ⟨?_, ?_⟩
    · intro first trigger rest hevents htrigger hdeadlines
      apply hkill.mpr
      rw [show sessionEvents before = _ from hevents]
      exact stageAfter_of_deadlines htrigger hdeadlines
    · intro first trigger front extra back hevents htrigger hextra rounds' trace' h' hevents' hkilled
      obtain ⟨before', current', rfl, hrounds'⟩ := run_unfinished h'
      have hhistory' := history_of_rounds hrounds'
      change sessionEvents before' = _ at hevents'
      have hactive' : WhileActive (sessionEvents before') := by
        rw [show sessionEvents before = _ from hevents, ← List.cons_append, ← List.append_assoc] at hactive
        rw [hevents', ← List.cons_append, ← List.append_assoc]
        exact hactive.remove (by simp)
      have hstage := (hhistory'.reached.kill_mem_iff hactive').mp hkilled
      apply hkill.mpr
      rw [show sessionEvents before = _ from hevents, ← List.singleton_append, ← List.append_assoc,
        stageAfter_append]
      rw [hevents', ← List.singleton_append, ← List.append_assoc, stageAfter_append] at hstage
      exact stageFrom_insert (stageAfter_ne_none_of_trigger htrigger) extra hstage

/-- An interrupt and a Controller's stop, and two periods that expire. -/
theorem runSessionLifecycle_escalates_interrupted : ∃ trace, Run (runSessionLifecycle 5) trace none ∧
    sessionEvents trace = [.activated 7, .terminalInterrupt, .stopRequested, .deadlineExpired, .deadlineExpired] ∧
    .kill ∈ stopRequests trace := by
  let trace : LifecycleTrace := [⟨.begin, true⟩, ⟨.wait .indefinitely, .activated 7⟩,
    ⟨.wait .indefinitely, .terminalInterrupt⟩, ⟨.wait .fiveSeconds, .stopRequested⟩,
    ⟨.wait .fiveSeconds, .deadlineExpired⟩, ⟨.requestStop .terminate, true⟩,
    ⟨.wait .fiveSeconds, .deadlineExpired⟩, ⟨.requestStop .kill, true⟩]
  have hrun : Run (runSessionLifecycle 5) trace none := run_of_follow (by decide)
  have hactive : WhileActive (sessionEvents trace) := ⟨7, _, rfl, by decide⟩
  exact ⟨trace, hrun, rfl, ((runSessionLifecycle_escalates hrun).2.2.2 rfl hactive).1 [.activated 7]
    .terminalInterrupt [.stopRequested, .deadlineExpired, .deadlineExpired] rfl rfl (by decide)⟩

/-! ### Why a Workload is killed -/

/-- What the policy kills for: a second interrupt, or a period that expired after the stop to terminate. -/
def KillCaused (trace : LifecycleTrace) : Prop :=
  2 ≤ (sessionEvents trace).count .terminalInterrupt ∨
    ∃ before succeeded behind, trace = before ++ ⟨.requestStop .terminate, succeeded⟩ :: behind ∧
      .deadlineExpired ∈ sessionEvents behind

/-- The first interrupt meets a running Workload that was stopped otherwise, before a period has expired. -/
def InterruptedStop (events : List LifecycleEvent) : Prop :=
  ∃ first rest, events = first ++ .terminalInterrupt :: rest ∧ WhileActive first ∧ .terminalInterrupt ∉ first ∧
    .deadlineExpired ∉ first ∧ ∃ trigger ∈ first, trigger = .stopRequested ∨ trigger = .profileStateUnknown

section Kill

variable {events : List LifecycleEvent}

theorem DeadlinesGraced.left {rest : List LifecycleEvent} (h : DeadlinesGraced (events ++ rest)) :
    DeadlinesGraced events := by
  rintro first last rfl
  exact h first (last ++ rest) (List.append_assoc _ _ _)

/-- Without an interrupt there is at most the one period after the stop to terminate. -/
theorem stages_without_interrupt (hactive : WhileActive events) (hgraced : DeadlinesGraced events)
    (h : .terminalInterrupt ∉ events) :
    (stageAfter events = .none ∧ .deadlineExpired ∉ events ∧
        ¬ ∃ trigger ∈ events, trigger = .stopRequested ∨ trigger = .profileStateUnknown) ∨
      (stageAfter events = .terminateGrace ∧ .deadlineExpired ∉ events ∧
        ∃ trigger ∈ events, trigger = .stopRequested ∨ trigger = .profileStateUnknown) ∨
      (stageAfter events = .killRequested ∧ .deadlineExpired ∈ events) := by
  obtain ⟨pid, stops, rfl, hstops⟩ := hactive
  induction stops using List.reverseRecOn with
  | nil => exact Or.inl ⟨rfl, by simp, by simp⟩
  | append_singleton stops event ih =>
      rw [← List.cons_append] at hgraced h ⊢
      rw [List.mem_append, not_or] at h
      rw [List.forall_mem_append] at hstops
      have hevent : event ≠ .terminalInterrupt := fun heq => h.2 (heq ▸ List.mem_cons_self)
      have hbefore := ih hstops.1 hgraced.left h.1
      have hdeadline : event = .deadlineExpired → (stageAfter (.activated pid :: stops)).isGrace = true := by
        rintro rfl
        exact hgraced _ [] rfl
      rw [stageAfter_append]
      simp only [List.mem_append, List.mem_singleton]
      rcases LifecycleEvent.isStopEvent_iff.mp (hstops.2 event List.mem_cons_self) with rfl | rfl | rfl | rfl
      · exact absurd rfl hevent
      · rcases hbefore with ⟨hstage, hnone, -⟩ | ⟨hstage, hnone, -⟩ | ⟨hstage, hsome⟩
        · exact Or.inr (Or.inl ⟨by rw [hstage]; rfl, by simp_all, .stopRequested, Or.inr rfl, Or.inl rfl⟩)
        · exact Or.inr (Or.inl ⟨by rw [hstage]; rfl, by simp_all, .stopRequested, Or.inr rfl, Or.inl rfl⟩)
        · exact Or.inr (Or.inr ⟨by rw [hstage]; rfl, Or.inl hsome⟩)
      · rcases hbefore with ⟨hstage, hnone, -⟩ | ⟨hstage, hnone, -⟩ | ⟨hstage, hsome⟩
        · exact Or.inr (Or.inl ⟨by rw [hstage]; rfl, by simp_all, .profileStateUnknown, Or.inr rfl, Or.inr rfl⟩)
        · exact Or.inr (Or.inl ⟨by rw [hstage]; rfl, by simp_all, .profileStateUnknown, Or.inr rfl, Or.inr rfl⟩)
        · exact Or.inr (Or.inr ⟨by rw [hstage]; rfl, Or.inl hsome⟩)
      · rcases hbefore with ⟨hstage, -⟩ | ⟨hstage, -⟩ | ⟨hstage, -⟩
        · exact absurd (hdeadline rfl) (by rw [hstage]; decide)
        · exact Or.inr (Or.inr ⟨by rw [hstage]; rfl, Or.inr rfl⟩)
        · exact absurd (hdeadline rfl) (by rw [hstage]; decide)

/-- The wait that an event was waited for in. -/
theorem sessionEvents_split {trace : LifecycleTrace} {first rest : List LifecycleEvent} {event : LifecycleEvent}
    (h : sessionEvents trace = first ++ event :: rest) :
    ∃ before mode behind, trace = before ++ ⟨.wait mode, event⟩ :: behind ∧ sessionEvents before = first := by
  induction trace generalizing first with
  | nil => exact absurd h (by simp)
  | cons call trace ih =>
      have hskip : sessionEvents (call :: trace) = sessionEvents trace →
          (∀ before, sessionEvents (call :: before) = sessionEvents before) →
          ∃ before mode behind, call :: trace = before ++ ⟨.wait mode, event⟩ :: behind ∧
            sessionEvents before = first := by
        intro hsame hall
        obtain ⟨before, mode, behind, rfl, rfl⟩ := ih (hsame.symm.trans h)
        exact ⟨call :: before, mode, behind, rfl, hall before⟩
      obtain ⟨request, answer⟩ := call
      cases request with
      | wait mode =>
          by_cases hlost : answer = .controllerLost
          · subst hlost
            exact hskip sessionEvents_controllerLost fun _ => sessionEvents_controllerLost
          · rw [sessionEvents_wait hlost] at h
            cases first with
            | nil =>
                obtain ⟨rfl, -⟩ := List.cons.inj h
                exact ⟨[], mode, trace, rfl, rfl⟩
            | cons head first =>
                obtain ⟨rfl, htail⟩ := List.cons.inj h
                obtain ⟨before, mode', behind, rfl, rfl⟩ := ih htail
                exact ⟨⟨.wait mode, answer⟩ :: before, mode', behind, rfl, sessionEvents_wait hlost⟩
      | _ => exact hskip rfl fun _ => rfl

end Kill

theorem stopRequests_split {trace : LifecycleTrace} {request : StopRequest} (h : request ∈ stopRequests trace) :
    ∃ before succeeded behind, trace = before ++ ⟨.requestStop request, succeeded⟩ :: behind := by
  obtain ⟨⟨call, answer⟩, hcall, hrequested⟩ := List.mem_filterMap.mp h
  obtain ⟨before, behind, rfl⟩ := List.append_of_mem hcall
  cases call with
  | requestStop asked =>
      obtain rfl := Option.some.inj hrequested
      exact ⟨before, answer, behind, rfl⟩
  | _ => exact nomatch hrequested

/-- A stop to kill is always caused as the policy says if and only if no first interrupt meets a Workload
that was stopped otherwise and has still time. -/
theorem runSessionLifecycle_kills_iff {rounds : Nat} {trace : LifecycleTrace} {result : Option SessionOutcome}
    (h : Run (runSessionLifecycle rounds) trace result) :
    (∀ first succeeded rest, trace = first ++ ⟨.requestStop .kill, succeeded⟩ :: rest → KillCaused first) ↔
      ¬ InterruptedStop (sessionEvents trace) := by
  constructor
  · rintro hcaused ⟨first, rest, hevents, hactive, hinterrupt, hdeadline, htrigger⟩
    obtain ⟨before, mode, behind, rfl, rfl⟩ := sessionEvents_split hevents
    obtain ⟨before, asked, more, current, next, rfl, rfl, hrounds, rfl, hturn⟩ := run_wait h
    have hhistory := history_of_rounds hrounds
    change WhileActive (sessionEvents before) at hactive
    change .terminalInterrupt ∉ sessionEvents before at hinterrupt
    change .deadlineExpired ∉ sessionEvents before at hdeadline
    have hstate := hhistory.reached.state_of_whileActive hactive
    obtain ⟨-, hgraced, -, rfl⟩ := hhistory.reached.state_eq.2 hstate
    have hstage : stageAfter (sessionEvents before) = .terminateGrace := by
      rcases stages_without_interrupt hactive hgraced hinterrupt with ⟨-, -, hnone⟩ | ⟨hstage, -⟩ | ⟨-, hsome⟩
      · exact absurd htrigger hnone
      · exact hstage
      · exact absurd hsome hdeadline
    have hasks : (stageAfter (sessionEvents before)).request .terminalInterrupt = some .kill := by
      rw [hstage]
      rfl
    obtain ⟨succeeded, rfl⟩ := hturn.asks hstate rfl hasks
    have hfirst : sessionEvents (⟨.begin, true⟩ :: (before ++
        [⟨.wait (activeLoop (sessionEvents before)).waitMode, .terminalInterrupt⟩])) =
          sessionEvents before ++ [.terminalInterrupt] := sessionEvents_append
    rcases hcaused (⟨.begin, true⟩ :: (before ++
      [⟨.wait (activeLoop (sessionEvents before)).waitMode, .terminalInterrupt⟩])) succeeded more (by simp) with hcount | ⟨earlier, granted, later, hsplit, hexpired⟩
    · rw [hfirst, List.count_append, List.count_eq_zero.mpr hinterrupt] at hcount
      exact absurd hcount (by decide)
    · have hmem : .deadlineExpired ∈ sessionEvents before ++ [LifecycleEvent.terminalInterrupt] := by
        rw [← hfirst, hsplit, sessionEvents_append, sessionEvents_requestStop]
        exact List.mem_append_right _ hexpired
      rcases List.mem_append.mp hmem with hmem | hmem
      · exact hdeadline hmem
      · exact nomatch List.mem_singleton.mp hmem
  · rintro hnot first succeeded rest rfl
    obtain ⟨before, current, event, rfl, hhistory, hstate, hstops, hasks⟩ := run_requestStop h
    obtain ⟨hactive, hgraced, hrequests, hcurrent⟩ := hhistory.reached.state_eq.2 hstate
    rw [show current.stopStage = _ from congrArg LifecycleLoop.stopStage hcurrent] at hasks
    change (stageAfter (sessionEvents before)).request event = some .kill at hasks
    generalize current.waitMode = mode at *
    have hfirst : sessionEvents (⟨.begin, true⟩ :: (before ++ [⟨.wait mode, event⟩])) =
        sessionEvents before ++ [event] := by
      change sessionEvents (before ++ _) = _
      rw [sessionEvents_append, sessionEvents_wait (not_controllerLost_of_isStopEvent hstops), sessionEvents_nil]
    rcases LifecycleEvent.isStopEvent_iff.mp hstops with rfl | rfl | rfl | rfl
    · by_cases hinterrupt : .terminalInterrupt ∈ sessionEvents before
      · refine Or.inl ?_
        rw [hfirst, List.count_append]
        exact Nat.add_le_add (List.count_pos_iff.mpr hinterrupt) (Nat.le_refl 1)
      · rcases stages_without_interrupt hactive hgraced hinterrupt with
          ⟨hstage, -⟩ | ⟨-, hdeadline, htrigger⟩ | ⟨hstage, -⟩
        · rw [hstage] at hasks
          exact nomatch hasks
        · refine absurd ⟨sessionEvents before, sessionEvents rest, ?_, hactive, hinterrupt, hdeadline, htrigger⟩ hnot
          rw [sessionEvents_append, hfirst, sessionEvents_requestStop, List.append_assoc, List.singleton_append]
        · rw [hstage] at hasks
          exact nomatch hasks
    · generalize stageAfter (sessionEvents before) = stage at hasks
      cases stage <;> exact nomatch hasks
    · generalize stageAfter (sessionEvents before) = stage at hasks
      cases stage <;> exact nomatch hasks
    · have hstage : stageAfter (sessionEvents before) = .terminateGrace := by
        generalize stageAfter (sessionEvents before) = stage at hasks
        cases stage <;> first | rfl | exact nomatch hasks
      have hterminate : .terminate ∈ stopRequests before := by
        rw [hrequests]
        exact terminate_mem_requestsFrom (by decide) hstage
      obtain ⟨earlier, granted, later, rfl⟩ := stopRequests_split hterminate
      refine Or.inr ⟨⟨.begin, true⟩ :: earlier, granted, later ++ [⟨.wait mode, .deadlineExpired⟩], ?_, ?_⟩
      · simp
      · rw [sessionEvents_append]
        exact List.mem_append_right _ List.mem_cons_self

/-- An interrupt and a stop: the second interrupt kills, as the policy says. -/
theorem runSessionLifecycle_kills_iff_interrupted : ∃ trace, Run (runSessionLifecycle 4) trace none ∧
    .kill ∈ stopRequests trace ∧ ∀ first succeeded rest,
      trace = first ++ ⟨.requestStop .kill, succeeded⟩ :: rest → KillCaused first := by
  let trace : LifecycleTrace := [⟨.begin, true⟩, ⟨.wait .indefinitely, .activated 7⟩,
    ⟨.wait .indefinitely, .terminalInterrupt⟩, ⟨.wait .fiveSeconds, .stopRequested⟩,
    ⟨.wait .fiveSeconds, .terminalInterrupt⟩, ⟨.requestStop .kill, true⟩]
  have hrun : Run (runSessionLifecycle 4) trace none := run_of_follow (by decide)
  refine ⟨trace, hrun, by decide, (runSessionLifecycle_kills_iff hrun).mpr ?_⟩
  rintro ⟨first, rest, hevents, -, hinterrupt, -, trigger, htrigger, hkind⟩
  rcases first with _ | ⟨activated, _ | ⟨interrupt, first⟩⟩
  · exact nomatch htrigger
  · obtain ⟨rfl, -⟩ := List.cons.inj hevents
    rw [List.mem_singleton.mp htrigger] at hkind
    rcases hkind with h | h <;> cases h
  · obtain ⟨-, hbehind⟩ := List.cons.inj hevents
    obtain ⟨rfl, -⟩ := List.cons.inj hbehind
    exact hinterrupt (List.mem_cons_of_mem _ List.mem_cons_self)

/-- The first interrupt after a Controller's stop kills the Workload at once. -/
theorem runSessionLifecycle_kills_first_interrupt : ∃ trace outcome,
    Run (runSessionLifecycle 6) trace (some outcome) ∧
      ¬ ∀ first succeeded rest, trace = first ++ ⟨.requestStop .kill, succeeded⟩ :: rest → KillCaused first := by
  let outcome : SessionOutcome := ⟨some ⟨.signaled, 9⟩, []⟩
  let before : LifecycleTrace := [⟨.begin, true⟩, ⟨.wait .indefinitely, .activated 7⟩,
    ⟨.wait .indefinitely, .stopRequested⟩, ⟨.requestStop .terminate, true⟩,
    ⟨.wait .fiveSeconds, .terminalInterrupt⟩]
  let behind : LifecycleTrace := [⟨.wait .indefinitely, .workloadSignaled 9⟩, ⟨.wait .indefinitely, .cleanupSucceeded⟩,
    ⟨.reapLauncher, true⟩, ⟨.finalize, true⟩, ⟨.publishOutcome outcome, ()⟩]
  have hrun : Run (runSessionLifecycle 6) (before ++ ⟨.requestStop .kill, true⟩ :: behind) (some outcome) :=
    run_of_follow (by decide)
  refine ⟨_, outcome, hrun, fun hcaused => ?_⟩
  rcases hcaused before true behind rfl with hcount | ⟨earlier, granted, later, hsplit, hexpired⟩
  · exact absurd hcount (by decide)
  · have hmem : .deadlineExpired ∈ sessionEvents before := by
      rw [hsplit, sessionEvents_append, sessionEvents_requestStop]
      exact List.mem_append_right _ hexpired
    exact absurd hmem (by decide)

end NetLagLab
