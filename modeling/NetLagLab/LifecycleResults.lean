import NetLagLab.LifecycleHistory

/-! The outcome of a Session: when it counts as a success, and what becomes of the Workload's result. -/

namespace NetLagLab

open CallPrograms CallPrograms.Program

/-- The events of a Session without failures. -/
def CleanSession (events : List LifecycleEvent) : Prop :=
  (∃ pid stops terminal result late, events = .activated pid :: stops ++ terminal :: late ++ [.cleanupSucceeded] ∧
      (∀ event ∈ stops, event = .terminalInterrupt ∨ event = .stopRequested ∨ event = .deadlineExpired) ∧
      DeadlinesGraced (.activated pid :: stops) ∧ terminal.workloadResult = some result ∧
      ∀ event ∈ late, event = .terminalInterrupt ∨ event = .stopRequested) ∨
    ∃ value late, (value = 126 ∨ value = 127) ∧ events = .activationFailed value :: late ++ [.cleanupSucceeded] ∧
      ∀ event ∈ late, event = .terminalInterrupt ∨ event = .stopRequested

/-- The outcome with what failed at the end. -/
def SessionOutcome.concluded (outcome : SessionOutcome) (reaped finalized : Bool) : SessionOutcome :=
  let outcome := if reaped = true then outcome else outcome.fail .launcherReaping
  if finalized = true then outcome else outcome.fail .supervisorCleanup

section Concluded

variable {outcome : SessionOutcome} {reaped finalized : Bool}

@[simp] theorem workload_concluded : (outcome.concluded reaped finalized).workload = outcome.workload := by
  cases reaped <;> cases finalized <;> rfl

theorem infrastructureSucceeded_concluded :
    (outcome.concluded reaped finalized).infrastructureSucceeded = true ↔
      outcome.infrastructureSucceeded = true ∧ reaped = true ∧ finalized = true := by
  cases reaped <;> cases finalized <;> simp [SessionOutcome.concluded]

end Concluded

section Runs

variable {rounds : Nat} {trace : LifecycleTrace} {outcome : SessionOutcome}

theorem run_concludeSession {final : SessionOutcome} (h : Run (concludeSession outcome) trace final) :
    ∃ reaped finalized, final = outcome.concluded reaped finalized ∧
      trace = [⟨.reapLauncher, reaped⟩, ⟨.finalize, finalized⟩, ⟨.publishOutcome final, ()⟩] := by
  obtain ⟨reaped, afterReaping, rfl, hreaped⟩ := run_call.mp h
  obtain ⟨finalized, afterCleanup, rfl, hfinalized⟩ := run_call.mp hreaped
  obtain ⟨published, nothing, rfl, hpublished⟩ := run_call.mp hfinalized
  obtain ⟨rfl, rfl⟩ := run_done.mp hpublished
  exact ⟨reaped, finalized, rfl, rfl⟩

/-- A lifecycle that has ended failed to begin or left its loop by a last turn. -/
theorem run_runSessionLifecycle (h : Run (runSessionLifecycle rounds) trace (some outcome)) :
    ∃ ended rest, Run (concludeSession ended) rest outcome ∧
      ((trace = ⟨.begin, false⟩ :: rest ∧ ended = SessionOutcome.fail {} .start) ∨
        ∃ between current event leaving, trace =
            ⟨.begin, true⟩ :: (between ++ ⟨.wait current.waitMode, event⟩ :: leaving ++ rest) ∧
          Rounds LifecycleLoop.round {} between current ∧ current.Turn event leaving (.inr ended)) := by
  obtain ⟨began, rest, rfl, hrest⟩ := run_call.mp h
  cases began with
  | false =>
      change Run (concludeSession (SessionOutcome.fail {} .start) >>= fun final => .done (some final)) rest _ at hrest
      obtain ⟨conclusion, final, nothing, rfl, hconclusion, hnothing⟩ := run_bind.mp hrest
      obtain ⟨rfl, hfinal⟩ := run_done.mp hnothing
      obtain rfl := Option.some.inj hfinal
      exact ⟨_, conclusion, hconclusion, Or.inl ⟨by rw [List.append_nil], rfl⟩⟩
  | true =>
      change Run (loop LifecycleLoop.round rounds {} >>= _) rest _ at hrest
      obtain ⟨during, ended, last, rfl, hloop, hlast⟩ := run_bind.mp hrest
      rcases run_loop hloop with ⟨rfl, -⟩ | ⟨ended, current, between, leaving, rfl, rfl, hrounds, hleave⟩
      · exact nomatch (run_done.mp hlast).2
      · obtain ⟨conclusion, final, nothing, rfl, hconclusion, hnothing⟩ := run_bind.mp hlast
        obtain ⟨rfl, hfinal⟩ := run_done.mp hnothing
        obtain rfl := Option.some.inj hfinal
        obtain ⟨event, leaving, rfl, hturn⟩ := LifecycleLoop.run_round hleave
        refine ⟨ended, conclusion, hconclusion, Or.inr ⟨between, current, event, leaving, ?_, hrounds, hturn⟩⟩
        rw [List.append_nil]

end Runs

/-! ### Events and results -/

section Events

variable {events first rest : List LifecycleEvent} {requests : List StopRequest} {current : LifecycleLoop}
  {event terminal : LifecycleEvent} {result : WorkloadResult}

/-- A running Workload has only one end. -/
theorem WhileActive.append_cons_inj {first' rest' : List LifecycleEvent} {terminal' : LifecycleEvent}
    (h : WhileActive first) (h' : WhileActive first') (hterminal : terminal.isStopEvent = false)
    (hterminal' : terminal'.isStopEvent = false) (heq : first ++ terminal :: rest = first' ++ terminal' :: rest') :
    first = first' ∧ terminal = terminal' ∧ rest = rest' := by
  have hnot : ∀ {events between : List LifecycleEvent} {last : LifecycleEvent}, WhileActive events →
      WhileActive (events ++ last :: between) → last.isStopEvent = true := by
    rintro events between last ⟨pid, stops, rfl, -⟩ ⟨pid', stops', heq, hall⟩
    obtain ⟨-, rfl⟩ := List.cons.inj heq
    exact hall last (List.mem_append_right _ List.mem_cons_self)
  rcases List.append_eq_append_iff.mp heq with ⟨between, rfl, hrest⟩ | ⟨between, rfl, hrest⟩
  · cases between with
    | nil =>
        obtain ⟨rfl, rfl⟩ := List.cons.inj hrest
        exact ⟨(List.append_nil first).symm, rfl, rfl⟩
    | cons last between =>
        obtain ⟨rfl, -⟩ := List.cons.inj hrest
        exact absurd (hnot h h') (by rw [hterminal]; decide)
  · cases between with
    | nil =>
        obtain ⟨rfl, rfl⟩ := List.cons.inj hrest
        exact ⟨List.append_nil first', rfl, rfl⟩
    | cons last between =>
        obtain ⟨rfl, -⟩ := List.cons.inj hrest
        exact absurd (hnot h' h) (by rw [hterminal']; decide)

theorem WhileActive.not_append_terminal (h : WhileActive (first ++ terminal :: rest)) (hfirst : first ≠ [])
    (hterminal : terminal.isStopEvent = false) : False := by
  obtain ⟨pid, stops, heq, hall⟩ := h
  cases first with
  | nil => exact hfirst rfl
  | cons head first =>
      obtain ⟨-, rfl⟩ := List.cons.inj heq
      exact absurd (hall terminal (List.mem_append_right _ List.mem_cons_self)) (by rw [hterminal]; decide)

theorem WhileActive.ne_nil (h : WhileActive events) : events ≠ [] := by
  obtain ⟨pid, stops, rfl, -⟩ := h
  exact List.cons_ne_nil _ _

/-- A running Workload is known to run. -/
theorem Reached.state_of_whileActive (h : Reached events requests current) (hactive : WhileActive events) :
    current.state = .active := by
  cases h with
  | waiting => exact absurd rfl hactive.ne_nil
  | active => rfl
  | failed value islate =>
      obtain ⟨pid, stops, heq, -⟩ := hactive
      exact nomatch (List.cons.inj heq).1
  | ended hfirst hgraced hends islate =>
      exact (hactive.not_append_terminal hfirst.ne_nil (not_isStopEvent_of_workloadResult hends)).elim

/-- The result of the Workload is kept once it has ended. -/
theorem Reached.workload (h : Reached (first ++ terminal :: rest) requests current) (hactive : WhileActive first)
    (hends : terminal.workloadResult = some result) : current.outcome.workload = some result := by
  have hterminal := not_isStopEvent_of_workloadResult hends
  generalize hevents : first ++ terminal :: rest = events at h
  cases h with
  | waiting => exact absurd hevents (by simp)
  | active hall => exact ((hevents ▸ hall).not_append_terminal hactive.ne_nil hterminal).elim
  | failed value islate =>
      obtain ⟨pid, stops, rfl, -⟩ := hactive
      exact nomatch (List.cons.inj hevents).1
  | ended hfirst hgraced hends' islate =>
      obtain ⟨-, rfl, -⟩ :=
        hactive.append_cons_inj hfirst hterminal (not_isStopEvent_of_workloadResult hends') hevents
      exact hends'.symm.trans hends

/-- A Workload that was started or was not has a result, unless something failed. -/
theorem Reached.workload_isSome (h : Reached events requests current) (hstate : current.state = .waitingForCleanup)
    (hsucceeded : current.outcome.infrastructureSucceeded = true) : ∃ result, current.outcome.workload = some result := by
  cases h with
  | waiting => exact nomatch hstate
  | active => exact nomatch hstate
  | failed value islate =>
      unfold LifecycleLoop.activationFailed at hsucceeded ⊢
      split
      · exact ⟨_, rfl⟩
      · rw [if_neg ‹_›] at hsucceeded
        exact nomatch hsucceeded
  | ended => exact ⟨_, rfl⟩

end Events

section ExitStatus

variable {outcome : SessionOutcome}

end ExitStatus

/-! ### The end of the Session -/

/-- How the last turn leaves the loop. -/
structure Leaves (current : LifecycleLoop) (event : LifecycleEvent) (leaving : LifecycleTrace)
    (ended : SessionOutcome) : Prop where
  workload : ended.workload = current.outcome.workload
  succeeded : ended.infrastructureSucceeded = true ↔ event = .cleanupSucceeded ∧
    current.state = .waitingForCleanup ∧ current.outcome.infrastructureSucceeded = true
  granted : event = .cleanupSucceeded → leaving = []
  calls : ∀ call ∈ leaving, InLoop call
  events : sessionEvents (⟨.wait current.waitMode, event⟩ :: leaving) = [event]
  running : current.state = .active → event.workloadResult = none

theorem LifecycleLoop.Turn.leaves {current : LifecycleLoop} {event : LifecycleEvent} {leaving : LifecycleTrace}
    {ended : SessionOutcome} (h : current.Turn event leaving (.inr ended)) :
    Leaves current event leaving ended := by
  cases h with
  | conversationLost =>
      exact ⟨rfl, by simp, (fun h => nomatch h), (fun _ hmem => nomatch hmem), rfl, fun _ => rfl⟩
  | cleanupFailed =>
      exact ⟨rfl, by simp, (fun h => nomatch h), (fun _ hmem => nomatch hmem), rfl, fun _ => rfl⟩
  | refused state stops graced asks =>
      have hevent : event ≠ .cleanupSucceeded := by
        rintro rfl
        exact absurd stops (by decide)
      refine ⟨?_, by simp [hevent], fun heq => absurd heq hevent, List.forall_mem_singleton.mpr trivial, ?_, ?_⟩
      · rw [SessionOutcome.workload_fail, advance]
        split <;> rfl
      · rw [sessionEvents_wait (not_controllerLost_of_isStopEvent stops)]
        rfl
      · intro _
        rcases LifecycleEvent.isStopEvent_iff.mp stops with rfl | rfl | rfl | rfl <;> rfl
  | cleanupSucceeded state =>
      exact ⟨rfl, by simp [state], fun _ => rfl, (fun _ hmem => nomatch hmem), rfl, fun _ => rfl⟩
  | invalid unhandled =>
      have hevent : event ≠ .controllerLost := by
        rintro rfl
        exact unhandled trivial
      refine ⟨rfl, ?_, fun _ => rfl, (fun _ hmem => nomatch hmem), ?_, ?_⟩
      · rw [SessionOutcome.infrastructureSucceeded_fail]
        refine ⟨(fun h => nomatch h), ?_⟩
        rintro ⟨rfl, hstate, -⟩
        exact absurd hstate unhandled
      · rw [sessionEvents_wait hevent]
        rfl
      · intro hstate
        cases event with
        | workloadExited value => exact absurd hstate unhandled
        | workloadSignaled value => exact absurd hstate unhandled
        | _ => rfl

theorem CleanSession.last {events : List LifecycleEvent} {event : LifecycleEvent}
    (h : CleanSession (events ++ [event])) : event = .cleanupSucceeded := by
  rcases h with ⟨pid, stops, terminal, result, late, heq, -⟩ | ⟨value, late, -, heq, -⟩
  · exact List.singleton_inj.mp (List.append_inj' heq rfl).2
  · exact List.singleton_inj.mp (List.append_inj' heq rfl).2

end NetLagLab
