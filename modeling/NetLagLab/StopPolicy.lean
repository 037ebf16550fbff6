import Mathlib.Data.List.Count
import NetLagLab.SessionLifecycle

/-! How a Session is stopped, as a policy on the events alone: the first interrupt of the terminal begins a
grace period, a stop of the Controller or an unknown profile begins the next one with a request to
terminate, and an expired period or another interrupt goes on from there, at last to a request to kill. -/

namespace NetLagLab

namespace LifecycleEvent

/-- What makes a running Workload stop. -/
def isTrigger : LifecycleEvent → Bool
  | .terminalInterrupt | .stopRequested | .profileStateUnknown => true
  | _ => false

/-- What concerns the stop of a running Workload. -/
def isStopEvent (event : LifecycleEvent) : Bool := event.isTrigger || decide (event = .deadlineExpired)

/-- What may still arrive when the Workload has ended. -/
def isLate : LifecycleEvent → Bool
  | .terminalInterrupt | .stopRequested => true
  | _ => false

theorem isStopEvent_iff {event : LifecycleEvent} : event.isStopEvent = true ↔
    event = .terminalInterrupt ∨ event = .stopRequested ∨ event = .profileStateUnknown ∨
      event = .deadlineExpired := by
  cases event <;> simp [isStopEvent, isTrigger]

theorem isLate_iff {event : LifecycleEvent} :
    event.isLate = true ↔ event = .terminalInterrupt ∨ event = .stopRequested := by
  cases event <;> simp [isLate]

/-- The result of a Workload that ends with the event. -/
def workloadResult : LifecycleEvent → Option WorkloadResult
  | .workloadExited value => some ⟨.exited, value⟩
  | .workloadSignaled value => some ⟨.signaled, value⟩
  | _ => none

end LifecycleEvent

/-- The end of the Workload is no stop. -/
theorem not_isStopEvent_of_workloadResult {event : LifecycleEvent} {result : WorkloadResult}
    (h : event.workloadResult = some result) : event.isStopEvent = false := by
  cases event <;> first | rfl | exact nomatch h

namespace StopStage

/-- The stage after an event. -/
def after : StopStage → LifecycleEvent → StopStage
  | .none, .terminalInterrupt => .interruptGrace
  | .none, .stopRequested => .terminateGrace
  | .none, .profileStateUnknown => .terminateGrace
  | .interruptGrace, .terminalInterrupt => .killRequested
  | .interruptGrace, .deadlineExpired => .terminateGrace
  | .terminateGrace, .terminalInterrupt => .killRequested
  | .terminateGrace, .deadlineExpired => .killRequested
  | stage, _ => stage

/-- The request that takes the Session to another stage. -/
def request (stage : StopStage) (event : LifecycleEvent) : Option StopRequest :=
  if stage.after event = stage then Option.none
  else
    match stage.after event with
    | .terminateGrace => some .terminate
    | .killRequested => some .kill
    | _ => Option.none

/-- The requests that are still to come at most. -/
def requestsLeft : StopStage → List StopRequest
  | .none | .interruptGrace => [.terminate, .kill]
  | .terminateGrace => [.kill]
  | .killRequested => []

/-- The periods that have to expire before the request to kill, once the Session stops. -/
def deadlinesLeft : StopStage → Nat
  | .none | .interruptGrace => 2
  | .terminateGrace => 1
  | .killRequested => 0

end StopStage

/-- The stage after events, from another stage on. -/
def stageFrom (stage : StopStage) (events : List LifecycleEvent) : StopStage := events.foldl StopStage.after stage

/-- The stage after the events of a Session. -/
def stageAfter (events : List LifecycleEvent) : StopStage := stageFrom .none events

/-- The requests that events lead to. -/
def requestsFrom : StopStage → List LifecycleEvent → List StopRequest
  | _, [] => []
  | stage, event :: events => (stage.request event).toList ++ requestsFrom (stage.after event) events

section Policy

variable {stage : StopStage} {event : LifecycleEvent} {events first rest : List LifecycleEvent}

@[simp] theorem stageFrom_nil : stageFrom stage [] = stage := rfl

@[simp] theorem stageFrom_cons : stageFrom stage (event :: events) = stageFrom (stage.after event) events := rfl

@[simp] theorem stageFrom_append : stageFrom stage (first ++ rest) = stageFrom (stageFrom stage first) rest :=
  List.foldl_append

theorem stageAfter_append : stageAfter (first ++ rest) = stageFrom (stageAfter first) rest := stageFrom_append

theorem requestsFrom_append :
    requestsFrom stage (first ++ rest) = requestsFrom stage first ++ requestsFrom (stageFrom stage first) rest := by
  induction first generalizing stage with
  | nil => rfl
  | cons event first ih =>
      rw [List.cons_append, requestsFrom, requestsFrom, ih, List.append_assoc, stageFrom_cons]

@[simp] theorem after_killRequested : StopStage.killRequested.after event = .killRequested := by
  cases event <;> rfl

@[simp] theorem stageFrom_killRequested : stageFrom .killRequested events = .killRequested := by
  induction events with
  | nil => rfl
  | cons event events ih => rw [stageFrom_cons, after_killRequested, ih]

theorem after_ne_none (h : stage ≠ .none) : stage.after event ≠ .none := by
  cases stage with
  | none => exact absurd rfl h
  | _ => cases event <;> simp [StopStage.after]

theorem stageFrom_ne_none (h : stage ≠ .none) : stageFrom stage events ≠ .none := by
  induction events generalizing stage with
  | nil => exact h
  | cons event events ih => exact ih (after_ne_none h)

theorem deadlinesLeft_after (h : stage ≠ .none) :
    (stage.after event).deadlinesLeft =
      match event with
      | .terminalInterrupt => 0
      | .deadlineExpired => stage.deadlinesLeft - 1
      | _ => stage.deadlinesLeft := by
  cases stage with
  | none => exact absurd rfl h
  | _ => cases event <;> rfl

theorem deadlinesLeft_after_le (h : stage ≠ .none) :
    (stage.after event).deadlinesLeft ≤ stage.deadlinesLeft - if event = .deadlineExpired then 1 else 0 := by
  rw [deadlinesLeft_after h]
  cases event <;> simp

theorem eq_killRequested_iff (h : stage ≠ .none) : stage = .killRequested ↔ stage.deadlinesLeft = 0 := by
  cases stage with
  | none => exact absurd rfl h
  | _ => decide

/-- A stage that is farther stays so. -/
theorem deadlinesLeft_stageFrom_mono {other : StopStage} (hstage : stage ≠ .none) (hother : other ≠ .none)
    (h : other.deadlinesLeft ≤ stage.deadlinesLeft) :
    (stageFrom other events).deadlinesLeft ≤ (stageFrom stage events).deadlinesLeft := by
  induction events generalizing stage other with
  | nil => exact h
  | cons event events ih =>
      apply ih (after_ne_none hstage) (after_ne_none hother)
      rw [deadlinesLeft_after hstage, deadlinesLeft_after hother]
      split <;> omega

/-! ### Requests -/

theorem request_toList_append_requestsLeft :
    ((stage.request event).toList ++ (stage.after event).requestsLeft).Sublist stage.requestsLeft := by
  cases stage <;> cases event <;> simp [StopStage.after, StopStage.request, StopStage.requestsLeft]

/-- A request to kill is the last, and every request is made once at most. -/
theorem requestsFrom_sublist : (requestsFrom stage events).Sublist stage.requestsLeft := by
  induction events generalizing stage with
  | nil => exact List.nil_sublist _
  | cons event events ih => exact (ih.append_left _).trans request_toList_append_requestsLeft

theorem mem_request_iff {request : StopRequest} : request ∈ (stage.request event).toList ↔
    stage.after event ≠ stage ∧
      stage.after event = (match request with | .terminate => .terminateGrace | .kill => .killRequested) := by
  cases stage <;> cases event <;> cases request <;> simp [StopStage.after, StopStage.request]

/-- Whoever has come to the last stage has requested to kill. -/
theorem kill_mem_requestsFrom (hstage : stage ≠ .killRequested) :
    .kill ∈ requestsFrom stage events ↔ stageFrom stage events = .killRequested := by
  induction events generalizing stage with
  | nil => exact ⟨(fun h => nomatch h), fun h => absurd h hstage⟩
  | cons event events ih =>
      rw [requestsFrom, stageFrom_cons, List.mem_append, mem_request_iff]
      by_cases hkill : stage.after event = .killRequested
      · rw [hkill, stageFrom_killRequested]
        exact ⟨fun _ => rfl, fun _ => Or.inl ⟨hstage.symm, rfl⟩⟩
      · rw [ih hkill]
        exact or_iff_right fun h => hkill h.2

theorem terminate_mem_requestsFrom (hstage : stage ≠ .terminateGrace)
    (h : stageFrom stage events = .terminateGrace) : .terminate ∈ requestsFrom stage events := by
  induction events generalizing stage with
  | nil => exact absurd h hstage
  | cons event events ih =>
      rw [requestsFrom, List.mem_append, mem_request_iff]
      by_cases hnext : stage.after event = .terminateGrace
      · exact Or.inl ⟨hnext ▸ hstage.symm, hnext⟩
      · exact Or.inr (ih hnext h)

/-! ### Progress -/

/-- Once the Session stops, the periods left lead to the request to kill, whatever else happens. -/
theorem stageFrom_of_deadlines (hstage : stage ≠ .none)
    (h : stage.deadlinesLeft ≤ events.count .deadlineExpired) : stageFrom stage events = .killRequested := by
  induction events generalizing stage with
  | nil => exact (eq_killRequested_iff hstage).mpr (Nat.le_zero.mp h)
  | cons event events ih =>
      have hleft : (stage.after event).deadlinesLeft ≤ _ := deadlinesLeft_after_le hstage
      apply ih (after_ne_none hstage)
      rw [List.count_cons] at h
      simp only [beq_iff_eq] at h
      omega

/-- Once the Session stops, one more event delays nothing. -/
theorem stageFrom_insert (hstage : stage ≠ .none) (extra : LifecycleEvent)
    (h : stageFrom stage (first ++ rest) = .killRequested) :
    stageFrom stage (first ++ extra :: rest) = .killRequested := by
  have hfirst : stageFrom stage first ≠ .none := stageFrom_ne_none hstage
  have hextra : ((stageFrom stage first).after extra).deadlinesLeft ≤ (stageFrom stage first).deadlinesLeft :=
    Nat.le_trans (deadlinesLeft_after_le hfirst) (Nat.sub_le _ _)
  rw [stageFrom_append, eq_killRequested_iff (stageFrom_ne_none hfirst)] at h
  rw [stageFrom_append, stageFrom_cons, eq_killRequested_iff (stageFrom_ne_none (after_ne_none hfirst))]
  have hle : _ ≤ (stageFrom (stageFrom stage first) rest).deadlinesLeft :=
    deadlinesLeft_stageFrom_mono hfirst (after_ne_none hfirst) hextra
  rw [h] at hle
  exact Nat.le_zero.mp hle

end Policy

end NetLagLab
