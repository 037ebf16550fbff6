import Mathlib.Data.List.Induction
import NetLagLab.LifecycleSafety

/-! The deadlines of a Session that stops. A grace period is timed from the reading of the clock with which its
first wait without a queued event begins, whatever else happens in it, and no deadline outlives its period. -/

namespace NetLagLab

open ByteLines CallPrograms CallPrograms.Program ProductionLifecycleAdapter

/-! ### The stage and its first wait -/

/-- The events of waits but the losses of Controllers. -/
def waitedEvents (waits : List WaitRecord) : List LifecycleEvent :=
  (waits.map WaitRecord.event).filter fun event => event ≠ .controllerLost

/-- The stage of a stop, and the reading of the clock with which the first wait began that had no queued event
in this stage. -/
structure StageClock where
  stage : StopStage := .none
  opened : Option Int := none
  deriving DecidableEq

namespace StageClock

/-- The reading after another wait of the same stage. -/
def openedWith (clock : StageClock) (wait : WaitRecord) : Option Int := clock.opened.or wait.entered

def after (clock : StageClock) (wait : WaitRecord) : StageClock where
  stage := clock.stage.after wait.event
  opened := if clock.stage.after wait.event = clock.stage then clock.openedWith wait else none

end StageClock

def stageClock (waits : List WaitRecord) : StageClock := waits.foldl StageClock.after {}

/-- The clock when an iteration returns its event. -/
def WaitTurn.finished (turn : WaitTurn) (deadline : Option Int) : Int :=
  if expired deadline turn.now = true then turn.now else turn.returned

def WaitRecord.finished (wait : WaitRecord) : Option Int :=
  wait.turns.getLast?.map fun turn => turn.finished wait.deadline

/-- A wait, after others, that keeps to the deadline of its grace period. -/
structure InTime (waits : List WaitRecord) (wait : WaitRecord) : Prop where
  /-- A deadline expires in a grace period only, and not before the period is over but for a millisecond. -/
  expires : wait.event = .deadlineExpired → GraceActive (waitedEvents waits) ∧
    ∃ opened finished, (stageClock waits).openedWith wait = some opened ∧ wait.finished = some finished ∧
      opened + gracePeriod - nanosecondsPerMillisecond < finished
  /-- The first iteration after that is the last one, and the deadline expires. -/
  overdue : GraceActive (waitedEvents waits) → ∀ opened, (stageClock waits).openedWith wait = some opened →
    ∀ before turn after, wait.turns = before ++ turn :: after →
      opened + gracePeriod - nanosecondsPerMillisecond < turn.now → after = [] ∧ wait.event = .deadlineExpired
  /-- After the end of the Workload none does. -/
  ended : (∃ earlier ∈ waits, earlier.event.workloadResult.isSome = true) → wait.event ≠ .deadlineExpired

section Clock

variable {waits : List WaitRecord} {wait : WaitRecord}

@[simp] theorem waitedEvents_nil : waitedEvents [] = [] := rfl

theorem waitedEvents_concat (waits : List WaitRecord) (wait : WaitRecord) :
    waitedEvents (waits ++ [wait]) = waitedEvents waits ++ sessionEvents [⟨.wait wait.mode, wait.event⟩] := by
  rw [waitedEvents, List.map_append, List.filter_append]
  rfl

theorem stageClock_concat (waits : List WaitRecord) (wait : WaitRecord) :
    stageClock (waits ++ [wait]) = (stageClock waits).after wait := by
  rw [stageClock, List.foldl_append]
  rfl

theorem stageAfter_concat (waits : List WaitRecord) (wait : WaitRecord) :
    stageAfter (waitedEvents (waits ++ [wait])) = (stageAfter (waitedEvents waits)).after wait.event := by
  rw [waitedEvents_concat, stageAfter_append]
  by_cases hlost : wait.event = .controllerLost
  · rw [hlost, sessionEvents_controllerLost, sessionEvents_nil, stageFrom_nil]
    cases stageAfter (waitedEvents waits) <;> rfl
  · rw [sessionEvents_wait hlost]
    rfl

theorem stage_stageClock (waits : List WaitRecord) : (stageClock waits).stage = stageAfter (waitedEvents waits) := by
  induction waits using List.reverseRecOn with
  | nil => rfl
  | append_singleton waits wait ih =>
      rw [stageClock_concat, stageAfter_concat, ← ih]
      rfl

/-- Whether a deadline has passed, but for less than a millisecond. -/
theorem expired_iff {deadline : Int} {now : Int} :
    expired (some deadline) now = true ↔ deadline - nanosecondsPerMillisecond < now := by
  change decide ((deadline - now).tdiv nanosecondsPerMillisecond ≤ 0) = true ↔ _
  rw [decide_eq_true_iff]
  unfold nanosecondsPerMillisecond
  by_cases hnow : now ≤ deadline
  · rw [Int.tdiv_eq_ediv_of_nonneg (Int.sub_nonneg_of_le hnow)]
    omega
  · have hnegative : (deadline - now).tdiv 1000000 ≤ 0 := by
      rw [show deadline - now = -(now - deadline) by omega, Int.neg_tdiv, Int.neg_nonpos_iff]
      exact Int.tdiv_nonneg (by omega) (by decide)
    exact ⟨fun _ => by omega, fun _ => hnegative⟩

/-- A poll that gives up has waited for the deadline, but for less than a millisecond. -/
theorem timedOut_late {deadline : Int} {turn : WaitTurn} (hpossible : Possible (some deadline) turn)
    (hresult : turn.result = .timedOut) (hexpired : ¬ expired (some deadline) turn.now = true) :
    deadline - nanosecondsPerMillisecond < turn.returned := by
  obtain ⟨milliseconds, hremaining, hreturned⟩ := hpossible hresult
  rw [expired_iff] at hexpired
  unfold nanosecondsPerMillisecond at hexpired hreturned ⊢
  have hdeadline : 0 ≤ deadline - turn.now := by omega
  have hmilliseconds : milliseconds = (deadline - turn.now) / 1000000 :=
    (Option.some.inj hremaining).symm.trans (Int.tdiv_eq_ediv_of_nonneg hdeadline)
  omega

end Clock

/-! ### One wait -/

section Wait

variable [DecimalText] {state : LifecycleState} {adapter after : ProductionLifecycleAdapter} {turns : List WaitTurn}
  {event : LifecycleEvent} {deadline : Int}

/-- An iteration with a deadline returns at the deadline or leaves it alone. -/
theorem waitTurn_deadline {turn : WaitTurn} (h : adapter.session.Coherent (some state))
    (hdeadline : adapter.deadline = some deadline) (hpossible : Possible adapter.deadline turn)
    (hturn : adapter.waitTurn turn = (after, some event)) :
    (event = .deadlineExpired → after.deadline = none ∧
        deadline - nanosecondsPerMillisecond < turn.finished adapter.deadline) ∧
      (event ≠ .deadlineExpired → after.deadline = adapter.deadline ∧
        ¬ deadline - nanosecondsPerMillisecond < turn.now) := by
  rw [hdeadline, WaitTurn.finished]
  rw [hdeadline] at hpossible
  unfold waitTurn at hturn
  rw [hdeadline] at hturn
  by_cases hexpired : expired (some deadline) turn.now = true
  · rw [if_pos hexpired] at hturn ⊢
    obtain ⟨rfl, hevent⟩ := Prod.mk.inj hturn
    obtain rfl := Option.some.inj hevent
    exact ⟨fun _ => ⟨rfl, expired_iff.mp hexpired⟩, fun hne => absurd rfl hne⟩
  · rw [if_neg hexpired] at hturn ⊢
    split at hturn
    · rename_i hresult
      obtain ⟨rfl, hevent⟩ := Prod.mk.inj hturn
      obtain rfl := Option.some.inj hevent
      exact ⟨fun _ => ⟨rfl, timedOut_late hpossible hresult hexpired⟩, fun hne => absurd rfl hne⟩
    · obtain ⟨rfl, hevent⟩ := Prod.mk.inj hturn
      obtain rfl := Option.some.inj hevent
      exact ⟨(fun h => nomatch h), fun _ => ⟨hdeadline, fun hlate => hexpired (expired_iff.mpr hlate)⟩⟩
    · rename_i input _
      unfold takePendingEvent at hturn
      split at hturn
      · exact nomatch hturn
      · rename_i next events hpending
        obtain ⟨rfl, hevent⟩ := Prod.mk.inj hturn
        obtain rfl := Option.some.inj hevent
        obtain ⟨hexpects, -⟩ := coherent_take (h.waitCycle input) hpending
        refine ⟨?_, fun _ => ⟨hdeadline, fun hlate => hexpired (expired_iff.mpr hlate)⟩⟩
        rintro rfl
        exact hexpects.elim

/-- The iterations of a wait with a deadline. -/
theorem polls_deadline (hpolls : Polls adapter turns event after) (h : adapter.session.Coherent (some state))
    (hdeadline : adapter.deadline = some deadline) :
    (event = .deadlineExpired → after.deadline = none ∧ ∃ turn, turns.getLast? = some turn ∧
        deadline - nanosecondsPerMillisecond < turn.finished adapter.deadline) ∧
      (event ≠ .deadlineExpired → after.deadline = adapter.deadline) ∧
      ∀ before turn later, turns = before ++ turn :: later → deadline - nanosecondsPerMillisecond < turn.now →
        later = [] ∧ event = .deadlineExpired := by
  induction hpolls with
  | last possible returns =>
      rename_i turn event
      obtain ⟨hexpires, hother⟩ := waitTurn_deadline h hdeadline possible returns
      refine ⟨fun hevent => ⟨(hexpires hevent).1, turn, rfl, (hexpires hevent).2⟩, fun hne => (hother hne).1, ?_⟩
      intro before turn' later hturns hnow
      cases before with
      | cons head before => exact absurd (List.cons.inj hturns).2 (by simp)
      | nil =>
          obtain ⟨rfl, rfl⟩ := List.cons.inj hturns
          refine ⟨rfl, ?_⟩
          by_contra hne
          exact (hother hne).2 hnow
  | more possible continues rest ih =>
      rename_i adapter middle after turn turns event
      obtain ⟨input, rfl, -⟩ := continues_waitTurn continues
      obtain ⟨hexpires, hother, hoverdue⟩ := ih (h.waitCycle input) hdeadline
      refine ⟨fun hevent => ?_, hother, ?_⟩
      · obtain ⟨hnone, last, hlast, hlate⟩ := hexpires hevent
        exact ⟨hnone, last, by rw [List.getLast?_cons, hlast]; rfl, hlate⟩
      · intro before turn' later hturns hnow
        cases before with
        | cons head before =>
            obtain ⟨-, hturns⟩ := List.cons.inj hturns
            exact hoverdue before turn' later hturns hnow
        | nil =>
            -- an iteration past the deadline does not go on
            obtain ⟨rfl, -⟩ := List.cons.inj hturns
            unfold waitTurn at continues
            rw [hdeadline, if_pos (expired_iff.mpr hnow)] at continues
            exact nomatch (Prod.mk.inj continues).2

theorem waitTurn_same {turn : WaitTurn} {returned : Option LifecycleEvent}
    (hturn : adapter.waitTurn turn = (after, returned)) :
    after.waits = adapter.waits ∧ (adapter.deadline = none → after.deadline = none) := by
  unfold waitTurn at hturn
  split at hturn
  · obtain ⟨rfl, -⟩ := Prod.mk.inj hturn
    exact ⟨rfl, fun _ => rfl⟩
  · split at hturn
    · obtain ⟨rfl, -⟩ := Prod.mk.inj hturn
      exact ⟨rfl, fun _ => rfl⟩
    · obtain ⟨rfl, -⟩ := Prod.mk.inj hturn
      exact ⟨rfl, id⟩
    · unfold takePendingEvent at hturn
      split at hturn
      · obtain ⟨rfl, -⟩ := Prod.mk.inj hturn
        exact ⟨rfl, id⟩
      · obtain ⟨rfl, -⟩ := Prod.mk.inj hturn
        exact ⟨rfl, id⟩

theorem polls_same (hpolls : Polls adapter turns event after) :
    after.waits = adapter.waits ∧ (adapter.deadline = none → after.deadline = none) := by
  induction hpolls with
  | last possible returns => exact waitTurn_same returns
  | more possible continues rest ih =>
      obtain ⟨hwaits, hnone⟩ := waitTurn_same continues
      exact ⟨ih.1.trans hwaits, fun hdeadline => ih.2 (hnone hdeadline)⟩

end Wait

/-! ### Every wait of a run -/

section Stages

variable {stage : StopStage} {event : LifecycleEvent}

/-- How a grace period is come to. -/
theorem stage_before_grace (h : (stage.after event).isGrace = true) :
    stage.after event = stage ∨ stage = .none ∨ stage = .interruptGrace ∧ event = .deadlineExpired := by
  cases stage with
  | none => exact Or.inr (Or.inl rfl)
  | killRequested => exact Or.inl after_killRequested
  | interruptGrace => cases event <;> simp_all [StopStage.after, StopStage.isGrace]
  | terminateGrace => cases event <;> simp_all [StopStage.after, StopStage.isGrace]

theorem after_deadlineExpired_ne (h : stage.isGrace = true) : stage.after .deadlineExpired ≠ stage := by
  cases stage with
  | none => exact nomatch h
  | killRequested => exact nomatch h
  | interruptGrace => decide
  | terminateGrace => decide

theorem WhileActive.of_append {first rest : List LifecycleEvent} (h : WhileActive (first ++ rest)) :
    first = [] ∨ WhileActive first := by
  obtain ⟨workloadPid, stops, heq, hstops⟩ := h
  cases first with
  | nil => exact Or.inl rfl
  | cons head first =>
      obtain ⟨rfl, rfl⟩ := List.cons.inj heq
      exact Or.inr ⟨workloadPid, first, rfl, fun event hevent => hstops event (List.mem_append_left _ hevent)⟩

end Stages

/-- The deadline at the head of the loop, and the waits so far. -/
structure Punctual (current : LifecycleLoop) (adapter : ProductionLifecycleAdapter) : Prop where
  reached : ∃ requests, Reached (waitedEvents adapter.waits) requests current
  coherent : adapter.session.Coherent (some current.state)
  quiet : waitedEvents adapter.waits = [] ∨ WhileActive (waitedEvents adapter.waits) →
    stageAfter (waitedEvents adapter.waits) = .none → adapter.deadline = none
  grace : GraceActive (waitedEvents adapter.waits) →
    adapter.deadline = (stageClock adapter.waits).opened.map (· + gracePeriod)
  inTime : ∀ first wait rest, adapter.waits = first ++ wait :: rest → InTime first wait

section Run

variable {current next : LifecycleLoop} {adapter after : ProductionLifecycleAdapter} {event : LifecycleEvent}
  {waits : List WaitRecord} {wait : WaitRecord} {trace : LifecycleTrace}

theorem not_whileActive_of_ended (h : ∃ earlier ∈ waits, earlier.event.workloadResult.isSome = true) :
    ¬ WhileActive (waitedEvents waits) := by
  rintro ⟨workloadPid, stops, hevents, hstops⟩
  obtain ⟨earlier, hmem, hends⟩ := h
  obtain ⟨result, hresult⟩ := Option.isSome_iff_exists.mp hends
  have hlost : earlier.event ≠ .controllerLost := by
    intro hlost
    rw [hlost] at hresult
    exact nomatch hresult
  have hwaited : earlier.event ∈ waitedEvents waits :=
    List.mem_filter.mpr ⟨List.mem_map_of_mem hmem, decide_eq_true hlost⟩
  rw [hevents] at hwaited
  rcases List.mem_cons.mp hwaited with hactivated | hstop
  · rw [hactivated] at hresult
    exact nomatch hresult
  · exact nomatch (not_isStopEvent_of_workloadResult hresult).symm.trans (hstops _ hstop)

/-- A wait that does not end with a deadline, and whose iterations are not timed. -/
theorem inTime_of_ne (hevent : wait.event ≠ .deadlineExpired)
    (hturns : GraceActive (waitedEvents waits) → wait.turns = []) : InTime waits wait where
  expires := fun h => absurd h hevent
  overdue := fun hgrace _ _ before turn later hsplit => by
    rw [hturns hgrace] at hsplit
    exact absurd hsplit (by simp)
  ended := fun _ => hevent

theorem inTime_concat (h : ∀ first wait rest, waits = first ++ wait :: rest → InTime first wait)
    (hwait : InTime waits wait) :
    ∀ first other rest, waits ++ [wait] = first ++ other :: rest → InTime first other := by
  intro first other rest hsplit
  rcases List.eq_nil_or_concat rest with rfl | ⟨front, last, rfl⟩
  · obtain ⟨rfl, hlast⟩ := List.append_inj' hsplit rfl
    rwa [← List.singleton_inj.mp hlast]
  · rw [List.concat_eq_append, ← List.cons_append, ← List.append_assoc] at hsplit
    exact h first other front (List.append_inj' hsplit rfl).1

variable [DecimalText]

/-- A wait at the head of the loop. -/
theorem Punctual.waited (h : Punctual current adapter) (hwaits : adapter.Waits current.waitMode event after) :
    ∃ wait, wait.event = event ∧ after.waits = adapter.waits ++ [wait] ∧ InTime adapter.waits wait ∧
      (¬ GraceActive (waitedEvents adapter.waits) → adapter.deadline = none → after.deadline = none) ∧
      (GraceActive (waitedEvents adapter.waits) → after.deadline =
        if event = .deadlineExpired then none
        else ((stageClock adapter.waits).openedWith wait).map (· + gracePeriod)) := by
  obtain ⟨requests, hreached⟩ := h.reached
  have hdelivered := (delivered_waits hwaits h.coherent).expected
  cases hwaits with
  | queued pending =>
      have hevent : event ≠ .deadlineExpired := by
        rintro rfl
        exact (coherent_take h.coherent pending).1
      refine ⟨_, rfl, rfl, inTime_of_ne hevent fun _ => rfl, fun _ hnone => hnone, fun hgrace => ?_⟩
      rw [if_neg hevent, StageClock.openedWith, Option.or_none]
      exact h.grace hgrace
  | polled now pending polls =>
      have hcoherent : (adapter.enterWait current.waitMode now).session.Coherent (some current.state) := h.coherent
      obtain ⟨hsame, hnone⟩ := polls_same polls
      by_cases hgrace : GraceActive (waitedEvents adapter.waits)
      · have hmode := hreached.waitMode_iff.mpr hgrace
        obtain ⟨opened, hopened⟩ : ∃ opened, (stageClock adapter.waits).opened.or (some now) = some opened := by
          cases (stageClock adapter.waits).opened <;> exact ⟨_, rfl⟩
        have hdeadline : (adapter.enterWait current.waitMode now).deadline = some (opened + gracePeriod) := by
          rw [hmode]
          change some (adapter.deadline.getD (now + gracePeriod)) = _
          rw [h.grace hgrace]
          cases hclock : (stageClock adapter.waits).opened with
          | none =>
              rw [hclock] at hopened
              rw [← Option.some.inj hopened]
              rfl
          | some reading =>
              rw [hclock] at hopened
              rw [← Option.some.inj hopened]
              rfl
        obtain ⟨hexpires, hother, hoverdue⟩ := polls_deadline polls hcoherent hdeadline
        refine ⟨_, rfl, congrArg (· ++ [_]) hsame, ⟨fun hevent => ⟨hgrace, ?_⟩, ?_, ?_⟩,
          (fun hnot => absurd hgrace hnot), fun _ => ?_⟩
        · obtain ⟨-, turn, hlast, hlate⟩ := hexpires hevent
          exact ⟨opened, turn.finished _, hopened, congrArg (Option.map _) hlast, hlate⟩
        · intro _ opened' hopened' before turn later hturns hlate
          obtain rfl := Option.some.inj (hopened.symm.trans hopened')
          exact hoverdue before turn later hturns hlate
        · exact fun hended => absurd hgrace.1 (not_whileActive_of_ended hended)
        · by_cases hevent : event = .deadlineExpired
          · rw [if_pos hevent]
            exact (hexpires hevent).1
          · rw [if_neg hevent, StageClock.openedWith, show (stageClock adapter.waits).opened.or _ = _ from hopened]
            exact (hother hevent).trans hdeadline
      · have hmode : current.waitMode = .indefinitely := by
          cases hmode : current.waitMode with
          | indefinitely => rfl
          | fiveSeconds => exact absurd (hreached.waitMode_iff.mp hmode) hgrace
        have hevent : event ≠ .deadlineExpired := by
          rintro rfl
          rcases hdelivered with hexpects | ⟨-, hfive⟩
          · exact hexpects
          · rw [hmode] at hfive
            exact absurd hfive (by decide)
        refine ⟨_, rfl, congrArg (· ++ [_]) hsame, inTime_of_ne hevent fun hactive => absurd hactive hgrace,
          fun _ _ => hnone ?_, fun hactive => absurd hactive hgrace⟩
        rw [hmode]
        rfl

/-- A turn that stays in the loop. -/
theorem Punctual.turn (h : Punctual current adapter) (hwaits : adapter.Waits current.waitMode event after)
    (hturn : current.Turn event trace (.inl next)) : Punctual next after := by
  obtain ⟨requests, hreached⟩ := h.reached
  obtain ⟨wait, rfl, hlog, hinTime, hidle, hactive⟩ := h.waited hwaits
  have hnext := hreached.turn wait.mode hturn
  rw [← waitedEvents_concat, ← hlog] at hnext
  have hcoherent := (delivered_waits hwaits h.coherent).coherent
  rw [hturn.after] at hcoherent
  have hstage : stageAfter (waitedEvents after.waits) = (stageAfter (waitedEvents adapter.waits)).after wait.event := by
    rw [hlog, stageAfter_concat]
  -- a running Workload was running or not yet started
  have hbefore : waitedEvents after.waits = [] ∨ WhileActive (waitedEvents after.waits) →
      waitedEvents adapter.waits = [] ∨ WhileActive (waitedEvents adapter.waits) := by
    rw [hlog, waitedEvents_concat]
    rintro (hnil | hwhile)
    · exact Or.inl (List.append_eq_nil_iff.mp hnil).1
    · exact hwhile.of_append
  have hgraced : ∀ {waits}, (stageAfter (waitedEvents waits)).isGrace = true →
      waitedEvents waits = [] ∨ WhileActive (waitedEvents waits) → GraceActive (waitedEvents waits) := by
    rintro waits hgrace (hnil | hwhile)
    · rw [hnil] at hgrace
      exact nomatch hgrace
    · exact ⟨hwhile, hgrace⟩
  have hquiet : (stageAfter (waitedEvents adapter.waits)) = .none →
      waitedEvents adapter.waits = [] ∨ WhileActive (waitedEvents adapter.waits) → after.deadline = none := by
    intro hnone hrunning
    refine hidle (fun hgrace => ?_) (h.quiet hrunning hnone)
    rw [GraceActive, hnone] at hgrace
    exact nomatch hgrace.2
  refine ⟨⟨_, hnext⟩, hcoherent, ?_, ?_, ?_⟩
  · intro hrunning hnone
    refine hquiet ?_ (hbefore hrunning)
    by_contra hstarted
    exact after_ne_none hstarted (hstage.symm.trans hnone)
  · intro hgrace
    have hclock : (stageClock after.waits).opened =
        if (stageAfter (waitedEvents adapter.waits)).after wait.event = stageAfter (waitedEvents adapter.waits) then
          (stageClock adapter.waits).openedWith wait else none := by
      rw [hlog, stageClock_concat, ← stage_stageClock]
      rfl
    have hafter := hgrace.2
    rw [hstage] at hafter
    rw [hclock]
    by_cases hsame : (stageAfter (waitedEvents adapter.waits)).after wait.event = stageAfter (waitedEvents adapter.waits)
    · rw [if_pos hsame]
      rw [hsame] at hafter
      rw [hactive (hgraced hafter (hbefore (Or.inr hgrace.1))), if_neg]
      intro hevent
      rw [hevent] at hsame
      exact after_deadlineExpired_ne hafter hsame
    · rw [if_neg hsame]
      rcases stage_before_grace hafter with hkept | hnone | ⟨hinterrupt, hevent⟩
      · exact absurd hkept hsame
      · exact hquiet hnone (hbefore (Or.inr hgrace.1))
      · have hgrace' : (stageAfter (waitedEvents adapter.waits)).isGrace = true := by rw [hinterrupt]; rfl
        rw [hactive (hgraced hgrace' (hbefore (Or.inr hgrace.1))), if_pos hevent]
        rfl
  · rw [hlog]
    exact inTime_concat h.inTime hinTime

end Run

section Runs

variable [DecimalText] {childArguments : List Bytes} {rounds : Nat} {trace between : LifecycleTrace}
  {result : Option SessionOutcome} {current : LifecycleLoop} {adapter final : ProductionLifecycleAdapter}

/-- The waits of answered calls are recorded in their order. -/
theorem answers_waits (h : Answers production adapter trace final) :
    ∃ waits, final.waits = adapter.waits ++ waits ∧ waits.map WaitRecord.event = trace.filterMap waitedEvent := by
  induction h with
  | nil state => exact ⟨[], (List.append_nil _).symm, rfl⟩
  | cons h rest ih =>
      rename_i state middle final call trace
      obtain ⟨waits, hfinal, hevents⟩ := ih
      obtain ⟨request, answer⟩ := call
      have hother : waitedEvent ⟨request, answer⟩ = none → middle.waits = state.waits →
          ∃ waits, final.waits = state.waits ++ waits ∧
            waits.map WaitRecord.event = (⟨request, answer⟩ :: trace).filterMap waitedEvent := by
        intro hnone hsame
        exact ⟨waits, hsame ▸ hfinal, by rw [List.filterMap_cons_none hnone, hevents]⟩
      cases request with
      | wait mode =>
          have hwaited : ∃ wait, wait.event = answer ∧ middle.waits = state.waits ++ [wait] := by
            cases (show state.Waits mode answer middle from h) with
            | queued pending => exact ⟨_, rfl, rfl⟩
            | polled now pending polls => exact ⟨_, rfl, congrArg (· ++ [_]) (polls_same polls).1⟩
          obtain ⟨wait, rfl, hmiddle⟩ := hwaited
          refine ⟨wait :: waits, ?_, ?_⟩
          · rw [hfinal, hmiddle, List.append_assoc, List.singleton_append]
          · rw [List.map_cons, hevents]
            rfl
      | begin =>
          obtain ⟨reads, transfers, starts, hbegin⟩ := h
          obtain ⟨received, -, hafter⟩ := Option.map_eq_some_iff.mp hbegin
          exact hother rfl (congrArg ProductionLifecycleAdapter.waits (Prod.mk.inj hafter).2).symm
      | requestStop request =>
          obtain rfl : middle = state.requestStop request answer := h
          refine hother rfl ?_
          unfold requestStop
          split <;> rfl
      | reapLauncher =>
          obtain rfl : middle = state := h
          exact hother rfl rfl
      | finalize =>
          obtain rfl : middle = state.finalize := h
          exact hother rfl rfl
      | publishOutcome outcome =>
          obtain ⟨sent, rfl⟩ := h
          exact hother rfl rfl

theorem waits_of_answers (h : Answers production adapter trace final)
    (hnone : trace.filterMap waitedEvent = []) : final.waits = adapter.waits := by
  obtain ⟨waits, hfinal, hevents⟩ := answers_waits h
  rw [hfinal, List.map_eq_nil_iff.mp (hevents.trans hnone), List.append_nil]

theorem punctual_of_rounds {buffer : Bytes} (h : Rounds LifecycleLoop.round {} between current)
    (hanswers : Answers production { session := SessionAdapter.begun childArguments buffer } between adapter) :
    Punctual current adapter := by
  refine Rounds.answered (P := Punctual) ?_ ?_ h hanswers
  · refine ⟨⟨[], .waiting⟩, coherent_of_rounds (.refl _) (.nil _), fun _ _ => rfl, fun hgrace => ?_, ?_⟩
    · exact absurd rfl hgrace.1.ne_nil
    · intro first wait rest hsplit
      exact absurd hsplit (by simp)
  · intro current before during next after hpunctual hround hduring
    obtain ⟨event, rest, rfl, hturn⟩ := LifecycleLoop.run_round hround
    obtain ⟨middle, hwait, hrest⟩ := answers_cons.mp hduring
    have hnext := hpunctual.turn hwait hturn
    obtain ⟨commands, rfl⟩ := answers_turn hturn hrest
    exact { hnext with coherent := hnext.coherent.congr rfl rfl ⟨rfl, rfl, rfl, rfl⟩ }

/-- Every wait of a run keeps to the deadline of its grace period. -/
theorem runSessionLifecycle_deadlines (hrun : Run (runSessionLifecycle rounds) trace result)
    (hanswers : Answers production (initial childArguments) trace final) :
    final.waits.map WaitRecord.event = trace.filterMap waitedEvent ∧
      ∀ first wait rest, final.waits = first ++ wait :: rest → InTime first wait := by
  refine ⟨?_, ?_⟩
  · obtain ⟨waits, hfinal, hevents⟩ := answers_waits hanswers
    rw [hfinal]
    exact hevents
  · cases result with
    | none =>
        obtain ⟨between, current, buffer, rfl, hrounds, hbetween⟩ := answers_unfinished hrun hanswers
        exact (punctual_of_rounds hrounds hbetween).inTime
    | some outcome =>
        obtain ⟨ended, reaped, finalized, -, ⟨rfl, -⟩ | ⟨between, current, buffer, before, event, leaving, -, hrounds,
          hbetween, hending⟩⟩ := answers_finished hrun hanswers
        · rw [waits_of_answers hanswers rfl]
          intro first wait rest hsplit
          exact absurd hsplit (by simp [initial])
        · have hpunctual := punctual_of_rounds hrounds hbetween
          obtain ⟨after, hwaits, hend⟩ := hending.answers
          obtain ⟨wait, -, hlog, hinTime, -⟩ := hpunctual.waited hwaits
          have hleaving : (leaving ++ [⟨.reapLauncher, reaped⟩, ⟨.finalize, finalized⟩,
              ⟨.publishOutcome outcome, ()⟩] : LifecycleTrace).filterMap waitedEvent = [] := by
            rcases hending.turn.calls with rfl | ⟨request, succeeded, rfl, -⟩ <;> rfl
          rw [waits_of_answers hend hleaving, hlog]
          exact inTime_concat hpunctual.inTime hinTime

end Runs

section Sample

attribute [local instance] bitPatternText

/-- A Workload is started and interrupted, and the grace period expires. -/
def expiringTrace : LifecycleTrace := [⟨.begin, true⟩, ⟨.wait .indefinitely, .activated 7⟩,
  ⟨.wait .indefinitely, .terminalInterrupt⟩, ⟨.wait .fiveSeconds, .deadlineExpired⟩, ⟨.requestStop .terminate, true⟩]

/-- The wait of the grace period polls once, from a reading of the clock on. -/
def expiringWait (now : Int) : WaitRecord where
  mode := .fiveSeconds
  entered := some 0
  deadline := some gracePeriod
  turns := [⟨now, .timedOut, gracePeriod⟩]
  event := .deadlineExpired

theorem expiringTrace_answers {now : Int} (hpossible : Possible (some gracePeriod) ⟨now, .timedOut, gracePeriod⟩)
    (hpolls : expired (some gracePeriod) now = false) : ∃ final started interrupted,
    Answers production (initial [ascii "sleep"]) expiringTrace final ∧
      final.waits = [started, interrupted] ++ [expiringWait now] ∧ started.event = .activated 7 ∧
      interrupted.event = .terminalInterrupt := by
  let begun : ProductionLifecycleAdapter := { session := SessionAdapter.begun [ascii "sleep"] [] }
  have hbegin : production (initial [ascii "sleep"]) .begin true begun :=
    ⟨[.data (ascii "READY\n")], true, true, by decide⟩
  obtain ⟨started, afterStart, hstart, hstarted, hfirst, -, hsession⟩ :=
    waits_ready begun SessionAdapter.activationTurn (.activated 7) [] rfl (by decide)
  change afterStart.session = SessionAdapter.activeSession at hsession
  obtain ⟨interrupted, afterInterrupt, hinterrupt, hinterrupted, hsecond, hnone, hsession'⟩ :=
    waits_ready afterStart { signal := { pollin := true }, interrupts := 1 } .terminalInterrupt []
      (by rw [hsession]; rfl) (by rw [hsession]; decide)
  have hdeadline : (afterInterrupt.enterWait .fiveSeconds 0).deadline = some gracePeriod := by
    change some (afterInterrupt.deadline.getD (0 + gracePeriod)) = _
    rw [hnone]
    rfl
  have hturn : (afterInterrupt.enterWait .fiveSeconds 0).waitTurn ⟨now, .timedOut, gracePeriod⟩ =
      ((afterInterrupt.enterWait .fiveSeconds 0).withDeadline none, some .deadlineExpired) := by
    rw [waitTurn, hdeadline, if_neg (Bool.eq_false_iff.mp hpolls)]
  have hexpire : afterInterrupt.Waits .fiveSeconds .deadlineExpired _ :=
    .polled 0 (by rw [hsession']) (.last (hdeadline ▸ hpossible) hturn)
  refine ⟨_, started, interrupted,
    .cons hbegin (.cons hstart (.cons hinterrupt (.cons hexpire (.cons rfl (.nil _))))), ?_, hstarted, hinterrupted⟩
  change afterInterrupt.waits ++ [⟨.fiveSeconds, some 0, _, _, .deadlineExpired⟩] = _
  rw [hsecond, hfirst, hdeadline]
  rfl

theorem run_expiringTrace : Run (runSessionLifecycle 3) expiringTrace none := run_of_follow (by decide)

/-- A grace period whose wait goes on to poll at once. -/
theorem runSessionLifecycle_deadlines_expired : ∃ trace final first wait opened finished,
    Run (runSessionLifecycle 3) trace none ∧ Answers production (initial [ascii "sleep"]) trace final ∧
      final.waits = first ++ [wait] ∧ wait.event = .deadlineExpired ∧ GraceActive (waitedEvents first) ∧
      (stageClock first).openedWith wait = some opened ∧ wait.finished = some finished ∧
      opened + gracePeriod - nanosecondsPerMillisecond < finished := by
  obtain ⟨final, started, interrupted, hanswers, hwaits, -, -⟩ :=
    expiringTrace_answers (show Possible _ ⟨0, _, _⟩ from fun _ => ⟨5000, rfl, by decide⟩) rfl
  obtain ⟨-, hinTime⟩ := runSessionLifecycle_deadlines run_expiringTrace hanswers
  obtain ⟨hgrace, opened, finished, hopened, hfinished, hlate⟩ := (hinTime _ _ [] hwaits).expires rfl
  exact ⟨expiringTrace, final, [started, interrupted], expiringWait 0, opened, finished, run_expiringTrace, hanswers,
    hwaits, rfl, hgrace, hopened, hfinished, hlate⟩

/-- Where three seconds pass before the only poll of the period, the deadline expires two seconds after it. -/
theorem deadlineExpired_early : ∃ trace final first wait turn,
    Run (runSessionLifecycle 3) trace none ∧ Answers production (initial [ascii "sleep"]) trace final ∧
      final.waits = first ++ [wait] ∧ wait.event = .deadlineExpired ∧ GraceActive (waitedEvents first) ∧
      (stageClock first).opened = none ∧ wait.turns = [turn] ∧ expired wait.deadline turn.now = false ∧
      wait.finished = some (turn.now + 2000 * nanosecondsPerMillisecond) := by
  obtain ⟨final, started, interrupted, hanswers, hwaits, hstarted, hinterrupted⟩ :=
    expiringTrace_answers (show Possible _ ⟨3000 * nanosecondsPerMillisecond, _, _⟩ from
      fun _ => ⟨2000, rfl, by decide⟩) rfl
  have hevents : waitedEvents [started, interrupted] = [.activated 7, .terminalInterrupt] := by
    rw [waitedEvents, List.map_cons, List.map_cons, hstarted, hinterrupted]
    rfl
  have hclock : (stageClock [started, interrupted]).opened = none := by
    rw [stageClock, List.foldl_cons, List.foldl_cons, List.foldl_nil, StageClock.after, hinterrupted]
    rw [StageClock.after, hstarted]
    rfl
  refine ⟨expiringTrace, final, [started, interrupted], expiringWait _, ⟨3000 * nanosecondsPerMillisecond, .timedOut,
    gracePeriod⟩, run_expiringTrace, hanswers, hwaits, rfl, ?_, hclock, rfl, rfl, rfl⟩
  rw [hevents]
  exact ⟨⟨7, [.terminalInterrupt], rfl, List.forall_mem_singleton.mpr rfl⟩, rfl⟩

end Sample

end NetLagLab
