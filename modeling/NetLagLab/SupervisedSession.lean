import NetLagLab.SessionBalance
import NetLagLab.SupervisorProcess

/-! The whole Session, as long as the connection lasts: the helper with the Supervisor that really runs beside it, over
two streams of bytes. The Supervisor takes one event or one turn of `poll` at a time, at any moment between two calls of
the helper. -/

namespace NetLagLab

open ByteLines CallPrograms ControllerControlPlane HelperSession NetworkEnvironment ProductionLifecycleAdapter Relation

/-! ### The Supervisor -/

/-- What an iteration of a wait reads from the helper; `poll` is not called when the time is up. -/
def WaitTurn.heard (turn : WaitTurn) (deadline : Option Int) : Bytes :=
  if expired deadline turn.now then []
  else
    match turn.result with
    | .ready input => input.heard
    | _ => []

/-- Nothing fails on the socket to the helper. -/
def WaitTurn.Connected (turn : WaitTurn) : Prop := ∀ input, turn.result = .ready input → input.Connected

/-- The lifecycle in its loop, or with the outcome that it has left the loop with, and the adapter that it waits on. -/
structure SupervisorProcess where
  adapter : ProductionLifecycleAdapter
  lifecycle : LifecycleLoop ⊕ SessionOutcome := .inl {}
  /-- The wait has turned to its descriptors. -/
  polling : Bool := false
  deriving DecidableEq

namespace SupervisorProcess

variable [DecimalText]

/-- The helper is ready and has been told what to start. -/
def begun (childArguments : List Bytes) : SupervisorProcess where
  adapter := { session := SessionAdapter.begun childArguments [] }

/-- One step, with what it reads from the helper. -/
inductive Step (process : SupervisorProcess) : Bytes → SupervisorProcess → Prop
  | takes {current : LifecycleLoop} {event : LifecycleEvent} {events : List LifecycleEvent} {trace : LifecycleTrace}
      {next : LifecycleLoop ⊕ SessionOutcome} {after : ProductionLifecycleAdapter}
      (going : process.lifecycle = .inl current) (between : process.polling = false)
      (pending : process.adapter.session.pendingEvents = event :: events) (handles : Run (current.handle event) trace next)
      (answers : Answers production
        (process.adapter.withSession { process.adapter.session with pendingEvents := events }) trace after) :
      Step process [] ⟨after, next, false⟩
  | enters {current : LifecycleLoop} (now : Int) (going : process.lifecycle = .inl current)
      (between : process.polling = false) (pending : process.adapter.session.pendingEvents = []) :
      Step process [] ⟨process.adapter.enterWait current.waitMode now, process.lifecycle, true⟩
  | polls {turn : WaitTurn} {middle : ProductionLifecycleAdapter} (waiting : process.polling = true)
      (possible : Possible process.adapter.deadline turn) (connected : turn.Connected)
      (continues : process.adapter.waitTurn turn = (middle, none)) :
      Step process (turn.heard process.adapter.deadline) ⟨middle, process.lifecycle, true⟩
  | returns {current : LifecycleLoop} {turn : WaitTurn} {event : LifecycleEvent} {middle after : ProductionLifecycleAdapter}
      {trace : LifecycleTrace} {next : LifecycleLoop ⊕ SessionOutcome} (going : process.lifecycle = .inl current)
      (waiting : process.polling = true) (possible : Possible process.adapter.deadline turn) (connected : turn.Connected)
      (returned : process.adapter.waitTurn turn = (middle, some event)) (handles : Run (current.handle event) trace next)
      (answers : Answers production middle trace after) :
      Step process (turn.heard process.adapter.deadline) ⟨after, next, false⟩

/-! What a step keeps. -/

/-- The lifecycle goes on with a running Workload only where there is a control plane, and with a stop only where that
begins no change any more. -/
structure Directed (current : LifecycleLoop) (session : SessionAdapter) : Prop where
  active : current.state = .active → session.controlPlane.isSome = true
  staged : current.stopStage ≠ .none → session.Silenced

section Turns

variable {current : LifecycleLoop} {event : LifecycleEvent} {trace : LifecycleTrace}
  {next : LifecycleLoop ⊕ SessionOutcome} {adapter after : ProductionLifecycleAdapter} {session : SessionAdapter}

omit [DecimalText] in
theorem isStop_stopCommand (request : StopRequest) : (stopCommand request).isStop = true := by
  cases request <;> rfl

omit [DecimalText] in
/-- A stop goes out where no change is begun any more. -/
theorem disciplined_stop (h : session.Disciplined) (hsilenced : session.Silenced) (request : StopRequest) :
    ({ session with commands := session.commands ++ [stopCommand request] } : SessionAdapter).Disciplined := by
  refine ⟨{ h.inv with }, ⟨fun _ => hsilenced, ?_⟩, ⟨h.backed.triggers, h.backed.planned⟩, h.active⟩
  refine List.pairwise_append.mpr ⟨h.obedient.ordered, List.pairwise_singleton _ _, fun earlier _ later hlater _ => ?_⟩
  rw [List.mem_singleton.mp hlater]
  exact isStop_stopCommand request

omit [DecimalText] in
/-- A running Workload is on the way to its stop only where no change is begun any more. -/
theorem Directed.silenced (h : Directed current session) (hstate : current.state = .active)
    (hstops : event.isStopEvent = true) (hgraced : event = .deadlineExpired → current.stopStage.isGrace = true)
    (hbacked : event.isTrigger = true → session.controlPlane.isSome = true → session.Silenced) : session.Silenced := by
  by_cases hdeadline : event = .deadlineExpired
  · refine h.staged fun hnone => ?_
    have hgrace := hgraced hdeadline
    rw [hnone] at hgrace
    cases hgrace
  · refine hbacked ?_ (h.active hstate)
    rw [LifecycleEvent.isStopEvent, Bool.or_eq_true, decide_eq_true_eq] at hstops
    exact hstops.resolve_right hdeadline

/-- What the lifecycle makes of an event: at most a stop goes out. -/
theorem Directed.turn (h : Directed current adapter.session)
    (hplanned : ∀ workloadPid, event = .activated workloadPid → adapter.session.controlPlane.isSome = true)
    (hbacked : event.isTrigger = true → adapter.session.controlPlane.isSome = true → adapter.session.Silenced)
    (hrun : Run (current.handle event) trace next) (hanswers : Answers production adapter trace after) :
    (after = adapter ∨ adapter.session.Silenced ∧ ∃ request, after = adapter.requestStop request true) ∧
      ∀ later, next = .inl later → Directed later adapter.session := by
  have hsame : trace = [] → after = adapter := by
    rintro rfl
    exact answers_nil.mp hanswers
  have hstop : ∀ {request : StopRequest} {succeeded : Bool}, trace = [⟨.requestStop request, succeeded⟩] →
      after = adapter.requestStop request succeeded := by
    rintro request succeeded rfl
    obtain ⟨middle, hmiddle, hnil⟩ := answers_cons.mp hanswers
    obtain rfl := answers_nil.mp hnil
    exact hmiddle
  cases LifecycleLoop.turn_of_run hrun with
  | controllerLost =>
      refine ⟨Or.inl (hsame rfl), fun later hlater => ?_⟩
      obtain rfl := Sum.inl.inj hlater
      exact h
  | late state late =>
      refine ⟨Or.inl (hsame rfl), fun later hlater => ?_⟩
      obtain rfl := Sum.inl.inj hlater
      exact h
  | activated value state =>
      refine ⟨Or.inl (hsame rfl), fun later hlater => ?_⟩
      obtain rfl := Sum.inl.inj hlater
      exact ⟨fun _ => hplanned value rfl, h.staged⟩
  | activationFailed value state =>
      refine ⟨Or.inl (hsame rfl), fun later hlater => ?_⟩
      obtain rfl := Sum.inl.inj hlater
      unfold LifecycleLoop.activationFailed
      split
      · exact ⟨(fun hactive => by cases hactive), h.staged⟩
      · exact ⟨(fun hactive => by cases hactive), h.staged⟩
  | quiet state stops graced asks =>
      refine ⟨Or.inl (hsame rfl), fun later hlater => ?_⟩
      obtain rfl := Sum.inl.inj hlater
      exact ⟨fun _ => h.active state, fun _ => h.silenced state stops graced hbacked⟩
  | granted state stops graced asks =>
      have hsilenced := h.silenced state stops graced hbacked
      refine ⟨Or.inr ⟨hsilenced, _, hstop rfl⟩, fun later hlater => ?_⟩
      obtain rfl := Sum.inl.inj hlater
      exact ⟨fun _ => h.active state, fun _ => hsilenced⟩
  | refused state stops graced asks =>
      refine ⟨Or.inl (hstop rfl), fun later hlater => ?_⟩
      cases hlater
  | ended state ends =>
      refine ⟨Or.inl (hsame rfl), fun later hlater => ?_⟩
      obtain rfl := Sum.inl.inj hlater
      exact ⟨(fun hactive => by cases hactive), fun hstage => absurd rfl hstage⟩
  | conversationLost => exact ⟨Or.inl (hsame rfl), fun later hlater => by cases hlater⟩
  | cleanupFailed => exact ⟨Or.inl (hsame rfl), fun later hlater => by cases hlater⟩
  | cleanupSucceeded state => exact ⟨Or.inl (hsame rfl), fun later hlater => by cases hlater⟩
  | invalid unhandled => exact ⟨Or.inl (hsame rfl), fun later hlater => by cases hlater⟩

omit [DecimalText] in
/-- An event that is taken from the queue. -/
theorem disciplined_take {events : List LifecycleEvent} (h : session.Disciplined)
    (hpending : session.pendingEvents = event :: events) :
    ({ session with pendingEvents := events } : SessionAdapter).Disciplined ∧
      (∀ workloadPid, event = .activated workloadPid → session.controlPlane.isSome = true) ∧
      (event.isTrigger = true → session.controlPlane.isSome = true → session.Silenced) := by
  have hmem : ∀ other ∈ events, other ∈ session.pendingEvents := by
    intro other hother
    rw [hpending]
    exact List.mem_cons_of_mem _ hother
  have hhead : event ∈ session.pendingEvents := by
    rw [hpending]
    exact List.mem_cons_self
  refine ⟨⟨{ h.inv with }, ⟨h.obedient.silenced, h.obedient.ordered⟩, ⟨fun other hother => ?_, fun workloadPid hother => ?_⟩,
    h.active⟩, fun workloadPid hevent => ?_, h.backed.triggers event hhead⟩
  · exact h.backed.triggers other (hmem other hother)
  · exact h.backed.planned workloadPid (hmem _ hother)
  · exact h.backed.planned workloadPid (hevent ▸ hhead)

/-- One iteration of a wait: it ends without a read, or the turn has been made and the first of its events is taken. -/
theorem waitTurn_cases {turn : WaitTurn} {middle : ProductionLifecycleAdapter} {returned : Option LifecycleEvent}
    (hturn : adapter.waitTurn turn = (middle, returned)) :
    (middle.session = adapter.session ∧ turn.heard adapter.deadline = [] ∧
      (returned = some .deadlineExpired ∨ returned = some .conversationLost)) ∨
    ∃ input, turn.result = .ready input ∧ turn.heard adapter.deadline = input.heard ∧
      ((returned = none ∧ middle.session = (adapter.session.waitCycle input).1 ∧ middle.session.pendingEvents = []) ∨
        ∃ event events, returned = some event ∧ (adapter.session.waitCycle input).1.pendingEvents = event :: events ∧
          middle.session = { (adapter.session.waitCycle input).1 with pendingEvents := events }) := by
  unfold waitTurn at hturn
  unfold WaitTurn.heard
  split at hturn
  · rename_i hexpired
    obtain ⟨rfl, rfl⟩ := Prod.mk.inj hturn
    rw [if_pos hexpired]
    exact Or.inl ⟨rfl, rfl, Or.inl rfl⟩
  · rename_i hleft
    rw [if_neg hleft]
    split at hturn
    · rename_i hresult
      obtain ⟨rfl, rfl⟩ := Prod.mk.inj hturn
      rw [hresult]
      exact Or.inl ⟨rfl, rfl, Or.inl rfl⟩
    · rename_i hresult
      obtain ⟨rfl, rfl⟩ := Prod.mk.inj hturn
      rw [hresult]
      exact Or.inl ⟨rfl, rfl, Or.inr rfl⟩
    · rename_i input hresult
      rw [hresult]
      refine Or.inr ⟨input, rfl, rfl, ?_⟩
      unfold takePendingEvent at hturn
      split at hturn
      · rename_i hpending
        obtain ⟨rfl, rfl⟩ := Prod.mk.inj hturn
        exact Or.inl ⟨rfl, rfl, hpending⟩
      · rename_i event events hpending
        obtain ⟨rfl, rfl⟩ := Prod.mk.inj hturn
        exact Or.inr ⟨event, events, rfl, hpending, rfl⟩

end Turns

/-- What holds of the process between two steps. -/
structure Sound (process : SupervisorProcess) : Prop where
  disciplined : process.adapter.session.Disciplined
  quiet : process.polling = true → process.adapter.session.pendingEvents = []
  directed : ∀ current, process.lifecycle = .inl current → Directed current process.adapter.session

omit [DecimalText] in
theorem sound_begun (childArguments : List Bytes) : (begun childArguments).Sound where
  disciplined := {
    inv := SessionAdapter.inv_begun childArguments []
    obedient := ⟨(fun hsent => by cases hsent), List.Pairwise.nil⟩
    backed := ⟨(fun _ hmem => by cases hmem), fun _ hmem => by cases hmem⟩
    active := fun hactive => by cases hactive }
  quiet := fun _ => rfl
  directed := fun current hcurrent => by
    obtain rfl := Sum.inl.inj hcurrent
    exact ⟨(fun hactive => by cases hactive), fun hstage => absurd rfl hstage⟩

section Steps

variable {process next : SupervisorProcess} {heard : Bytes}

/-- An event is handled behind a wait. -/
theorem sound_handled {current : LifecycleLoop} {event : LifecycleEvent} {adapter after : ProductionLifecycleAdapter}
    {trace : LifecycleTrace} {next : LifecycleLoop ⊕ SessionOutcome} (hdisciplined : adapter.session.Disciplined)
    (hdirected : Directed current adapter.session)
    (hplanned : ∀ workloadPid, event = .activated workloadPid → adapter.session.controlPlane.isSome = true)
    (hbacked : event.isTrigger = true → adapter.session.controlPlane.isSome = true → adapter.session.Silenced)
    (hrun : Run (current.handle event) trace next) (hanswers : Answers production adapter trace after) :
    Sound ⟨after, next, false⟩ ∧ SessionAdapter.Advances adapter.session after.session [] := by
  obtain ⟨rfl | ⟨hsilenced, request, rfl⟩, hlater⟩ := hdirected.turn hplanned hbacked hrun hanswers
  · exact ⟨⟨hdisciplined, (fun hpolling => by cases hpolling), hlater⟩,
      (SessionAdapter.voices_of_same rfl rfl).advances rfl⟩
  · have hstop := disciplined_stop hdisciplined hsilenced request
    refine ⟨⟨hstop, (fun hpolling => by cases hpolling), fun later hnext => ?_⟩, ?_⟩
    · exact ⟨(hlater later hnext).active, (hlater later hnext).staged⟩
    · have hvoices : SessionAdapter.Voices adapter.session
          { adapter.session with commands := adapter.session.commands ++ [stopCommand request] } :=
        SessionAdapter.voices_of_stop (isStop_stopCommand request) rfl rfl
      exact hvoices.advances rfl

omit [DecimalText] in
theorem Directed.mono {current : LifecycleLoop} {session later : SessionAdapter} (h : Directed current session)
    (hsilenced : session.Silenced → later.Silenced)
    (hplanned : session.controlPlane.isSome = true → later.controlPlane.isSome = true) : Directed current later :=
  ⟨fun hstate => hplanned (h.active hstate), fun hstage => hsilenced (h.staged hstage)⟩

/-- The first event of a queue is taken and handled. -/
theorem sound_taken {current : LifecycleLoop} {event : LifecycleEvent} {events : List LifecycleEvent}
    {adapter middle after : ProductionLifecycleAdapter} {session : SessionAdapter} {trace : LifecycleTrace}
    {next : LifecycleLoop ⊕ SessionOutcome} (hdisciplined : session.Disciplined) (hdirected : Directed current session)
    (hpending : session.pendingEvents = event :: events)
    (hmiddle : middle.session = { session with pendingEvents := events })
    (hadvances : SessionAdapter.Advances adapter.session session heard)
    (hrun : Run (current.handle event) trace next) (hanswers : Answers production middle trace after) :
    Sound ⟨after, next, false⟩ ∧ SessionAdapter.Advances adapter.session after.session heard := by
  obtain ⟨hpopped, hplanned, hbacked⟩ := disciplined_take hdisciplined hpending
  obtain ⟨popped, deadline, waits⟩ := middle
  obtain rfl : popped = { session with pendingEvents := events } := hmiddle
  have hvoices : SessionAdapter.Voices session { session with pendingEvents := events } :=
    SessionAdapter.voices_of_same rfl rfl
  have hstart : Directed current { session with pendingEvents := events } := hdirected.mono id id
  obtain ⟨hsound, hlast⟩ := sound_handled hpopped hstart hplanned hbacked hrun hanswers
  exact ⟨hsound, (hadvances.trans (hvoices.advances rfl)).trans hlast⟩

/-- A step of the process keeps all of it, and is a sequence of moves on the link. -/
theorem Sound.step (h : Sound process) (hstep : Step process heard next) :
    Sound next ∧ SessionAdapter.Advances process.adapter.session next.adapter.session heard := by
  have hrefl : SessionAdapter.Advances process.adapter.session process.adapter.session [] :=
    (SessionAdapter.voices_of_same rfl rfl).advances rfl
  cases hstep with
  | @takes current event events trace next after going between pending handles answers =>
      exact sound_taken h.disciplined (h.directed current going) pending rfl hrefl handles answers
  | enters now going between pending =>
      refine ⟨⟨h.disciplined, fun _ => pending, fun current hcurrent => ?_⟩, hrefl⟩
      exact h.directed current hcurrent
  | @polls turn middle waiting possible connected continues =>
      rcases waitTurn_cases continues with ⟨-, -, hother | hother⟩ | ⟨input, hresult, hheard, hlast⟩
      · cases hother
      · cases hother
      · obtain ⟨hdisciplined, hsilenced, hplanned, hadvances⟩ :=
          h.disciplined.cycle (h.quiet waiting) (connected input hresult)
        rcases hlast with ⟨-, hsession, hpending⟩ | ⟨event, events, hother, -⟩
        · rw [hheard]
          refine ⟨⟨hsession ▸ hdisciplined, fun _ => hpending, fun current hcurrent => ?_⟩, hsession ▸ hadvances⟩
          dsimp only
          rw [hsession]
          exact (h.directed current hcurrent).mono hsilenced hplanned
        · cases hother
  | @returns current turn event middle after trace next going waiting possible connected returned handles answers =>
      have hdirected := h.directed current going
      rcases waitTurn_cases returned with ⟨hsession, hheard, hevent⟩ | ⟨input, hresult, hheard, hlast⟩
      · rw [hheard]
        have hquiet : event.isTrigger = false ∧ ∀ workloadPid, event ≠ .activated workloadPid := by
          rcases hevent with hevent | hevent <;> obtain rfl := Option.some.inj hevent
          · exact ⟨rfl, fun _ hother => by cases hother⟩
          · exact ⟨rfl, fun _ hother => by cases hother⟩
        have hdisciplined := h.disciplined
        rw [← hsession] at hdisciplined hdirected ⊢
        exact sound_handled hdisciplined hdirected (fun workloadPid hother => absurd hother (hquiet.2 workloadPid))
          (fun htrigger => absurd (hquiet.1.symm.trans htrigger) Bool.false_ne_true) handles answers
      · rw [hheard]
        obtain ⟨hdisciplined, hsilenced, hplanned, hadvances⟩ :=
          h.disciplined.cycle (h.quiet waiting) (connected input hresult)
        rcases hlast with ⟨hother, -⟩ | ⟨first, events, hfirst, hpending, hsession⟩
        · cases hother
        · obtain rfl := Option.some.inj hfirst
          exact sound_taken hdisciplined (hdirected.mono hsilenced hplanned) hpending hsession hadvances handles answers

end Steps

end SupervisorProcess

/-! ### The two together -/

/-- The Supervisor, the bytes on their way to either side, and what is seen of the helper. -/
structure SupervisedSession where
  supervisor : SupervisorProcess
  toSupervisor : Bytes := []
  toHelper : Bytes := []
  sent : List Bytes := []
  passes : List Bool := []
  running : Nat := 0
  /-- The settings of a direction as far as they are known. -/
  inForce : ShapingDirection → Option DirectionSettings := fun _ => some {}

namespace SupervisedSession

/-- The link and the settings on its two sides. -/
def ledger (session : SupervisedSession) : Ledger where
  link := {
    supervisor := session.supervisor.adapter.session.conversation
    toSupervisor := session.toSupervisor
    toHelper := session.toHelper
    stopSent := session.supervisor.adapter.session.stopSent
    sent := session.sent
    passes := session.passes
    running := session.running }
  confirmed := session.supervisor.adapter.session.confirmedProfile
  inForce := session.inForce

section Sessions

variable [DecimalText] {session after : SupervisedSession}

/-- A step of the Supervisor on some of what is on its way to it. The commands that it records are those that go out. -/
inductive Moves : SupervisedSession → SupervisedSession → Prop
  | step {session : SupervisedSession} {heard rest : Bytes} {next : SupervisorProcess} {commands : List HelperRuntimeCommand}
      (way : session.toSupervisor = heard ++ rest) (steps : session.supervisor.Step heard next)
      (sends : next.adapter.session.commands = session.supervisor.adapter.session.commands ++ commands) :
      Moves session
        { session with
          supervisor := next
          toSupervisor := rest
          toHelper := session.toHelper ++ commandBytes commands }

/-- How the calls of the helper may be answered, while the Supervisor stands still. This is a Session up to the end of its
connection: where the Supervisor closes its end, behind its loop at the latest, or a call on the socket fails, a run is
over. No poll of the Workload fails and every signal is delivered. -/
def Answered : Environment HelperCall HelperAnswer SupervisedSession := fun before request answer after =>
  after.supervisor = before.supervisor ∧ before.ledger.Answers request answer after.ledger

/-- The helper is about to prepare its environment and the Supervisor to enter its loop. -/
def begun (childArguments : List Bytes) : SupervisedSession where
  supervisor := .begun childArguments

theorem movesRefine : MovesRefine Moves LedgerMove ledger fun session => session.supervisor.Sound := by
  rintro before after hsound hmove
  cases hmove with
  | @step heard rest next commands way steps sends =>
      obtain ⟨hnext, added, hadded, hmoves⟩ := hsound.step steps
      obtain rfl : commands = added := List.append_cancel_left (sends.symm.trans hadded)
      exact ⟨hmoves before.ledger rest ⟨⟨rfl, rfl⟩, rfl⟩ way, hnext⟩

/-- What the Supervisor and the helper do together is what the ledger allows. -/
theorem refines : Refines (interleaved Moves Answered) ledgerEnvironment ledger fun session => session.supervisor.Sound := by
  refine Refines.interleaved ?_ movesRefine
  rintro before request answer after hsound ⟨hsame, hanswer⟩
  refine ⟨hanswer, ?_⟩
  change after.supervisor.Sound
  rw [hsame]
  exact hsound

theorem beginning_begun (childArguments : List Bytes) : Beginning (begun childArguments).ledger where
  starting := {
    stands := ⟨rfl, List.not_mem_nil, rfl⟩
    stream := ⟨[], (fun _ hmem => by cases hmem), rfl, fun _ => rfl⟩
    running := rfl }
  profile := rfl
  balanced := fun direction => Or.inl (by cases direction <;> rfl)

/-- What is in force and what the Supervisor shows as confirmed: the same, or that with the one change in flight. It is
unknown only while a change is in flight, or when the helper has said so. -/
def InStep (session : SupervisedSession) : Prop :=
  session.ledger.Balanced session.supervisor.adapter.session.confirmedProfile session.ledger.Told ∨
    ∃ plane change, session.supervisor.adapter.session.controlPlane = some plane ∧ plane.inFlightChange = some change ∧
      (session.ledger.Balanced plane.confirmedProfile True ∨
        session.ledger.Balanced (plane.confirmedProfile.changed change) session.ledger.Told)

omit [DecimalText] in
/-- The pending change of the conversation is the one in flight. -/
theorem inStep_of_differ (hsound : session.supervisor.Sound) (h : Differ session.ledger) : session.InStep := by
  rcases h with hbalanced | ⟨change, hactive, hpending, hbalanced⟩
  · exact Or.inl hbalanced
  · obtain ⟨plane, hplane⟩ := Option.isSome_iff_exists.mp (hsound.disciplined.active hactive)
    have hinFlight := (hsound.disciplined.inv.inFlight hactive plane hplane).trans hpending
    have hconfirmed : session.ledger.confirmed = plane.confirmedProfile := SessionAdapter.confirmedProfile_of_some hplane
    rw [hconfirmed] at hbalanced
    exact Or.inr ⟨plane, change, hplane, hinFlight, hbalanced⟩

/-- Whatever the Controllers and the terminal ask of the Supervisor, whatever the preparation, the launch, the Workload
and the cleanup come to, and however the steps of the two interleave, until their connection ends: at every moment the
settings in force are those that the Supervisor shows as confirmed, or those with the one change in flight; the
conversation is not lost; no change goes out behind a stop; the helper answers with no other error than that a state is
unknown, and signals the Workload only after the Supervisor has sent a stop. -/
theorem runHelperSession_supervised {childArguments : List Bytes} {turns : Nat} {context : WorkloadContext}
    {identity : WorkloadIdentity} {standardDescriptors : List Int}
    {trace : List (CallPrograms.Step HelperCall HelperAnswer SupervisedSession)} {last : HelperProgram (Option Int)}
    {final later : SupervisedSession}
    (h : Path (interleaved Moves Answered) (runHelperSession turns context identity standardDescriptors)
      (begun childArguments) trace last final) (hmoves : ReflTransGen Moves final later) :
    later.InStep ∧ later.supervisor.adapter.session.conversation.state ≠ .failed ∧
      (later.supervisor.adapter.session.commands.Pairwise fun earlier behind =>
        earlier.isStop = true → behind.isStop = true) ∧
      ∀ step ∈ trace,
        (∀ safeMessage, step.request = .send (helperErrorMessage safeMessage) →
          safeMessage = ascii "PROFILE_STATE_UNKNOWN") ∧
        ∀ signal, step.request = .sendSignal signal → step.after.supervisor.adapter.session.stopSent = true := by
  have hbegun : (begun childArguments).supervisor.Sound := SupervisorProcess.sound_begun childArguments
  obtain ⟨hpath, hfinal⟩ := refines.path h hbegun
  have hasks : (begun childArguments).ledger.Asks := fun hsome => by cases hsome
  obtain ⟨hsteps, htallied, hlast⟩ := path_runHelperSession (beginning_begun childArguments) hasks hpath
  obtain ⟨hledger, hsound⟩ := movesRefine.all hfinal hmoves
  have hobeys : ∀ step ∈ trace, Obeys (step.map ledger) := fun step hstep =>
    hsteps _ (List.mem_map_of_mem hstep)
  exact ⟨inStep_of_differ hsound ((htallied.moves hledger).differ (hlast.moves hledger)), (htallied.moves hledger).heard,
    hsound.disciplined.obedient.ordered, fun step hstep => ⟨(hobeys step hstep).accepts, (hobeys step hstep).stopped⟩⟩

end Sessions

section Sample

attribute [local instance] bitPatternText

/-- An iteration of a wait in which `poll` reports this. -/
def sampleTurn (input : CycleInput) : WaitTurn := ⟨0, .ready input, 0⟩

/-- The Workload is launched and the Supervisor has not heard of it. -/
def launchedSession : SupervisedSession :=
  { begun [ascii "sleep"] with
    toSupervisor := helperConversationEventMessage (.activated 7)
    sent := [helperConversationEventMessage (.activated 7)] }

/-- The Supervisor turns to its descriptors. -/
def entering (session : SupervisedSession) : SupervisedSession :=
  { session with
    supervisor := ⟨session.supervisor.adapter.enterWait .indefinitely 0, session.supervisor.lifecycle, true⟩ }

/-- A turn that reads nothing of the helper and goes on. -/
def polling (session : SupervisedSession) (input : CycleInput) : SupervisedSession :=
  { session with
    supervisor := ⟨(session.supervisor.adapter.waitTurn (sampleTurn input)).1, session.supervisor.lifecycle, true⟩
    toHelper := session.toHelper ++ commandBytes
      ((session.supervisor.adapter.waitTurn (sampleTurn input)).1.session.commands.drop
        session.supervisor.adapter.session.commands.length) }

/-- The turn that hears of the Workload. -/
def hearing (session : SupervisedSession) : SupervisedSession :=
  { session with
    supervisor := ⟨(session.supervisor.adapter.waitTurn (sampleTurn SessionAdapter.activationTurn)).1,
      .inl { state := .active }, false⟩
    toSupervisor := [] }

def attachedSession : SupervisedSession :=
  polling (entering (hearing (entering launchedSession))) SessionAdapter.attachTurn

/-- A Controller has attached and asked for a delay. -/
def askedSession : SupervisedSession := polling attachedSession (SessionAdapter.commandTurn "set outbound delay 5\n")

theorem moves_entering {session : SupervisedSession} {current : LifecycleLoop}
    (hgoing : session.supervisor.lifecycle = .inl current) (hmode : current.waitMode = .indefinitely)
    (hbetween : session.supervisor.polling = false) (hpending : session.supervisor.adapter.session.pendingEvents = []) :
    Moves session (entering session) := by
  have hstep := SupervisorProcess.Step.enters 0 hgoing hbetween hpending
  rw [hmode] at hstep
  have hway : session.toSupervisor = [] ++ session.toSupervisor := rfl
  have hsends : (entering session).supervisor.adapter.session.commands =
      session.supervisor.adapter.session.commands ++ [] := (List.append_nil _).symm
  have hmove := Moves.step hway hstep hsends
  rw [commandBytes, List.flatMap_nil, List.append_nil] at hmove
  exact hmove

theorem moves_polling {session : SupervisedSession} {input : CycleInput} (hwaiting : session.supervisor.polling = true)
    (hdeadline : session.supervisor.adapter.deadline = none) (hconnected : input.Connected) (hheard : input.heard = [])
    (hcontinues : (session.supervisor.adapter.waitTurn (sampleTurn input)).2 = none)
    (hsends : session.supervisor.adapter.session.commands <+:
      (session.supervisor.adapter.waitTurn (sampleTurn input)).1.session.commands) :
    Moves session (polling session input) := by
  have hturn : (sampleTurn input).Connected := by
    intro other hother
    cases hother
    exact hconnected
  have hnothing : (sampleTurn input).heard session.supervisor.adapter.deadline = [] := by
    rw [hdeadline]
    exact hheard
  have hstep := SupervisorProcess.Step.polls hwaiting (fun htimed => by cases htimed) hturn (Prod.ext rfl hcontinues)
  rw [hnothing] at hstep
  have hway : session.toSupervisor = [] ++ session.toSupervisor := rfl
  exact Moves.step hway hstep (List.prefix_iff_eq_append.mp hsends).symm

/-- The Supervisor hears of the Workload. -/
theorem moves_hearing : Moves (entering launchedSession) (hearing (entering launchedSession)) := by
  have hconnected : (sampleTurn SessionAdapter.activationTurn).Connected := by
    intro other hother
    cases hother
    exact ⟨rfl, fun _ => ⟨_, rfl⟩⟩
  have hreturned : (entering launchedSession).supervisor.adapter.waitTurn (sampleTurn SessionAdapter.activationTurn) =
      (_, some (.activated 7)) := Prod.ext rfl (by decide)
  have hgoing : (entering launchedSession).supervisor.lifecycle = .inl {} := rfl
  have hwaiting : (entering launchedSession).supervisor.polling = true := rfl
  have hstep := SupervisorProcess.Step.returns hgoing hwaiting (fun htimed => by cases htimed) hconnected hreturned
    (.done _) (.nil _)
  have hway : (entering launchedSession).toSupervisor = helperConversationEventMessage (.activated 7) ++ [] :=
    (List.append_nil _).symm
  have hsends : (hearing (entering launchedSession)).supervisor.adapter.session.commands =
      (entering launchedSession).supervisor.adapter.session.commands ++ [] := by decide
  exact Moves.step hway hstep hsends

/-- The Workload is launched, the Supervisor hears of it, and a Controller asks for a delay. -/
theorem moves_askedSession : ReflTransGen Moves launchedSession askedSession := by
  have hentering : Moves launchedSession (entering launchedSession) := moves_entering rfl rfl rfl rfl
  have hagain : Moves (hearing (entering launchedSession)) (entering (hearing (entering launchedSession))) :=
    moves_entering rfl rfl rfl (by decide)
  have hattached : Moves (entering (hearing (entering launchedSession))) attachedSession :=
    moves_polling rfl (by decide) ⟨rfl, fun hread => by cases hread⟩ rfl (by decide) (by decide)
  have hasked : Moves attachedSession askedSession :=
    moves_polling rfl (by decide) ⟨rfl, fun hread => by cases hread⟩ rfl (by decide) (by decide)
  exact (ReflTransGen.single hentering).tail moves_hearing |>.tail hagain |>.tail hattached |>.tail hasked

/-- The Workload has been launched, and the helper goes on to supervise it. -/
theorem path_launched : ∃ trace last,
    Path (interleaved Moves Answered) (runHelperSession 2 {} ⟨0, 0, []⟩ []) (begun [ascii "sleep"]) trace last
      launchedSession := by
  have hprepared : interleaved Moves Answered (begun [ascii "sleep"]) .prepare (.prepared {}) (begun [ascii "sleep"]) :=
    ⟨_, .refl, rfl, rfl, rfl, rfl⟩
  have hpossible : WorkloadLaunchResult.Possible { process := some 7 } := (by decide : (1 : Int) ≤ 7 ∧ (7 : Int) ≤ 2 ^ 22)
  have hlaunched : interleaved Moves Answered (begun [ascii "sleep"]) (.launch {} ⟨0, 0, []⟩ [] {}) { process := some 7 }
      (begun [ascii "sleep"]) := ⟨_, .refl, rfl, ⟨hpossible, rfl⟩, rfl, rfl⟩
  have hsent : interleaved Moves Answered (begun [ascii "sleep"]) (.send (helperConversationEventMessage (.activated 7)))
      true launchedSession := ⟨_, .refl, rfl, ⟨rfl, rfl⟩, rfl, rfl⟩
  exact ⟨_, _, .step hprepared (.step hlaunched (.step hsent (.refl _ _)))⟩

theorem runHelperSession_supervised_asked :
    askedSession.InStep ∧ askedSession.supervisor.adapter.session.conversation.state = .active ∧
      askedSession.toHelper = helperRuntimeCommandMessage (.profileChange (.setDelay .outbound 5)) ∧
      (askedSession.supervisor.adapter.session.controlPlane.bind (·.inFlightChange)) = some (.setDelay .outbound 5) := by
  obtain ⟨trace, last, hpath⟩ := path_launched
  obtain ⟨hinStep, -⟩ := runHelperSession_supervised hpath moves_askedSession
  exact ⟨hinStep, by decide, by decide, by decide⟩

end Sample

end SupervisedSession

end NetLagLab
