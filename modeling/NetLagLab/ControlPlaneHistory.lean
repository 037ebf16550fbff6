import NetLagLab.ControlPlaneSteps

/-! The histories of a control plane: the events it has handled from its activation on, with what it
answered. Its marks are those of the events and actions that it saw. -/

namespace NetLagLab

open ByteLines

/-- One event handled. -/
structure ControlStep where
  before : ControllerControlPlane
  event : ControlPlaneEvent
  actions : List ControlPlaneAction
  after : ControllerControlPlane

namespace ControlStep

variable (step : ControlStep)

/-- From here on the Session stops. -/
def Stops : Prop := step.event = .sessionStopping ∨ .requestLifecycleStop ∈ step.actions

/-- From here on the profile of the helper is not known. -/
def Fails : Prop :=
  step.event = .helperProfileStateUnknown ∨ .failSessionForUnknownProfileState ∈ step.actions

/-- The event is a result for the change in flight. -/
def Matches (result : ControlPlaneProfileChangeResult) (change : ProfileChange) : Prop :=
  step.event = .helperProfileChangeResult result change ∧
    step.before.inFlightChange.any (·.same change) = true

/-- The control plane that the event finds: but for a failed write, earlier dispatches are executed. -/
def source : ControllerControlPlane :=
  if step.event = .controllerWriteFailed then step.before else step.before.settled

end ControlStep

/-- The actions of a history in their order. -/
def allActions (history : List ControlStep) : List ControlPlaneAction := history.flatMap (·.actions)

/-- A change is in flight: an earlier event dispatched it, no failed write has taken the dispatch back before it was
executed, and no result for it has come since. -/
def InFlight (history : List ControlStep) (change : ProfileChange) : Prop :=
  ∃ earlier dispatch since, history = earlier ++ dispatch :: since ∧
    .dispatchProfileChange change ∈ dispatch.actions ∧
    (∀ step, since.head? = some step → step.event ≠ .controllerWriteFailed) ∧
    ∀ step ∈ since, ∀ result carried, step.event = .helperProfileChangeResult result carried →
      change.same carried = false

/-- What the control plane of an active Workload has handled, and where it has come to. A Controller is
attached only while none is. -/
inductive ControlHistory [DecimalText] (workloadPid : Int) (childArguments : List Bytes) :
    List ControlStep → ControllerControlPlane → Prop
  | start : ControlHistory workloadPid childArguments []
      { workloadPid := workloadPid, childArguments := childArguments }
  | step {history : List ControlStep} {plane : ControllerControlPlane}
      (earlier : ControlHistory workloadPid childArguments history plane) (event : ControlPlaneEvent)
      (free : event = .controllerAttached → plane.controllerAttached = false) :
      ControlHistory workloadPid childArguments
        (history ++ [⟨plane, event, (plane.handle event).2, (plane.handle event).1⟩]) (plane.handle event).1

/-- What the control plane of an active Workload has handled, in any order of events, and where it has come to. -/
inductive EventHistory [DecimalText] (workloadPid : Int) (childArguments : List Bytes) :
    List ControlStep → ControllerControlPlane → Prop
  | start : EventHistory workloadPid childArguments []
      { workloadPid := workloadPid, childArguments := childArguments }
  | step {history : List ControlStep} {plane : ControllerControlPlane}
      (earlier : EventHistory workloadPid childArguments history plane) (event : ControlPlaneEvent) :
      EventHistory workloadPid childArguments
        (history ++ [⟨plane, event, (plane.handle event).2, (plane.handle event).1⟩]) (plane.handle event).1

theorem ControlHistory.eventHistory [DecimalText] {workloadPid : Int} {childArguments : List Bytes}
    {history : List ControlStep} {plane : ControllerControlPlane}
    (h : ControlHistory workloadPid childArguments history plane) :
    EventHistory workloadPid childArguments history plane := by
  induction h with
  | start => exact .start
  | step earlier event free ih => exact ih.step event

namespace ControllerControlPlane

section Runs

variable [DecimalText]

/-- The steps of events handled in their order. -/
def steps (plane : ControllerControlPlane) : List ControlPlaneEvent → List ControlStep
  | [] => []
  | event :: events =>
      ⟨plane, event, (plane.handle event).2, (plane.handle event).1⟩ :: (plane.handle event).1.steps events

/-- The control plane after events. -/
def afterEvents (plane : ControllerControlPlane) (events : List ControlPlaneEvent) : ControllerControlPlane :=
  events.foldl (fun plane event => (plane.handle event).1) plane

/-- The events of an active Workload, each attach with nobody attached, make a history. -/
theorem controlHistory_steps {workloadPid : Int} {childArguments : List Bytes} {history : List ControlStep}
    {plane : ControllerControlPlane} (h : ControlHistory workloadPid childArguments history plane)
    (events : List ControlPlaneEvent)
    (hfree : ∀ step ∈ plane.steps events,
      step.event = .controllerAttached → step.before.controllerAttached = false) :
    ControlHistory workloadPid childArguments (history ++ plane.steps events) (plane.afterEvents events) := by
  induction events generalizing history plane with
  | nil => rwa [steps, List.append_nil]
  | cons event events ih =>
      rw [steps, List.forall_mem_cons] at hfree
      have hnext := ih (h.step event hfree.1) hfree.2
      rwa [List.append_assoc] at hnext

/-- Any events make a history. -/
theorem eventHistory_steps {workloadPid : Int} {childArguments : List Bytes} {history : List ControlStep}
    {plane : ControllerControlPlane} (h : EventHistory workloadPid childArguments history plane)
    (events : List ControlPlaneEvent) :
    EventHistory workloadPid childArguments (history ++ plane.steps events) (plane.afterEvents events) := by
  induction events generalizing history plane with
  | nil => rwa [steps, List.append_nil]
  | cons event events ih =>
      have hnext := ih (h.step event)
      rwa [List.append_assoc] at hnext

end Runs

/-! ### What a round of lines or commands leaves -/

section Services

variable {start plane next : ControllerControlPlane} {first batch after : ActionBatch}
  {received commands : List ControllerCommand} {draining : Bool}

/-- The profile changes that have to be legal: those that could be applied. -/
theorem legal_of_same {current change : ProfileChange} (hcanonical : current.Canonical)
    (hsame : current.same change = true) : change.Legal := by
  have hlegal := hcanonical.legal
  cases current with
  | setPacketLoss direction percent =>
      cases change with
      | setPacketLoss direction' percent' =>
          simp only [ProfileChange.same, Double.same, Bool.and_eq_true, Bool.or_eq_true, decide_eq_true_eq,
            Bool.not_eq_true'] at hsame
          rcases hsame.2.2 with rfl | hzero
          · exact hlegal
          · -- both are zeros, one of them perhaps the negative one
            have hmagnitude : percent'.magnitude = 0 := by simpa [Double.isZero] using hzero.2
            refine ⟨?_, ?_, ?_⟩
            · simp [Double.isFinite, hmagnitude]
            · simp [Double.isNegative, hzero.2]
            · simp [Double.exceedsHundred, hmagnitude]
      | _ => simp [ProfileChange.same] at hsame
  | _ =>
      simp only [ProfileChange.same, decide_eq_true_eq] at hsame
      exact hsame ▸ hlegal

variable [DecimalText]

/-- What a line or a command can be answered at once. -/
def Said (plane : ControllerControlPlane) (text : Bytes) : Prop :=
  text ∈ [helpResponse, detachedText, stoppingText, sessionIsStoppingText, tooManyQueuedCommandsText] ∨
  (∃ error, text = controllerParseErrorResponse error) ∨
  ∃ stopping, text = buildStatus plane.workloadPid plane.childArguments plane.confirmedProfile stopping
    plane.shapingApplied

/-- What lines and commands leave of a control plane, and what they add to the batch. -/
structure Served (start plane : ControllerControlPlane) (first batch : ActionBatch) : Prop where
  workloadPid : plane.workloadPid = start.workloadPid
  childArguments : plane.childArguments = start.childArguments
  confirmed : plane.confirmedProfile = start.confirmedProfile
  shaping : plane.shapingApplied = start.shapingApplied
  generation : plane.connectionGeneration = start.connectionGeneration
  attached : plane.controllerAttached = true →
    start.controllerAttached = true ∧ plane.readBuffer = start.readBuffer
  terminal : plane.workloadTerminal = start.workloadTerminal
  failed : plane.profileStateFailed = start.profileStateFailed
  quiet : batch.fail = first.fail
  stopping : (plane.stopping = true ↔ start.stopping = true ∨ batch.stop = true)
  once : batch.stop = true → start.stopping = false
  bounded : start.commandQueue.length ≤ maximumQueuedCommands → plane.commandQueue.length ≤ maximumQueuedCommands
  texts : ∃ said, batch.texts = first.texts ++ said ∧ ∀ text ∈ said, start.Said text

theorem Served.refl (hstop : first.stop = false) : Served start start first first where
  workloadPid := rfl
  childArguments := rfl
  confirmed := rfl
  shaping := rfl
  generation := rfl
  attached := fun hattached => ⟨hattached, rfl⟩
  terminal := rfl
  failed := rfl
  quiet := rfl
  stopping := by simp [hstop]
  once := by simp [hstop]
  bounded := id
  texts := ⟨[], by simp⟩

theorem Served.said (h : Served start plane first batch) {text : Bytes} (htext : start.Said text) :
    ∃ said, (batch.say text).texts = first.texts ++ said ∧ ∀ text ∈ said, start.Said text := by
  obtain ⟨said, htexts, hsaid⟩ := h.texts
  refine ⟨said ++ [text], ?_, ?_⟩
  · rw [ActionBatch.say, htexts, List.append_assoc]
  · intro other hother
    rcases List.mem_append.mp hother with hmem | hmem
    · exact hsaid other hmem
    · exact List.mem_singleton.mp hmem ▸ htext

theorem Served.statusText (h : Served start plane first batch) : start.Said plane.statusText :=
  .inr (.inr ⟨plane.stopping, by
    rw [ControllerControlPlane.statusText, h.workloadPid, h.childArguments, h.confirmed, h.shaping]⟩)

theorem Served.command {command : ControllerCommand} (h : Served start plane first batch)
    (hstep : CommandStep plane batch command next after) : Served start next first after := by
  cases hstep with
  | stop => exact { h with
      stopping := by
        change true = true ↔ start.stopping = true ∨ (batch.stop || !plane.stopping) = true
        have hstopping := h.stopping
        cases hplane : plane.stopping <;> simp_all
      once := by
        change (batch.stop || !plane.stopping) = true → start.stopping = false
        intro hstop
        by_contra hstart
        rw [Bool.not_eq_false] at hstart
        rw [h.stopping.mpr (.inl hstart), Bool.not_true, Bool.or_false] at hstop
        exact absurd ((h.once hstop).symm.trans hstart) (by decide)
      bounded := fun _ => Nat.zero_le _
      texts := h.said (.inl (by simp)) }
  | refused => exact { h with texts := h.said (.inl (by simp)) }
  | overflow => exact { h with
      attached := fun hattached => nomatch (show false = true from hattached)
      bounded := fun _ => Nat.zero_le _
      texts := h.said (.inl (by simp)) }
  | queued ordinary waiting room => exact { h with
      bounded := fun _ => by
        rw [enqueue, List.length_append]
        exact room }
  | help => exact { h with texts := h.said (.inl (by simp)) }
  | status => exact { h with texts := h.said h.statusText }
  | dispatched => exact { h with }
  | detached => exact { h with
      attached := fun hattached => nomatch (show false = true from hattached)
      bounded := fun _ => Nat.zero_le _
      texts := h.said (.inl (by simp)) }

theorem Served.dequeue {queued : QueuedCommand} {rest : List QueuedCommand} (h : Served start plane first batch)
    (hqueue : plane.commandQueue = queued :: rest) : Served start (plane.dequeue rest) first batch :=
  { h with
    bounded := fun hstart => by
      have hbound := h.bounded hstart
      rw [hqueue, List.length_cons] at hbound
      exact Nat.le_of_succ_le hbound }

theorem Served.service (h : Served start plane first batch)
    (hstep : ServiceStep plane batch draining commands next after) : Served start next first after := by
  cases hstep with
  | command attached parsed step => exact h.command step
  | error error => exact { h with texts := h.said (.inr (.inl ⟨error, rfl⟩)) }
  | tooLong => exact { h with
      attached := fun hattached => nomatch (show false = true from hattached)
      bounded := fun _ => Nat.zero_le _
      texts := h.said (.inr (.inl ⟨.commandTooLong, rfl⟩)) }
  | stale attached queue old => exact h.dequeue queue
  | queued attached free queue step => exact (h.dequeue queue).command step

theorem Services.served (h : Services draining start first received plane batch) (hstop : first.stop = false) :
    Served start plane first batch := by
  induction h with
  | refl => exact .refl hstop
  | tail services step ih => exact ih.service step

end Services

/-! ### What an event leaves -/

section Events

variable {plane next : ControllerControlPlane} {event : ControlPlaneEvent} {batch : ActionBatch}

/-- No applied change is refused: the change in flight is legal, and the confirmed profile is valid. -/
theorem applies_of_same (hinv : ProfileInv plane) {inFlight : InFlightProfileChange} {change : ProfileChange}
    (hcurrent : plane.inFlightProfileChange = some inFlight) (hsame : inFlight.change.same change = true) :
    applyProfileChange plane.confirmedProfile change = .ok (plane.confirmedProfile.changed change) :=
  applyProfileChange_of_legal hinv.valid (legal_of_same (hinv.canonical inFlight hcurrent) hsame)

/-- The marks that an event and its batch leave on the control plane. -/
structure Progress (plane : ControllerControlPlane) (event : ControlPlaneEvent) (next : ControllerControlPlane)
    (batch : ActionBatch) : Prop where
  workloadPid : next.workloadPid = plane.workloadPid
  childArguments : next.childArguments = plane.childArguments
  stopping : next.stopping = true ↔ plane.stopping = true ∨ event = .sessionStopping ∨ batch.stop = true
  terminal : next.workloadTerminal = true ↔ plane.workloadTerminal = true ∨ event = .workloadTerminal
  failed : next.profileStateFailed = true ↔
    plane.profileStateFailed = true ∨ event = .helperProfileStateUnknown ∨ batch.fail = true
  stopsOnce : batch.stop = true → plane.stopping = false
  failsOnce : batch.fail = true → plane.profileStateFailed = false ∧ batch = { fail := true }
  bounded : plane.commandQueue.length ≤ maximumQueuedCommands → next.commandQueue.length ≤ maximumQueuedCommands

/-- An event that is answered with texts alone. -/
theorem progress_quiet {texts : List Bytes} (hpid : next.workloadPid = plane.workloadPid)
    (harguments : next.childArguments = plane.childArguments)
    (hstopping : next.stopping = true ↔ plane.stopping = true ∨ event = .sessionStopping)
    (hterminal : next.workloadTerminal = true ↔ plane.workloadTerminal = true ∨ event = .workloadTerminal)
    (hfailed : next.profileStateFailed = true ↔
      plane.profileStateFailed = true ∨ event = .helperProfileStateUnknown)
    (hqueue : next.commandQueue.length ≤ plane.commandQueue.length) :
    Progress plane event next { texts := texts } where
  workloadPid := hpid
  childArguments := harguments
  stopping := by simpa using hstopping
  terminal := hterminal
  failed := by simpa using hfailed
  stopsOnce := fun hstop => nomatch hstop
  failsOnce := fun hfail => nomatch hfail
  bounded := hqueue.trans

variable [DecimalText] {received : List ControllerCommand}

/-- An event that lines or commands are served in. -/
theorem progress_served {first : ActionBatch} {start : ControllerControlPlane}
    (h : Served start next first batch) (hquiet : first.fail = false)
    (hpid : start.workloadPid = plane.workloadPid) (harguments : start.childArguments = plane.childArguments)
    (hstopping : start.stopping = plane.stopping) (hterminal : start.workloadTerminal = plane.workloadTerminal)
    (hfailed : start.profileStateFailed = plane.profileStateFailed)
    (hqueue : start.commandQueue = plane.commandQueue) (hstop : event ≠ .sessionStopping)
    (hend : event ≠ .workloadTerminal) (hunknown : event ≠ .helperProfileStateUnknown) :
    Progress plane event next batch where
  workloadPid := h.workloadPid.trans hpid
  childArguments := h.childArguments.trans harguments
  stopping := by rw [h.stopping, hstopping]; simp [hstop]
  terminal := by rw [h.terminal, hterminal]; simp [hend]
  failed := by rw [h.failed, hfailed, h.quiet, hquiet]; simp [hunknown]
  stopsOnce := fun hbatch => hstopping ▸ h.once hbatch
  failsOnce := fun hfail => absurd (hquiet.symm.trans (h.quiet.symm.trans hfail)) (by decide)
  bounded := hqueue ▸ h.bounded

theorem EventStep.progress (h : EventStep plane event received next batch) (hinv : ProfileInv plane) :
    Progress plane event next batch := by
  cases h with
  | attached => exact progress_quiet rfl rfl (by simp [attach]) (by simp [attach]) (by simp [attach]) le_rfl
  | ignored => exact progress_quiet rfl rfl (by simp) (by simp) (by simp) le_rfl
  | received bytes buffer listening services =>
      have hserved := services.served rfl
      exact { progress_served hserved rfl rfl rfl rfl rfl rfl rfl (by simp) (by simp) (by simp) with }
  | disconnected =>
      exact progress_quiet rfl rfl (by simp [disconnectController]) (by simp [disconnectController])
        (by simp [disconnectController]) (Nat.zero_le _)
  | writeFailed =>
      exact progress_quiet rfl rfl (by simp [controllerWriteFailed, disconnectController])
        (by simp [controllerWriteFailed, disconnectController])
        (by simp [controllerWriteFailed, disconnectController]) (Nat.zero_le _)
  | rejected result change other going known => exact {
      workloadPid := rfl
      childArguments := rfl
      stopping := by simp [failProfileState]
      terminal := by simp [failProfileState]
      failed := by simp [failProfileState]
      stopsOnce := fun hstop => nomatch hstop
      failsOnce := fun _ => ⟨known, rfl⟩
      bounded := fun _ => Nat.zero_le _ }
  | dropped => exact progress_quiet rfl rfl (by simp) (by simp) (by simp) le_rfl
  | invalid change current same applies =>
      exact nomatch applies.symm.trans (applies_of_same hinv current same)
  | landed result change current same applies services ended =>
      exact progress_served (services.served rfl) rfl rfl rfl rfl rfl rfl rfl (by simp) (by simp) (by simp)
  | unknown known => exact {
      workloadPid := rfl
      childArguments := rfl
      stopping := by simp [withoutWaiting]
      terminal := by simp [withoutWaiting]
      failed := by simp
      stopsOnce := fun hstop => nomatch hstop
      failsOnce := fun _ => ⟨known, rfl⟩
      bounded := fun _ => Nat.zero_le _ }
  | unknownAgain failed => exact progress_quiet rfl rfl (by simp) (by simp) (by simp [failed]) le_rfl
  | stopping => exact progress_quiet rfl rfl (by simp) (by simp [withoutWaiting]) (by simp [withoutWaiting]) (Nat.zero_le _)
  | terminal => exact progress_quiet rfl rfl (by simp [withoutWaiting]) (by simp) (by simp [withoutWaiting]) (Nat.zero_le _)

end Events

end ControllerControlPlane

namespace EventHistory

variable [DecimalText] {workloadPid : Int} {childArguments : List Bytes} {history before later : List ControlStep}
  {plane : ControllerControlPlane} {step : ControlStep} {received : List ControllerCommand} {batch : ActionBatch}

open ControllerControlPlane

/-- One event at the end of a history: the batch it asks for, as one of the cases of `EventStep`. -/
structure Handled (step : ControlStep) (received : List ControllerCommand) (batch : ActionBatch) : Prop where
  profileInv : ProfileInv step.before
  actions : step.actions = batch.actions
  event : EventStep step.source step.event received step.after batch

theorem handled_handle (hinv : ProfileInv plane) (event : ControlPlaneEvent) :
    ∃ received batch, Handled ⟨plane, event, (plane.handle event).2, (plane.handle event).1⟩ received batch := by
  obtain ⟨received, next, batch, heq, hevent⟩ := eventStep hinv.idle event
  rw [heq]
  exact ⟨received, batch, hinv, rfl, hevent⟩

theorem Handled.source (h : Handled step received batch) : ProfileInv step.source := by
  unfold ControlStep.source
  split
  · exact h.profileInv
  · exact h.profileInv.settled

theorem Handled.progress (h : Handled step received batch) : Progress step.before step.event step.after batch := by
  have hprogress := h.event.progress h.source
  unfold ControlStep.source at hprogress
  split at hprogress
  · exact hprogress
  · exact { hprogress with }

theorem inv (h : EventHistory workloadPid childArguments history plane) : ProfileInv plane := by
  induction h with
  | start => exact (inv_initial _ _).profileInv
  | step earlier event ih =>
      obtain ⟨received, batch, hhandled⟩ := handled_handle ih event
      exact hhandled.source.eventStep hhandled.event

/-- The induction over histories: what holds of the empty one, and is kept by every event. -/
theorem invariant {P : List ControlStep → ControllerControlPlane → Prop}
    (hstart : P [] { workloadPid := workloadPid, childArguments := childArguments })
    (hstep : ∀ (history : List ControlStep) (step : ControlStep) (received : List ControllerCommand)
      (batch : ActionBatch), P history step.before → Handled step received batch → P (history ++ [step]) step.after)
    (h : EventHistory workloadPid childArguments history plane) : P history plane := by
  induction h with
  | start => exact hstart
  | step earlier event ih =>
      obtain ⟨received, batch, hhandled⟩ := handled_handle earlier.inv event
      exact hstep _ _ received batch ih hhandled

/-- A step of a history comes after the history before it. -/
theorem split (h : EventHistory workloadPid childArguments history plane) :
    ∀ {before later : List ControlStep} {step : ControlStep}, history = before ++ step :: later →
      EventHistory workloadPid childArguments before step.before ∧
        EventHistory workloadPid childArguments (before ++ [step]) step.after ∧
        ∃ received batch, Handled step received batch := by
  induction h with
  | start => exact fun hsplit => absurd hsplit (by simp)
  | step earlier event ih =>
      intro before later step hsplit
      rcases List.eq_nil_or_concat later with rfl | ⟨initial, last, rfl⟩
      · obtain ⟨rfl, hlast⟩ := List.append_inj' hsplit rfl
        obtain rfl := (List.cons.inj hlast).1
        exact ⟨earlier, .step earlier event, handled_handle earlier.inv event⟩
      · rw [List.concat_eq_append, ← List.cons_append, ← List.append_assoc] at hsplit
        exact ih (List.append_inj' hsplit rfl).1

end EventHistory

namespace ControlHistory

variable [DecimalText] {workloadPid : Int} {childArguments : List Bytes} {history before later : List ControlStep}
  {plane : ControllerControlPlane} {step : ControlStep}

open ControllerControlPlane

theorem inv (h : ControlHistory workloadPid childArguments history plane) : Inv plane := by
  induction h with
  | start => exact inv_initial _ _
  | step earlier event free ih =>
      by_cases hwrite : event = .controllerWriteFailed
      · rw [hwrite]
        exact inv_controllerWriteFailed ih
      · obtain ⟨batch, hactions, houtcome⟩ := handle_outcome ih hwrite free
        exact houtcome.inv

/-- One event at the end of a history in which Controllers come one after the other, and what is known of its
outcome. -/
structure Taken (step : ControlStep) (received : List ControllerCommand) (batch : ActionBatch) : Prop
    extends EventHistory.Handled step received batch where
  inv : Inv step.before
  free : step.event = .controllerAttached → step.before.controllerAttached = false
  outcome : step.event ≠ .controllerWriteFailed → Outcome step.before step.event step.after batch

theorem taken_handle (hinv : Inv plane) (event : ControlPlaneEvent)
    (hfree : event = .controllerAttached → plane.controllerAttached = false) :
    ∃ received batch, Taken ⟨plane, event, (plane.handle event).2, (plane.handle event).1⟩ received batch := by
  obtain ⟨received, batch, hhandled⟩ := EventHistory.handled_handle hinv.profileInv event
  refine ⟨received, batch, hhandled, hinv, hfree, fun hwrite => ?_⟩
  obtain ⟨other, hactions, houtcome⟩ := handle_outcome hinv hwrite hfree
  obtain rfl := ActionBatch.actions_injective (hhandled.actions.symm.trans hactions)
  exact houtcome

/-- The induction over histories: what holds of the empty one, and is kept by every event. -/
theorem invariant {P : List ControlStep → ControllerControlPlane → Prop}
    (hstart : P [] { workloadPid := workloadPid, childArguments := childArguments })
    (hstep : ∀ (history : List ControlStep) (step : ControlStep) (received : List ControllerCommand)
      (batch : ActionBatch), P history step.before → Taken step received batch → P (history ++ [step]) step.after)
    (h : ControlHistory workloadPid childArguments history plane) : P history plane := by
  induction h with
  | start => exact hstart
  | step earlier event free ih =>
      obtain ⟨received, batch, htaken⟩ := taken_handle earlier.inv event free
      exact hstep _ _ received batch ih htaken

/-- A step of a history comes after the history before it. -/
theorem split (h : ControlHistory workloadPid childArguments history plane) :
    ∀ {before later : List ControlStep} {step : ControlStep}, history = before ++ step :: later →
      ControlHistory workloadPid childArguments before step.before ∧
        ControlHistory workloadPid childArguments (before ++ [step]) step.after ∧
        ∃ received batch, Taken step received batch := by
  induction h with
  | start => exact fun hsplit => absurd hsplit (by simp)
  | step earlier event free ih =>
      intro before later step hsplit
      rcases List.eq_nil_or_concat later with rfl | ⟨initial, last, rfl⟩
      · obtain ⟨rfl, hlast⟩ := List.append_inj' hsplit rfl
        obtain rfl := (List.cons.inj hlast).1
        exact ⟨earlier, .step earlier event free, taken_handle earlier.inv event free⟩
      · rw [List.concat_eq_append, ← List.cons_append, ← List.append_assoc] at hsplit
        exact ih (List.append_inj' hsplit rfl).1

theorem mem_split (h : ControlHistory workloadPid childArguments history plane) (hmem : step ∈ history) :
    ∃ before, ControlHistory workloadPid childArguments before step.before ∧
      ControlHistory workloadPid childArguments (before ++ [step]) step.after ∧
      ∃ received batch, Taken step received batch := by
  obtain ⟨before, later, hsplit⟩ := List.append_of_mem hmem
  exact ⟨before, h.split hsplit⟩

/-! ### The marks of a history -/

/-- The marks of the control plane are those of the history. -/
structure Marks (history : List ControlStep) (plane : ControllerControlPlane) : Prop where
  stopping : plane.stopping = true ↔ ∃ step ∈ history, step.Stops
  terminal : plane.workloadTerminal = true ↔ ∃ step ∈ history, step.event = .workloadTerminal
  failed : plane.profileStateFailed = true ↔ ∃ step ∈ history, step.Fails

omit [DecimalText] in
theorem exists_mem_concat {P : ControlStep → Prop} :
    (∃ other ∈ history ++ [step], P other) ↔ (∃ other ∈ history, P other) ∨ P step := by
  simp [or_and_right, exists_or]

theorem marks (h : ControlHistory workloadPid childArguments history plane) : Marks history plane := by
  refine invariant ⟨by simp, by simp, by simp⟩ (fun history step received batch ih htaken => ?_) h
  have hprogress := htaken.progress
  refine ⟨?_, ?_, ?_⟩
  · rw [hprogress.stopping, ih.stopping, exists_mem_concat, ControlStep.Stops, htaken.actions,
      ActionBatch.requestLifecycleStop_mem]
  · rw [hprogress.terminal, ih.terminal, exists_mem_concat]
  · rw [hprogress.failed, ih.failed, exists_mem_concat, ControlStep.Fails, htaken.actions,
      ActionBatch.failSession_mem]

omit [DecimalText] in
@[simp] theorem allActions_concat : allActions (history ++ [step]) = allActions history ++ step.actions := by
  simp [allActions]

/-- An action that marks the control plane, and that no marked control plane asks for again, is asked for
once. -/
theorem count_le_one {action : ControlPlaneAction} (mark : ControllerControlPlane → Bool)
    (hbatch : ∀ batch : ActionBatch, batch.actions.count action ≤ 1)
    (hstep : ∀ {step : ControlStep} {received : List ControllerCommand} {batch : ActionBatch},
      Taken step received batch → action ∈ step.actions → mark step.before = false ∧ mark step.after = true)
    (hkept : ∀ {step : ControlStep} {received : List ControllerCommand} {batch : ActionBatch},
      Taken step received batch → mark step.before = true → mark step.after = true)
    (h : ControlHistory workloadPid childArguments history plane) :
    (allActions history).count action ≤ 1 := by
  have hcounted : (allActions history).count action ≤ 1 ∧ (action ∈ allActions history → mark plane = true) := by
    refine invariant (P := fun history plane => (allActions history).count action ≤ 1 ∧
      (action ∈ allActions history → mark plane = true)) (by simp [allActions])
      (fun history step received batch ih htaken => ?_) h
    rw [allActions_concat, List.count_append]
    by_cases hmem : action ∈ step.actions
    · obtain ⟨hunmarked, hmarked⟩ := hstep htaken hmem
      have hnone : action ∉ allActions history := fun hearlier =>
        absurd (hunmarked.symm.trans (ih.2 hearlier)) (by decide)
      rw [List.count_eq_zero_of_not_mem hnone, Nat.zero_add, htaken.actions]
      exact ⟨hbatch batch, fun _ => hmarked⟩
    · rw [List.count_eq_zero_of_not_mem hmem, Nat.add_zero]
      refine ⟨ih.1, fun hsome => ?_⟩
      rcases List.mem_append.mp hsome with hearlier | hnow
      · exact hkept htaken (ih.2 hearlier)
      · exact absurd hnow hmem
  exact hcounted.1

theorem count_stop_le_one (h : ControlHistory workloadPid childArguments history plane) :
    (allActions history).count .requestLifecycleStop ≤ 1 := by
  refine count_le_one (·.stopping) ActionBatch.count_stop_le (fun htaken hmem => ?_)
    (fun htaken hstopping => ?_) h
  · rw [htaken.actions, ActionBatch.requestLifecycleStop_mem] at hmem
    exact ⟨htaken.progress.stopsOnce hmem, htaken.progress.stopping.mpr (.inr (.inr hmem))⟩
  · exact htaken.progress.stopping.mpr (.inl hstopping)

theorem count_fail_le_one (h : ControlHistory workloadPid childArguments history plane) :
    (allActions history).count .failSessionForUnknownProfileState ≤ 1 := by
  refine count_le_one (·.profileStateFailed) ActionBatch.count_fail_le (fun htaken hmem => ?_)
    (fun htaken hfailed => ?_) h
  · rw [htaken.actions, ActionBatch.failSession_mem] at hmem
    exact ⟨(htaken.progress.failsOnce hmem).1, htaken.progress.failed.mpr (.inr (.inr hmem))⟩
  · exact htaken.progress.failed.mpr (.inl hfailed)

theorem length_commandQueue_le (h : ControlHistory workloadPid childArguments history plane) :
    plane.commandQueue.length ≤ maximumQueuedCommands :=
  invariant (P := fun _ plane => plane.commandQueue.length ≤ maximumQueuedCommands) (Nat.zero_le _)
    (fun _ _ _ _ ih htaken => htaken.progress.bounded ih) h

/-! ### Dispatches -/

section Dispatches

variable {received : List ControllerCommand} {batch : ActionBatch} {change : ProfileChange}

theorem Taken.ordinary (h : Taken step received batch) (hdispatch : batch.dispatch = some change) :
    step.event ≠ .controllerWriteFailed := by
  intro hwrite
  have hevent := h.event
  rw [hwrite] at hevent
  rw [hevent.of_writeFailed.2] at hdispatch
  exact nomatch hdispatch

/-- An executed change stays in flight over every event but a result for it. -/
theorem Taken.settledChange (h : Taken step received batch) {change : ProfileChange}
    (hcurrent : step.before.inFlightChange = some change)
    (hexecuted : step.event = .controllerWriteFailed → step.before.settledChange = some change)
    (hother : ∀ result carried, step.event = .helperProfileChangeResult result carried →
      change.same carried = false) : step.after.settledChange = some change := by
  by_cases hwrite : step.event = .controllerWriteFailed
  · have hevent := h.event
    rw [hwrite] at hevent
    rw [hevent.of_writeFailed.1, show step.source = step.before from if_pos hwrite,
      settledChange_controllerWriteFailed]
    exact hexecuted hwrite
  · rw [(h.outcome hwrite).settled]
    unfold remainingChange
    split
    · rename_i result carried hevent
      rw [hcurrent, Option.filter_some, if_pos (by rw [hother result carried hevent]; rfl)]
    · exact hcurrent

/-- A change in flight is the one that the control plane holds as such: until the next event as one to be executed,
and from then on as an executed one. -/
theorem held_of_inFlight (h : ControlHistory workloadPid childArguments history plane) :
    ∀ earlier dispatch since change, history = earlier ++ dispatch :: since →
      .dispatchProfileChange change ∈ dispatch.actions →
      (∀ step, since.head? = some step → step.event ≠ .controllerWriteFailed) →
      (∀ step ∈ since, ∀ result carried, step.event = .helperProfileChangeResult result carried →
        change.same carried = false) →
      (since = [] → plane.pendingDispatch = some change) ∧ (since ≠ [] → plane.settledChange = some change) := by
  refine invariant (P := fun history plane => ∀ earlier dispatch since change,
    history = earlier ++ dispatch :: since → .dispatchProfileChange change ∈ dispatch.actions →
    (∀ step, since.head? = some step → step.event ≠ .controllerWriteFailed) →
    (∀ step ∈ since, ∀ result carried, step.event = .helperProfileChangeResult result carried →
      change.same carried = false) →
    (since = [] → plane.pendingDispatch = some change) ∧ (since ≠ [] → plane.settledChange = some change))
    (fun earlier dispatch since change hsplit => absurd hsplit (by simp)) (fun history step received batch ih htaken => ?_) h
  intro earlier dispatch since change hsplit hsent hexecuted hunanswered
  rcases List.eq_nil_or_concat since with rfl | ⟨between, last, rfl⟩
  · obtain ⟨rfl, hlast⟩ := List.append_inj' hsplit rfl
    obtain rfl := (List.cons.inj hlast).1
    rw [htaken.actions, ActionBatch.dispatchProfileChange_mem] at hsent
    refine ⟨fun _ => ?_, fun hsome => absurd rfl hsome⟩
    rw [← (htaken.outcome (htaken.ordinary hsent)).pending, hsent]
  · rw [List.concat_eq_append] at hsplit hexecuted hunanswered ⊢
    rw [← List.cons_append, ← List.append_assoc] at hsplit
    obtain ⟨rfl, hlast⟩ := List.append_inj' hsplit rfl
    obtain rfl := (List.cons.inj hlast).1
    obtain ⟨hpending, hsettled⟩ := ih earlier dispatch between change rfl hsent
      (fun other hother => hexecuted other (by rw [List.head?_append, hother]; rfl))
      fun other hother => hunanswered other (List.mem_append_left _ hother)
    refine ⟨fun hnone => absurd hnone (by simp), fun _ => ?_⟩
    refine htaken.settledChange ?_ (fun hwrite => ?_) (hunanswered step (List.mem_append_right _ List.mem_cons_self))
    · cases between with
      | nil => exact (inFlightChange_of_pendingDispatch (hpending rfl)).1
      | cons other between => exact inFlightChange_of_settledChange (hsettled (List.cons_ne_nil _ _))
    · cases between with
      | nil => exact absurd hwrite (hexecuted step rfl)
      | cons other between => exact hsettled (List.cons_ne_nil _ _)

theorem inFlightChange_of_inFlight (h : ControlHistory workloadPid childArguments history plane)
    (hinFlight : InFlight history change) : plane.inFlightChange = some change := by
  obtain ⟨earlier, dispatch, since, hsplit, hsent, hexecuted, hunanswered⟩ := hinFlight
  obtain ⟨hpending, hsettled⟩ := h.held_of_inFlight earlier dispatch since change hsplit hsent hexecuted hunanswered
  by_cases hnone : since = []
  · exact (inFlightChange_of_pendingDispatch (hpending hnone)).1
  · exact inFlightChange_of_settledChange (hsettled hnone)

/-- A change is dispatched by a control plane with none in flight, once the event has ended the one it is
about. -/
theorem Taken.dispatch_free (h : Taken step received batch) (hdispatch : batch.dispatch = some change) :
    step.before.remainingChange step.event = none := by
  have houtcome := h.outcome (h.ordinary hdispatch)
  rw [← houtcome.settled]
  exact (inFlightChange_of_pendingDispatch (houtcome.pending.symm.trans hdispatch)).2.1

theorem Taken.dispatch_going (h : Taken step received batch) (hdispatch : batch.dispatch = some change) :
    step.after.stopping = false ∧ step.after.workloadTerminal = false ∧ step.after.profileStateFailed = false :=
  (h.outcome (h.ordinary hdispatch)).going (by rw [hdispatch]; exact Option.some_ne_none change)

end Dispatches

end ControlHistory

/-! ### Action batches -/

/-- A stop request, then texts, then a disconnect, then a dispatch; at most one of each but the texts. -/
def InBatchOrder (actions : List ControlPlaneAction) : Prop :=
  ∃ (stop : Bool) (texts : List Bytes) (disconnect : Bool) (dispatch : Option ProfileChange),
    actions = (if stop then [.requestLifecycleStop] else []) ++ texts.map .sendControllerText ++
      (if disconnect then [.disconnectController] else []) ++ dispatch.toList.map .dispatchProfileChange

open ControllerControlPlane ControlHistory in
/-- Every batch is a failure of the Session alone or in order; the Session is stopped and failed at most
once; the queue is bounded and holds ordinary commands of the attached Controller; and a change is dispatched
only when no other one is in flight, or with the result that ends it, and the Session goes on. -/
theorem handle_batches [DecimalText] {workloadPid : Int} {childArguments : List Bytes}
    {history : List ControlStep} {plane : ControllerControlPlane}
    (h : ControlHistory workloadPid childArguments history plane) :
    (∀ step ∈ history, step.actions = [.failSessionForUnknownProfileState] ∨ InBatchOrder step.actions) ∧
    (allActions history).count .requestLifecycleStop ≤ 1 ∧
    (allActions history).count .failSessionForUnknownProfileState ≤ 1 ∧
    (∀ step ∈ history, step.after.commandQueue.length ≤ 32 ∧ ∀ queued ∈ step.after.commandQueue,
      queued.command ≠ .stop ∧ queued.connectionGeneration = step.after.connectionGeneration) ∧
    (∀ before step later change, history = before ++ step :: later →
      .dispatchProfileChange change ∈ step.actions →
      (∀ current, InFlight before current →
        ∃ result carried, step.event = .helperProfileChangeResult result carried ∧ current.same carried = true) ∧
      ∀ other ∈ before ++ [step], ¬ other.Stops ∧ other.event ≠ .workloadTerminal ∧ ¬ other.Fails) := by
  refine ⟨fun step hstep => ?_, h.count_stop_le_one, h.count_fail_le_one, fun step hstep => ?_,
    fun before step later change hsplit hdispatch => ?_⟩
  · obtain ⟨before, hbefore, hafter, received, batch, htaken⟩ := h.mem_split hstep
    rw [htaken.actions]
    cases hfail : batch.fail with
    | true =>
        rw [(htaken.progress.failsOnce hfail).2]
        exact .inl rfl
    | false =>
        refine .inr ⟨batch.stop, batch.texts, batch.disconnect, batch.dispatch, ?_⟩
        rw [ActionBatch.actions, ActionBatch.front, hfail]
        simp
  · obtain ⟨before, hbefore, hafter, -⟩ := h.mem_split hstep
    exact ⟨hafter.length_commandQueue_le, fun queued hqueued =>
      ⟨(hafter.inv.entries queued hqueued).2.1, (hafter.inv.entries queued hqueued).1⟩⟩
  · obtain ⟨hbefore, hafter, received, batch, htaken⟩ := h.split hsplit
    rw [htaken.actions, ActionBatch.dispatchProfileChange_mem] at hdispatch
    refine ⟨fun current hinFlight => ?_, fun other hother => ?_⟩
    · have hcurrent := hbefore.inFlightChange_of_inFlight hinFlight
      have hfree := htaken.dispatch_free hdispatch
      unfold remainingChange at hfree
      split at hfree
      · rename_i result carried hevent
        rw [hcurrent, Option.filter_eq_none_iff] at hfree
        exact ⟨result, carried, hevent, by simpa using hfree current rfl⟩
      · cases hcurrent.symm.trans hfree
    · obtain ⟨hstopping, hterminal, hfailed⟩ := htaken.dispatch_going hdispatch
      refine ⟨fun hstops => ?_, fun hend => ?_, fun hfails => ?_⟩
      · exact Bool.eq_false_iff.mp hstopping (hafter.marks.stopping.mpr ⟨other, hother, hstops⟩)
      · exact Bool.eq_false_iff.mp hterminal (hafter.marks.terminal.mpr ⟨other, hother, hend⟩)
      · exact Bool.eq_false_iff.mp hfailed (hafter.marks.failed.mpr ⟨other, hother, hfails⟩)

section Sample

attribute [local instance] bitPatternText

/-- The history of a Workload's control plane. -/
def workloadSteps (events : List ControlPlaneEvent) : List ControlStep :=
  ControllerControlPlane.steps { workloadPid := 41, childArguments := [] } events

/-- A Controller asks for a change and then for a stop, twice. -/
def stoppingEvents : List ControlPlaneEvent :=
  [.controllerAttached, .controllerBytesReceived (ascii "set outbound delay 5\nstop\nst"),
    .controllerBytesReceived (ascii "op\n")]

theorem handle_batches_stopping :
    .requestLifecycleStop ∈ allActions (workloadSteps stoppingEvents) ∧
    (allActions (workloadSteps stoppingEvents)).count .requestLifecycleStop ≤ 1 :=
  have hhistory := ControllerControlPlane.controlHistory_steps (.start : ControlHistory 41 [] _ _) stoppingEvents (by decide)
  ⟨by decide, (handle_batches hhistory).2.1⟩

end Sample

end NetLagLab
