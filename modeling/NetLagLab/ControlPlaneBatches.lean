import NetLagLab.ControlPlane

/-! What one event of the control plane asks for. The actions of an event come in a fixed order, so
they are a batch: at most one stop request, the texts, at most one disconnect, at most one failure and
at most one dispatch. The dispatch of a batch is the change that the control plane holds as not yet
executed; it is there only while the Session neither stops nor has failed. -/

namespace NetLagLab

open ByteLines

/-- The actions of one event by kind. -/
structure ActionBatch where
  stop : Bool := false
  texts : List Bytes := []
  disconnect : Bool := false
  fail : Bool := false
  dispatch : Option ProfileChange := none
  deriving DecidableEq

namespace ActionBatch

/-- The actions in front of the dispatch. -/
def front (batch : ActionBatch) : List ControlPlaneAction :=
  (if batch.stop then [.requestLifecycleStop] else []) ++ batch.texts.map .sendControllerText
    ++ (if batch.disconnect then [.disconnectController] else [])
    ++ (if batch.fail then [.failSessionForUnknownProfileState] else [])

def actions (batch : ActionBatch) : List ControlPlaneAction :=
  batch.front ++ batch.dispatch.toList.map .dispatchProfileChange

theorem isDispatch_of_mem_front {batch : ActionBatch} {action : ControlPlaneAction}
    (h : action ∈ batch.front) : action.isDispatch = false := by
  simp only [front, List.mem_append, List.mem_map] at h
  rcases h with ((h | ⟨text, _, rfl⟩) | h) | h
  · split at h
    · rw [List.mem_singleton] at h
      subst h
      rfl
    · cases h
  · rfl
  · split at h
    · rw [List.mem_singleton] at h
      subst h
      rfl
    · cases h
  · split at h
    · rw [List.mem_singleton] at h
      subst h
      rfl
    · cases h

theorem appendBeforeDispatch_actions (batch : ActionBatch) (action : ControlPlaneAction) :
    appendBeforeDispatch batch.actions action =
      batch.front ++ action :: batch.dispatch.toList.map .dispatchProfileChange := by
  have hfront : ∀ candidate ∈ batch.front, (!candidate.isDispatch) = true := fun candidate h => by
    rw [isDispatch_of_mem_front h]
    rfl
  have htake : (batch.dispatch.toList.map ControlPlaneAction.dispatchProfileChange).takeWhile
      (!·.isDispatch) = [] := by
    cases batch.dispatch <;> rfl
  have hdrop : (batch.dispatch.toList.map ControlPlaneAction.dispatchProfileChange).dropWhile
      (!·.isDispatch) =
        batch.dispatch.toList.map ControlPlaneAction.dispatchProfileChange := by
    cases batch.dispatch <;> rfl
  rw [appendBeforeDispatch, actions, List.takeWhile_append_of_pos hfront,
    List.dropWhile_append_of_pos hfront, htake, hdrop, List.append_nil]

theorem appendText (batch : ActionBatch) (hdisconnect : batch.disconnect = false)
    (hfail : batch.fail = false) (text : Bytes) :
    appendBeforeDispatch batch.actions (.sendControllerText text) =
      { batch with texts := batch.texts ++ [text] }.actions := by
  rw [appendBeforeDispatch_actions]
  simp [actions, front, hdisconnect, hfail]

theorem appendDisconnect (batch : ActionBatch) (hdisconnect : batch.disconnect = false)
    (hfail : batch.fail = false) :
    appendBeforeDispatch batch.actions .disconnectController =
      { batch with disconnect := true }.actions := by
  rw [appendBeforeDispatch_actions]
  simp [actions, front, hdisconnect, hfail]

theorem filter_actions (batch : ActionBatch) :
    batch.actions.filter (!·.isDispatch) =
      { batch with dispatch := none }.actions := by
  have hfront : batch.front.filter (!·.isDispatch) = batch.front :=
    List.filter_eq_self.mpr fun candidate h => by
      rw [isDispatch_of_mem_front h]
      rfl
  rw [actions, List.filter_append, hfront]
  cases batch.dispatch <;> rfl

theorem cons_stop (batch : ActionBatch) (h : batch.stop = false) :
    .requestLifecycleStop :: batch.actions = { batch with stop := true }.actions := by
  simp [actions, front, h]

theorem actions_dispatch (batch : ActionBatch) (h : batch.dispatch = none) (change : ProfileChange) :
    batch.actions ++ [.dispatchProfileChange change] =
      { batch with dispatch := some change }.actions := by
  simp [actions, front, h]

end ActionBatch

/-! ### The state between events -/

def ControllerCommand.Canonical : ControllerCommand → Prop
  | .profileChange change => change.Canonical
  | _ => True

namespace ControllerControlPlane

def inFlightChange (plane : ControllerControlPlane) : Option ProfileChange :=
  plane.inFlightProfileChange.map (·.change)

/-- The change whose dispatch is not executed yet. -/
def pendingDispatch (plane : ControllerControlPlane) : Option ProfileChange :=
  (plane.inFlightProfileChange.filter (·.dispatchPendingExecution)).map (·.change)

/-- The change whose dispatch is executed. -/
def settledChange (plane : ControllerControlPlane) : Option ProfileChange :=
  (plane.inFlightProfileChange.filter (!·.dispatchPendingExecution)).map (·.change)

/-- Commands wait only behind a change in flight, for the attached Controller, and while the Session
goes on. -/
structure QueueInv (plane : ControllerControlPlane) : Prop where
  waits : plane.commandQueue ≠ [] → plane.controllerAttached = true ∧ plane.stopping = false ∧
    plane.workloadTerminal = false ∧ plane.profileStateFailed = false
  entries : ∀ queued ∈ plane.commandQueue, queued.connectionGeneration = plane.connectionGeneration ∧
    queued.command ≠ .stop ∧ queued.command.Canonical
  canonical : ∀ inFlight, plane.inFlightProfileChange = some inFlight → inFlight.change.Canonical

theorem QueueInv.idle {plane : ControllerControlPlane} (h : QueueInv plane)
    (hdetached : plane.controllerAttached = false) : plane.commandQueue = [] := by
  by_contra hwaits
  exact absurd ((h.waits hwaits).1.symm.trans hdetached) (by decide)

/-- What holds of the control plane between two events. -/
structure Inv (plane : ControllerControlPlane) : Prop extends QueueInv plane where
  behind : plane.commandQueue ≠ [] → plane.inFlightProfileChange.isSome = true
  valid : validate plane.confirmedProfile = []

theorem inv_initial (workloadPid : Int) (childArguments : List Bytes) :
    Inv { workloadPid := workloadPid, childArguments := childArguments } where
  waits := fun h => absurd rfl h
  entries := fun _ h => by cases h
  canonical := fun _ h => by cases h
  behind := fun h => absurd rfl h
  valid := validate_default

/-! ### One event

`Handling base start plane batch`: the control plane `start` has come to `plane` while it collected
the actions of `batch`, and `base` is the change in flight that is not part of the batch. -/

structure Handling (base : Option ProfileChange) (start plane : ControllerControlPlane)
    (batch : ActionBatch) : Prop extends QueueInv plane where
  pending : batch.dispatch = plane.pendingDispatch
  settled : plane.settledChange = base
  detached : batch.disconnect = !plane.controllerAttached
  stopped : batch.stop = true → plane.stopping = true
  going : plane.pendingDispatch ≠ none → plane.stopping = false
  stillStopping : start.stopping = true → plane.stopping = true
  quiet : batch.fail = false
  confirmed : plane.confirmedProfile = start.confirmedProfile
  terminal : plane.workloadTerminal = start.workloadTerminal
  failed : plane.profileStateFailed = start.profileStateFailed

section Frames

variable (plane : ControllerControlPlane)

@[simp] theorem pendingDispatch_disconnect :
    plane.disconnectController.pendingDispatch = plane.pendingDispatch := by
  unfold pendingDispatch disconnectController
  rcases plane.inFlightProfileChange with _ | ⟨change, reply, pending⟩
  · rfl
  · cases pending <;> rfl

@[simp] theorem settledChange_disconnect :
    plane.disconnectController.settledChange = plane.settledChange := by
  unfold settledChange disconnectController
  rcases plane.inFlightProfileChange with _ | ⟨change, reply, pending⟩
  · rfl
  · cases pending <;> rfl

@[simp] theorem pendingDispatch_stopped : plane.stopped.pendingDispatch = none := by
  unfold pendingDispatch stopped
  rcases plane.inFlightProfileChange with _ | ⟨change, reply, pending⟩
  · rfl
  · cases pending <;> rfl

@[simp] theorem settledChange_stopped : plane.stopped.settledChange = plane.settledChange := by
  unfold settledChange stopped
  rcases plane.inFlightProfileChange with _ | ⟨change, reply, pending⟩
  · rfl
  · cases pending <;> rfl

theorem canonical_map_inFlight {inFlight : Option InFlightProfileChange}
    {next : InFlightProfileChange → InFlightProfileChange}
    (hnext : ∀ inFlight, (next inFlight).change = inFlight.change)
    (h : ∀ current, inFlight = some current → current.change.Canonical) :
    ∀ current, inFlight.map next = some current → current.change.Canonical := by
  intro current hcurrent
  rw [Option.map_eq_some_iff] at hcurrent
  obtain ⟨previous, hprevious, rfl⟩ := hcurrent
  rw [hnext]
  exact h previous hprevious

end Frames

section Commands

variable {base : Option ProfileChange} {start plane : ControllerControlPlane} {batch : ActionBatch}

/-- The Controller is sent one more text. -/
theorem Handling.text (h : Handling base start plane batch) (hattached : plane.controllerAttached = true)
    (text : Bytes) :
    appendBeforeDispatch batch.actions (.sendControllerText text) =
        { batch with texts := batch.texts ++ [text] }.actions ∧
      Handling base start plane { batch with texts := batch.texts ++ [text] } := by
  have hdisconnect : batch.disconnect = false := by rw [h.detached, hattached]; rfl
  exact ⟨batch.appendText hdisconnect h.quiet text, { h with }⟩

/-- The Controller is sent a last text and is disconnected. -/
theorem Handling.disconnect (h : Handling base start plane batch)
    (hattached : plane.controllerAttached = true) (text : Bytes) :
    appendBeforeDispatch (appendBeforeDispatch batch.actions (.sendControllerText text))
        .disconnectController =
      { batch with texts := batch.texts ++ [text], disconnect := true }.actions ∧
    Handling base start plane.disconnectController
      { batch with texts := batch.texts ++ [text], disconnect := true } := by
  have hdisconnect : batch.disconnect = false := by rw [h.detached, hattached]; rfl
  constructor
  · rw [batch.appendText hdisconnect h.quiet,
      ActionBatch.appendDisconnect { batch with texts := batch.texts ++ [text] } hdisconnect h.quiet]
  · exact {
      waits := fun hqueue => absurd rfl hqueue
      entries := fun _ hqueued => by cases hqueued
      canonical := canonical_map_inFlight (fun _ => rfl) h.canonical
      pending := by rw [pendingDispatch_disconnect]; exact h.pending
      settled := by rw [settledChange_disconnect]; exact h.settled
      detached := rfl
      stopped := h.stopped
      going := by rw [pendingDispatch_disconnect]; exact h.going
      stillStopping := h.stillStopping
      quiet := h.quiet
      confirmed := h.confirmed
      terminal := h.terminal
      failed := h.failed }

theorem Handling.enterStopping (h : Handling base start plane batch)
    (hattached : plane.controllerAttached = true) :
    ∃ next, (plane.enterStopping batch.actions).2 = next.actions ∧
      Handling base start (plane.enterStopping batch.actions).1 next := by
  have hdisconnect : batch.disconnect = false := by rw [h.detached, hattached]; rfl
  have hrequested : ∃ stop, (if plane.stopping then batch.actions
      else .requestLifecycleStop :: batch.actions) = { batch with stop := stop }.actions := by
    by_cases hstopping : plane.stopping = true
    · exact ⟨batch.stop, by rw [if_pos hstopping]⟩
    · refine ⟨true, ?_⟩
      rw [if_neg hstopping]
      exact batch.cons_stop (Bool.eq_false_iff.mpr fun hstop => hstopping (h.stopped hstop))
  obtain ⟨stop, hrequested⟩ := hrequested
  -- after the filter there is no dispatch, and without it there was none
  have hkept : (if plane.inFlightProfileChange.any (·.dispatchPendingExecution) then
      { batch with stop := stop }.actions.filter (!·.isDispatch)
      else { batch with stop := stop }.actions) =
        { batch with stop := stop, dispatch := none }.actions := by
    split
    · exact ActionBatch.filter_actions { batch with stop := stop }
    · rename_i hany
      have hnone : batch.dispatch = none := by
        rw [h.pending, pendingDispatch]
        rcases hinFlight : plane.inFlightProfileChange with _ | ⟨change, reply, pending⟩
        · rfl
        · rw [hinFlight] at hany
          cases pending
          · rfl
          · exact absurd rfl hany
      rw [← hnone]
  refine ⟨{ batch with stop := stop, dispatch := none, texts := batch.texts ++ [stoppingText] }, ?_, ?_⟩
  · simp only [ControllerControlPlane.enterStopping]
    rw [hrequested, hkept,
      ActionBatch.appendText { batch with stop := stop, dispatch := none } hdisconnect h.quiet]
  · exact {
      waits := fun hqueue => absurd rfl hqueue
      entries := fun _ hqueued => by cases hqueued
      canonical := canonical_map_inFlight (fun _ => rfl) fun current hcurrent =>
        h.canonical current (Option.filter_eq_some_iff.mp hcurrent).1
      pending := plane.pendingDispatch_stopped.symm
      settled := plane.settledChange_stopped.trans h.settled
      detached := h.detached
      stopped := fun _ => rfl
      going := fun hsome => absurd plane.pendingDispatch_stopped hsome
      stillStopping := fun _ => rfl
      quiet := h.quiet
      confirmed := h.confirmed
      terminal := h.terminal
      failed := h.failed }

variable [DecimalText]

theorem Handling.executeCommand (h : Handling base start plane batch)
    (hattached : plane.controllerAttached = true) {command : ControllerCommand}
    (hcanonical : command.Canonical)
    (hchange : (∃ change, command = .profileChange change) →
      plane.inFlightProfileChange = none ∧ plane.stopping = false) :
    ∃ next, (plane.executeCommand command batch.actions).2 = next.actions ∧
      Handling base start (plane.executeCommand command batch.actions).1 next := by
  cases command with
  | help => exact ⟨_, h.text hattached helpResponse⟩
  | status => exact ⟨_, h.text hattached _⟩
  | stop => exact ⟨batch, rfl, h⟩
  | detach => exact ⟨_, h.disconnect hattached detachedText⟩
  | profileChange change =>
      obtain ⟨hinFlight, hstopping⟩ := hchange ⟨change, rfl⟩
      have hpending : plane.pendingDispatch = none := by rw [pendingDispatch, hinFlight]; rfl
      have hsettled : plane.settledChange = none := by rw [settledChange, hinFlight]; rfl
      refine ⟨{ batch with dispatch := some change },
        batch.actions_dispatch (h.pending.trans hpending) change, ?_⟩
      exact {
        waits := h.waits
        entries := h.entries
        canonical := fun current hcurrent => by
          cases hcurrent
          exact hcanonical
        pending := rfl
        settled := hsettled.symm.trans h.settled
        detached := h.detached
        stopped := h.stopped
        going := fun _ => hstopping
        stillStopping := h.stillStopping
        quiet := h.quiet
        confirmed := h.confirmed
        terminal := h.terminal
        failed := h.failed }

theorem Handling.enqueueOrExecute (h : Handling base start plane batch)
    (hattached : plane.controllerAttached = true) (hterminal : start.workloadTerminal = false)
    (hfailed : start.profileStateFailed = false) {command : ControllerCommand}
    (hcanonical : command.Canonical) (hstop : command ≠ .stop)
    (hchange : (∃ change, command = .profileChange change) → plane.stopping = false) :
    ∃ next, (plane.enqueueOrExecute command batch.actions).2 = next.actions ∧
      Handling base start (plane.enqueueOrExecute command batch.actions).1 next := by
  unfold ControllerControlPlane.enqueueOrExecute
  split
  · rename_i hwaiting
    rw [Bool.and_eq_true, Bool.not_eq_true'] at hwaiting
    split
    · exact ⟨_, h.disconnect hattached tooManyQueuedCommandsText⟩
    · refine ⟨batch, rfl, { h with waits := ?_, entries := ?_ }⟩
      · exact fun _ => ⟨hattached, hwaiting.2, h.terminal.trans hterminal, h.failed.trans hfailed⟩
      · intro queued hqueued
        rcases List.mem_append.mp hqueued with hqueued | hqueued
        · exact h.entries queued hqueued
        · rw [List.mem_singleton] at hqueued
          subst hqueued
          exact ⟨rfl, hstop, hcanonical⟩
  · rename_i hwaiting
    refine h.executeCommand hattached hcanonical fun hsome => ⟨?_, hchange hsome⟩
    rw [hchange hsome, Bool.not_false, Bool.and_true] at hwaiting
    exact Option.not_isSome_iff_eq_none.mp hwaiting

/-- One command of the attached Controller. -/
theorem Handling.processCommand (h : Handling base start plane batch)
    (hattached : plane.controllerAttached = true) (hterminal : start.workloadTerminal = false)
    (hfailed : start.profileStateFailed = false) {command : ControllerCommand}
    (hcanonical : command.Canonical) :
    ∃ next, (plane.processCommand command batch.actions).2 = next.actions ∧
      Handling base start (plane.processCommand command batch.actions).1 next := by
  cases command with
  | stop => exact h.enterStopping hattached
  | profileChange change =>
      simp only [ControllerControlPlane.processCommand]
      split
      · exact ⟨_, h.text hattached sessionIsStoppingText⟩
      · rename_i hstopping
        rw [Bool.not_eq_true] at hstopping
        exact h.enqueueOrExecute hattached hterminal hfailed hcanonical (by simp) fun _ => hstopping
  | help =>
      exact h.enqueueOrExecute hattached hterminal hfailed hcanonical (by simp) fun hsome => by simp at hsome
  | status =>
      exact h.enqueueOrExecute hattached hterminal hfailed hcanonical (by simp) fun hsome => by simp at hsome
  | detach =>
      exact h.enqueueOrExecute hattached hterminal hfailed hcanonical (by simp) fun hsome => by simp at hsome

theorem behind_processCommand {actions : List ControlPlaneAction} (command : ControllerCommand)
    (h : plane.commandQueue ≠ [] → plane.inFlightProfileChange.isSome = true) :
    (plane.processCommand command actions).1.commandQueue ≠ [] →
      (plane.processCommand command actions).1.inFlightProfileChange.isSome = true := by
  have hexecute : ∀ other, (plane.executeCommand other actions).1.commandQueue ≠ [] →
      (plane.executeCommand other actions).1.inFlightProfileChange.isSome = true := by
    intro other
    cases other with
    | profileChange change => exact fun _ => rfl
    | detach => exact fun hqueue => absurd rfl hqueue
    | _ => exact h
  have henqueue : ∀ other, (plane.enqueueOrExecute other actions).1.commandQueue ≠ [] →
      (plane.enqueueOrExecute other actions).1.inFlightProfileChange.isSome = true := by
    intro other
    unfold enqueueOrExecute
    split
    · rename_i hwaiting
      rw [Bool.and_eq_true] at hwaiting
      split
      · exact fun hqueue => absurd rfl hqueue
      · exact fun _ => hwaiting.1
    · exact hexecute other
  cases command with
  | stop => exact fun hqueue => absurd rfl hqueue
  | profileChange change =>
      simp only [ControllerControlPlane.processCommand]
      split
      · exact h
      · exact henqueue _
  | _ => exact henqueue _

/-- Without a change in flight no command is put into the queue. -/
theorem length_processCommand {actions : List ControlPlaneAction} (command : ControllerCommand)
    (h : plane.inFlightProfileChange = none) :
    (plane.processCommand command actions).1.commandQueue.length ≤ plane.commandQueue.length := by
  have hexecute : ∀ other, (plane.executeCommand other actions).1.commandQueue.length ≤
      plane.commandQueue.length := by
    intro other
    cases other with
    | detach => exact Nat.zero_le _
    | _ => exact Nat.le_refl _
  have henqueue : ∀ other, (plane.enqueueOrExecute other actions).1.commandQueue.length ≤
      plane.commandQueue.length := by
    intro other
    unfold enqueueOrExecute
    rw [h]
    exact hexecute other
  cases command with
  | stop => exact Nat.zero_le _
  | profileChange change =>
      simp only [ControllerControlPlane.processCommand]
      split
      · exact Nat.le_refl _
      · exact henqueue _
  | _ => exact henqueue _

/-- The queue is drained until it is empty, a change is in flight or the Controller is gone. -/
theorem Handling.drainQueue (hterminal : start.workloadTerminal = false)
    (hfailed : start.profileStateFailed = false) {fuel : Nat} :
    ∀ {plane batch}, Handling base start plane batch →
      (plane.inFlightProfileChange = none → plane.commandQueue.length ≤ fuel) →
      ∃ next, (plane.drainQueue batch.actions fuel).2 = next.actions ∧
        Handling base start (plane.drainQueue batch.actions fuel).1 next ∧
        ((plane.drainQueue batch.actions fuel).1.commandQueue ≠ [] →
          (plane.drainQueue batch.actions fuel).1.inFlightProfileChange.isSome = true) := by
  induction fuel with
  | zero =>
      intro plane batch h hfuel
      refine ⟨batch, rfl, h, fun hqueue => ?_⟩
      by_contra hnone
      rw [Option.not_isSome_iff_eq_none] at hnone
      exact hqueue (List.length_eq_zero_iff.mp (Nat.le_zero.mp (hfuel hnone)))
  | succ fuel ih =>
      intro plane batch h hfuel
      unfold ControllerControlPlane.drainQueue
      split
      · rename_i hgo
        rw [Bool.and_eq_true, Option.isNone_iff_eq_none] at hgo
        cases hqueue : plane.commandQueue with
        | nil => exact ⟨batch, rfl, h, fun hne => absurd hqueue hne⟩
        | cons queued rest =>
            have hqueued := h.entries queued (hqueue ▸ List.mem_cons_self)
            have hpopped : Handling base start { plane with commandQueue := rest } batch :=
              { h with
                waits := fun _ => h.waits (hqueue ▸ List.cons_ne_nil queued rest)
                entries := fun other hother => h.entries other (hqueue ▸ List.mem_cons_of_mem _ hother) }
            have hlength : rest.length ≤ fuel := by
              have hle := hfuel hgo.2
              rw [hqueue, List.length_cons] at hle
              omega
            dsimp only
            rw [if_neg (not_not.mpr hqueued.1)]
            obtain ⟨next, hactions, hnext⟩ :=
              hpopped.processCommand hgo.1 hterminal hfailed hqueued.2.2
            have hshorter : ({ plane with commandQueue := rest }.processCommand queued.command
                batch.actions).1.commandQueue.length ≤ rest.length :=
              length_processCommand queued.command hgo.2
            rw [hactions]
            exact ih hnext fun _ => hshorter.trans hlength
      · rename_i hgo
        refine ⟨batch, rfl, h, fun hqueue => ?_⟩
        rw [Bool.and_eq_true, (h.waits hqueue).1, not_and, Option.isNone_iff_eq_none] at hgo
        exact Option.ne_none_iff_isSome.mp (hgo rfl)

/-- The lines of the Controller. -/
theorem Handling.receiveControllerLines (hterminal : start.workloadTerminal = false)
    (hfailed : start.profileStateFailed = false) (lines : List Bytes) :
    ∀ {plane batch}, Handling base start plane batch →
      (plane.commandQueue ≠ [] → plane.inFlightProfileChange.isSome = true) →
      ∃ next, (plane.receiveControllerLines batch.actions lines).2 = next.actions ∧
        Handling base start (plane.receiveControllerLines batch.actions lines).1 next ∧
        ((plane.receiveControllerLines batch.actions lines).1.commandQueue ≠ [] →
          (plane.receiveControllerLines batch.actions lines).1.inFlightProfileChange.isSome = true) := by
  induction lines with
  | nil => exact fun h hbehind => ⟨_, rfl, h, hbehind⟩
  | cons line lines ih =>
      intro plane batch h hbehind
      unfold ControllerControlPlane.receiveControllerLines
      split
      · exact ⟨batch, rfl, h, hbehind⟩
      · rename_i hattached
        rw [Bool.not_eq_false] at hattached
        cases hparse : parseControllerCommand line with
        | ignored => exact ih h hbehind
        | error error =>
            dsimp only
            split
            · obtain ⟨hactions, hnext⟩ := h.disconnect hattached (controllerParseErrorResponse error)
              rw [hactions]
              exact ih hnext fun hqueue => absurd rfl hqueue
            · obtain ⟨hactions, hnext⟩ := h.text hattached (controllerParseErrorResponse error)
              rw [hactions]
              exact ih hnext hbehind
        | command command =>
            have hcanonical : command.Canonical := by
              cases command with
              | profileChange change => exact canonical_of_parseControllerCommand hparse
              | _ => trivial
            obtain ⟨next, hactions, hnext⟩ :=
              h.processCommand hattached hterminal hfailed hcanonical
            dsimp only
            rw [hactions]
            exact ih hnext (behind_processCommand command hbehind)

end Commands

/-! ### The outcome of an event -/

/-- Whether a Controller is attached once the event itself has taken place. -/
def attachedAfter (plane : ControllerControlPlane) : ControlPlaneEvent → Bool
  | .controllerAttached => true
  | .controllerDisconnected => false
  | _ => plane.controllerAttached

/-- The change in flight that an event leaves in flight. -/
def remainingChange (plane : ControllerControlPlane) : ControlPlaneEvent → Option ProfileChange
  | .helperProfileChangeResult _ change => plane.inFlightChange.filter fun current => !current.same change
  | _ => plane.inFlightChange

/-- The confirmed profile after an event. -/
def confirmedAfter (plane : ControllerControlPlane) : ControlPlaneEvent → NetworkProfile
  | .helperProfileChangeResult .applied change =>
      if plane.inFlightChange.any fun current => current.same change then
        match applyProfileChange plane.confirmedProfile change with
        | .ok profile => profile
        | .error _ => plane.confirmedProfile
      else plane.confirmedProfile
  | _ => plane.confirmedProfile

/-- The mark that an event leaves on the control plane. -/
def Marked (next : ControllerControlPlane) : ControlPlaneEvent → Prop
  | .sessionStopping => next.stopping = true
  | .workloadTerminal => next.workloadTerminal = true
  | .helperProfileStateUnknown => next.profileStateFailed = true
  | _ => True

/-- What every event other than a failed write does: the control plane it leads to and the batch of
its actions. -/
structure Outcome (plane : ControllerControlPlane) (event : ControlPlaneEvent)
    (next : ControllerControlPlane) (batch : ActionBatch) : Prop where
  inv : Inv next
  pending : batch.dispatch = next.pendingDispatch
  going : batch.dispatch ≠ none →
    next.stopping = false ∧ next.workloadTerminal = false ∧ next.profileStateFailed = false
  attached : next.controllerAttached = (plane.attachedAfter event && !batch.disconnect)
  silent : plane.attachedAfter event = false → batch.texts = [] ∧ batch.disconnect = false
  stopped : batch.stop = true → next.stopping = true
  failed : batch.fail = true → next.profileStateFailed = true
  stillStopping : plane.stopping = true → next.stopping = true
  stillFailed : plane.profileStateFailed = true → next.profileStateFailed = true
  settled : next.settledChange = plane.remainingChange event
  confirmed : next.confirmedProfile = plane.confirmedAfter event
  marked : next.Marked event

section Outcomes

variable {plane : ControllerControlPlane}

/-- A control plane at the start of an event, with nothing but texts collected. -/
theorem handling_start (h : QueueInv plane) (hpending : plane.pendingDispatch = none)
    (hattached : plane.controllerAttached = true) (texts : List Bytes) :
    Handling plane.settledChange plane plane { texts := texts } :=
  { h with
    pending := hpending.symm
    settled := rfl
    detached := by rw [hattached]; rfl
    stopped := fun hstop => by cases hstop
    going := fun hsome => absurd hpending hsome
    stillStopping := id
    quiet := rfl
    confirmed := rfl
    terminal := rfl
    failed := rfl }

/-- An event that collects actions for the attached Controller. -/
theorem Handling.outcome {base : Option ProfileChange} {start next : ControllerControlPlane}
    {batch : ActionBatch} (h : Handling base start next batch) {event : ControlPlaneEvent}
    (hbehind : next.commandQueue ≠ [] → next.inFlightProfileChange.isSome = true)
    (hvalid : validate start.confirmedProfile = [])
    (hgoing : next.pendingDispatch ≠ none →
      start.workloadTerminal = false ∧ start.profileStateFailed = false)
    (hstopping : plane.stopping = start.stopping)
    (hfailed : plane.profileStateFailed = start.profileStateFailed)
    (hattached : plane.attachedAfter event = true) (hbase : base = plane.remainingChange event)
    (hconfirmed : start.confirmedProfile = plane.confirmedAfter event) (hmarked : next.Marked event) :
    Outcome plane event next batch where
  inv := { h.toQueueInv with behind := hbehind, valid := h.confirmed ▸ hvalid }
  pending := h.pending
  going := fun hsome => by
    rw [h.pending] at hsome
    exact ⟨h.going hsome, h.terminal.trans (hgoing hsome).1, h.failed.trans (hgoing hsome).2⟩
  attached := by rw [hattached, h.detached, Bool.true_and, Bool.not_not]
  silent := fun hnone => absurd (hattached.symm.trans hnone) (by decide)
  stopped := h.stopped
  failed := fun hfail => absurd (h.quiet.symm.trans hfail) (by decide)
  stillStopping := fun hstop => h.stillStopping (hstopping ▸ hstop)
  stillFailed := fun hfail => h.failed.trans (hfailed ▸ hfail)
  settled := h.settled.trans hbase
  confirmed := h.confirmed.trans hconfirmed
  marked := hmarked

/-- An event that collects no action, or only the failure of the Session. -/
theorem outcome_detached {next : ControllerControlPlane} {event : ControlPlaneEvent} {fail : Bool}
    (hinv : Inv next) (hpending : next.pendingDispatch = none)
    (hattached : next.controllerAttached = plane.attachedAfter event)
    (hstopping : plane.stopping = true → next.stopping = true)
    (hfailed : plane.profileStateFailed = true → next.profileStateFailed = true)
    (hfail : fail = true → next.profileStateFailed = true)
    (hsettled : next.settledChange = plane.remainingChange event)
    (hconfirmed : next.confirmedProfile = plane.confirmedAfter event) (hmarked : next.Marked event) :
    Outcome plane event next { fail := fail } where
  inv := hinv
  pending := hpending.symm
  going := fun hsome => absurd rfl hsome
  attached := by rw [hattached, Bool.not_false, Bool.and_true]
  silent := fun _ => ⟨rfl, rfl⟩
  stopped := fun hstop => by cases hstop
  failed := hfail
  stillStopping := hstopping
  stillFailed := hfailed
  settled := hsettled
  confirmed := hconfirmed
  marked := hmarked

@[simp] theorem pendingDispatch_withoutWaiting :
    plane.withoutWaiting.pendingDispatch = plane.pendingDispatch := by
  unfold pendingDispatch withoutWaiting
  rcases plane.inFlightProfileChange with _ | ⟨change, reply, pending⟩
  · rfl
  · cases pending <;> rfl

@[simp] theorem settledChange_withoutWaiting :
    plane.withoutWaiting.settledChange = plane.settledChange := by
  unfold settledChange withoutWaiting
  rcases plane.inFlightProfileChange with _ | ⟨change, reply, pending⟩
  · rfl
  · cases pending <;> rfl

/-- Without a dispatch to execute, the change in flight is a settled one. -/
theorem settledChange_of_pendingDispatch (h : plane.pendingDispatch = none) :
    plane.settledChange = plane.inFlightChange := by
  unfold settledChange inFlightChange
  rw [pendingDispatch] at h
  rcases hinFlight : plane.inFlightProfileChange with _ | ⟨change, reply, pending⟩
  · rfl
  · rw [hinFlight] at h
    cases pending
    · rfl
    · cases h

theorem inv_withoutWaiting (h : Inv plane) : Inv plane.withoutWaiting where
  waits := fun hqueue => absurd rfl hqueue
  entries := fun _ hqueued => by cases hqueued
  canonical := canonical_map_inFlight (fun _ => rfl) h.canonical
  behind := fun hqueue => absurd rfl hqueue
  valid := h.valid

/-- A result for no change or for another one leaves the change in flight where it is. -/
theorem remainingChange_of_other (result : ControlPlaneProfileChangeResult) {change : ProfileChange}
    (hother : plane.inFlightChange.any (·.same change) = false) :
    plane.remainingChange (.helperProfileChangeResult result change) = plane.inFlightChange := by
  unfold remainingChange
  dsimp only
  cases hchange : plane.inFlightChange with
  | none => rfl
  | some current =>
      rw [hchange, Option.any_some] at hother
      rw [Option.filter_some, if_pos (by rw [hother]; rfl)]

/-- A result for the change in flight ends it. -/
theorem remainingChange_of_same (result : ControlPlaneProfileChangeResult) {change : ProfileChange}
    {inFlight : InFlightProfileChange} (hcurrent : plane.inFlightProfileChange = some inFlight)
    (hsame : inFlight.change.same change = true) :
    plane.remainingChange (.helperProfileChangeResult result change) = none := by
  rw [remainingChange, inFlightChange, hcurrent, Option.map_some, Option.filter_some, if_neg (by rw [hsame]; decide)]

theorem outcome_rejected (hinv : Inv plane) (hpending : plane.pendingDispatch = none)
    (result : ControlPlaneProfileChangeResult) {change : ProfileChange}
    (hother : plane.inFlightChange.any (·.same change) = false) :
    ∃ batch, plane.rejectProfileChangeResult.2 = batch.actions ∧
      Outcome plane (.helperProfileChangeResult result change) plane.rejectProfileChangeResult.1
        batch := by
  have hconfirmed : plane.confirmedProfile =
      plane.confirmedAfter (.helperProfileChangeResult result change) := by
    cases result with
    | applied => rw [confirmedAfter, hother]; rfl
    | restoredAfterFailure => rfl
  have hsettled := (settledChange_of_pendingDispatch hpending).trans (remainingChange_of_other result hother).symm
  unfold rejectProfileChangeResult
  split
  · refine ⟨{ fail := true }, rfl, outcome_detached ?_ hpending rfl id (fun _ => rfl) (fun _ => rfl)
      hsettled hconfirmed trivial⟩
    exact {
      waits := fun hqueue => absurd rfl hqueue
      entries := fun _ hqueued => by cases hqueued
      canonical := hinv.canonical
      behind := fun hqueue => absurd rfl hqueue
      valid := hinv.valid }
  · exact ⟨{}, rfl, outcome_detached hinv hpending rfl id id (fun hfail => by cases hfail) hsettled
      hconfirmed trivial⟩

theorem inFlightChange_settled : plane.settled.inFlightChange = plane.inFlightChange := by
  unfold inFlightChange settled
  rw [Option.map_map]
  rfl

theorem pendingDispatch_settled : plane.settled.pendingDispatch = none := by
  unfold pendingDispatch settled
  rcases plane.inFlightProfileChange with _ | ⟨change, reply, pending⟩ <;> rfl

theorem inv_settled (h : Inv plane) : Inv plane.settled where
  waits := h.waits
  entries := h.entries
  canonical := canonical_map_inFlight (fun _ => rfl) h.canonical
  behind := fun hqueue => by
    rw [show plane.settled.inFlightProfileChange.isSome = plane.inFlightProfileChange.isSome from
      Option.isSome_map]
    exact h.behind hqueue
  valid := h.valid

theorem inFlightChange_of_pendingDispatch {change : ProfileChange}
    (h : plane.pendingDispatch = some change) :
    plane.inFlightChange = some change ∧ plane.settledChange = none ∧
      (Inv plane → change.Canonical) := by
  unfold pendingDispatch at h
  rcases hinFlight : plane.inFlightProfileChange with _ | ⟨current, reply, pending⟩
  · rw [hinFlight] at h
    cases h
  · rw [hinFlight] at h
    cases pending
    · cases h
    · cases h
      refine ⟨?_, ?_, fun hinv => hinv.canonical _ hinFlight⟩
      · rw [inFlightChange, hinFlight]
        rfl
      · rw [settledChange, hinFlight]
        rfl

theorem inFlightChange_of_settledChange {change : ProfileChange} (h : plane.settledChange = some change) :
    plane.inFlightChange = some change := by
  unfold settledChange at h
  unfold inFlightChange
  rcases hinFlight : plane.inFlightProfileChange with _ | ⟨current, reply, pending⟩
  · rw [hinFlight] at h
    cases h
  · rw [hinFlight] at h
    cases pending
    · exact h
    · cases h

theorem inFlightChange_controllerWriteFailed :
    plane.controllerWriteFailed.inFlightChange = plane.settledChange := by
  unfold inFlightChange controllerWriteFailed disconnectController settledChange
  rcases plane.inFlightProfileChange with _ | ⟨change, reply, pending⟩
  · rfl
  · cases pending <;> rfl

theorem settledChange_controllerWriteFailed : plane.controllerWriteFailed.settledChange = plane.settledChange := by
  unfold controllerWriteFailed disconnectController settledChange
  rcases plane.inFlightProfileChange with _ | ⟨change, reply, pending⟩
  · rfl
  · cases pending <;> rfl

/-- After a failed write nothing waits for execution, nobody is attached, and the rest is as it
was. -/
theorem inv_controllerWriteFailed (h : Inv plane) : Inv plane.controllerWriteFailed where
  waits := fun hqueue => absurd rfl hqueue
  entries := fun _ hqueued => by cases hqueued
  canonical := canonical_map_inFlight (fun _ => rfl) fun current hcurrent =>
    h.canonical current (Option.filter_eq_some_iff.mp hcurrent).1
  behind := fun hqueue => absurd rfl hqueue
  valid := h.valid

variable [DecimalText]

theorem outcome_bytes (hinv : Inv plane) (hpending : plane.pendingDispatch = none) (bytes : Bytes) :
    ∃ batch, (plane.handleSettled (.controllerBytesReceived bytes)).2 = batch.actions ∧
      Outcome plane (.controllerBytesReceived bytes)
        (plane.handleSettled (.controllerBytesReceived bytes)).1 batch := by
  have hsettled := settledChange_of_pendingDispatch hpending
  unfold handleSettled
  dsimp only
  split
  · exact ⟨{}, rfl, outcome_detached hinv hpending rfl id id (fun hfail => by cases hfail) hsettled rfl
      trivial⟩
  · rename_i hopen
    simp only [Bool.or_eq_true, not_or, Bool.not_eq_true, Bool.not_eq_true', Bool.not_eq_false] at hopen
    obtain ⟨⟨hattached, hterminal⟩, hfailed⟩ := hopen
    have hstart : Handling plane.settledChange plane { plane with readBuffer := [] } {} :=
      { handling_start hinv.toQueueInv hpending hattached [] with }
    obtain ⟨batch, hactions, hbatch, hbehind⟩ := hstart.receiveControllerLines hterminal hfailed
      (splitLines (plane.readBuffer ++ bytes)).1 hinv.behind
    have houtcome : ∀ {next batch}, Handling plane.settledChange plane next batch →
        (next.commandQueue ≠ [] → next.inFlightProfileChange.isSome = true) →
        Outcome plane (.controllerBytesReceived bytes) next batch := fun hnext hbehind =>
      hnext.outcome hbehind hinv.valid (fun _ => ⟨hterminal, hfailed⟩) rfl rfl hattached hsettled rfl trivial
    unfold receiveControllerBytes
    dsimp only
    rw [show ([] : List ControlPlaneAction) = ActionBatch.actions {} from rfl]
    split
    · exact ⟨batch, hactions, houtcome hbatch hbehind⟩
    · rename_i hstill
      rw [Bool.not_eq_false] at hstill
      split
      · obtain ⟨hactions', hbatch'⟩ :=
          hbatch.disconnect hstill (controllerParseErrorResponse .commandTooLong)
        rw [hactions]
        exact ⟨_, hactions', houtcome hbatch' fun hqueue => absurd rfl hqueue⟩
      · exact ⟨batch, hactions, houtcome { hbatch with } hbehind⟩

/-- After the end of a change the texts for its Controller go out, and the queue is drained. -/
theorem outcome_drained {event : ControlPlaneEvent} {landed : ControllerControlPlane}
    {texts : List Bytes} (hinv : QueueInv landed) (hnone : landed.inFlightProfileChange = none)
    (hvalid : validate landed.confirmedProfile = [])
    (htexts : landed.controllerAttached = false → texts = [])
    (hstopping : plane.stopping = landed.stopping)
    (hfailed : plane.profileStateFailed = landed.profileStateFailed)
    (hattached : plane.attachedAfter event = landed.controllerAttached)
    (hremaining : plane.remainingChange event = none)
    (hconfirmed : landed.confirmedProfile = plane.confirmedAfter event)
    (hmarked : ∀ next : ControllerControlPlane, next.Marked event) :
    let drained :=
      if !landed.workloadTerminal && !landed.profileStateFailed then
        landed.drainQueue (texts.map .sendControllerText) landed.commandQueue.length
      else (landed, texts.map .sendControllerText)
    ∃ batch, drained.2 = batch.actions ∧ Outcome plane event drained.1 batch := by
  have hpending : landed.pendingDispatch = none := by rw [pendingDispatch, hnone]; rfl
  have hsettled : landed.settledChange = none := by rw [settledChange, hnone]; rfl
  have hactions : texts.map ControlPlaneAction.sendControllerText =
      ActionBatch.actions { texts := texts } := by
    simp [ActionBatch.actions, ActionBatch.front]
  by_cases hcontroller : landed.controllerAttached = true
  · have hstart := handling_start hinv hpending hcontroller texts
    rw [hsettled] at hstart
    rw [hactions]
    intro drained
    by_cases hgo : (!landed.workloadTerminal && !landed.profileStateFailed) = true
    · have hdrained : drained =
          landed.drainQueue (ActionBatch.actions { texts := texts }) landed.commandQueue.length :=
        if_pos hgo
      rw [Bool.and_eq_true, Bool.not_eq_true', Bool.not_eq_true'] at hgo
      obtain ⟨batch, hbatch, hnext, hbehind⟩ :=
        Handling.drainQueue hgo.1 hgo.2 hstart fun _ => Nat.le_refl _
      rw [hdrained]
      exact ⟨batch, hbatch, hnext.outcome hbehind hvalid (fun _ => hgo) hstopping hfailed
        (hattached.trans hcontroller) hremaining.symm hconfirmed (hmarked _)⟩
    · have hdrained : drained = (landed, ActionBatch.actions { texts := texts }) := if_neg hgo
      rw [hdrained]
      refine ⟨{ texts := texts }, rfl, hstart.outcome (fun hqueue => ?_) hvalid
        (fun hsome => absurd hpending hsome) hstopping hfailed (hattached.trans hcontroller)
        hremaining.symm hconfirmed (hmarked _)⟩
      rw [(hinv.waits hqueue).2.2.1, (hinv.waits hqueue).2.2.2] at hgo
      exact absurd rfl hgo
  · -- nobody is attached: no text, and no command waits
    rw [Bool.not_eq_true] at hcontroller
    have hqueue := hinv.idle hcontroller
    have hdrained : ∀ actions, landed.drainQueue actions landed.commandQueue.length =
        (landed, actions) := by
      intro actions
      rw [hqueue]
      rfl
    rw [htexts hcontroller, List.map_nil, hdrained, ite_self]
    exact ⟨{}, rfl, outcome_detached
      { hinv with behind := fun hne => absurd hqueue hne, valid := hvalid } hpending hattached.symm
      (fun hstop => hstopping ▸ hstop) (fun hfail => hfailed ▸ hfail) (fun hfail => by cases hfail)
      (hsettled.trans hremaining.symm) hconfirmed (hmarked _)⟩

theorem outcome_result (hinv : Inv plane) (hpending : plane.pendingDispatch = none)
    (result : ControlPlaneProfileChangeResult) (change : ProfileChange) :
    ∃ batch, (plane.handleSettled (.helperProfileChangeResult result change)).2 = batch.actions ∧
      Outcome plane (.helperProfileChangeResult result change)
        (plane.handleSettled (.helperProfileChangeResult result change)).1 batch := by
  unfold handleSettled
  dsimp only
  cases hinFlight : plane.inFlightProfileChange with
  | none =>
      exact outcome_rejected hinv hpending result (by rw [inFlightChange, hinFlight]; rfl)
  | some inFlight =>
      dsimp only
      have hchange : plane.inFlightChange = some inFlight.change := by
        rw [inFlightChange, hinFlight]
        rfl
      split
      · rename_i hsame
        have hremaining := remainingChange_of_same result hinFlight hsame
        have hany : plane.inFlightChange.any (·.same change) = true := by rw [hchange]; exact hsame
        have hlanded : ∀ profile shaping, QueueInv { plane with
            inFlightProfileChange := none, confirmedProfile := profile, shapingApplied := shaping } :=
          fun profile shaping => {
            waits := hinv.waits
            entries := hinv.entries
            canonical := fun _ hcurrent => by cases hcurrent }
        have hreplying : ∀ (text : Bytes) (replying : Bool),
            (if (!plane.workloadTerminal && !plane.stopping && plane.controllerAttached && replying) then
              [ControlPlaneAction.sendControllerText text] else []) =
            (if (!plane.workloadTerminal && !plane.stopping && plane.controllerAttached && replying) then
              [text] else []).map .sendControllerText := by
          intro text replying
          split <;> rfl
        have hsilent : ∀ (text : Bytes) (replying : Bool), plane.controllerAttached = false →
            (if (!plane.workloadTerminal && !plane.stopping && plane.controllerAttached && replying) then
              [text] else []) = [] := by
          intro text replying hdetached
          rw [hdetached, Bool.and_false, Bool.false_and]
          rfl
        unfold finishProfileChange
        cases result with
        | restoredAfterFailure =>
            dsimp only
            rw [hreplying]
            exact outcome_drained (hlanded _ _) rfl hinv.valid (hsilent _ _) rfl rfl rfl hremaining rfl
              fun _ => trivial
        | applied =>
            cases happly : applyProfileChange plane.confirmedProfile change with
            | error errors =>
                dsimp only
                have hconfirmed : plane.confirmedProfile =
                    plane.confirmedAfter (.helperProfileChangeResult .applied change) := by
                  rw [confirmedAfter, hany, if_pos rfl, happly]
                exact ⟨{ fail := true }, rfl, outcome_detached {
                  waits := fun hqueue => absurd rfl hqueue
                  entries := fun _ hqueued => by cases hqueued
                  canonical := fun _ hcurrent => by cases hcurrent
                  behind := fun hqueue => absurd rfl hqueue
                  valid := hinv.valid } rfl rfl id (fun _ => rfl) (fun _ => rfl) hremaining.symm
                  hconfirmed trivial⟩
            | ok profile =>
                dsimp only
                have hconfirmed : profile =
                    plane.confirmedAfter (.helperProfileChangeResult .applied change) := by
                  rw [confirmedAfter, hany, if_pos rfl, happly]
                rw [hreplying]
                exact outcome_drained (hlanded _ _) rfl (validate_of_applyProfileChange happly)
                  (hsilent _ _) rfl rfl rfl hremaining hconfirmed fun _ => trivial
      · rename_i hsame
        rw [Bool.not_eq_true] at hsame
        exact outcome_rejected hinv hpending result (by rw [hchange]; exact hsame)

theorem handleSettled_outcome (hinv : Inv plane) (hpending : plane.pendingDispatch = none)
    {event : ControlPlaneEvent} (hwrite : event ≠ .controllerWriteFailed)
    (hattach : event = .controllerAttached → plane.controllerAttached = false) :
    ∃ batch, (plane.handleSettled event).2 = batch.actions ∧
      Outcome plane event (plane.handleSettled event).1 batch := by
  have hsettled := settledChange_of_pendingDispatch hpending
  cases event with
  | controllerWriteFailed => exact absurd rfl hwrite
  | controllerBytesReceived bytes => exact outcome_bytes hinv hpending bytes
  | helperProfileChangeResult result change => exact outcome_result hinv hpending result change
  | controllerAttached =>
      -- nobody was attached, so no command waits for an older connection
      have hqueue := hinv.idle (hattach rfl)
      have hnext : QueueInv { plane with
          connectionGeneration := plane.connectionGeneration + 1
          controllerAttached := true
          readBuffer := [] } := {
        waits := fun hne => absurd hqueue hne
        entries := fun queued hqueued => by
          rw [show plane.commandQueue = [] from hqueue] at hqueued
          cases hqueued
        canonical := hinv.canonical }
      exact ⟨{ texts := [attachedText] }, rfl,
        (handling_start hnext hpending rfl [attachedText]).outcome (fun hne => absurd hqueue hne)
          hinv.valid (fun hsome => absurd hpending hsome) rfl rfl rfl hsettled rfl trivial⟩
  | controllerDisconnected =>
      exact ⟨{}, rfl, outcome_detached {
        waits := fun hqueue => absurd rfl hqueue
        entries := fun _ hqueued => by cases hqueued
        canonical := canonical_map_inFlight (fun _ => rfl) hinv.canonical
        behind := fun hqueue => absurd rfl hqueue
        valid := hinv.valid } (plane.pendingDispatch_disconnect.trans hpending) rfl id id
        (fun hfail => by cases hfail) (plane.settledChange_disconnect.trans hsettled) rfl
        trivial⟩
  | helperProfileStateUnknown =>
      unfold handleSettled
      dsimp only
      split
      · rename_i hfailed
        exact ⟨{}, rfl, outcome_detached hinv hpending rfl id id (fun hfail => by cases hfail) hsettled
          rfl hfailed⟩
      · exact ⟨{ fail := true }, rfl, outcome_detached { inv_withoutWaiting hinv with
          waits := fun hqueue => absurd rfl hqueue } (pendingDispatch_withoutWaiting.trans hpending) rfl
          id (fun _ => rfl) (fun _ => rfl) (settledChange_withoutWaiting.trans hsettled) rfl rfl⟩
  | sessionStopping =>
      exact ⟨{}, rfl, outcome_detached { inv_withoutWaiting hinv with
        waits := fun hqueue => absurd rfl hqueue } (pendingDispatch_withoutWaiting.trans hpending) rfl
        (fun _ => rfl) id (fun hfail => by cases hfail) (settledChange_withoutWaiting.trans hsettled) rfl
        rfl⟩
  | workloadTerminal =>
      exact ⟨{}, rfl, outcome_detached { inv_withoutWaiting hinv with
        waits := fun hqueue => absurd rfl hqueue } (pendingDispatch_withoutWaiting.trans hpending) rfl
        id id (fun hfail => by cases hfail) (settledChange_withoutWaiting.trans hsettled) rfl
        rfl⟩

omit [DecimalText] in
theorem remainingChange_settled (event : ControlPlaneEvent) :
    plane.settled.remainingChange event = plane.remainingChange event := by
  cases event <;> simp only [remainingChange, inFlightChange_settled]

/-- Every event but a failed write is a batch of actions with a known outcome. -/
theorem handle_outcome (hinv : Inv plane) {event : ControlPlaneEvent}
    (hwrite : event ≠ .controllerWriteFailed)
    (hattach : event = .controllerAttached → plane.controllerAttached = false) :
    ∃ batch, (plane.handle event).2 = batch.actions ∧ Outcome plane event (plane.handle event).1 batch := by
  obtain ⟨batch, hactions, houtcome⟩ :=
    handleSettled_outcome (inv_settled hinv) pendingDispatch_settled hwrite hattach
  rw [handle, if_neg hwrite]
  have hconfirmed : plane.settled.confirmedAfter event = plane.confirmedAfter event := by
    cases event with
    | helperProfileChangeResult result change =>
        cases result <;> simp only [confirmedAfter, inFlightChange_settled] <;> rfl
    | _ => rfl
  have hattached : plane.settled.attachedAfter event = plane.attachedAfter event := by
    cases event <;> rfl
  exact ⟨batch, hactions, { houtcome with
    attached := hattached ▸ houtcome.attached
    silent := hattached ▸ houtcome.silent
    settled := remainingChange_settled event ▸ houtcome.settled
    confirmed := hconfirmed ▸ houtcome.confirmed }⟩

end Outcomes

end ControllerControlPlane

end NetLagLab
