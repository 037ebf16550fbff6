import NetLagLab.ControlPlaneBatches

/-! What the control plane can do with a command, with a line of the Controller and with an event, case by
case: the control plane it leads to and the batch it asks for. Every law of the control plane is read off
these cases. -/

namespace NetLagLab

open ByteLines

/-- The texts among actions. -/
def controllerTexts (actions : List ControlPlaneAction) : List Bytes :=
  actions.filterMap fun
    | .sendControllerText text => some text
    | _ => none

/-- The changes that actions dispatch. -/
def dispatchedChanges (actions : List ControlPlaneAction) : List ProfileChange :=
  actions.filterMap fun
    | .dispatchProfileChange change => some change
    | _ => none

theorem dispatchedChanges_append (actions more : List ControlPlaneAction) :
    dispatchedChanges (actions ++ more) = dispatchedChanges actions ++ dispatchedChanges more :=
  List.filterMap_append

namespace ActionBatch

variable (batch : ActionBatch)

@[simp] theorem controllerTexts_actions : controllerTexts batch.actions = batch.texts := by
  obtain ⟨stop, texts, disconnect, fail, dispatch⟩ := batch
  cases stop <;> cases disconnect <;> cases fail <;> cases dispatch <;>
    simp [controllerTexts, actions, front, List.filterMap_map]

@[simp] theorem dispatchedChanges_actions : dispatchedChanges batch.actions = batch.dispatch.toList := by
  obtain ⟨stop, texts, disconnect, fail, dispatch⟩ := batch
  cases stop <;> cases disconnect <;> cases fail <;> cases dispatch <;>
    simp [dispatchedChanges, actions, front, List.filterMap_map]

@[simp] theorem requestLifecycleStop_mem : .requestLifecycleStop ∈ batch.actions ↔ batch.stop = true := by
  obtain ⟨stop, texts, disconnect, fail, dispatch⟩ := batch
  cases stop <;> cases disconnect <;> cases fail <;> cases dispatch <;> simp [actions, front]

@[simp] theorem disconnectController_mem : .disconnectController ∈ batch.actions ↔ batch.disconnect = true := by
  obtain ⟨stop, texts, disconnect, fail, dispatch⟩ := batch
  cases stop <;> cases disconnect <;> cases fail <;> cases dispatch <;> simp [actions, front]

@[simp] theorem failSession_mem :
    .failSessionForUnknownProfileState ∈ batch.actions ↔ batch.fail = true := by
  obtain ⟨stop, texts, disconnect, fail, dispatch⟩ := batch
  cases stop <;> cases disconnect <;> cases fail <;> cases dispatch <;> simp [actions, front]

@[simp] theorem dispatchProfileChange_mem {change : ProfileChange} :
    .dispatchProfileChange change ∈ batch.actions ↔ batch.dispatch = some change := by
  obtain ⟨stop, texts, disconnect, fail, dispatch⟩ := batch
  cases stop <;> cases disconnect <;> cases fail <;> cases dispatch <;> simp [actions, front, eq_comm]

theorem count_stop_le : batch.actions.count .requestLifecycleStop ≤ 1 := by
  obtain ⟨stop, texts, disconnect, fail, dispatch⟩ := batch
  have htexts : (texts.map ControlPlaneAction.sendControllerText).count .requestLifecycleStop = 0 :=
    List.count_eq_zero.mpr (by simp)
  cases stop <;> cases disconnect <;> cases fail <;> cases dispatch <;> simp [actions, front, htexts]

theorem count_fail_le : batch.actions.count .failSessionForUnknownProfileState ≤ 1 := by
  obtain ⟨stop, texts, disconnect, fail, dispatch⟩ := batch
  have htexts : (texts.map ControlPlaneAction.sendControllerText).count
      .failSessionForUnknownProfileState = 0 := List.count_eq_zero.mpr (by simp)
  cases stop <;> cases disconnect <;> cases fail <;> cases dispatch <;> simp [actions, front, htexts]

theorem actions_injective : Function.Injective actions := by
  intro left right h
  have hstop : left.stop = true ↔ right.stop = true := by
    rw [← requestLifecycleStop_mem, h, requestLifecycleStop_mem]
  have hdisconnect : left.disconnect = true ↔ right.disconnect = true := by
    rw [← disconnectController_mem, h, disconnectController_mem]
  have hfail : left.fail = true ↔ right.fail = true := by
    rw [← failSession_mem, h, failSession_mem]
  have htexts : left.texts = right.texts := by
    rw [← controllerTexts_actions, h, controllerTexts_actions]
  have hdispatch : left.dispatch = right.dispatch := by
    ext change
    rw [← dispatchProfileChange_mem, h, dispatchProfileChange_mem]
  obtain ⟨stop, texts, disconnect, fail, dispatch⟩ := left
  obtain ⟨stop', texts', disconnect', fail', dispatch'⟩ := right
  rw [← Bool.eq_iff_iff] at hstop hdisconnect hfail
  obtain rfl : stop = stop' := hstop
  obtain rfl : texts = texts' := htexts
  obtain rfl : disconnect = disconnect' := hdisconnect
  obtain rfl : fail = fail' := hfail
  obtain rfl : dispatch = dispatch' := hdispatch
  rfl

/-- One more text. -/
def say (text : Bytes) : ActionBatch := { batch with texts := batch.texts ++ [text] }

/-- A last text and the disconnect. -/
def sayGoodbye (text : Bytes) : ActionBatch := { batch.say text with disconnect := true }

end ActionBatch

namespace ControllerControlPlane

/-! ### One command -/

def enqueue (plane : ControllerControlPlane) (command : ControllerCommand) : ControllerControlPlane :=
  { plane with commandQueue := plane.commandQueue ++ [⟨command, plane.connectionGeneration⟩] }

/-- The change is on its way to the helper, for the attached Controller. -/
def dispatching (plane : ControllerControlPlane) (change : ProfileChange) : ControllerControlPlane :=
  { plane with inFlightProfileChange := some ⟨change, some plane.connectionGeneration, true⟩ }

/-- Commands have to wait. -/
def Waiting (plane : ControllerControlPlane) : Prop :=
  plane.inFlightProfileChange.isSome = true ∧ plane.stopping = false

/-- What the batch of an event in progress says about its control plane. -/
structure Collecting (plane : ControllerControlPlane) (batch : ActionBatch) : Prop where
  attached : batch.disconnect = !plane.controllerAttached
  quiet : batch.fail = false
  stopped : batch.stop = true → plane.stopping = true
  pending : batch.dispatch = plane.pendingDispatch

section Collecting

variable {plane : ControllerControlPlane} {batch : ActionBatch}

theorem Collecting.say (h : Collecting plane batch) (hattached : plane.controllerAttached = true) (text : Bytes) :
    appendBeforeDispatch batch.actions (.sendControllerText text) = (batch.say text).actions := by
  have hdisconnect : batch.disconnect = false := by rw [h.attached, hattached]; rfl
  exact batch.appendText hdisconnect h.quiet text

theorem Collecting.sayGoodbye (h : Collecting plane batch) (hattached : plane.controllerAttached = true)
    (text : Bytes) :
    appendBeforeDispatch (appendBeforeDispatch batch.actions (.sendControllerText text)) .disconnectController =
      (batch.sayGoodbye text).actions := by
  have hdisconnect : batch.disconnect = false := by rw [h.attached, hattached]; rfl
  rw [h.say hattached]
  exact (batch.say text).appendDisconnect hdisconnect h.quiet

/-- A stop is requested once, and takes back a dispatch that is not executed yet. -/
theorem Collecting.enterStopping (h : Collecting plane batch) (hattached : plane.controllerAttached = true) :
    plane.enterStopping batch.actions = (plane.stopped,
      { batch.say stoppingText with stop := batch.stop || !plane.stopping, dispatch := none }.actions) := by
  have hdisconnect : batch.disconnect = false := by rw [h.attached, hattached]; rfl
  have hrequested : (if plane.stopping then batch.actions else .requestLifecycleStop :: batch.actions) =
      { batch with stop := batch.stop || !plane.stopping }.actions := by
    by_cases hstopping : plane.stopping = true
    · rw [if_pos hstopping, hstopping, Bool.not_true, Bool.or_false]
    · have hstop : batch.stop = false := Bool.eq_false_iff.mpr fun hstop => hstopping (h.stopped hstop)
      rw [if_neg hstopping, Bool.eq_false_iff.mpr hstopping, Bool.not_false, Bool.or_true]
      exact batch.cons_stop hstop
  have hkept : (if plane.inFlightProfileChange.any (·.dispatchPendingExecution) then
      { batch with stop := batch.stop || !plane.stopping }.actions.filter (!·.isDispatch)
      else { batch with stop := batch.stop || !plane.stopping }.actions) =
        { batch with stop := batch.stop || !plane.stopping, dispatch := none }.actions := by
    split
    · exact ActionBatch.filter_actions { batch with stop := batch.stop || !plane.stopping }
    · rename_i hany
      have hnone : batch.dispatch = none := by
        rw [h.pending, pendingDispatch]
        rcases hinFlight : plane.inFlightProfileChange with _ | ⟨change, reply, pending⟩
        · rfl
        · rw [hinFlight] at hany
          cases pending
          · rfl
          · exact absurd rfl hany
      rw [← hnone]
  simp only [ControllerControlPlane.enterStopping]
  rw [hrequested, hkept, ActionBatch.appendText
    { batch with stop := batch.stop || !plane.stopping, dispatch := none } hdisconnect h.quiet]
  rfl

end Collecting

variable [DecimalText]

def statusText (plane : ControllerControlPlane) : Bytes :=
  buildStatus plane.workloadPid plane.childArguments plane.confirmedProfile plane.stopping plane.shapingApplied

/-- What a command can do. -/
inductive CommandStep (plane : ControllerControlPlane) (batch : ActionBatch) :
    ControllerCommand → ControllerControlPlane → ActionBatch → Prop
  | stop : CommandStep plane batch .stop plane.stopped
      { batch.say stoppingText with stop := batch.stop || !plane.stopping, dispatch := none }
  | refused (change : ProfileChange) (stopping : plane.stopping = true) :
      CommandStep plane batch (.profileChange change) plane (batch.say sessionIsStoppingText)
  | overflow {command : ControllerCommand} (ordinary : command ≠ .stop) (waiting : plane.Waiting)
      (full : maximumQueuedCommands ≤ plane.commandQueue.length) :
      CommandStep plane batch command plane.disconnectController (batch.sayGoodbye tooManyQueuedCommandsText)
  | queued {command : ControllerCommand} (ordinary : command ≠ .stop) (waiting : plane.Waiting)
      (room : plane.commandQueue.length < maximumQueuedCommands) :
      CommandStep plane batch command (plane.enqueue command) batch
  | help (free : ¬ plane.Waiting) : CommandStep plane batch .help plane (batch.say helpResponse)
  | status (free : ¬ plane.Waiting) : CommandStep plane batch .status plane (batch.say plane.statusText)
  | dispatched (change : ProfileChange) (free : plane.inFlightProfileChange = none)
      (going : plane.stopping = false) :
      CommandStep plane batch (.profileChange change) (plane.dispatching change)
        { batch with dispatch := some change }
  | detached (free : ¬ plane.Waiting) :
      CommandStep plane batch .detach plane.disconnectController (batch.sayGoodbye detachedText)

section Commands

variable {plane : ControllerControlPlane} {batch : ActionBatch} {command : ControllerCommand}

theorem commandStep_enqueueOrExecute (h : Collecting plane batch) (hattached : plane.controllerAttached = true)
    (hordinary : command ≠ .stop) (hchange : (∃ change, command = .profileChange change) → plane.stopping = false) :
    ∃ next after, plane.enqueueOrExecute command batch.actions = (next, after.actions) ∧
      CommandStep plane batch command next after := by
  unfold enqueueOrExecute
  by_cases hwaiting : plane.Waiting
  · rw [if_pos (by rw [hwaiting.1, hwaiting.2]; rfl)]
    by_cases hfull : maximumQueuedCommands ≤ plane.commandQueue.length
    · rw [if_pos hfull, h.sayGoodbye hattached]
      exact ⟨_, _, rfl, .overflow hordinary hwaiting hfull⟩
    · rw [if_neg hfull]
      exact ⟨_, _, rfl, .queued hordinary hwaiting (Nat.lt_of_not_le hfull)⟩
  · have hfree : ¬ (plane.inFlightProfileChange.isSome && !plane.stopping) = true := by
      rwa [Bool.and_eq_true, Bool.not_eq_true']
    rw [if_neg hfree]
    cases command with
    | help => exact ⟨_, _, congrArg (Prod.mk plane) (h.say hattached helpResponse), .help hwaiting⟩
    | status => exact ⟨_, _, congrArg (Prod.mk plane) (h.say hattached plane.statusText), .status hwaiting⟩
    | detach =>
        exact ⟨_, _, congrArg (Prod.mk plane.disconnectController) (h.sayGoodbye hattached detachedText),
          .detached hwaiting⟩
    | stop => exact absurd rfl hordinary
    | profileChange change =>
        have hgoing : plane.stopping = false := hchange ⟨change, rfl⟩
        have hnone : plane.inFlightProfileChange = none := by
          by_contra hsome
          exact hwaiting ⟨Option.ne_none_iff_isSome.mp hsome, hgoing⟩
        have hpending : batch.dispatch = none := by rw [h.pending, pendingDispatch, hnone]; rfl
        exact ⟨_, _, congrArg (Prod.mk (plane.dispatching change)) (batch.actions_dispatch hpending change),
          .dispatched change hnone hgoing⟩

/-- Every command of the attached Controller is one of these steps. -/
theorem commandStep (h : Collecting plane batch) (hattached : plane.controllerAttached = true)
    (command : ControllerCommand) :
    ∃ next after, plane.processCommand command batch.actions = (next, after.actions) ∧
      CommandStep plane batch command next after := by
  cases command with
  | stop => exact ⟨_, _, h.enterStopping hattached, .stop⟩
  | profileChange change =>
      unfold processCommand
      dsimp only
      split
      · rename_i hstopping
        exact ⟨_, _, congrArg (Prod.mk plane) (h.say hattached sessionIsStoppingText), .refused change hstopping⟩
      · rename_i hstopping
        exact commandStep_enqueueOrExecute h hattached (by simp) fun _ => Bool.eq_false_iff.mpr hstopping
  | _ => exact commandStep_enqueueOrExecute h hattached (by simp) fun hsome => by simp at hsome

theorem CommandStep.collecting {next : ControllerControlPlane} {after : ActionBatch}
    (h : CommandStep plane batch command next after) (hcollecting : Collecting plane batch)
    (hattached : plane.controllerAttached = true) : Collecting next after := by
  have hdisconnect : batch.disconnect = false := by rw [hcollecting.attached, hattached]; rfl
  have hsay : ∀ text, Collecting plane (batch.say text) := fun text => { hcollecting with }
  have hgoodbye : ∀ text, Collecting plane.disconnectController (batch.sayGoodbye text) := fun text => {
    attached := rfl
    quiet := hcollecting.quiet
    stopped := hcollecting.stopped
    pending := hcollecting.pending.trans (pendingDispatch_disconnect plane).symm }
  cases h with
  | stop => exact {
      attached := hcollecting.attached
      quiet := hcollecting.quiet
      stopped := fun _ => rfl
      pending := plane.pendingDispatch_stopped.symm }
  | refused => exact hsay _
  | overflow => exact hgoodbye _
  | queued => exact { hcollecting with }
  | help => exact hsay _
  | status => exact hsay _
  | dispatched => exact { hcollecting with pending := rfl }
  | detached => exact hgoodbye _

end Commands

/-! ### Lines and queued commands -/

/-- The commands among lines. -/
def lineCommands (lines : List Bytes) : List ControllerCommand :=
  lines.filterMap fun line =>
    match parseControllerCommand line with
    | .command command => some command
    | _ => none

def dequeue (plane : ControllerControlPlane) (rest : List QueuedCommand) : ControllerControlPlane :=
  { plane with commandQueue := rest }

/-- What a line of the Controller can do or, where the queue is drained, its first command. -/
inductive ServiceStep (plane : ControllerControlPlane) (batch : ActionBatch) :
    Bool → List ControllerCommand → ControllerControlPlane → ActionBatch → Prop
  | command {line : Bytes} {command : ControllerCommand} {next : ControllerControlPlane} {after : ActionBatch}
      (attached : plane.controllerAttached = true) (parsed : parseControllerCommand line = .command command)
      (step : CommandStep plane batch command next after) : ServiceStep plane batch false [command] next after
  | error (error : ControllerParseError) (attached : plane.controllerAttached = true) :
      ServiceStep plane batch false [] plane (batch.say (controllerParseErrorResponse error))
  | tooLong (attached : plane.controllerAttached = true) :
      ServiceStep plane batch false [] plane.disconnectController
        (batch.sayGoodbye (controllerParseErrorResponse .commandTooLong))
  | stale {queued : QueuedCommand} {rest : List QueuedCommand} (attached : plane.controllerAttached = true)
      (queue : plane.commandQueue = queued :: rest)
      (old : queued.connectionGeneration ≠ plane.connectionGeneration) :
      ServiceStep plane batch true [] (plane.dequeue rest) batch
  | queued {queued : QueuedCommand} {rest : List QueuedCommand} {next : ControllerControlPlane}
      {after : ActionBatch} (attached : plane.controllerAttached = true)
      (free : plane.inFlightProfileChange = none) (queue : plane.commandQueue = queued :: rest)
      (step : CommandStep (plane.dequeue rest) batch queued.command next after) :
      ServiceStep plane batch true [] next after

/-- Lines or queued commands in turn, with the commands that were received on the way. -/
inductive Services (draining : Bool) (start : ControllerControlPlane) (first : ActionBatch) :
    List ControllerCommand → ControllerControlPlane → ActionBatch → Prop
  | refl : Services draining start first [] start first
  | tail {received commands : List ControllerCommand} {plane next : ControllerControlPlane}
      {batch after : ActionBatch} (services : Services draining start first received plane batch)
      (step : ServiceStep plane batch draining commands next after) :
      Services draining start first (received ++ commands) next after

section Services

variable {start plane next : ControllerControlPlane} {first batch after : ActionBatch}
  {received commands : List ControllerCommand} {draining : Bool}

theorem ServiceStep.collecting (h : ServiceStep plane batch draining commands next after)
    (hcollecting : Collecting plane batch) : Collecting next after := by
  cases h with
  | command attached parsed step => exact step.collecting hcollecting attached
  | error => exact { hcollecting with }
  | tooLong => exact {
      attached := rfl
      quiet := hcollecting.quiet
      stopped := hcollecting.stopped
      pending := hcollecting.pending.trans (pendingDispatch_disconnect plane).symm }
  | stale => exact { hcollecting with }
  | queued attached free queue step => exact step.collecting { hcollecting with } attached

theorem Services.collecting (h : Services draining start first received plane batch)
    (hcollecting : Collecting start first) : Collecting plane batch := by
  induction h with
  | refl => exact hcollecting
  | tail services step ih => exact step.collecting ih

theorem Services.trans {more : List ControllerCommand} {last : ControllerControlPlane} {final : ActionBatch}
    (h : Services draining start first received plane batch) (hmore : Services draining plane batch more last final) :
    Services draining start first (received ++ more) last final := by
  induction hmore with
  | refl => rwa [List.append_nil]
  | tail services step ih =>
      rw [← List.append_assoc]
      exact .tail ih step

/-- One step and what follows it. -/
theorem Services.head {last : ControllerControlPlane} {final : ActionBatch}
    (hstep : ServiceStep plane batch draining commands next after)
    (h : Services draining next after received last final) :
    Services draining plane batch (commands ++ received) last final := by
  have hone := Services.tail .refl hstep
  rw [List.nil_append] at hone
  exact hone.trans h

/-- The lines of a Controller in their order, up to the one that detaches it. -/
theorem services_receiveControllerLines (lines : List Bytes) (h : Collecting plane batch) :
    ∃ received next after, plane.receiveControllerLines batch.actions lines = (next, after.actions) ∧
      Services false plane batch received next after ∧ received <+: lineCommands lines ∧
      (next.controllerAttached = true → received = lineCommands lines) := by
  induction lines generalizing plane batch with
  | nil => exact ⟨[], plane, batch, rfl, .refl, List.nil_prefix, fun _ => rfl⟩
  | cons line lines ih =>
      unfold receiveControllerLines
      by_cases hattached : plane.controllerAttached = false
      · rw [if_pos hattached]
        exact ⟨[], plane, batch, rfl, .refl, List.nil_prefix, fun hstill => by simp [hattached] at hstill⟩
      · rw [if_neg hattached]
        rw [Bool.not_eq_false] at hattached
        have hcommands : ∀ result, parseControllerCommand line = result → (∀ command, result ≠ .command command) →
            lineCommands (line :: lines) = lineCommands lines := by
          rintro result rfl hnone
          apply List.filterMap_cons_none
          split
          · exact absurd ‹_› (hnone _)
          · rfl
        cases hparse : parseControllerCommand line with
        | ignored =>
            rw [hcommands _ hparse (by simp)]
            exact ih h
        | error error =>
            rw [hcommands _ hparse (by simp)]
            dsimp only
            by_cases hlong : error = .commandTooLong
            · rw [if_pos hlong, h.sayGoodbye hattached]
              have hstep : ServiceStep plane batch false [] _ _ := .tooLong hattached
              obtain ⟨received, next, after, heq, hservices, hprefix⟩ := ih (hstep.collecting h)
              rw [hlong]
              exact ⟨received, next, after, heq, .head hstep hservices, hprefix⟩
            · rw [if_neg hlong, h.say hattached]
              have hstep : ServiceStep plane batch false [] _ _ := .error error hattached
              obtain ⟨received, next, after, heq, hservices, hprefix⟩ := ih (hstep.collecting h)
              exact ⟨received, next, after, heq, .head hstep hservices, hprefix⟩
        | command command =>
            obtain ⟨middle, between, heq, hcommand⟩ := commandStep h hattached command
            have hstep := ServiceStep.command hattached hparse hcommand
            dsimp only
            rw [heq]
            obtain ⟨received, next, after, heq, hservices, hprefix, hall⟩ := ih (hstep.collecting h)
            have hcons : lineCommands (line :: lines) = command :: lineCommands lines := by
              apply List.filterMap_cons_some
              rw [hparse]
            rw [hcons]
            exact ⟨command :: received, next, after, heq, .head hstep hservices,
              List.cons_prefix_cons.mpr ⟨rfl, hprefix⟩, fun hstill => congrArg (command :: ·) (hall hstill)⟩

/-- The queue in its order, as long as no command has to wait. -/
theorem services_drainQueue (fuel : Nat) (h : Collecting plane batch) :
    ∃ next after, plane.drainQueue batch.actions fuel = (next, after.actions) ∧
      Services true plane batch [] next after := by
  induction fuel generalizing plane batch with
  | zero => exact ⟨plane, batch, rfl, .refl⟩
  | succ fuel ih =>
      unfold drainQueue
      split
      · rename_i hgo
        rw [Bool.and_eq_true, Option.isNone_iff_eq_none] at hgo
        split
        · exact ⟨plane, batch, rfl, .refl⟩
        · rename_i queued rest hqueue
          dsimp only
          split
          · rename_i hold
            have hstep : ServiceStep plane batch true [] (plane.dequeue rest) batch := .stale hgo.1 hqueue hold
            obtain ⟨next, after, heq, hservices⟩ := ih (hstep.collecting h)
            exact ⟨next, after, heq, .head hstep hservices⟩
          · have hpopped : Collecting (plane.dequeue rest) batch := { h with }
            obtain ⟨middle, between, heq, hcommand⟩ := commandStep hpopped hgo.1 queued.command
            have hstep := ServiceStep.queued hgo.1 hgo.2 hqueue hcommand
            obtain ⟨next, after, hdrained, hservices⟩ := ih (hstep.collecting h)
            refine ⟨next, after, ?_, .head hstep hservices⟩
            rw [show ({ plane with commandQueue := rest } : ControllerControlPlane).processCommand queued.command
              batch.actions = (middle, between.actions) from heq]
            exact hdrained
      · exact ⟨plane, batch, rfl, .refl⟩

end Services

/-! ### Events -/

def attach (plane : ControllerControlPlane) : ControllerControlPlane :=
  { plane with
    connectionGeneration := plane.connectionGeneration + 1
    controllerAttached := true
    readBuffer := [] }

def withBuffer (plane : ControllerControlPlane) (buffer : Bytes) : ControllerControlPlane :=
  { plane with readBuffer := buffer }

/-- The Session has failed and no command waits any more. -/
def failProfileState (plane : ControllerControlPlane) : ControllerControlPlane :=
  { plane with profileStateFailed := true, commandQueue := [] }

/-- The change in flight has ended with the profile. -/
def landed (plane : ControllerControlPlane) (result : ControlPlaneProfileChangeResult) (profile : NetworkProfile) :
    ControllerControlPlane :=
  { plane with
    inFlightProfileChange := none
    confirmedProfile := profile
    shapingApplied := plane.shapingApplied || decide (result = .applied) }

def resultText : ControlPlaneProfileChangeResult → Bytes
  | .applied => profileChangedText
  | .restoredAfterFailure => profileNotChangedText

/-- Whether the Controller that asked for the change is told of its end. -/
def replies (plane : ControllerControlPlane) (inFlight : InFlightProfileChange) : Bool :=
  !plane.workloadTerminal && !plane.stopping && plane.controllerAttached
    && decide (inFlight.replyGeneration = some plane.connectionGeneration)

/-- The Controller is not listened to. -/
def closed (plane : ControllerControlPlane) : Bool :=
  !plane.controllerAttached || plane.workloadTerminal || plane.profileStateFailed

/-- What an event can do. -/
inductive EventStep (plane : ControllerControlPlane) :
    ControlPlaneEvent → List ControllerCommand → ControllerControlPlane → ActionBatch → Prop
  | attached : EventStep plane .controllerAttached [] plane.attach { texts := [attachedText] }
  | ignored (bytes : Bytes) (closed : plane.closed = true) :
      EventStep plane (.controllerBytesReceived bytes) [] plane {}
  | received (bytes : Bytes) {received : List ControllerCommand} {next : ControllerControlPlane}
      {batch : ActionBatch} (buffer : Bytes) (listening : plane.closed = false)
      (services : Services false (plane.withBuffer []) {} received next batch)
      (commands : received <+: lineCommands (splitLines (plane.readBuffer ++ bytes)).1)
      (complete : next.controllerAttached = true →
        received = lineCommands (splitLines (plane.readBuffer ++ bytes)).1 ∧
        buffer = (splitLines (plane.readBuffer ++ bytes)).2) :
      EventStep plane (.controllerBytesReceived bytes) received (next.withBuffer buffer) batch
  | disconnected : EventStep plane .controllerDisconnected [] plane.disconnectController {}
  | writeFailed : EventStep plane .controllerWriteFailed [] plane.controllerWriteFailed {}
  | rejected (result : ControlPlaneProfileChangeResult) (change : ProfileChange)
      (other : plane.inFlightChange.any (·.same change) = false) (going : plane.workloadTerminal = false)
      (known : plane.profileStateFailed = false) :
      EventStep plane (.helperProfileChangeResult result change) [] plane.failProfileState { fail := true }
  | dropped (result : ControlPlaneProfileChangeResult) (change : ProfileChange)
      (other : plane.inFlightChange.any (·.same change) = false)
      (ended : plane.workloadTerminal = true ∨ plane.profileStateFailed = true) :
      EventStep plane (.helperProfileChangeResult result change) [] plane {}
  | invalid (change : ProfileChange) {inFlight : InFlightProfileChange} {errors : List ValidationError}
      (current : plane.inFlightProfileChange = some inFlight) (same : inFlight.change.same change = true)
      (applies : applyProfileChange plane.confirmedProfile change = .error errors) :
      EventStep plane (.helperProfileChangeResult .applied change) []
        { plane with inFlightProfileChange := none, profileStateFailed := true, commandQueue := [] } { fail := true }
  | landed (result : ControlPlaneProfileChangeResult) (change : ProfileChange)
      {inFlight : InFlightProfileChange} {profile : NetworkProfile} {next : ControllerControlPlane}
      {batch : ActionBatch} (current : plane.inFlightProfileChange = some inFlight)
      (same : inFlight.change.same change = true)
      (applies : match result with
        | .applied => applyProfileChange plane.confirmedProfile change = .ok profile
        | .restoredAfterFailure => profile = plane.confirmedProfile)
      (services : Services true (plane.landed result profile)
        { texts := if plane.replies inFlight then [resultText result] else [] } [] next batch)
      (ended : plane.workloadTerminal = true ∨ plane.profileStateFailed = true → next = plane.landed result profile ∧
        batch.texts = if plane.replies inFlight then [resultText result] else []) :
      EventStep plane (.helperProfileChangeResult result change) [] next batch
  | unknown (known : plane.profileStateFailed = false) :
      EventStep plane .helperProfileStateUnknown [] { plane.withoutWaiting with profileStateFailed := true }
        { fail := true }
  | unknownAgain (failed : plane.profileStateFailed = true) :
      EventStep plane .helperProfileStateUnknown [] plane {}
  | stopping : EventStep plane .sessionStopping [] { plane.withoutWaiting with stopping := true } {}
  | terminal : EventStep plane .workloadTerminal [] { plane.withoutWaiting with workloadTerminal := true } {}

section Events

variable {plane : ControllerControlPlane}

omit [DecimalText] in
theorem collecting_start (hpending : plane.pendingDispatch = none) (hattached : plane.controllerAttached = true)
    (texts : List Bytes) : Collecting plane { texts := texts } where
  attached := by rw [hattached]; rfl
  quiet := rfl
  stopped := fun hstop => nomatch hstop
  pending := hpending.symm

omit [DecimalText] in
theorem closed_eq_false_iff : plane.closed = false ↔
    plane.controllerAttached = true ∧ plane.workloadTerminal = false ∧ plane.profileStateFailed = false := by
  simp [closed, and_assoc]

theorem eventStep_bytes (hpending : plane.pendingDispatch = none) (bytes : Bytes) :
    ∃ received next batch, plane.handleSettled (.controllerBytesReceived bytes) = (next, batch.actions) ∧
      EventStep plane (.controllerBytesReceived bytes) received next batch := by
  change ∃ (received : List ControllerCommand) (next : ControllerControlPlane) (batch : ActionBatch),
    (if plane.closed = true then (plane, []) else plane.receiveControllerBytes bytes) = (next, batch.actions) ∧ _
  by_cases hclosed : plane.closed = true
  · rw [if_pos hclosed]
    exact ⟨[], plane, {}, rfl, .ignored bytes hclosed⟩
  · rw [if_neg hclosed]
    rw [Bool.not_eq_true] at hclosed
    have hattached := (closed_eq_false_iff.mp hclosed).1
    have hstart : Collecting (plane.withBuffer []) {} := { collecting_start hpending hattached [] with }
    obtain ⟨received, next, batch, heq, hservices, hprefix, hall⟩ :=
      services_receiveControllerLines (splitLines (plane.readBuffer ++ bytes)).1 hstart
    unfold receiveControllerBytes
    dsimp only
    rw [show ({ plane with readBuffer := [] } : ControllerControlPlane).receiveControllerLines []
      (splitLines (plane.readBuffer ++ bytes)).1 = (next, batch.actions) from heq]
    dsimp only
    by_cases hdetached : next.controllerAttached = false
    · rw [if_pos hdetached]
      exact ⟨received, next, batch, rfl, .received bytes next.readBuffer hclosed hservices hprefix
        fun hstill => by simp [hdetached] at hstill⟩
    · rw [if_neg hdetached]
      rw [Bool.not_eq_false] at hdetached
      have hbatch : Collecting next batch := hservices.collecting hstart
      split
      · rw [hbatch.sayGoodbye hdetached]
        have hgone := Services.tail hservices (.tooLong hdetached)
        rw [List.append_nil] at hgone
        exact ⟨received, _, _, rfl, .received bytes [] hclosed hgone hprefix
          fun hstill => nomatch (show false = true from hstill)⟩
      · exact ⟨received, _, batch, rfl, .received bytes _ hclosed hservices hprefix
          fun hstill => ⟨hall hstill, rfl⟩⟩

/-- A result for the change in flight. -/
theorem eventStep_landed {inFlight : InFlightProfileChange} (hcurrent : plane.inFlightProfileChange = some inFlight)
    (result : ControlPlaneProfileChangeResult) {change : ProfileChange} (hsame : inFlight.change.same change = true)
    {profile : NetworkProfile}
    (happlies : match result with
      | .applied => applyProfileChange plane.confirmedProfile change = .ok profile
      | .restoredAfterFailure => profile = plane.confirmedProfile)
    (hqueue : plane.controllerAttached = false → plane.commandQueue = []) :
    ∃ (next : ControllerControlPlane) (batch : ActionBatch),
      (if !plane.workloadTerminal && !plane.profileStateFailed then
        (plane.landed result profile).drainQueue
          (if plane.replies inFlight then [.sendControllerText (resultText result)] else [])
          plane.commandQueue.length
      else (plane.landed result profile,
        if plane.replies inFlight then [.sendControllerText (resultText result)] else [])) = (next, batch.actions) ∧
      EventStep plane (.helperProfileChangeResult result change) [] next batch := by
  have hactions : (if plane.replies inFlight then [ControlPlaneAction.sendControllerText (resultText result)] else []) =
      ActionBatch.actions { texts := if plane.replies inFlight then [resultText result] else [] } := by
    split <;> rfl
  rw [hactions]
  split
  · rename_i hgo
    rw [Bool.and_eq_true, Bool.not_eq_true', Bool.not_eq_true'] at hgo
    have hnotOver : ¬ (plane.workloadTerminal = true ∨ plane.profileStateFailed = true) := by
      rw [hgo.1, hgo.2]
      exact fun hover => hover.elim Bool.noConfusion Bool.noConfusion
    by_cases hattached : plane.controllerAttached = true
    · have hstill : (plane.landed result profile).controllerAttached = true := hattached
      have hstart := collecting_start rfl hstill (if plane.replies inFlight then [resultText result] else [])
      obtain ⟨next, batch, heq, hservices⟩ := services_drainQueue plane.commandQueue.length hstart
      exact ⟨next, batch, heq, .landed result change hcurrent hsame happlies hservices
        fun hover => absurd hover hnotOver⟩
    · -- nobody is attached, so the queue is empty
      have hempty := hqueue (Bool.eq_false_iff.mpr hattached)
      rw [hempty]
      exact ⟨_, _, rfl, .landed result change hcurrent hsame happlies .refl fun _ => ⟨rfl, rfl⟩⟩
  · exact ⟨_, _, rfl, .landed result change hcurrent hsame happlies .refl fun _ => ⟨rfl, rfl⟩⟩

theorem eventStep_rejected (result : ControlPlaneProfileChangeResult) {change : ProfileChange}
    (hother : plane.inFlightChange.any (·.same change) = false) :
    ∃ next batch, plane.rejectProfileChangeResult = (next, batch.actions) ∧
      EventStep plane (.helperProfileChangeResult result change) [] next batch := by
  unfold rejectProfileChangeResult
  split
  · rename_i hgo
    rw [Bool.and_eq_true, Bool.not_eq_true', Bool.not_eq_true'] at hgo
    exact ⟨plane.failProfileState, { fail := true }, rfl, .rejected result change hother hgo.1 hgo.2⟩
  · rename_i hover
    rw [Bool.and_eq_true, Bool.not_eq_true', Bool.not_eq_true', not_and_or, Bool.not_eq_false,
      Bool.not_eq_false] at hover
    exact ⟨plane, {}, rfl, .dropped result change hother hover⟩

theorem eventStep_result (hqueue : plane.controllerAttached = false → plane.commandQueue = [])
    (result : ControlPlaneProfileChangeResult) (change : ProfileChange) :
    ∃ next batch, plane.handleSettled (.helperProfileChangeResult result change) = (next, batch.actions) ∧
      EventStep plane (.helperProfileChangeResult result change) [] next batch := by
  unfold handleSettled
  dsimp only
  cases hcurrent : plane.inFlightProfileChange with
  | none => exact eventStep_rejected result (by rw [inFlightChange, hcurrent]; rfl)
  | some inFlight =>
      dsimp only
      split
      · rename_i hsame
        unfold finishProfileChange
        cases result with
        | restoredAfterFailure =>
            have hlanded : plane.landed .restoredAfterFailure plane.confirmedProfile =
                { plane with inFlightProfileChange := none } := by simp [landed]
            have hstep := eventStep_landed hcurrent .restoredAfterFailure hsame rfl hqueue
            rw [hlanded] at hstep
            exact hstep
        | applied =>
            cases happlies : applyProfileChange plane.confirmedProfile change with
            | error errors => exact ⟨_, { fail := true }, rfl, .invalid change hcurrent hsame happlies⟩
            | ok profile =>
                have hlanded : plane.landed .applied profile = { plane with
                    inFlightProfileChange := none, confirmedProfile := profile, shapingApplied := true } := by
                  simp [landed]
                have hstep := eventStep_landed hcurrent .applied hsame happlies hqueue
                rw [hlanded] at hstep
                exact hstep
      · rename_i hsame
        exact eventStep_rejected result (by rw [inFlightChange, hcurrent]; exact Bool.eq_false_iff.mpr hsame)

theorem EventStep.of_writeFailed {received : List ControllerCommand} {next : ControllerControlPlane}
    {batch : ActionBatch} (h : EventStep plane .controllerWriteFailed received next batch) :
    next = plane.controllerWriteFailed ∧ batch = {} := by
  cases h
  exact ⟨rfl, rfl⟩

/-- Every event is one of these steps, on the control plane in which earlier dispatches count as executed. -/
theorem eventStep (hqueue : plane.controllerAttached = false → plane.commandQueue = []) (event : ControlPlaneEvent) :
    ∃ received next batch, plane.handle event = (next, batch.actions) ∧
      EventStep (if event = .controllerWriteFailed then plane else plane.settled) event received next batch := by
  rw [handle]
  cases event with
  | controllerAttached => exact ⟨[], _, { texts := [attachedText] }, rfl, .attached⟩
  | controllerBytesReceived bytes => exact eventStep_bytes pendingDispatch_settled bytes
  | controllerDisconnected => exact ⟨[], _, {}, rfl, .disconnected⟩
  | controllerWriteFailed => exact ⟨[], _, {}, rfl, .writeFailed⟩
  | helperProfileChangeResult result change =>
      have hsettled : plane.settled.controllerAttached = false → plane.settled.commandQueue = [] := hqueue
      obtain ⟨next, batch, heq, hstep⟩ := eventStep_result hsettled result change
      exact ⟨[], next, batch, heq, hstep⟩
  | helperProfileStateUnknown =>
      cases hfailed : plane.profileStateFailed with
      | true =>
          refine ⟨[], plane.settled, {}, ?_, .unknownAgain hfailed⟩
          exact if_pos (show plane.settled.profileStateFailed = true from hfailed)
      | false =>
          refine ⟨[], _, { fail := true }, ?_, .unknown hfailed⟩
          exact if_neg (show ¬ plane.settled.profileStateFailed = true from Bool.eq_false_iff.mp hfailed)
  | sessionStopping => exact ⟨[], _, {}, rfl, .stopping⟩
  | workloadTerminal => exact ⟨[], _, {}, rfl, .terminal⟩

end Events

/-! ### The change in flight -/

section InFlight

variable {start plane next : ControllerControlPlane} {first batch after : ActionBatch} {draining : Bool}
  {command : ControllerCommand} {received commands : List ControllerCommand} {event : ControlPlaneEvent}

/-- A command does not touch an executed change, and what it dispatches is in the batch. -/
theorem CommandStep.inFlight (h : CommandStep plane batch command next after)
    (hpending : batch.dispatch = plane.pendingDispatch) :
    after.dispatch = next.pendingDispatch ∧ next.settledChange = plane.settledChange := by
  cases h with
  | stop => exact ⟨plane.pendingDispatch_stopped.symm, plane.settledChange_stopped⟩
  | overflow => exact ⟨hpending.trans plane.pendingDispatch_disconnect.symm, plane.settledChange_disconnect⟩
  | detached => exact ⟨hpending.trans plane.pendingDispatch_disconnect.symm, plane.settledChange_disconnect⟩
  | dispatched change free going =>
      refine ⟨rfl, ?_⟩
      rw [settledChange, settledChange, free]
      rfl
  | _ => exact ⟨hpending, rfl⟩

theorem ServiceStep.inFlight (h : ServiceStep plane batch draining commands next after)
    (hpending : batch.dispatch = plane.pendingDispatch) :
    after.dispatch = next.pendingDispatch ∧ next.settledChange = plane.settledChange := by
  cases h with
  | command attached parsed step => exact step.inFlight hpending
  | error => exact ⟨hpending, rfl⟩
  | tooLong => exact ⟨hpending.trans plane.pendingDispatch_disconnect.symm, plane.settledChange_disconnect⟩
  | stale => exact ⟨hpending, rfl⟩
  | queued attached free queue step => exact step.inFlight hpending

theorem Services.inFlight (h : Services draining start first received plane batch)
    (hpending : first.dispatch = start.pendingDispatch) :
    batch.dispatch = plane.pendingDispatch ∧ plane.settledChange = start.settledChange := by
  induction h with
  | refl => exact ⟨hpending, rfl⟩
  | tail services step ih =>
      obtain ⟨hdispatch, hsettled⟩ := step.inFlight ih.1
      exact ⟨hdispatch, hsettled.trans ih.2⟩

/-- After an event the executed change in flight is what the event has left of the one before, and the other one is
that of the batch. -/
theorem EventStep.inFlight (h : EventStep plane event received next batch) (hpending : plane.pendingDispatch = none)
    (hwrite : event ≠ .controllerWriteFailed) :
    batch.dispatch = next.pendingDispatch ∧ next.settledChange = plane.remainingChange event := by
  have hsettled := settledChange_of_pendingDispatch hpending
  cases h with
  | attached => exact ⟨hpending.symm, hsettled⟩
  | ignored => exact ⟨hpending.symm, hsettled⟩
  | received bytes buffer listening services =>
      obtain ⟨hdispatch, hkept⟩ := services.inFlight hpending.symm
      exact ⟨hdispatch, hkept.trans hsettled⟩
  | disconnected =>
      exact ⟨hpending.symm.trans plane.pendingDispatch_disconnect.symm, plane.settledChange_disconnect.trans hsettled⟩
  | writeFailed => exact absurd rfl hwrite
  | rejected result change other =>
      exact ⟨hpending.symm, hsettled.trans (remainingChange_of_other result other).symm⟩
  | dropped result change other =>
      exact ⟨hpending.symm, hsettled.trans (remainingChange_of_other result other).symm⟩
  | invalid change current same => exact ⟨rfl, (remainingChange_of_same .applied current same).symm⟩
  | landed result change current same applies services =>
      obtain ⟨hdispatch, hkept⟩ := services.inFlight rfl
      exact ⟨hdispatch, hkept.trans (remainingChange_of_same result current same).symm⟩
  | unknown =>
      exact ⟨hpending.symm.trans pendingDispatch_withoutWaiting.symm, settledChange_withoutWaiting.trans hsettled⟩
  | unknownAgain => exact ⟨hpending.symm, hsettled⟩
  | stopping =>
      exact ⟨hpending.symm.trans pendingDispatch_withoutWaiting.symm, settledChange_withoutWaiting.trans hsettled⟩
  | terminal =>
      exact ⟨hpending.symm.trans pendingDispatch_withoutWaiting.symm, settledChange_withoutWaiting.trans hsettled⟩

end InFlight

/-! ### The profile and its changes -/

/-- What holds of the control plane between two events, however Controllers come and go. -/
structure ProfileInv (plane : ControllerControlPlane) : Prop where
  idle : plane.controllerAttached = false → plane.commandQueue = []
  entries : ∀ queued ∈ plane.commandQueue, queued.command.Canonical
  canonical : ∀ inFlight, plane.inFlightProfileChange = some inFlight → inFlight.change.Canonical
  valid : validate plane.confirmedProfile = []

section Profile

variable {start plane next : ControllerControlPlane} {first batch after : ActionBatch} {draining : Bool}
  {command : ControllerCommand} {received commands : List ControllerCommand} {event : ControlPlaneEvent}

omit [DecimalText]

theorem Inv.profileInv (h : Inv plane) : ProfileInv plane :=
  ⟨h.idle, fun queued hqueued => (h.entries queued hqueued).2.2, h.canonical, h.valid⟩

theorem ProfileInv.settled (h : ProfileInv plane) : ProfileInv plane.settled :=
  { h with canonical := canonical_map_inFlight (fun _ => rfl) h.canonical }

/-- Nothing waits any more. -/
theorem ProfileInv.unqueued (h : ProfileInv plane) (hqueue : next.commandQueue = [])
    (hconfirmed : next.confirmedProfile = plane.confirmedProfile)
    (hcanonical : ∀ inFlight, next.inFlightProfileChange = some inFlight → inFlight.change.Canonical) :
    ProfileInv next where
  idle := fun _ => hqueue
  entries := fun queued hqueued => by
    rw [hqueue] at hqueued
    cases hqueued
  canonical := hcanonical
  valid := hconfirmed ▸ h.valid

theorem ProfileInv.disconnect (h : ProfileInv plane) : ProfileInv plane.disconnectController :=
  h.unqueued rfl rfl (canonical_map_inFlight (fun _ => rfl) h.canonical)

theorem ProfileInv.withoutWaiting (h : ProfileInv plane) : ProfileInv plane.withoutWaiting :=
  h.unqueued rfl rfl (canonical_map_inFlight (fun _ => rfl) h.canonical)

theorem ProfileInv.dequeue {queued : QueuedCommand} {rest : List QueuedCommand} (h : ProfileInv plane)
    (hqueue : plane.commandQueue = queued :: rest) :
    ProfileInv (plane.dequeue rest) ∧ queued.command.Canonical :=
  ⟨{ h with
      idle := fun hdetached => by
        rw [h.idle hdetached] at hqueue
        cases hqueue
      entries := fun other hother => h.entries other (hqueue ▸ List.mem_cons_of_mem queued hother) },
    h.entries queued (hqueue ▸ List.mem_cons_self)⟩

variable [DecimalText]

theorem ProfileInv.commandStep (h : ProfileInv plane) (hattached : plane.controllerAttached = true)
    (hcanonical : command.Canonical) (hstep : CommandStep plane batch command next after) : ProfileInv next := by
  cases hstep with
  | stop =>
      exact h.unqueued rfl rfl (canonical_map_inFlight (fun _ => rfl) fun current hcurrent =>
        h.canonical current (Option.filter_eq_some_iff.mp hcurrent).1)
  | overflow => exact h.disconnect
  | detached => exact h.disconnect
  | queued ordinary waiting room =>
      exact { h with
        idle := fun hdetached => absurd (hattached.symm.trans hdetached) (by decide)
        entries := List.forall_mem_append.mpr ⟨h.entries, List.forall_mem_singleton.mpr hcanonical⟩ }
  | dispatched change free going =>
      exact { h with
        canonical := fun current hcurrent => by
          cases hcurrent
          exact hcanonical }
  | _ => exact h

theorem ProfileInv.service (h : ProfileInv plane) (hstep : ServiceStep plane batch draining commands next after) :
    ProfileInv next := by
  cases hstep with
  | @command line command next after attached parsed step =>
      have hcanonical : command.Canonical := by
        cases command with
        | profileChange change => exact canonical_of_parseControllerCommand parsed
        | _ => trivial
      exact h.commandStep attached hcanonical step
  | error => exact h
  | tooLong => exact h.disconnect
  | stale attached queue old => exact (h.dequeue queue).1
  | queued attached free queue step => exact (h.dequeue queue).1.commandStep attached (h.dequeue queue).2 step

theorem ProfileInv.services (h : ProfileInv start) (hservices : Services draining start first received plane batch) :
    ProfileInv plane := by
  induction hservices with
  | refl => exact h
  | tail services step ih => exact ih.service step

theorem ProfileInv.eventStep (h : ProfileInv plane) (hstep : EventStep plane event received next batch) :
    ProfileInv next := by
  cases hstep with
  | attached => exact { h with idle := fun hdetached => by cases hdetached }
  | ignored => exact h
  | received bytes buffer listening services =>
      have hstart : ProfileInv (plane.withBuffer []) := { h with }
      exact { hstart.services services with }
  | disconnected => exact h.disconnect
  | writeFailed =>
      exact h.unqueued rfl rfl (canonical_map_inFlight (fun _ => rfl) fun current hcurrent =>
        h.canonical current (Option.filter_eq_some_iff.mp hcurrent).1)
  | rejected => exact h.unqueued rfl rfl h.canonical
  | dropped => exact h
  | invalid => exact h.unqueued rfl rfl fun current hcurrent => by cases hcurrent
  | @landed result change inFlight profile next batch current same applies services =>
      have hvalid : validate profile = [] := by
        cases result with
        | applied => exact validate_of_applyProfileChange applies
        | restoredAfterFailure => exact applies ▸ h.valid
      have hlanded : ProfileInv (plane.landed result profile) := { h with
        canonical := fun current hcurrent => by cases hcurrent
        valid := hvalid }
      exact hlanded.services services
  | unknown => exact { h.withoutWaiting with }
  | unknownAgain => exact h
  | stopping => exact { h.withoutWaiting with }
  | terminal => exact { h.withoutWaiting with }

end Profile

end ControllerControlPlane

end NetLagLab
