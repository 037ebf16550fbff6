import NetLagLab.ControlPlaneHistory
import NetLagLab.StreamPieces

/-! The stream of a Controller in pieces. However its bytes are cut, the control plane says the same to the
Controller, asks for the same stop and is left in the same state. A change is dispatched in all of them or not,
but for one that a stop in the same piece takes back. -/

namespace NetLagLab

open ByteLines StreamPieces

theorem ActionBatch.count_stop (batch : ActionBatch) :
    batch.actions.count .requestLifecycleStop = batch.stop.toNat := by
  obtain ⟨stop, texts, disconnect, fail, dispatch⟩ := batch
  have htexts : (texts.map ControlPlaneAction.sendControllerText).count .requestLifecycleStop = 0 :=
    List.count_eq_zero.mpr (by simp)
  cases stop <;> cases disconnect <;> cases fail <;> cases dispatch <;> simp [actions, front, htexts]

theorem ActionBatch.count_disconnect (batch : ActionBatch) :
    batch.actions.count .disconnectController = batch.disconnect.toNat := by
  obtain ⟨stop, texts, disconnect, fail, dispatch⟩ := batch
  have htexts : (texts.map ControlPlaneAction.sendControllerText).count .disconnectController = 0 :=
    List.count_eq_zero.mpr (by simp)
  cases stop <;> cases disconnect <;> cases fail <;> cases dispatch <;> simp [actions, front, htexts]

namespace ControllerControlPlane

/-! ### Alike but for the change in flight -/

def withFlight (plane : ControllerControlPlane) (inFlight : Option InFlightProfileChange) : ControllerControlPlane :=
  { plane with inFlightProfileChange := inFlight }

/-- The same control plane but for the change in flight, of which a Session that stops says nothing. -/
structure Alike (left right : ControllerControlPlane) : Prop where
  same : right = left.withFlight right.inFlightProfileChange
  inFlight : left.stopping = false → right.settled.inFlightProfileChange = left.settled.inFlightProfileChange

section Alike

variable {left middle right : ControllerControlPlane}

theorem Alike.refl (plane : ControllerControlPlane) : Alike plane plane := ⟨rfl, fun _ => rfl⟩

theorem Alike.stopping (h : Alike left right) : right.stopping = left.stopping := by
  rw [h.same]
  rfl

theorem Alike.attached (h : Alike left right) : right.controllerAttached = left.controllerAttached := by
  rw [h.same]
  rfl

theorem Alike.symm (h : Alike left right) : Alike right left where
  same := by
    rw [h.same]
    rfl
  inFlight := fun hgoing => (h.inFlight (h.stopping.symm.trans hgoing)).symm

theorem Alike.trans (h : Alike left middle) (hright : Alike middle right) : Alike left right where
  same := by
    rw [hright.same, h.same]
    rfl
  inFlight := fun hgoing => (hright.inFlight (h.stopping.trans hgoing)).trans (h.inFlight hgoing)

theorem Alike.settle (plane : ControllerControlPlane) : Alike plane plane.settled := by
  refine ⟨rfl, fun _ => ?_⟩
  change (plane.inFlightProfileChange.map _).map _ = plane.inFlightProfileChange.map _
  rw [Option.map_map]
  rfl

theorem Alike.withBuffer (h : Alike left right) (buffer : Bytes) :
    Alike (left.withBuffer buffer) (right.withBuffer buffer) where
  same := by
    rw [h.same]
    rfl
  inFlight := h.inFlight

theorem Alike.waiting_iff (h : Alike left right) : left.Waiting ↔ right.Waiting := by
  unfold Waiting
  rw [h.stopping]
  refine and_congr_left fun hgoing => ?_
  have hsettled := congrArg Option.isSome (h.inFlight hgoing)
  change (right.inFlightProfileChange.map _).isSome = (left.inFlightProfileChange.map _).isSome at hsettled
  rw [Option.isSome_map, Option.isSome_map] at hsettled
  rw [hsettled]

theorem Alike.free (h : Alike left right) (hgoing : left.stopping = false) (hfree : left.inFlightProfileChange = none) :
    right.inFlightProfileChange = none := by
  have hsettled := h.inFlight hgoing
  change right.inFlightProfileChange.map _ = left.inFlightProfileChange.map _ at hsettled
  rw [hfree] at hsettled
  exact Option.map_eq_none_iff.mp hsettled

theorem Alike.disconnect (h : Alike left right) : Alike left.disconnectController right.disconnectController where
  same := by
    rw [h.same]
    rfl
  inFlight := fun hgoing => by
    have hcommute : ∀ plane : ControllerControlPlane, plane.disconnectController.settled.inFlightProfileChange =
        plane.settled.inFlightProfileChange.map .withoutReply := fun plane => by
      change (plane.inFlightProfileChange.map _).map _ = (plane.inFlightProfileChange.map _).map _
      rw [Option.map_map, Option.map_map]
      rfl
    rw [hcommute, hcommute, h.inFlight hgoing]

end Alike

section Commands

variable [DecimalText] {left right next : ControllerControlPlane} {batch other after : ActionBatch}
  {command : ControllerCommand}

/-- A command does the same to control planes that are alike. -/
theorem CommandStep.transport (h : CommandStep left batch command next after) (halike : Alike left right)
    (other : ActionBatch) : ∃ next' after', CommandStep right other command next' after' ∧ Alike next next' ∧
      ∃ said, after.texts = batch.texts ++ said ∧ after'.texts = other.texts ++ said := by
  have hqueue : right.commandQueue = left.commandQueue := by
    rw [halike.same]
    rfl
  have hgeneration : right.connectionGeneration = left.connectionGeneration := by
    rw [halike.same]
    rfl
  cases h with
  | stop =>
      refine ⟨_, _, .stop, ⟨?_, fun hgoing => nomatch hgoing⟩, [stoppingText], rfl, rfl⟩
      rw [halike.same]
      rfl
  | refused change stopping =>
      exact ⟨_, _, .refused change (halike.stopping.trans stopping), halike, [sessionIsStoppingText], rfl, rfl⟩
  | overflow ordinary waiting full =>
      exact ⟨_, _, .overflow ordinary (halike.waiting_iff.mp waiting) (hqueue ▸ full), halike.disconnect,
        [tooManyQueuedCommandsText], rfl, rfl⟩
  | queued ordinary waiting room =>
      refine ⟨_, _, .queued ordinary (halike.waiting_iff.mp waiting) (hqueue ▸ room), ⟨?_, halike.inFlight⟩, [],
        (List.append_nil _).symm, (List.append_nil _).symm⟩
      rw [enqueue, hqueue, hgeneration, halike.same]
      rfl
  | help free =>
      exact ⟨_, _, .help fun hwaiting => free (halike.waiting_iff.mpr hwaiting), halike, [helpResponse], rfl, rfl⟩
  | status free =>
      have hstatus : right.statusText = left.statusText := by
        rw [halike.same]
        rfl
      refine ⟨_, _, .status fun hwaiting => free (halike.waiting_iff.mpr hwaiting), halike, [left.statusText], rfl, ?_⟩
      rw [hstatus]
      rfl
  | dispatched change free going =>
      refine ⟨_, _, .dispatched change (halike.free going free) (halike.stopping.trans going), ⟨?_, fun _ => ?_⟩, [],
        (List.append_nil _).symm, (List.append_nil _).symm⟩
      · rw [dispatching, hgeneration, halike.same]
        rfl
      · change (some _ : Option InFlightProfileChange) = some _
        rw [hgeneration]
  | detached free =>
      exact ⟨_, _, .detached fun hwaiting => free (halike.waiting_iff.mpr hwaiting), halike.disconnect, [detachedText],
        rfl, rfl⟩

theorem enqueueOrExecute_free (h : ¬ left.Waiting) (actions : List ControlPlaneAction) :
    left.enqueueOrExecute command actions = left.executeCommand command actions := by
  unfold enqueueOrExecute
  refine if_neg ?_
  rwa [Bool.and_eq_true, Bool.not_eq_true']

theorem processCommand_ordinary (hordinary : command ≠ .stop) (hgoing : left.stopping = false)
    (actions : List ControlPlaneAction) : left.processCommand command actions = left.enqueueOrExecute command actions := by
  cases command with
  | stop => exact absurd rfl hordinary
  | profileChange change => exact if_neg (Bool.eq_false_iff.mp hgoing)
  | _ => rfl

/-- A command that can do something does it. -/
theorem CommandStep.processCommand (h : CommandStep left batch command next after) (hcollecting : Collecting left batch)
    (hattached : left.controllerAttached = true) :
    left.processCommand command batch.actions = (next, after.actions) := by
  have hwaited : left.Waiting → (left.inFlightProfileChange.isSome && !left.stopping) = true := fun hwaiting => by
    rw [hwaiting.1, hwaiting.2]
    rfl
  cases h with
  | stop => exact hcollecting.enterStopping hattached
  | refused change stopping =>
      exact (if_pos stopping).trans (congrArg (Prod.mk left) (hcollecting.say hattached sessionIsStoppingText))
  | overflow ordinary waiting full =>
      rw [processCommand_ordinary ordinary waiting.2, enqueueOrExecute, if_pos (hwaited waiting), if_pos full,
        hcollecting.sayGoodbye hattached]
  | queued ordinary waiting room =>
      rw [processCommand_ordinary ordinary waiting.2, enqueueOrExecute, if_pos (hwaited waiting),
        if_neg (Nat.not_le.mpr room)]
      rfl
  | help free =>
      exact (enqueueOrExecute_free free _).trans (congrArg (Prod.mk left) (hcollecting.say hattached helpResponse))
  | status free =>
      exact (enqueueOrExecute_free free _).trans (congrArg (Prod.mk left) (hcollecting.say hattached left.statusText))
  | dispatched change free going =>
      have hpending : batch.dispatch = none := by rw [hcollecting.pending, pendingDispatch, free]; rfl
      have hidle : ¬ left.Waiting := fun hwaiting => by
        rw [Waiting, free] at hwaiting
        cases hwaiting.1
      rw [processCommand_ordinary (by simp) going, enqueueOrExecute_free hidle, executeCommand,
        batch.actions_dispatch hpending change]
      rfl
  | detached free =>
      exact (enqueueOrExecute_free free _).trans
        (congrArg (Prod.mk left.disconnectController) (hcollecting.sayGoodbye hattached detachedText))

theorem receiveControllerLines_detached (h : left.controllerAttached = false)
    (actions : List ControlPlaneAction) (lines : List Bytes) :
    left.receiveControllerLines actions lines = (left, actions) := by
  cases lines with
  | nil => rfl
  | cons line lines => exact if_pos h

theorem receiveControllerLines_cons (h : left.controllerAttached = true) (actions : List ControlPlaneAction)
    (line : Bytes) (lines : List Bytes) :
    left.receiveControllerLines actions (line :: lines) = match parseControllerCommand line with
      | .ignored => left.receiveControllerLines actions lines
      | .error error =>
          let answered := appendBeforeDispatch actions (.sendControllerText (controllerParseErrorResponse error))
          if error = .commandTooLong then
            left.disconnectController.receiveControllerLines (appendBeforeDispatch answered .disconnectController) lines
          else left.receiveControllerLines answered lines
      | .command command =>
          let processed := left.processCommand command actions
          processed.1.receiveControllerLines processed.2 lines :=
  if_neg (by rw [h]; decide)

/-- What lines do to control planes that are alike, each with the actions it has collected before. -/
structure Parallel (left right : ControllerControlPlane) (batch other : ActionBatch) (lines : List Bytes)
    (next next' : ControllerControlPlane) (after after' : ActionBatch) : Prop where
  left : left.receiveControllerLines batch.actions lines = (next, after.actions)
  right : right.receiveControllerLines other.actions lines = (next', after'.actions)
  alike : Alike next next'
  collecting : Collecting next after
  collecting' : Collecting next' after'
  texts : ∃ said, after.texts = batch.texts ++ said ∧ after'.texts = other.texts ++ said

/-- A line leads to control planes that are alike again, and the lines behind it go on from there. -/
theorem Parallel.cons {line : Bytes} {lines said : List Bytes} {middle middle' next' : ControllerControlPlane}
    {between between' after' : ActionBatch}
    (h : Parallel middle middle' between between' lines next next' after after')
    (hleft : left.receiveControllerLines batch.actions (line :: lines) =
      middle.receiveControllerLines between.actions lines)
    (hright : right.receiveControllerLines other.actions (line :: lines) =
      middle'.receiveControllerLines between'.actions lines)
    (hbetween : between.texts = batch.texts ++ said) (hbetween' : between'.texts = other.texts ++ said) :
    Parallel left right batch other (line :: lines) next next' after after' where
  left := hleft.trans h.left
  right := hright.trans h.right
  alike := h.alike
  collecting := h.collecting
  collecting' := h.collecting'
  texts := by
    obtain ⟨more, hafter, hafter'⟩ := h.texts
    refine ⟨said ++ more, ?_, ?_⟩
    · rw [hafter, hbetween, List.append_assoc]
    · rw [hafter', hbetween', List.append_assoc]

theorem parallel_lines (lines : List Bytes) (halike : Alike left right) (h : Collecting left batch)
    (h' : Collecting right other) :
    ∃ next next' after after', Parallel left right batch other lines next next' after after' := by
  induction lines generalizing left right batch other with
  | nil =>
      exact ⟨left, right, batch, other, rfl, rfl, halike, h, h', [], (List.append_nil _).symm, (List.append_nil _).symm⟩
  | cons line lines ih =>
      by_cases hattached : left.controllerAttached = true
      · have hattached' := halike.attached.trans hattached
        have hleft := receiveControllerLines_cons hattached batch.actions line lines
        have hright := receiveControllerLines_cons hattached' other.actions line lines
        cases hparse : parseControllerCommand line with
        | ignored =>
            rw [hparse] at hleft hright
            obtain ⟨next, next', after, after', hrest⟩ := ih halike h h'
            exact ⟨next, next', after, after', hrest.cons hleft hright (List.append_nil _).symm (List.append_nil _).symm⟩
        | error error =>
            rw [hparse] at hleft hright
            dsimp only at hleft hright
            by_cases hlong : error = .commandTooLong
            · rw [if_pos hlong, h.sayGoodbye hattached] at hleft
              rw [if_pos hlong, h'.sayGoodbye hattached'] at hright
              have hgone := (show ServiceStep left batch false [] _ _ from .tooLong hattached).collecting h
              have hgone' := (show ServiceStep right other false [] _ _ from .tooLong hattached').collecting h'
              rw [← hlong] at hgone hgone'
              obtain ⟨next, next', after, after', hrest⟩ := ih halike.disconnect hgone hgone'
              exact ⟨next, next', after, after', hrest.cons hleft hright rfl rfl⟩
            · rw [if_neg hlong, h.say hattached] at hleft
              rw [if_neg hlong, h'.say hattached'] at hright
              obtain ⟨next, next', after, after', hrest⟩ :=
                ih halike ((ServiceStep.error error hattached).collecting h)
                  ((ServiceStep.error error hattached').collecting h')
              exact ⟨next, next', after, after', hrest.cons hleft hright rfl rfl⟩
        | command command =>
            rw [hparse] at hleft hright
            obtain ⟨middle, between, heq, hstep⟩ := commandStep h hattached command
            obtain ⟨middle', between', hstep', halike', said, hsaid, hsaid'⟩ := hstep.transport halike other
            dsimp only at hleft hright
            rw [heq] at hleft
            rw [hstep'.processCommand h' hattached'] at hright
            obtain ⟨next, next', after, after', hrest⟩ :=
              ih halike' (hstep.collecting h hattached) (hstep'.collecting h' hattached')
            exact ⟨next, next', after, after', hrest.cons hleft hright hsaid hsaid'⟩
      · rw [Bool.not_eq_true] at hattached
        exact ⟨left, right, batch, other, receiveControllerLines_detached hattached _ _,
          receiveControllerLines_detached (halike.attached.trans hattached) _ _, halike, h, h', [],
          (List.append_nil _).symm, (List.append_nil _).symm⟩

end Commands

/-! ### A piece and its two parts -/

section Pieces

variable [DecimalText] {plane left right : ControllerControlPlane} {batch other : ActionBatch}

/-- The control plane and its actions after the lines of a read, with what the read leaves unfinished. -/
def finishRead (outcome : ControllerControlPlane × List ControlPlaneAction) (unfinished : Bytes) :
    ControllerControlPlane × List ControlPlaneAction :=
  if outcome.1.controllerAttached = false then outcome
  else if maximumControllerCommandSize < unfinished.length then
    (outcome.1.disconnectController,
      appendBeforeDispatch
        (appendBeforeDispatch outcome.2
          (.sendControllerText (controllerParseErrorResponse .commandTooLong)))
        .disconnectController)
  else (outcome.1.withBuffer unfinished, outcome.2)

theorem receiveControllerBytes_eq (plane : ControllerControlPlane) (bytes : Bytes) :
    plane.receiveControllerBytes bytes =
      finishRead ((plane.withBuffer []).receiveControllerLines [] (splitLines (plane.readBuffer ++ bytes)).1)
        (splitLines (plane.readBuffer ++ bytes)).2 := rfl

omit [DecimalText] in
theorem finishRead_detached (h : plane.controllerAttached = false) (actions : List ControlPlaneAction)
    (unfinished : Bytes) : finishRead (plane, actions) unfinished = (plane, actions) := if_pos h

omit [DecimalText] in
theorem finishRead_tooLong (h : Collecting plane batch) (hattached : plane.controllerAttached = true)
    {unfinished : Bytes} (hlong : maximumControllerCommandSize < unfinished.length) :
    finishRead (plane, batch.actions) unfinished = (plane.disconnectController,
      (batch.sayGoodbye (controllerParseErrorResponse .commandTooLong)).actions) := by
  rw [finishRead, if_neg (by rw [hattached]; decide), if_pos hlong, h.sayGoodbye hattached]

omit [DecimalText] in
theorem finishRead_kept (hattached : plane.controllerAttached = true) (actions : List ControlPlaneAction)
    {unfinished : Bytes} (hshort : unfinished.length ≤ maximumControllerCommandSize) :
    finishRead (plane, actions) unfinished = (plane.withBuffer unfinished, actions) := by
  rw [finishRead, if_neg (by rw [hattached]; decide), if_neg (Nat.not_lt.mpr hshort)]

theorem receiveControllerLines_append (first second : List Bytes) (actions : List ControlPlaneAction) :
    plane.receiveControllerLines actions (first ++ second) =
      (plane.receiveControllerLines actions first).1.receiveControllerLines
        (plane.receiveControllerLines actions first).2 second := by
  induction first generalizing plane actions with
  | nil => rfl
  | cons line first ih =>
      by_cases hattached : plane.controllerAttached = true
      · rw [List.cons_append, receiveControllerLines_cons hattached, receiveControllerLines_cons hattached]
        split
        · exact ih _
        · dsimp only
          split
          · exact ih _
          · exact ih _
        · exact ih _
      · rw [Bool.not_eq_true] at hattached
        rw [receiveControllerLines_detached hattached, receiveControllerLines_detached hattached,
          receiveControllerLines_detached hattached]

omit [DecimalText] in
/-- The same end of a read for control planes that are alike. -/
theorem finishRead_alike (halike : Alike left right) (h : Collecting left batch) (h' : Collecting right other)
    (unfinished : Bytes) : Alike (finishRead (left, batch.actions) unfinished).1
        (finishRead (right, other.actions) unfinished).1 ∧
      ∃ said, controllerTexts (finishRead (left, batch.actions) unfinished).2 = batch.texts ++ said ∧
        controllerTexts (finishRead (right, other.actions) unfinished).2 = other.texts ++ said := by
  by_cases hattached : left.controllerAttached = true
  · have hattached' := halike.attached.trans hattached
    by_cases hlong : maximumControllerCommandSize < unfinished.length
    · rw [finishRead_tooLong h hattached hlong, finishRead_tooLong h' hattached' hlong]
      refine ⟨halike.disconnect, [controllerParseErrorResponse .commandTooLong], ?_, ?_⟩
      · exact ActionBatch.controllerTexts_actions _
      · exact ActionBatch.controllerTexts_actions _
    · rw [finishRead_kept hattached _ (Nat.not_lt.mp hlong), finishRead_kept hattached' _ (Nat.not_lt.mp hlong)]
      refine ⟨halike.withBuffer unfinished, [], ?_, ?_⟩
      · rw [ActionBatch.controllerTexts_actions, List.append_nil]
      · rw [ActionBatch.controllerTexts_actions, List.append_nil]
  · rw [Bool.not_eq_true] at hattached
    rw [finishRead_detached hattached, finishRead_detached (halike.attached.trans hattached)]
    refine ⟨halike, [], ?_, ?_⟩
    · rw [ActionBatch.controllerTexts_actions, List.append_nil]
    · rw [ActionBatch.controllerTexts_actions, List.append_nil]

/-- A Controller is told once that a line is too long, in the middle of it or at its end. -/
theorem finishRead_tooLong_lines (h : Collecting plane batch) (hattached : plane.controllerAttached = true)
    {unfinished : Bytes} (hunfinished : newline ∉ unfinished)
    (hlong : maximumControllerCommandSize < unfinished.length) (more : Bytes) :
    finishRead (plane.receiveControllerLines batch.actions (splitLines (unfinished ++ more)).1)
        (splitLines (unfinished ++ more)).2 =
      finishRead (plane, batch.actions) unfinished := by
  rw [finishRead_tooLong h hattached hlong]
  rcases splitAtMark_unfinished hunfinished with ⟨hnone, hrest⟩ | ⟨line, lines, hsome, hprefix⟩
  · rw [hnone, hrest]
    refine finishRead_tooLong h hattached (hlong.trans_le ?_)
    rw [List.length_append]
    exact Nat.le_add_right _ _
  · have hparse : parseControllerCommand line = .error .commandTooLong :=
      if_pos (hlong.trans_le hprefix.length_le)
    have hgone : plane.disconnectController.controllerAttached = false := rfl
    rw [hsome, receiveControllerLines_cons hattached, hparse]
    dsimp only
    rw [if_pos rfl, h.sayGoodbye hattached, receiveControllerLines_detached hgone]
    exact finishRead_detached hgone _ _

omit [DecimalText] in
theorem collecting_settled (h : plane.controllerAttached = true) : Collecting (plane.settled.withBuffer []) {} :=
  { show Collecting plane.settled { texts := [] } from collecting_start pendingDispatch_settled h [] with }

/-- A piece of the Controller's stream. -/
abbrev receive : Machine ControllerControlPlane UInt8 ControlPlaneAction :=
  fun plane piece => plane.handle (.controllerBytesReceived piece)

theorem receive_closed (h : plane.closed = true) (piece : Bytes) : plane.receive piece = (plane.settled, []) :=
  if_pos (show plane.settled.closed = true from h)

theorem receive_open (h : plane.closed = false) (piece : Bytes) :
    plane.receive piece = plane.settled.receiveControllerBytes piece :=
  if_neg (show ¬ plane.settled.closed = true from Bool.eq_false_iff.mp h)

/-- The lines of a read of a control plane that listens. -/
structure Read (plane : ControllerControlPlane) (lines : List Bytes) (next : ControllerControlPlane)
    (batch : ActionBatch) : Prop where
  lines : (plane.settled.withBuffer []).receiveControllerLines [] lines = (next, batch.actions)
  collecting : Collecting next batch
  served : Served (plane.settled.withBuffer []) next {} batch

theorem exists_read (h : plane.closed = false) (lines : List Bytes) : ∃ next batch, Read plane lines next batch := by
  have hattached := (closed_eq_false_iff.mp h).1
  have hstart : Collecting (plane.settled.withBuffer []) {} :=
    collecting_settled hattached
  obtain ⟨received, next, batch, heq, hservices, -, -⟩ := services_receiveControllerLines lines hstart
  exact ⟨next, batch, heq, hservices.collecting hstart, hservices.served rfl⟩

theorem Read.closed_iff {lines : List Bytes} {next : ControllerControlPlane} (h : Read plane lines next batch)
    (hopen : plane.closed = false) : next.closed = !next.controllerAttached := by
  obtain ⟨-, hterminal, hfailed⟩ := closed_eq_false_iff.mp hopen
  have hterminal' : next.workloadTerminal = false := h.served.terminal.trans hterminal
  have hfailed' : next.profileStateFailed = false := h.served.failed.trans hfailed
  rw [closed, hterminal', hfailed', Bool.or_false, Bool.or_false]

/-- A piece does what its two parts do, but for a dispatch that the second part takes back. -/
theorem receive_append (plane : ControllerControlPlane) (first second : Bytes) :
    Alike (plane.receive (first ++ second)).1 (feedAll receive plane [first, second]).1 ∧
      controllerTexts (plane.receive (first ++ second)).2 =
        controllerTexts (feedAll receive plane [first, second]).2 := by
  rw [feedAll_cons, feedAll_singleton]
  by_cases hclosed : plane.closed = true
  · rw [receive_closed hclosed, receive_closed hclosed, receive_closed (show plane.settled.closed = true from hclosed)]
    exact ⟨.settle _, rfl⟩
  · rw [Bool.not_eq_true] at hclosed
    obtain ⟨next, batch, hread⟩ := exists_read hclosed (splitLines (plane.readBuffer ++ first)).1
    have hsplit := splitAtMark_append newline (plane.readBuffer ++ first) second
    rw [List.append_assoc] at hsplit
    generalize hunfinished : (splitLines (plane.readBuffer ++ first)).2 = unfinished at hsplit
    have hnot : newline ∉ unfinished := hunfinished ▸ notMem_splitAtMark_snd _
    have hfirst : plane.receive first = finishRead (next, batch.actions) unfinished := by
      rw [receive_open hclosed, receiveControllerBytes_eq, ← hread.lines, ← hunfinished]
      rfl
    have hwhole : plane.receive (first ++ second) =
        finishRead (next.receiveControllerLines batch.actions (splitLines (unfinished ++ second)).1)
          (splitLines (unfinished ++ second)).2 := by
      rw [receive_open hclosed, receiveControllerBytes_eq]
      change finishRead ((plane.settled.withBuffer []).receiveControllerLines []
        (splitAtMark newline (plane.readBuffer ++ (first ++ second))).1)
        (splitAtMark newline (plane.readBuffer ++ (first ++ second))).2 = _
      rw [hsplit, receiveControllerLines_append, hread.lines]
    rw [hfirst, hwhole]
    by_cases hattached : next.controllerAttached = true
    · by_cases hlong : maximumControllerCommandSize < unfinished.length
      · -- the Controller has been told already
        have hgone : next.disconnectController.closed = true := rfl
        rw [finishRead_tooLong_lines hread.collecting hattached hnot hlong,
          finishRead_tooLong hread.collecting hattached hlong]
        dsimp only
        rw [receive_closed hgone, List.append_nil]
        exact ⟨.settle _, rfl⟩
      · have hkept : next.readBuffer = [] := (hread.served.attached hattached).2
        have hopen : (next.withBuffer unfinished).closed = false := by
          have hclosed' := hread.closed_iff hclosed
          rw [hattached] at hclosed'
          exact hclosed'
        have halike : Alike next ((next.withBuffer unfinished).settled.withBuffer []) := by
          have hsame : next.withBuffer [] = next := by
            rw [← hkept]
            rfl
          have hsettled := (Alike.settle next).withBuffer []
          rwa [hsame] at hsettled
        have hstart : Collecting ((next.withBuffer unfinished).settled.withBuffer []) {} :=
          collecting_settled hattached
        obtain ⟨last, last', after, after', hlines⟩ :=
          parallel_lines (splitLines (unfinished ++ second)).1 halike hread.collecting hstart
        obtain ⟨said, hafter, hafter'⟩ := hlines.texts
        obtain ⟨hlast, more, hmore, hmore'⟩ :=
          finishRead_alike hlines.alike hlines.collecting hlines.collecting' (splitLines (unfinished ++ second)).2
        have hsecond : (next.withBuffer unfinished).receive second =
            finishRead (last', after'.actions) (splitLines (unfinished ++ second)).2 := by
          rw [receive_open hopen, receiveControllerBytes_eq, ← hlines.right]
          rfl
        rw [finishRead_kept hattached _ (Nat.not_lt.mp hlong), hlines.left]
        dsimp only
        rw [hsecond]
        refine ⟨hlast, ?_⟩
        rw [hmore, hafter, controllerTexts, List.filterMap_append]
        change _ = controllerTexts _ ++ controllerTexts _
        rw [ActionBatch.controllerTexts_actions, hmore', hafter', List.append_assoc]
        rfl
    · rw [Bool.not_eq_true] at hattached
      have hgone : next.closed = true := by
        rw [hread.closed_iff hclosed, hattached]
        rfl
      rw [receiveControllerLines_detached hattached, finishRead_detached hattached, finishRead_detached hattached]
      dsimp only
      rw [receive_closed hgone, List.append_nil]
      exact ⟨.settle _, rfl⟩

end Pieces

/-! ### What is left of a line -/

section Unfinished

variable [DecimalText] {plane next : ControllerControlPlane} {event : ControlPlaneEvent} {batch : ActionBatch}
  {received : List ControllerCommand}

/-- The buffer holds the part of a line that may still be a command. -/
def Unfinished (plane : ControllerControlPlane) : Prop :=
  plane.controllerAttached = true →
    newline ∉ plane.readBuffer ∧ plane.readBuffer.length ≤ maximumControllerCommandSize

theorem unfinished_bytes (h : plane.Unfinished) (bytes : Bytes) : (plane.receive bytes).1.Unfinished := by
  by_cases hclosed : plane.closed = true
  · rw [receive_closed hclosed]
    exact h
  · rw [Bool.not_eq_true] at hclosed
    rw [receive_open hclosed, receiveControllerBytes_eq]
    generalize (plane.settled.withBuffer []).receiveControllerLines [] _ = outcome
    have hnot : newline ∉ (splitLines (plane.settled.readBuffer ++ bytes)).2 := notMem_splitAtMark_snd _
    unfold finishRead
    split
    · rename_i hgone
      exact fun hattached => nomatch hgone.symm.trans hattached
    · split
      · exact fun hattached => nomatch hattached
      · exact fun _ => ⟨hnot, Nat.not_lt.mp ‹_›⟩

/-- The other events leave the buffer alone, or there is no Controller. -/
theorem EventStep.unfinished (h : EventStep plane event received next batch) (hplane : plane.Unfinished)
    (hbytes : ∀ bytes, event ≠ .controllerBytesReceived bytes) : next.Unfinished := by
  cases h with
  | attached => exact fun _ => ⟨List.not_mem_nil, Nat.zero_le _⟩
  | ignored bytes => exact absurd rfl (hbytes bytes)
  | received bytes => exact absurd rfl (hbytes bytes)
  | disconnected => exact fun hattached => nomatch hattached
  | writeFailed => exact fun hattached => nomatch hattached
  | landed result change current same applies services ended =>
      intro hattached
      obtain ⟨hbefore, hbuffer⟩ := (services.served rfl).attached hattached
      rw [hbuffer]
      exact hplane hbefore
  | _ => exact hplane

theorem unfinished_of_history {workloadPid : Int} {childArguments : List Bytes} {history : List ControlStep}
    (h : ControlHistory workloadPid childArguments history plane) : plane.Unfinished := by
  induction h with
  | start => exact fun hattached => nomatch hattached
  | step earlier event free ih =>
      rename_i history plane
      by_cases hbytes : ∃ bytes, event = .controllerBytesReceived bytes
      · obtain ⟨bytes, rfl⟩ := hbytes
        exact unfinished_bytes ih bytes
      · obtain ⟨received, next, batch, hhandle, hstep⟩ := eventStep earlier.inv.idle event
        rw [hhandle]
        refine hstep.unfinished ?_ fun bytes heq => hbytes ⟨bytes, heq⟩
        split
        · exact ih
        · exact ih

theorem unfinished_pieces (h : plane.Unfinished) (pieces : List Bytes) :
    (feedAll receive plane pieces).1.Unfinished := by
  have hkept : ∀ state piece, Unfinished state → Unfinished (receive state piece).1 := fun _ piece hstate =>
    unfinished_bytes hstate piece
  have hpieces := feedAll_invariant hkept pieces h
  exact hpieces

theorem receive_nil (h : plane.Unfinished) :
    Alike (plane.receive []).1 plane ∧ controllerTexts (plane.receive []).2 = [] := by
  have hsettle : Alike plane.settled plane := (Alike.settle plane).symm
  by_cases hclosed : plane.closed = true
  · rw [receive_closed hclosed]
    exact ⟨hsettle, rfl⟩
  · rw [Bool.not_eq_true] at hclosed
    have hattached := (closed_eq_false_iff.mp hclosed).1
    obtain ⟨hnot, hshort⟩ := h hattached
    have hsplit : splitLines (plane.settled.readBuffer ++ []) = ([], plane.readBuffer) := by
      rw [List.append_nil]
      exact splitAtMark_of_notMem hnot
    rw [receive_open hclosed, receiveControllerBytes_eq, hsplit]
    change Alike (finishRead (plane.settled.withBuffer [], []) plane.readBuffer).1 plane ∧ _
    rw [receiveControllerLines, finishRead_kept (show (plane.settled.withBuffer []).controllerAttached = true from hattached)
      _ hshort]
    exact ⟨hsettle, rfl⟩

/-- The state and the texts are compared. -/
def comparison : Comparison ControllerControlPlane ControlPlaneAction where
  Same first second := Alike first.1 second.1 ∧ controllerTexts first.2 = controllerTexts second.2
  refl result := ⟨.refl result.1, rfl⟩
  trans hfirst hsecond := ⟨hfirst.1.trans hsecond.1, hfirst.2.trans hsecond.2⟩
  frame outputs h := ⟨h.1, by
    change (outputs ++ _).filterMap _ = (outputs ++ _).filterMap _
    rw [List.filterMap_append, List.filterMap_append]
    exact congrArg _ h.2⟩

/-- A stream in one piece, or in the pieces it is cut into. -/
theorem receive_flatten (h : plane.Unfinished) (pieces : List Bytes) :
    Alike (plane.receive pieces.flatten).1 (feedAll receive plane pieces).1 ∧
      controllerTexts (plane.receive pieces.flatten).2 = controllerTexts (feedAll receive plane pieces).2 := by
  by_cases hpieces : pieces = []
  · rw [hpieces]
    exact receive_nil h
  · exact compare_feedAll comparison receive_append hpieces plane

end Unfinished

/-! ### Stops, disconnects and dispatches -/

section Received

variable [DecimalText] {plane left right : ControllerControlPlane}
  {outcome next : ControllerControlPlane × List ControlPlaneAction}

/-- What pieces of the stream ask for, read off the control plane they lead to. -/
structure Received (plane : ControllerControlPlane) (outcome : ControllerControlPlane × List ControlPlaneAction) :
    Prop where
  inv : Inv outcome.1
  stopping : plane.stopping = true → outcome.1.stopping = true
  attached : outcome.1.controllerAttached = true → plane.controllerAttached = true
  stops : outcome.2.count .requestLifecycleStop = (outcome.1.stopping && !plane.stopping).toNat
  disconnects : outcome.2.count .disconnectController =
    (plane.controllerAttached && !outcome.1.controllerAttached).toNat
  dispatched : outcome.1.stopping = false →
    outcome.1.inFlightChange.toList = (dispatchedChanges outcome.2).reverse ++ plane.inFlightChange.toList
  silent : plane.stopping = true → dispatchedChanges outcome.2 = []

omit [DecimalText] in
theorem Received.refl (h : Inv plane) : Received plane (plane, []) where
  inv := h
  stopping := id
  attached := id
  stops := by cases plane.stopping <;> rfl
  disconnects := by cases plane.controllerAttached <;> rfl
  dispatched _ := rfl
  silent _ := rfl

omit [DecimalText] in
theorem Received.append (h : Received plane outcome) (hnext : Received outcome.1 next) :
    Received plane (next.1, outcome.2 ++ next.2) where
  inv := hnext.inv
  stopping := hnext.stopping ∘ h.stopping
  attached := h.attached ∘ hnext.attached
  stops := by
    have hkept := h.stopping
    have hkept' := hnext.stopping
    rw [List.count_append, h.stops, hnext.stops]
    revert hkept hkept'
    cases plane.stopping <;> cases outcome.1.stopping <;> cases next.1.stopping <;> decide
  disconnects := by
    have hkept := h.attached
    have hkept' := hnext.attached
    rw [List.count_append, h.disconnects, hnext.disconnects]
    revert hkept hkept'
    cases plane.controllerAttached <;> cases outcome.1.controllerAttached <;> cases next.1.controllerAttached <;> decide
  dispatched hgoing := by
    have hbefore : outcome.1.stopping = false := by
      by_contra hstopping
      exact nomatch hgoing.symm.trans (hnext.stopping (Bool.eq_true_of_not_eq_false hstopping))
    rw [dispatchedChanges_append, List.reverse_append, List.append_assoc, ← h.dispatched hbefore]
    exact hnext.dispatched hgoing
  silent hstopping := by
    rw [dispatchedChanges_append, h.silent hstopping, hnext.silent (h.stopping hstopping), List.append_nil]

omit [DecimalText] in
theorem toList_inFlightChange (plane : ControllerControlPlane) :
    plane.inFlightChange.toList = plane.pendingDispatch.toList ++ plane.settledChange.toList := by
  unfold inFlightChange pendingDispatch settledChange
  rcases plane.inFlightProfileChange with _ | ⟨change, reply, pending⟩
  · rfl
  · cases pending <;> rfl

/-- One piece. -/
theorem received_piece (h : Inv plane) (piece : Bytes) : Received plane (plane.receive piece) ∧
    ((plane.receive piece).1.stopping = true → dispatchedChanges (plane.receive piece).2 = []) := by
  obtain ⟨received, batch, htaken⟩ := ControlHistory.taken_handle h (.controllerBytesReceived piece) (by simp)
  have hactions : (plane.receive piece).2 = batch.actions := htaken.actions
  have hprogress := htaken.progress
  have houtcome := htaken.outcome (by simp)
  have hstop : batch.stop = ((plane.receive piece).1.stopping && !plane.stopping) := by
    rw [Bool.eq_iff_iff, Bool.and_eq_true, Bool.not_eq_true']
    refine ⟨fun hstop => ⟨houtcome.stopped hstop, hprogress.stopsOnce hstop⟩, fun ⟨hafter, hbefore⟩ => ?_⟩
    rcases hprogress.stopping.mp hafter with hstopping | hevent | hstop
    · exact nomatch hbefore.symm.trans hstopping
    · exact nomatch hevent
    · exact hstop
  have hattached : (plane.receive piece).1.controllerAttached = (plane.controllerAttached && !batch.disconnect) :=
    houtcome.attached
  have hsilent : plane.controllerAttached = false → batch.disconnect = false := fun hnone => (houtcome.silent hnone).2
  have hpending : batch.dispatch = (plane.receive piece).1.pendingDispatch := houtcome.pending
  have hsettled : (plane.receive piece).1.settledChange = plane.inFlightChange := houtcome.settled
  have hnothing : (plane.receive piece).1.stopping = true → dispatchedChanges (plane.receive piece).2 = [] := by
    intro hstopping
    rw [hactions, ActionBatch.dispatchedChanges_actions]
    cases hdispatch : batch.dispatch with
    | none => rfl
    | some change =>
        have hgoing := (houtcome.going (by rw [hdispatch]; exact Option.some_ne_none change)).1
        exact nomatch hgoing.symm.trans hstopping
  refine ⟨⟨houtcome.inv, houtcome.stillStopping, ?_, ?_, ?_, ?_, ?_⟩, hnothing⟩
  · intro hafter
    rw [hattached, Bool.and_eq_true] at hafter
    exact hafter.1
  · rw [← hstop, hactions]
    exact batch.count_stop
  · have hdisconnect : batch.disconnect =
        (plane.controllerAttached && !(plane.receive piece).1.controllerAttached) := by
      rw [hattached]
      revert hsilent
      cases plane.controllerAttached <;> cases batch.disconnect <;> decide
    rw [← hdisconnect, hactions]
    exact batch.count_disconnect
  · intro hgoing
    rw [hactions, ActionBatch.dispatchedChanges_actions, hpending, toList_inFlightChange, hsettled]
    cases (plane.receive piece).1.pendingDispatch <;> rfl
  · exact fun hstopping => hnothing (houtcome.stillStopping hstopping)

theorem received_pieces (h : Inv plane) (pieces : List Bytes) : Received plane (feedAll receive plane pieces) := by
  induction pieces generalizing plane with
  | nil => exact .refl h
  | cons piece pieces ih =>
      obtain ⟨hfirst, -⟩ := received_piece h piece
      exact hfirst.append (ih hfirst.inv)

omit [DecimalText] in
theorem Alike.inFlightChange (h : Alike left right) (hgoing : left.stopping = false) :
    right.inFlightChange = left.inFlightChange := by
  have hsettled : right.settled.inFlightChange = left.settled.inFlightChange :=
    congrArg (Option.map InFlightProfileChange.change) (h.inFlight hgoing)
  rwa [inFlightChange_settled, inFlightChange_settled] at hsettled

end Received

/-! ### Every way to cut a stream -/

section Cuts

variable [DecimalText] {plane left right : ControllerControlPlane} {pieces : List Bytes}

/-- A stream cut into its bytes, so that no line shares a piece with another. -/
abbrev bytewise (bytes : Bytes) : List Bytes := bytes.map ([·])

/-- In one of the pieces a change was to be dispatched, and a stop behind it took it back. -/
structure TakenBack (plane : ControllerControlPlane) (pieces : List Bytes) (change : ProfileChange) : Prop where
  dispatched : dispatchedChanges (feedAll receive plane (bytewise pieces.flatten)).2 = [change]
  cancelled : dispatchedChanges (feedAll receive plane pieces).2 = []
  piece : ∃ before piece after, pieces = before ++ piece :: after ∧
    .requestLifecycleStop ∈ ((feedAll receive plane before).1.receive piece).2 ∧
    dispatchedChanges (feedAll receive (feedAll receive plane before).1 (bytewise piece)).2 = [change]

/-- Two ways to cut a stream lead to control planes that are alike, with the same texts. -/
theorem alike_cuts (h : plane.Unfinished) {cut : List Bytes} (hcut : cut.flatten = pieces.flatten) :
    Alike (feedAll receive plane pieces).1 (feedAll receive plane cut).1 ∧
      controllerTexts (feedAll receive plane pieces).2 = controllerTexts (feedAll receive plane cut).2 := by
  obtain ⟨halike, htexts⟩ := receive_flatten h pieces
  obtain ⟨halike', htexts'⟩ := receive_flatten h cut
  rw [hcut] at halike' htexts'
  exact ⟨halike.symm.trans halike', htexts.symm.trans htexts'⟩

/-- While the Session goes on, what was dispatched can be read off the control plane. -/
theorem dispatchedChanges_cuts (h : Inv plane) (hunfinished : plane.Unfinished) {cut : List Bytes}
    (hcut : cut.flatten = pieces.flatten) (hgoing : (feedAll receive plane pieces).1.stopping = false) :
    dispatchedChanges (feedAll receive plane cut).2 = dispatchedChanges (feedAll receive plane pieces).2 := by
  obtain ⟨halike, -⟩ := alike_cuts hunfinished hcut
  have hfirst := (received_pieces h pieces).dispatched hgoing
  have hsecond := (received_pieces h cut).dispatched (halike.stopping.trans hgoing)
  rw [halike.inFlightChange hgoing, hfirst] at hsecond
  exact List.reverse_injective (List.append_cancel_right hsecond).symm

/-- The first piece with a stop. -/
theorem exists_stop (hgoing : plane.stopping = false) (hstops : (feedAll receive plane pieces).1.stopping = true) :
    ∃ before piece after, pieces = before ++ piece :: after ∧ (feedAll receive plane before).1.stopping = false ∧
      ((feedAll receive plane before).1.receive piece).1.stopping = true := by
  induction pieces generalizing plane with
  | nil => exact nomatch hgoing.symm.trans hstops
  | cons piece pieces ih =>
      by_cases hnext : (plane.receive piece).1.stopping = true
      · exact ⟨[], piece, pieces, rfl, hgoing, hnext⟩
      · obtain ⟨before, last, after, rfl, hbefore, hlast⟩ := ih (Bool.eq_false_iff.mpr hnext) hstops
        exact ⟨piece :: before, last, after, rfl, hbefore, hlast⟩

/-- Control planes that are alike while the Session goes on take pieces alike. -/
theorem feedAll_alike (h : Alike left right) (hgoing : left.stopping = false) (hpieces : pieces ≠ []) :
    feedAll receive right pieces = feedAll receive left pieces := by
  have hsettled : right.settled = left.settled := by
    have hinFlight := h.inFlight hgoing
    calc right.settled = left.settled.withFlight right.settled.inFlightProfileChange := by
          rw [h.same]
          rfl
      _ = left.settled := by
          rw [hinFlight]
          rfl
  have hreceive : ∀ piece, right.receive piece = left.receive piece := fun piece =>
    congrArg (·.handleSettled (.controllerBytesReceived piece)) hsettled
  cases pieces with
  | nil => exact absurd rfl hpieces
  | cons piece pieces => rw [feedAll_cons, feedAll_cons, hreceive]

/-- There is one change in flight at most, and one dispatch. -/
theorem length_dispatchedChanges_le (h : Inv plane) (pieces : List Bytes) :
    (dispatchedChanges (feedAll receive plane pieces).2).length + plane.inFlightChange.toList.length ≤ 1 := by
  have hone : ∀ change : Option ProfileChange, change.toList.length ≤ 1 := fun change => by cases change <;> simp
  induction pieces generalizing plane with
  | nil =>
      rw [feedAll_nil, show dispatchedChanges [] = [] from rfl, List.length_nil, Nat.zero_add]
      exact hone _
  | cons piece pieces ih =>
      obtain ⟨hfirst, hnothing⟩ := received_piece h piece
      rw [feedAll_cons, dispatchedChanges_append, List.length_append]
      by_cases hstopping : (plane.receive piece).1.stopping = true
      · rw [hnothing hstopping, (received_pieces hfirst.inv pieces).silent hstopping, List.length_nil, Nat.zero_add]
        exact hone _
      · have hrest := ih hfirst.inv
        have hlength := congrArg List.length (hfirst.dispatched (Bool.eq_false_iff.mpr hstopping))
        rw [List.length_append, List.length_reverse] at hlength
        omega

omit [DecimalText] in
theorem flatten_bytewise (bytes : Bytes) : (bytewise bytes).flatten = bytes := by
  induction bytes with
  | nil => rfl
  | cons byte bytes ih => exact congrArg (byte :: ·) ih

/-- Where a piece stops the Session, nothing of it is dispatched, and what would have been is taken back. -/
theorem takenBack_of_stop (h : Inv plane) (hunfinished : plane.Unfinished) (hgoing : plane.stopping = false)
    (hstops : (feedAll receive plane pieces).1.stopping = true) :
    dispatchedChanges (feedAll receive plane pieces).2 =
        dispatchedChanges (feedAll receive plane (bytewise pieces.flatten)).2 ∨
      ∃ change, TakenBack plane pieces change := by
  obtain ⟨before, piece, after, rfl, hbefore, hlast⟩ := exists_stop hgoing hstops
  have hcut : (bytewise before.flatten).flatten = before.flatten := flatten_bytewise _
  obtain ⟨halike, -⟩ := alike_cuts hunfinished hcut
  have hdispatched := dispatchedChanges_cuts h hunfinished hcut hbefore
  have hfirst := received_pieces h before
  have hinFlight := congrArg List.length (hfirst.dispatched hbefore)
  have hmiddle := unfinished_pieces hunfinished before
  obtain ⟨hpiece, hnothing⟩ := received_piece hfirst.inv piece
  have hinv := hfirst.inv
  have hbound := length_dispatchedChanges_le hinv (bytewise piece)
  generalize hstate : (feedAll receive plane before).1 = state at *
  have hfine : (bytewise piece).flatten = [piece].flatten := by rw [flatten_bytewise, List.flatten_singleton]
  have hsame := alike_cuts hmiddle hfine
  rw [feedAll_singleton] at hsame
  have hnonempty : bytewise piece ≠ [] := by
    intro hnil
    rw [List.map_eq_nil_iff.mp hnil] at hlast
    exact nomatch (((receive_nil hmiddle).1.stopping.symm.trans hbefore).symm.trans hlast)
  -- nothing is dispatched once the Session stops
  have hwhole : dispatchedChanges (feedAll receive plane (before ++ piece :: after)).2 =
      dispatchedChanges (feedAll receive plane before).2 := by
    rw [feedAll_append, feedAll_cons, dispatchedChanges_append, dispatchedChanges_append, hstate, hnothing hlast,
      (received_pieces hpiece.inv after).silent hlast, List.append_nil, List.append_nil]
  have hbytes : dispatchedChanges (feedAll receive plane (bytewise (before ++ piece :: after).flatten)).2 =
      dispatchedChanges (feedAll receive plane before).2 ++
        dispatchedChanges (feedAll receive state (bytewise piece)).2 := by
    have hbytewise : bytewise (before ++ piece :: after).flatten =
        bytewise before.flatten ++ (bytewise piece ++ bytewise after.flatten) := by
      rw [List.flatten_append, List.flatten_cons]
      exact List.map_append.trans (congrArg _ List.map_append)
    have hstopped : (feedAll receive state (bytewise piece)).1.stopping = true := hsame.1.stopping.trans hlast
    have hlater := (received_pieces hinv (bytewise piece)).inv
    rw [hbytewise, feedAll_append, feedAll_append, dispatchedChanges_append, dispatchedChanges_append, hdispatched,
      feedAll_alike halike hbefore hnonempty, (received_pieces hlater (bytewise after.flatten)).silent hstopped,
      List.append_nil]
  rw [List.length_append, List.length_reverse] at hinFlight
  cases hpiece' : dispatchedChanges (feedAll receive state (bytewise piece)).2 with
  | nil =>
      rw [hpiece', List.append_nil] at hbytes
      exact Or.inl (hwhole.trans hbytes.symm)
  | cons change changes =>
      rw [hpiece', List.length_cons] at hbound
      have hnone : dispatchedChanges (feedAll receive plane before).2 = [] := List.eq_nil_of_length_eq_zero (by omega)
      have hlone : changes = [] := List.eq_nil_of_length_eq_zero (by omega)
      rw [hpiece', hnone, hlone, List.nil_append] at hbytes
      refine Or.inr ⟨change, hbytes, hwhole.trans hnone, before, piece, after, rfl, ?_, ?_⟩
      · rw [hstate]
        refine List.count_pos_iff.mp ?_
        rw [hpiece.stops, hlast, hbefore]
        decide
      · rw [hstate, hpiece', hlone]

/-- However the stream of a Controller is cut, the texts, the disconnect, the stop and the state are the same, and
so are the changes that are dispatched, but for one that a stop in the same piece takes back. -/
theorem receive_cuts {workloadPid : Int} {childArguments : List Bytes} {history : List ControlStep}
    (h : ControlHistory workloadPid childArguments history plane) (pieces cut : List Bytes)
    (hcut : cut.flatten = pieces.flatten) :
    let first := feedAll receive plane pieces
    let second := feedAll receive plane cut
    controllerTexts first.2 = controllerTexts second.2 ∧
      first.2.count .disconnectController = second.2.count .disconnectController ∧
      first.2.count .requestLifecycleStop = second.2.count .requestLifecycleStop ∧
      (first.1.confirmedProfile = second.1.confirmedProfile ∧ first.1.commandQueue = second.1.commandQueue ∧
        first.1.stopping = second.1.stopping ∧ first.1.controllerAttached = second.1.controllerAttached ∧
        Alike first.1 second.1) ∧
      (dispatchedChanges first.2 = dispatchedChanges (feedAll receive plane (bytewise pieces.flatten)).2 ∨
        ∃ change, TakenBack plane pieces change) := by
  have hunfinished := unfinished_of_history h
  obtain ⟨halike, htexts⟩ := alike_cuts hunfinished hcut
  have hfirst := received_pieces h.inv pieces
  have hsecond := received_pieces h.inv cut
  refine ⟨htexts, ?_, ?_, ⟨?_, ?_, halike.stopping.symm, halike.attached.symm, halike⟩, ?_⟩
  · rw [hfirst.disconnects, hsecond.disconnects, halike.attached]
  · rw [hfirst.stops, hsecond.stops, halike.stopping]
  · exact (congrArg confirmedProfile halike.same).symm
  · exact (congrArg commandQueue halike.same).symm
  · by_cases hstarted : plane.stopping = true
    · have hbytes := (received_pieces h.inv (bytewise pieces.flatten)).silent hstarted
      exact Or.inl ((hfirst.silent hstarted).trans hbytes.symm)
    · rw [Bool.not_eq_true] at hstarted
      by_cases hstops : (feedAll receive plane pieces).1.stopping = true
      · exact takenBack_of_stop h.inv hunfinished hstarted hstops
      · exact Or.inl (dispatchedChanges_cuts h.inv hunfinished (flatten_bytewise _) (Bool.eq_false_iff.mpr hstops)).symm

end Cuts

section Sample

attribute [local instance] bitPatternText

def attachedPlane : ControllerControlPlane :=
  (handle { workloadPid := 7, childArguments := [ascii "sleep"] } .controllerAttached).1

/-- A change and a stop in one read, and in two. -/
theorem receive_cuts_stop :
    let whole := feedAll receive attachedPlane [ascii "set outbound delay 5\nstop\n"]
    let parts := feedAll receive attachedPlane [ascii "set outbound delay 5\n", ascii "stop\n"]
    (∃ history, ControlHistory 7 [ascii "sleep"] history attachedPlane) ∧
      controllerTexts whole.2 = controllerTexts parts.2 ∧ whole.1.commandQueue = parts.1.commandQueue ∧
      dispatchedChanges whole.2 = [] ∧ dispatchedChanges parts.2 = [.setDelay .outbound 5] := by
  have hhistory : ControlHistory 7 [ascii "sleep"] _ attachedPlane := .step .start .controllerAttached fun _ => rfl
  obtain ⟨htexts, -, -, ⟨-, hqueue, -⟩, -⟩ := receive_cuts hhistory [ascii "set outbound delay 5\nstop\n"]
    [ascii "set outbound delay 5\n", ascii "stop\n"] (by decide)
  exact ⟨⟨_, hhistory⟩, htexts, hqueue, by decide, by decide⟩

end Sample

end ControllerControlPlane

end NetLagLab
