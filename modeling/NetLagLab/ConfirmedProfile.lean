import NetLagLab.ControlPlaneHistory

/-! The confirmed profile: what the Controllers' changes have made of the default one, and what the status
shows of it. -/

namespace NetLagLab

open ByteLines ControllerControlPlane

/-- The change that a step confirms: the one of an applied result for the change in flight. -/
def ControlStep.confirms (step : ControlStep) : Option ProfileChange :=
  match step.event with
  | .helperProfileChangeResult .applied change =>
      if step.before.inFlightChange.any (·.same change) then some change else none
  | _ => none

/-- The changes whose result was applied, in the order of their results. -/
def appliedChanges (history : List ControlStep) : List ProfileChange := history.filterMap (·.confirms)

namespace ControllerControlPlane

section Texts

variable {plane start next : ControllerControlPlane} {first batch : ActionBatch} {text : Bytes}

/-- What begins a status. -/
def statusHead : Bytes := ascii "STATUS_BEGIN\n"

theorem not_statusHead_error (error : ControllerParseError) :
    ¬ statusHead <+: controllerParseErrorResponse error := by
  cases error <;> decide

theorem not_statusHead_result (result : ControlPlaneProfileChangeResult) :
    ¬ statusHead <+: resultText result := by
  cases result <;> decide

variable [DecimalText]

theorem Served.said_iff (h : Served start next first batch) : start.Said text ↔ next.Said text := by
  rw [Said, Said, h.workloadPid, h.childArguments, h.confirmed, h.shaping]

/-- Of the texts that lines and commands are answered with, only a status looks like one. -/
theorem Said.status (h : plane.Said text) (hhead : statusHead <+: text) :
    ∃ stopping, text = buildStatus plane.workloadPid plane.childArguments plane.confirmedProfile stopping
      plane.shapingApplied := by
  rcases h with hmem | ⟨error, rfl⟩ | hstatus
  · have hnone : ∀ text ∈ [helpResponse, detachedText, stoppingText, sessionIsStoppingText,
        tooManyQueuedCommandsText], ¬ statusHead <+: text := by decide +kernel
    exact absurd hhead (hnone text hmem)
  · exact absurd hhead (not_statusHead_error error)
  · exact hstatus

end Texts

section Events

variable [DecimalText] {plane next : ControllerControlPlane} {event : ControlPlaneEvent} {batch : ActionBatch}
  {received : List ControllerCommand} {text : Bytes}

/-- The texts of an event: the end of the change that it is about comes first, and the others are the greeting
and the answers to lines and commands on the control plane that the event leaves. -/
theorem EventStep.texts (h : EventStep plane event received next batch) :
    (∃ inFlight result change said, event = .helperProfileChangeResult result change ∧
      plane.inFlightProfileChange = some inFlight ∧ inFlight.change.same change = true ∧
      plane.replies inFlight = true ∧ batch.texts = resultText result :: said ∧ ∀ text ∈ said, next.Said text) ∨
    ∀ text ∈ batch.texts, text = attachedText ∨ next.Said text := by
  cases h with
  | attached => exact .inr fun text htext => .inl (List.mem_singleton.mp htext)
  | received bytes buffer listening services =>
      have hserved := services.served rfl
      obtain ⟨said, htexts, hsaid⟩ := hserved.texts
      refine .inr fun text htext => .inr ?_
      rw [htexts, List.nil_append] at htext
      exact hserved.said_iff.mp (hsaid text htext)
  | @landed result change inFlight profile next batch current same applies services =>
      have hserved := services.served rfl
      obtain ⟨said, htexts, hsaid⟩ := hserved.texts
      have hafter : ∀ text ∈ said, next.Said text := fun text htext => hserved.said_iff.mp (hsaid text htext)
      by_cases hreplies : plane.replies inFlight = true
      · rw [if_pos hreplies] at htexts
        exact .inl ⟨inFlight, result, change, said, rfl, current, same, hreplies, htexts, hafter⟩
      · rw [if_neg hreplies, List.nil_append] at htexts
        exact .inr fun text htext => .inr (hafter text (htexts ▸ htext))
  | _ => exact .inr fun text htext => absurd htext List.not_mem_nil

/-- Every text of an event is one of these. -/
theorem EventStep.said (h : EventStep plane event received next batch) (htext : text ∈ batch.texts) :
    text = attachedText ∨ (∃ result, text = resultText result) ∨ next.Said text := by
  rcases h.texts with ⟨inFlight, result, change, said, -, -, -, -, htexts, hsaid⟩ | hothers
  · rw [htexts] at htext
    rcases List.mem_cons.mp htext with rfl | hmem
    · exact .inr (.inl ⟨result, rfl⟩)
    · exact .inr (.inr (hsaid text hmem))
  · exact (hothers text htext).imp_right .inr

omit [DecimalText] in
theorem any_same_iff {change : ProfileChange} : plane.inFlightChange.any (·.same change) = true ↔
    ∃ inFlight, plane.inFlightProfileChange = some inFlight ∧ inFlight.change.same change = true := by
  rw [inFlightChange]
  cases plane.inFlightProfileChange <;> simp

/-- An applied result for the change in flight is the only event that touches the profile. -/
theorem EventStep.profile (h : EventStep plane event received next batch) (hinv : ProfileInv plane) :
    (∃ change, event = .helperProfileChangeResult .applied change ∧
      plane.inFlightChange.any (·.same change) = true ∧
      applyProfileChange plane.confirmedProfile change = .ok next.confirmedProfile ∧
      next.shapingApplied = true) ∨
    (∀ change, event = .helperProfileChangeResult .applied change →
      plane.inFlightChange.any (·.same change) = false) ∧
      next.confirmedProfile = plane.confirmedProfile ∧ next.shapingApplied = plane.shapingApplied := by
  cases h with
  | received bytes buffer listening services =>
      have hserved := services.served rfl
      exact .inr ⟨(fun _ happlied => by cases happlied), hserved.confirmed, hserved.shaping⟩
  | rejected result change other => exact .inr ⟨fun _ happlied => by cases happlied; exact other, rfl, rfl⟩
  | dropped result change other => exact .inr ⟨fun _ happlied => by cases happlied; exact other, rfl, rfl⟩
  | invalid change current same applies => cases applies.symm.trans (applies_of_same hinv current same)
  | @landed result change inFlight profile next batch current same applies services =>
      have hserved := services.served rfl
      cases result with
      | applied =>
          refine .inl ⟨change, rfl, any_same_iff.mpr ⟨inFlight, current, same⟩, ?_, ?_⟩
          · rw [hserved.confirmed]
            exact applies
          · rw [hserved.shaping]
            simp [ControllerControlPlane.landed]
      | restoredAfterFailure =>
          refine .inr ⟨(fun _ happlied => by cases happlied), hserved.confirmed.trans applies, ?_⟩
          rw [hserved.shaping]
          simp [ControllerControlPlane.landed]
  | _ => exact .inr ⟨(fun _ happlied => by cases happlied), rfl, rfl⟩

end Events

/-- What is in flight is executed or waits for its execution. -/
theorem inFlightChange_toList (plane : ControllerControlPlane) :
    plane.inFlightChange.toList = plane.settledChange.toList ++ plane.pendingDispatch.toList := by
  unfold inFlightChange settledChange pendingDispatch
  rcases plane.inFlightProfileChange with _ | ⟨change, reply, pending⟩
  · rfl
  · cases pending <;> rfl

end ControllerControlPlane

namespace EventHistory

open ControlHistory

variable [DecimalText] {workloadPid : Int} {childArguments : List Bytes} {history : List ControlStep}
  {plane : ControllerControlPlane} {step : ControlStep} {received : List ControllerCommand} {batch : ActionBatch}

omit [DecimalText] in
theorem confirms_eq_some_iff {change : ProfileChange} :
    step.confirms = some change ↔ step.Matches .applied change := by
  unfold ControlStep.confirms ControlStep.Matches
  split
  · rename_i carried hevent
    rw [hevent, Option.ite_none_right_eq_some, Option.some.injEq]
    constructor
    · rintro ⟨hany, rfl⟩
      exact ⟨rfl, hany⟩
    · rintro ⟨hchange, hany⟩
      cases hchange
      exact ⟨hany, rfl⟩
  · rename_i hother
    exact ⟨(fun hnone => nomatch hnone), fun happlied => absurd happlied.1 (hother change)⟩

omit [DecimalText] in
theorem inFlightChange_source : step.source.inFlightChange = step.before.inFlightChange := by
  unfold ControlStep.source
  split
  · rfl
  · exact inFlightChange_settled

omit [DecimalText] in
theorem confirmed_source : step.source.confirmedProfile = step.before.confirmedProfile ∧
    step.source.shapingApplied = step.before.shapingApplied := by
  unfold ControlStep.source
  split <;> exact ⟨rfl, rfl⟩

/-- A step confirms a change, which is then part of the profile, or leaves the profile as it is. -/
theorem Handled.profile (h : Handled step received batch) :
    (∃ change, step.confirms = some change ∧
      applyProfileChange step.before.confirmedProfile change = .ok step.after.confirmedProfile ∧
      step.after.shapingApplied = true) ∨
    step.confirms = none ∧ step.after.confirmedProfile = step.before.confirmedProfile ∧
      step.after.shapingApplied = step.before.shapingApplied := by
  have hprofile := h.event.profile h.source
  rw [inFlightChange_source, confirmed_source.1, confirmed_source.2] at hprofile
  rcases hprofile with ⟨change, hevent, hany, hok, hshaping⟩ | ⟨hother, hsame⟩
  · exact .inl ⟨change, confirms_eq_some_iff.mpr ⟨hevent, hany⟩, hok, hshaping⟩
  · refine .inr ⟨?_, hsame⟩
    rw [Option.eq_none_iff_forall_not_mem]
    intro change hconfirms
    obtain ⟨hevent, hany⟩ := confirms_eq_some_iff.mp hconfirms
    exact absurd ((hother change hevent).symm.trans hany) (by decide)

omit [DecimalText] in
theorem appliedChanges_concat : appliedChanges (history ++ [step]) = appliedChanges history ++ step.confirms.toList := by
  rw [appliedChanges, List.filterMap_append]
  cases hconfirms : step.confirms <;> simp [appliedChanges, hconfirms]

/-- The confirmed profile is what the applied changes make of the default one. -/
theorem foldlM_appliedChanges (h : EventHistory workloadPid childArguments history plane) :
    (appliedChanges history).foldlM applyProfileChange {} = .ok plane.confirmedProfile ∧
      (plane.shapingApplied = true ↔ appliedChanges history ≠ []) := by
  refine invariant (P := fun history plane =>
    (appliedChanges history).foldlM applyProfileChange {} = .ok plane.confirmedProfile ∧
      (plane.shapingApplied = true ↔ appliedChanges history ≠ []))
    ⟨rfl, by simp [appliedChanges]⟩ (fun history step received batch ih hhandled => ?_) h
  rw [appliedChanges_concat, List.foldlM_append, ih.1]
  rcases hhandled.profile with ⟨change, hconfirms, hok, hshaping⟩ | ⟨hconfirms, hprofile, hshaping⟩
  · rw [hconfirms]
    exact ⟨(bind_pure _).trans hok, by simp [hshaping]⟩
  · rw [hconfirms, hprofile, hshaping]
    refine ⟨rfl, ?_⟩
    simpa using ih.2

/-- Of the changes in flight before and after a step: what the step does not end stays, and what it dispatches
is added. -/
theorem Handled.inFlight (h : Handled step received batch) :
    step.after.inFlightChange.toList.Sublist
      ((step.before.remainingChange step.event).toList ++ batch.dispatch.toList) := by
  by_cases hwrite : step.event = .controllerWriteFailed
  · have hevent := h.event
    rw [hwrite] at hevent
    rw [hevent.of_writeFailed.1, hwrite]
    have hsource : step.source = step.before := if_pos hwrite
    rw [hsource, inFlightChange_controllerWriteFailed]
    refine List.Sublist.trans ?_ (List.sublist_append_left _ _)
    rw [show step.before.remainingChange .controllerWriteFailed = step.before.inFlightChange from rfl,
      inFlightChange_toList]
    exact List.sublist_append_left _ _
  · have hevent := h.event
    rw [show step.source = step.before.settled from if_neg hwrite] at hevent
    obtain ⟨hdispatch, hsettled⟩ := hevent.inFlight pendingDispatch_settled hwrite
    rw [inFlightChange_toList, hsettled, remainingChange_settled, hdispatch]

omit [DecimalText] in
theorem remainingChange_sublist (event : ControlPlaneEvent) :
    (plane.remainingChange event).toList.Sublist plane.inFlightChange.toList := by
  unfold remainingChange
  split
  · cases plane.inFlightChange with
    | none => exact List.Sublist.refl _
    | some current =>
        rw [Option.filter_some]
        split
        · exact List.Sublist.refl _
        · exact List.nil_sublist _
  · exact List.Sublist.refl _

omit [DecimalText] in
theorem remainingChange_of_matches {result : ControlPlaneProfileChangeResult} {change : ProfileChange}
    (h : step.Matches result change) : ∃ current, step.before.inFlightChange = some current ∧
      current.same change = true ∧ step.before.remainingChange step.event = none := by
  obtain ⟨hevent, hany⟩ := h
  obtain ⟨inFlight, hcurrent, hsame⟩ := any_same_iff.mp hany
  have hchange : step.before.inFlightChange = some inFlight.change := by
    rw [inFlightChange, hcurrent]
    rfl
  refine ⟨inFlight.change, hchange, hsame, ?_⟩
  rw [hevent, remainingChange, hchange, Option.filter_some, if_neg (by rw [hsame]; decide)]

/-- The applied changes are dispatched ones, in the order of their dispatches; the change in flight is
dispatched after them. -/
theorem dispatched_appliedChanges (h : EventHistory workloadPid childArguments history plane) :
    ∃ dispatched, List.Forall₂ (fun sent applied => ProfileChange.same sent applied = true) dispatched
        (appliedChanges history) ∧
      (dispatched ++ plane.inFlightChange.toList).Sublist (dispatchedChanges (allActions history)) := by
  refine invariant (P := fun history plane => ∃ dispatched,
    List.Forall₂ (fun sent applied => ProfileChange.same sent applied = true) dispatched (appliedChanges history) ∧
      (dispatched ++ plane.inFlightChange.toList).Sublist (dispatchedChanges (allActions history)))
    ⟨[], .nil, List.Sublist.refl _⟩ (fun history step received batch ih hhandled => ?_) h
  obtain ⟨dispatched, hsame, hsublist⟩ := ih
  have hinFlight := hhandled.inFlight
  rw [appliedChanges_concat, allActions_concat, dispatchedChanges_append, hhandled.actions,
    ActionBatch.dispatchedChanges_actions]
  cases hconfirms : step.confirms with
  | none =>
      refine ⟨dispatched, by simpa using hsame, ?_⟩
      calc (dispatched ++ step.after.inFlightChange.toList).Sublist
            (dispatched ++ ((step.before.remainingChange step.event).toList ++ batch.dispatch.toList)) :=
          hinFlight.append_left dispatched
        List.Sublist _ (dispatched ++ (step.before.inFlightChange.toList ++ batch.dispatch.toList)) :=
          ((remainingChange_sublist step.event).append_right _).append_left _
        List.Sublist _ (dispatchedChanges (allActions history) ++ batch.dispatch.toList) := by
          rw [← List.append_assoc]
          exact hsublist.append_right _
  | some change =>
      obtain ⟨current, hcurrent, hcarried, hnone⟩ := remainingChange_of_matches (confirms_eq_some_iff.mp hconfirms)
      rw [hnone, Option.toList_none, List.nil_append] at hinFlight
      rw [hcurrent, Option.toList_some] at hsublist
      refine ⟨dispatched ++ [current], ?_, hsublist.append hinFlight⟩
      exact List.rel_append hsame (.cons hcarried .nil)

theorem workload_eq (h : EventHistory workloadPid childArguments history plane) :
    plane.workloadPid = workloadPid ∧ plane.childArguments = childArguments :=
  invariant (P := fun _ plane => plane.workloadPid = workloadPid ∧ plane.childArguments = childArguments)
    ⟨rfl, rfl⟩ (fun _ _ _ _ ih hhandled =>
      ⟨hhandled.progress.workloadPid.trans ih.1, hhandled.progress.childArguments.trans ih.2⟩) h

/-- A status shows the confirmed profile and whether shaping was applied. -/
theorem status_of_mem {before later : List ControlStep} {text : Bytes}
    (h : EventHistory workloadPid childArguments history plane) (hsplit : history = before ++ step :: later)
    (htext : text ∈ controllerTexts step.actions) (hhead : statusHead <+: text) :
    ∃ stopping, text = buildStatus workloadPid childArguments step.after.confirmedProfile stopping
      step.after.shapingApplied := by
  obtain ⟨hbefore, hafter, received, batch, hhandled⟩ := h.split hsplit
  rw [hhandled.actions, ActionBatch.controllerTexts_actions] at htext
  rcases hhandled.event.said htext with rfl | ⟨result, rfl⟩ | hsaid
  · exact absurd hhead (by decide)
  · exact absurd hhead (not_statusHead_result result)
  · have hstatus := hsaid.status hhead
    rwa [hafter.workload_eq.1, hafter.workload_eq.2] at hstatus

end EventHistory

/-- The confirmed profile is valid, and is what the changes with an applied result make of the default one in
the order in which they were dispatched; no other result touches it, every status shows it, and no applied
change is refused. -/
theorem handle_confirms [DecimalText] {workloadPid : Int} {childArguments : List Bytes}
    {history : List ControlStep} {plane : ControllerControlPlane}
    (h : EventHistory workloadPid childArguments history plane) :
    validate plane.confirmedProfile = [] ∧
    (appliedChanges history).foldlM applyProfileChange {} = .ok plane.confirmedProfile ∧
    (plane.shapingApplied = true ↔ appliedChanges history ≠ []) ∧
    (∃ dispatched, dispatched.Sublist (dispatchedChanges (allActions history)) ∧
      List.Forall₂ (fun sent applied => ProfileChange.same sent applied = true) dispatched
        (appliedChanges history)) ∧
    (∀ step ∈ history, ∀ result change, step.event = .helperProfileChangeResult result change →
      result = .restoredAfterFailure ∨ ¬ step.Matches result change →
      step.after.confirmedProfile = step.before.confirmedProfile ∧
        step.after.shapingApplied = step.before.shapingApplied) ∧
    (∀ before step later text, history = before ++ step :: later → text ∈ controllerTexts step.actions →
      statusHead <+: text → ∃ profile stopping,
        (appliedChanges (before ++ [step])).foldlM applyProfileChange {} = .ok profile ∧
        text = buildStatus workloadPid childArguments profile stopping
          (decide (appliedChanges (before ++ [step]) ≠ []))) ∧
    (∀ step ∈ history, ∀ change, step.Matches .applied change →
      ∃ profile, applyProfileChange step.before.confirmedProfile change = .ok profile) := by
  refine ⟨h.inv.valid, h.foldlM_appliedChanges.1, h.foldlM_appliedChanges.2, ?_, ?_, ?_, ?_⟩
  · obtain ⟨dispatched, hsame, hsublist⟩ := h.dispatched_appliedChanges
    exact ⟨dispatched, (List.sublist_append_left _ _).trans hsublist, hsame⟩
  · intro step hstep result change hevent hother
    obtain ⟨before, later, hsplit⟩ := List.append_of_mem hstep
    obtain ⟨hbefore, hafter, received, batch, hhandled⟩ := h.split hsplit
    rcases hhandled.profile with ⟨applied, hconfirms, -⟩ | ⟨-, hunchanged⟩
    · obtain ⟨happlied, hany⟩ := EventHistory.confirms_eq_some_iff.mp hconfirms
      rw [hevent] at happlied
      cases happlied
      exact absurd ⟨hevent, hany⟩ (hother.resolve_left (by decide))
    · exact hunchanged
  · intro before step later text hsplit htext hhead
    obtain ⟨hbefore, hafter, -⟩ := h.split hsplit
    obtain ⟨stopping, hstatus⟩ := h.status_of_mem hsplit htext hhead
    refine ⟨step.after.confirmedProfile, stopping, hafter.foldlM_appliedChanges.1, ?_⟩
    have hshaping : step.after.shapingApplied = decide (appliedChanges (before ++ [step]) ≠ []) := by
      rw [Bool.eq_iff_iff, decide_eq_true_iff]
      exact hafter.foldlM_appliedChanges.2
    rw [← hshaping]
    exact hstatus
  · intro step hstep change hmatches
    obtain ⟨before, later, hsplit⟩ := List.append_of_mem hstep
    obtain ⟨hbefore, hafter, received, batch, hhandled⟩ := h.split hsplit
    obtain ⟨inFlight, hcurrent, hsame⟩ := any_same_iff.mp hmatches.2
    exact ⟨_, applies_of_same hhandled.profileInv hcurrent hsame⟩

section Sample

attribute [local instance] bitPatternText

/-- Two changes, of which the helper applies the first and undoes the second. A Controller attaches while another one
has a command in the queue. -/
def overlappingEvents : List ControlPlaneEvent :=
  [.controllerAttached, .controllerBytesReceived (ascii "set outbound delay 5\nset inbound jitter 9\nstatus\n"),
    .controllerAttached, .helperProfileChangeResult .applied (.setDelay .outbound 5),
    .controllerBytesReceived (ascii "set inbound jitter 9\n"),
    .helperProfileChangeResult .restoredAfterFailure (.setJitter .inbound 9)]

theorem handle_confirms_changing :
    (workloadSteps overlappingEvents).length = 6 ∧
    appliedChanges (workloadSteps overlappingEvents) = [.setDelay .outbound 5] ∧
    ∃ dispatched, dispatched.Sublist (dispatchedChanges (allActions (workloadSteps overlappingEvents))) ∧
      List.Forall₂ (fun sent applied => ProfileChange.same sent applied = true) dispatched
        (appliedChanges (workloadSteps overlappingEvents)) :=
  have hhistory := eventHistory_steps (.start : EventHistory 41 [] _ _) overlappingEvents
  ⟨rfl, by decide, (handle_confirms hhistory).2.2.2.1⟩

end Sample

end NetLagLab
