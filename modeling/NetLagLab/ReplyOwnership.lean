import NetLagLab.ConfirmedProfile

/-! Who is told what: the end of a change is told to the connection that asked for it, and every connection
gets its answers in the order of its commands. -/

namespace NetLagLab

open ByteLines ControllerControlPlane

/-! ### The texts apart -/

/-- The texts that tell how a change ended. -/
def isProfileReply (text : Bytes) : Bool := text = profileChangedText || text = profileNotChangedText

/-- The texts that answer a command other than a stop. -/
def isCommandReply (text : Bytes) : Bool :=
  decide (text ∈ [helpResponse, detachedText, sessionIsStoppingText, tooManyQueuedCommandsText, profileChangedText,
    profileNotChangedText]) || statusHead.isPrefixOf text

section Texts

theorem isProfileReply_resultText (result : ControlPlaneProfileChangeResult) :
    isProfileReply (resultText result) = true := by
  cases result <;> rfl

theorem isProfileReply_error (error : ControllerParseError) :
    isProfileReply (controllerParseErrorResponse error) = false := by
  cases error <;> decide

theorem isCommandReply_error (error : ControllerParseError) :
    isCommandReply (controllerParseErrorResponse error) = false := by
  cases error <;> decide +kernel

theorem prefix_appendEscapedLimited (limit : Nat) (output input : Bytes) :
    output <+: (appendEscapedLimited limit output input).1 := by
  induction input generalizing output with
  | nil => exact List.prefix_rfl
  | cons byte input ih =>
      unfold appendEscapedLimited
      split
      · exact List.prefix_rfl
      · exact (List.prefix_append _ _).trans (ih _)

theorem prefix_appendArguments (limit : Nat) (response : Bytes) (index : Nat) (arguments : List Bytes) :
    response <+: (appendArguments limit response index arguments).1 := by
  induction arguments generalizing response index with
  | nil => exact List.prefix_rfl
  | cons argument arguments ih =>
      unfold appendArguments
      dsimp only
      split
      · exact List.prefix_rfl
      · have hargument := (List.prefix_append response _).trans
          (prefix_appendEscapedLimited (limit - 1) (response ++ (ascii "argument[" ++ decimalText index ++
            ascii "]: ")) argument)
        split
        · rename_i output houtput
          rw [houtput] at hargument
          exact hargument.trans (List.prefix_append _ _)
        · rename_i output houtput
          rw [houtput] at hargument
          exact (hargument.trans (List.prefix_append _ _)).trans (ih _ _)

theorem prefix_content (limit : Nat) (header program : Bytes) (arguments : List Bytes) :
    header <+: (if (appendEscapedLimited (limit - 1) header program).2 then
      appendArguments limit ((appendEscapedLimited (limit - 1) header program).1 ++ [newline]) 0 arguments
      else ((appendEscapedLimited (limit - 1) header program).1 ++ [newline], false)).1 := by
  have hprogram := (prefix_appendEscapedLimited (limit - 1) header program).trans (List.prefix_append _ [newline])
  split
  · exact hprogram.trans (prefix_appendArguments _ _ _ _)
  · exact hprogram

variable [DecimalText]

/-- A status begins like one. -/
theorem begins_buildStatus (workloadPid : Int) (childArguments : List Bytes) (profile : NetworkProfile)
    (stopping shaping : Bool) :
    statusHead <+: buildStatus workloadPid childArguments profile stopping shaping := by
  have hbegin : statusHead <+: ascii "STATUS_BEGIN\nstate: " := by decide
  have hheader : ∀ state pid text program : Bytes,
      statusHead <+: ascii "STATUS_BEGIN\nstate: " ++ state ++ pid ++ text ++ program := fun state pid text program =>
    (((hbegin.trans (List.prefix_append _ state)).trans (List.prefix_append _ pid)).trans
      (List.prefix_append _ text)).trans (List.prefix_append _ program)
  unfold buildStatus
  dsimp only
  refine List.IsPrefix.trans ?_ (List.prefix_append _ _)
  refine List.IsPrefix.trans ?_ (List.prefix_append _ _)
  exact (hheader _ _ _ _).trans (prefix_content _ _ _ _)

theorem isCommandReply_status (workloadPid : Int) (childArguments : List Bytes) (profile : NetworkProfile)
    (stopping shaping : Bool) :
    isCommandReply (buildStatus workloadPid childArguments profile stopping shaping) = true := by
  rw [isCommandReply, List.isPrefixOf_iff_prefix.mpr (begins_buildStatus _ _ _ _ _), Bool.or_true]

theorem isProfileReply_status (workloadPid : Int) (childArguments : List Bytes) (profile : NetworkProfile)
    (stopping shaping : Bool) :
    isProfileReply (buildStatus workloadPid childArguments profile stopping shaping) = false := by
  have hhead := begins_buildStatus workloadPid childArguments profile stopping shaping
  rw [isProfileReply, Bool.or_eq_false_iff, decide_eq_false_iff_not, decide_eq_false_iff_not]
  constructor
  · intro htext
    rw [htext] at hhead
    exact not_statusHead_result .applied hhead
  · intro htext
    rw [htext] at hhead
    exact not_statusHead_result .restoredAfterFailure hhead

/-- An answer to a line or a command is not the end of a change. -/
theorem ControllerControlPlane.Said.not_profileReply {plane : ControllerControlPlane} {text : Bytes}
    (h : plane.Said text) : isProfileReply text = false := by
  rcases h with hmem | ⟨error, rfl⟩ | ⟨stopping, rfl⟩
  · have hnone : ∀ text ∈ [helpResponse, detachedText, stoppingText, sessionIsStoppingText,
        tooManyQueuedCommandsText], isProfileReply text = false := by decide +kernel
    exact hnone text hmem
  · exact isProfileReply_error error
  · exact isProfileReply_status _ _ _ _ _

end Texts

/-! ### The owner of a change -/

namespace ControlStep

variable (step : ControlStep)

/-- The connection stays as it is, nothing is dispatched, and nobody is told of the end of a change. -/
structure Quiet : Prop where
  event : step.event ≠ .controllerAttached ∧ step.event ≠ .controllerDisconnected ∧
    step.event ≠ .controllerWriteFailed
  connected : .disconnectController ∉ step.actions
  dispatches : dispatchedChanges step.actions = []
  replies : ∀ text ∈ controllerTexts step.actions, isProfileReply text = false

end ControlStep

/-- The change was dispatched for the connection of the generation, which is attached ever since; it is the last
one that was dispatched, and nobody has been told of its end. -/
def Issued (history : List ControlStep) (generation : UInt64) (change : ProfileChange) : Prop :=
  ∃ earlier issue between, history = earlier ++ issue :: between ∧
    .dispatchProfileChange change ∈ issue.actions ∧ .disconnectController ∉ issue.actions ∧
    issue.after.controllerAttached = true ∧ issue.after.connectionGeneration = generation ∧
    ∀ step ∈ between, step.Quiet

namespace ControllerControlPlane

/-- The change in flight is to be answered only to the attached connection, in a Session that goes on. -/
def Owns (plane : ControllerControlPlane) : Prop :=
  ∀ inFlight, plane.inFlightProfileChange = some inFlight → inFlight.replyGeneration ≠ none →
    plane.controllerAttached = true ∧ plane.stopping = false ∧ plane.workloadTerminal = false ∧
      inFlight.replyGeneration = some plane.connectionGeneration

theorem owns_of_map {plane : ControllerControlPlane} {inFlight : Option InFlightProfileChange}
    (h : plane.inFlightProfileChange = inFlight.map .withoutReply) : plane.Owns := by
  intro current hcurrent hreply
  rw [h, Option.map_eq_some_iff] at hcurrent
  obtain ⟨previous, -, rfl⟩ := hcurrent
  exact absurd rfl hreply

section Services

variable [DecimalText] {start plane next : ControllerControlPlane} {first batch after : ActionBatch}
  {received commands : List ControllerCommand} {draining : Bool} {command : ControllerCommand}

theorem CommandStep.owns (h : CommandStep plane batch command next after) (hattached : plane.controllerAttached = true)
    (hterminal : plane.workloadTerminal = false) (howns : plane.Owns) : next.Owns := by
  cases h with
  | stop => exact owns_of_map rfl
  | overflow => exact owns_of_map rfl
  | detached => exact owns_of_map rfl
  | dispatched change free going =>
      intro inFlight hcurrent _
      cases hcurrent
      exact ⟨hattached, going, hterminal, rfl⟩
  | _ => exact howns

theorem ServiceStep.owns (h : ServiceStep plane batch draining commands next after)
    (hterminal : plane.workloadTerminal = false) (howns : plane.Owns) : next.Owns := by
  cases h with
  | command attached parsed step => exact step.owns attached hterminal howns
  | error => exact howns
  | tooLong => exact owns_of_map rfl
  | stale => exact howns
  | queued attached free queue step =>
      have hdequeued : (plane.dequeue _).Owns := howns
      exact step.owns attached hterminal hdequeued

/-- A change that is in flight after lines or commands, and is to be answered, is dispatched by them or was in
flight before. -/
theorem Services.owner (h : Services draining start first received plane batch) (hstop : first.stop = false)
    (hterminal : start.workloadTerminal = false) (howns : start.Owns) :
    plane.Owns ∧ ∀ inFlight, plane.inFlightProfileChange = some inFlight → inFlight.replyGeneration ≠ none →
      start.inFlightProfileChange = some inFlight ∨ inFlight.dispatchPendingExecution = true := by
  induction h with
  | refl => exact ⟨howns, fun inFlight hcurrent _ => .inl hcurrent⟩
  | @tail received commands plane next batch after services step ih =>
      have hgoing : plane.workloadTerminal = false := (services.served hstop).terminal.trans hterminal
      refine ⟨step.owns hgoing ih.1, fun inFlight hcurrent hreply => ?_⟩
      have hcommand : ∀ {plane command}, CommandStep plane batch command next after →
          plane.inFlightProfileChange = some inFlight ∨ inFlight.dispatchPendingExecution = true := by
        intro plane command hstep
        have hnever : ∀ {current : Option InFlightProfileChange}, next.inFlightProfileChange = current.map .withoutReply →
            plane.inFlightProfileChange = some inFlight ∨ inFlight.dispatchPendingExecution = true := by
          intro current hmap
          rw [hmap, Option.map_eq_some_iff] at hcurrent
          obtain ⟨previous, -, rfl⟩ := hcurrent
          exact absurd rfl hreply
        cases hstep with
        | stop => exact hnever rfl
        | overflow => exact hnever rfl
        | detached => exact hnever rfl
        | dispatched change free going =>
            cases hcurrent
            exact .inr rfl
        | _ => exact .inl hcurrent
      cases step with
      | command attached parsed step => exact (hcommand step).elim (fun hsame => ih.2 _ hsame hreply) .inr
      | error => exact ih.2 _ hcurrent hreply
      | tooLong =>
          obtain ⟨previous, -, rfl⟩ := Option.map_eq_some_iff.mp hcurrent
          exact absurd rfl hreply
      | stale => exact ih.2 _ hcurrent hreply
      | queued attached free queue step => exact (hcommand step).elim (fun hsame => ih.2 _ hsame hreply) .inr

end Services

section Events

variable [DecimalText] {plane next : ControllerControlPlane} {event : ControlPlaneEvent} {batch : ActionBatch}
  {received : List ControllerCommand}

/-- The change in flight is that of the event before, of the same owner, and the event told nobody of an end. -/
structure Persists (plane next : ControllerControlPlane) (event : ControlPlaneEvent) (batch : ActionBatch)
    (inFlight : InFlightProfileChange) : Prop where
  current : plane.inFlightProfileChange = some inFlight
  event : event ≠ .controllerAttached ∧ event ≠ .controllerDisconnected ∧ event ≠ .controllerWriteFailed
  generation : next.connectionGeneration = plane.connectionGeneration
  replies : ∀ text ∈ batch.texts, isProfileReply text = false

theorem EventStep.owner (h : EventStep plane event received next batch)
    (hfree : event = .controllerAttached → plane.controllerAttached = false) (howns : plane.Owns) :
    next.Owns ∧ ∀ inFlight, next.inFlightProfileChange = some inFlight → inFlight.replyGeneration ≠ none →
      Persists plane next event batch inFlight ∨ inFlight.dispatchPendingExecution = true := by
  have hsilent : ∀ {next : ControllerControlPlane} {current : Option InFlightProfileChange} {batch : ActionBatch},
      next.inFlightProfileChange = current.map .withoutReply →
      next.Owns ∧ ∀ inFlight, next.inFlightProfileChange = some inFlight → inFlight.replyGeneration ≠ none →
        Persists plane next event batch inFlight ∨ inFlight.dispatchPendingExecution = true := by
    intro next current batch hmap
    refine ⟨owns_of_map hmap, fun inFlight hcurrent hreply => ?_⟩
    rw [hmap, Option.map_eq_some_iff] at hcurrent
    obtain ⟨previous, -, rfl⟩ := hcurrent
    exact absurd rfl hreply
  cases h with
  | attached =>
      -- nobody was attached, so the change in flight has lost its owner
      have hnone : ∀ inFlight, plane.inFlightProfileChange = some inFlight → inFlight.replyGeneration = none := by
        intro inFlight hcurrent
        by_contra hreply
        exact absurd ((howns inFlight hcurrent hreply).1.symm.trans (hfree rfl)) (by decide)
      exact ⟨fun inFlight hcurrent hreply => absurd (hnone inFlight hcurrent) hreply,
        fun inFlight hcurrent hreply => absurd (hnone inFlight hcurrent) hreply⟩
  | received bytes buffer listening services =>
      have hterminal := (closed_eq_false_iff.mp listening).2.1
      have howner := services.owner rfl hterminal howns
      have hserved := services.served rfl
      refine ⟨howner.1, fun inFlight hcurrent hreply => ?_⟩
      refine (howner.2 inFlight hcurrent hreply).imp_left fun hsame => ⟨hsame, by simp, hserved.generation, ?_⟩
      obtain ⟨said, htexts, hsaid⟩ := hserved.texts
      intro text htext
      rw [htexts, List.nil_append] at htext
      exact (hsaid text htext).not_profileReply
  | disconnected => exact hsilent rfl
  | writeFailed => exact hsilent rfl
  | invalid change current same applies =>
      exact ⟨(fun _ hcurrent => nomatch hcurrent), fun _ hcurrent => nomatch hcurrent⟩
  | @landed result change inFlight profile next batch current same applies services ended =>
      have hnone : (plane.landed result profile).Owns := fun _ hcurrent => nomatch hcurrent
      by_cases hterminal : plane.workloadTerminal = true
      · rw [(ended (.inl hterminal)).1]
        exact ⟨hnone, fun _ hcurrent => nomatch hcurrent⟩
      · have howner := services.owner rfl (Bool.eq_false_iff.mpr hterminal) hnone
        refine ⟨howner.1, fun inFlight hcurrent hreply => .inr ?_⟩
        exact (howner.2 inFlight hcurrent hreply).resolve_left fun hlanded => nomatch hlanded
  | unknown => exact hsilent rfl
  | stopping => exact hsilent rfl
  | terminal => exact hsilent rfl
  | _ =>
      exact ⟨howns, fun inFlight hcurrent _ => .inl ⟨hcurrent, by simp, rfl,
        fun _ htext => absurd htext List.not_mem_nil⟩⟩

end Events

end ControllerControlPlane

namespace ControlHistory

variable [DecimalText] {workloadPid : Int} {childArguments : List Bytes} {history : List ControlStep}
  {plane : ControllerControlPlane} {step : ControlStep} {received : List ControllerCommand} {batch : ActionBatch}

omit [DecimalText] in
theorem owns_source (h : step.before.Owns) : step.source.Owns := by
  unfold ControlStep.source
  split
  · exact h
  · intro inFlight hcurrent hreply
    obtain ⟨previous, hprevious, rfl⟩ := Option.map_eq_some_iff.mp hcurrent
    exact h previous hprevious hreply

/-- The control plane knows the owner of the change in flight, and the change was dispatched for that owner. -/
theorem owns_issued (h : ControlHistory workloadPid childArguments history plane) :
    plane.Owns ∧ ∀ inFlight, plane.inFlightProfileChange = some inFlight → inFlight.replyGeneration ≠ none →
      Issued history plane.connectionGeneration inFlight.change := by
  refine invariant (P := fun history plane => plane.Owns ∧ ∀ inFlight, plane.inFlightProfileChange = some inFlight →
    inFlight.replyGeneration ≠ none → Issued history plane.connectionGeneration inFlight.change)
    ⟨(fun _ hcurrent => nomatch hcurrent), fun _ hcurrent => nomatch hcurrent⟩
    (fun history step received batch ih htaken => ?_) h
  have howner := htaken.event.owner (fun hattach => by
    unfold ControlStep.source
    split
    · exact htaken.free hattach
    · exact htaken.free hattach) (owns_source ih.1)
  refine ⟨howner.1, fun inFlight hcurrent hreply => ?_⟩
  have hattached := (howner.1 inFlight hcurrent hreply).1
  have hwrite : step.event ≠ .controllerWriteFailed := by
    intro hwrite
    have hevent := htaken.event
    rw [hwrite] at hevent
    rw [hevent.of_writeFailed.1] at hattached
    exact nomatch (show false = true from hattached)
  have houtcome := htaken.outcome hwrite
  have hconnected : .disconnectController ∉ step.actions := by
    rw [htaken.actions, ActionBatch.disconnectController_mem]
    intro hdisconnect
    rw [houtcome.attached, hdisconnect, Bool.not_true, Bool.and_false] at hattached
    exact nomatch hattached
  cases hpending : inFlight.dispatchPendingExecution with
  | true =>
      have hdispatch : batch.dispatch = some inFlight.change := by
        rw [houtcome.pending, pendingDispatch, hcurrent, Option.filter_some, if_pos hpending]
        rfl
      refine ⟨history, step, [], rfl, ?_, hconnected, hattached, rfl, fun _ hnone => absurd hnone List.not_mem_nil⟩
      rw [htaken.actions, ActionBatch.dispatchProfileChange_mem]
      exact hdispatch
  | false =>
      have hpersists := (howner.2 inFlight hcurrent hreply).resolve_right (by simp [hpending])
      have hdispatch : batch.dispatch = none := by
        rw [houtcome.pending, pendingDispatch, hcurrent, Option.filter_some, if_neg (by simp [hpending])]
        rfl
      have hsource : step.source = step.before.settled := if_neg hwrite
      have hbefore := hpersists.current
      rw [hsource] at hbefore
      obtain ⟨previous, hprevious, rfl⟩ := Option.map_eq_some_iff.mp hbefore
      obtain ⟨earlier, issue, between, hsplit, hchange, hissue, hissueAttached, hgeneration, hquiet⟩ :=
        ih.2 previous hprevious hreply
      refine ⟨earlier, issue, between ++ [step], by rw [hsplit, List.append_assoc, List.cons_append], hchange, hissue,
        hissueAttached, ?_, ?_⟩
      · rw [hpersists.generation, hsource]
        exact hgeneration
      · intro other hother
        rcases List.mem_append.mp hother with hmem | hmem
        · exact hquiet other hmem
        · rw [List.mem_singleton.mp hmem]
          exact {
            event := hpersists.event
            connected := hconnected
            dispatches := by rw [htaken.actions, ActionBatch.dispatchedChanges_actions, hdispatch]; rfl
            replies := by
              rw [htaken.actions, ActionBatch.controllerTexts_actions]
              exact hpersists.replies }

end ControlHistory

end NetLagLab
