import NetLagLab.AttachClientDecoding
import NetLagLab.ReplyOwnership
import NetLagLab.StatusText

/-! The Supervisor and the attach client. Whatever the control plane says to a Controller from its attach on are lines
that the client goes on behind, up to the one that detaches it or to the block of the outcome; so the client takes the
whole stream, in any reads, and ends with the status of its end. -/

namespace NetLagLab

open ByteLines ControllerSessionOutcome

/-! ### The texts are calm -/

/-- A text of whole lines that the client goes on behind. -/
def CalmText (text : Bytes) : Prop := ∃ lines, text = encodeLines lines ∧ Calm .none lines .none

section Texts

variable {text : Bytes} {texts : List Bytes}

theorem calmText_of_split (h : text = encodeLines (splitLines text).1 ∧ Calm .none (splitLines text).1 .none) :
    CalmText text := ⟨_, h⟩

theorem calmText_error (error : ControllerParseError) : CalmText (controllerParseErrorResponse error) := by
  apply calmText_of_split
  cases error <;> decide

theorem calmText_result (result : ControlPlaneProfileChangeResult) :
    CalmText (ControllerControlPlane.resultText result) := by
  apply calmText_of_split
  cases result <;> decide

theorem calmText_fixed : ∀ text ∈ [attachedText, helpResponse, stoppingText, sessionIsStoppingText,
    tooManyQueuedCommandsText], CalmText text := by
  have hsplit : ∀ text ∈ [attachedText, helpResponse, stoppingText, sessionIsStoppingText, tooManyQueuedCommandsText],
      text = encodeLines (splitLines text).1 ∧ Calm .none (splitLines text).1 .none := by decide +kernel
  exact fun text htext => calmText_of_split (hsplit text htext)

/-- Inside a status, a line that does not end it is put out. -/
theorem goesOn_inner {line : Bytes} (h : InnerLine line) (hbounded : line.length ≤ maximumStatusSize) :
    GoesOn .status line ∧ (handleSupervisorResponseLine line .status).block = .status := by
  have hhandled : handleSupervisorResponseLine line .status =
      { block := .status, reports := [.output (line ++ [newline])] } := if_neg (h.ne rfl)
  refine ⟨⟨h.single, hbounded, h.ne rfl, ?_, congrArg LineResult.status hhandled⟩, congrArg LineResult.block hhandled⟩
  rw [hhandled]
  exact List.forall_mem_singleton.mpr (by simp [ClientReport.Quiet])

theorem calm_inner {lines : List Bytes} (h : ∀ line ∈ lines, InnerLine line ∧ line.length ≤ maximumStatusSize) :
    Calm .status lines .status := by
  induction lines with
  | nil => rfl
  | cons line lines ih =>
      obtain ⟨hline, hlines⟩ := List.forall_mem_cons.mp h
      obtain ⟨hgoes, hblock⟩ := goesOn_inner hline.1 hline.2
      exact ⟨hgoes, hblock.symm ▸ ih hlines⟩

theorem length_le_of_mem_lines {line : Bytes} {lines : List Bytes} (h : line ∈ lines) :
    line.length ≤ (encodeLines lines).length := by
  obtain ⟨before, behind, rfl⟩ := List.append_of_mem h
  simp only [encodeMarked_append, encodeMarked_cons, List.length_append, List.length_cons]
  omega

theorem calmText_status [DecimalText] (hstream : StreamsNumerals) {workloadPid : Int}
    (hpid : workloadPid.natAbs < 10 ^ 10) (program : Bytes) (arguments : List Bytes) (profile : NetworkProfile)
    (stopping shapingApplied : Bool) :
    CalmText (buildStatus workloadPid (program :: arguments) profile stopping shapingApplied) := by
  obtain ⟨first, rest, complete, -, htext, hlength⟩ :=
    buildStatus_eq hstream hpid program arguments profile stopping shapingApplied
  have hinner := innerLine_statusInner hstream workloadPid (first :: rest) complete profile stopping shapingApplied
  refine ⟨_, htext, ?_⟩
  rw [htext] at hlength
  have hcalm : Calm .status (statusInner workloadPid (first :: rest) complete profile stopping shapingApplied)
      .status := by
    refine calm_inner fun line hline => ⟨hinner line hline, (length_le_of_mem_lines ?_).trans hlength⟩
    simp [hline]
  have hbegin : GoesOn .none statusBegin ∧ (handleSupervisorResponseLine statusBegin .none).block = .status := by
    decide
  have hend : Calm .status [statusEnd] .none := by decide
  rw [List.cons_append]
  refine ⟨hbegin.1, ?_⟩
  rw [hbegin.2]
  exact calm_append_iff.mpr ⟨.status, hcalm, hend⟩

/-- Texts in turn are the lines of each. -/
theorem exists_lines (h : ∀ text ∈ texts, CalmText text) :
    ∃ lines, texts.flatten = encodeLines lines ∧ Calm .none lines .none := by
  induction texts with
  | nil => exact ⟨[], rfl, rfl⟩
  | cons text texts ih =>
      obtain ⟨⟨lines, rfl, hlines⟩, htexts⟩ := List.forall_mem_cons.mp h
      obtain ⟨more, hmore, hcalm⟩ := ih htexts
      refine ⟨lines ++ more, ?_, calm_append_iff.mpr ⟨.none, hlines, hcalm⟩⟩
      rw [List.flatten_cons, hmore]
      exact (encodeMarked_append lines more).symm

end Texts

/-! ### Nothing is said behind the end -/

namespace ControllerControlPlane

section Detached

variable [DecimalText] {start plane next : ControllerControlPlane} {first batch after : ActionBatch}
  {command : ControllerCommand} {received commands : List ControllerCommand} {draining : Bool}
  {event : ControlPlaneEvent}

theorem statusText_ne (plane : ControllerControlPlane) : plane.statusText ≠ detachedText := by
  intro heq
  have hbegins := begins_buildStatus plane.workloadPid plane.childArguments plane.confirmedProfile plane.stopping
    plane.shapingApplied
  change statusHead <+: plane.statusText at hbegins
  rw [heq] at hbegins
  exact absurd hbegins (by decide)

/-- At most one text more; and the one that detaches the Controller detaches it. -/
def SaysOne (batch after : ActionBatch) (next : ControllerControlPlane) : Prop :=
  after.texts = batch.texts ∨
    ∃ text, after.texts = batch.texts ++ [text] ∧ (next.controllerAttached = true → text ≠ detachedText)

theorem CommandStep.saysOne (h : CommandStep plane batch command next after) : SaysOne batch after next := by
  have hfixed : ∀ text ∈ [helpResponse, stoppingText, sessionIsStoppingText], text ≠ detachedText := by decide +kernel
  cases h with
  | stop => exact .inr ⟨stoppingText, rfl, fun _ => hfixed _ (by simp)⟩
  | refused => exact .inr ⟨sessionIsStoppingText, rfl, fun _ => hfixed _ (by simp)⟩
  | overflow => exact .inr ⟨tooManyQueuedCommandsText, rfl, fun hattached => nomatch (show false = true from hattached)⟩
  | help => exact .inr ⟨helpResponse, rfl, fun _ => hfixed _ (by simp)⟩
  | status => exact .inr ⟨plane.statusText, rfl, fun _ => plane.statusText_ne⟩
  | detached => exact .inr ⟨detachedText, rfl, fun hattached => nomatch (show false = true from hattached)⟩
  | _ => exact .inl rfl

omit [DecimalText] in
theorem error_ne_detached (error : ControllerParseError) : controllerParseErrorResponse error ≠ detachedText := by
  cases error <;> decide

theorem ServiceStep.saysOne (h : ServiceStep plane batch draining commands next after) :
    plane.controllerAttached = true ∧ SaysOne batch after next := by
  cases h with
  | command attached parsed step => exact ⟨attached, step.saysOne⟩
  | error error attached => exact ⟨attached, .inr ⟨_, rfl, fun _ => error_ne_detached error⟩⟩
  | tooLong attached => exact ⟨attached, .inr ⟨_, rfl, fun _ => error_ne_detached _⟩⟩
  | stale attached => exact ⟨attached, .inl rfl⟩
  | queued attached free queue step => exact ⟨attached, step.saysOne⟩

/-- The text that detaches the Controller is the last one, and not said while it stays attached. -/
structure EndsOnce (texts : List Bytes) (attached : Bool) : Prop where
  last : detachedText ∉ texts.dropLast
  absent : attached = true → detachedText ∉ texts

omit [DecimalText] in
theorem EndsOnce.append {texts said : List Bytes} {attached : Bool} (h : detachedText ∉ texts)
    (hsaid : EndsOnce said attached) : EndsOnce (texts ++ said) attached where
  last := by
    rw [List.dropLast_append]
    split
    · exact fun hmem => h (List.dropLast_subset _ hmem)
    · exact fun hmem => (List.mem_append.mp hmem).elim h hsaid.last
  absent := fun hattached hmem => (List.mem_append.mp hmem).elim h (hsaid.absent hattached)

omit [DecimalText] in
theorem EndsOnce.one {text : Bytes} {attached : Bool} (h : attached = true → text ≠ detachedText) :
    EndsOnce [text] attached where
  last := List.not_mem_nil
  absent := fun hattached hmem => h hattached (List.mem_singleton.mp hmem).symm

omit [DecimalText] in
theorem EndsOnce.nil {attached : Bool} : EndsOnce [] attached := ⟨List.not_mem_nil, fun _ => List.not_mem_nil⟩

theorem Services.endsOnce (h : Services draining start first received plane batch)
    (hfirst : detachedText ∉ first.texts) : EndsOnce batch.texts plane.controllerAttached := by
  induction h with
  | refl => exact ⟨fun hmem => hfirst (List.dropLast_subset _ hmem), fun _ => hfirst⟩
  | tail services step ih =>
      obtain ⟨hattached, hsays⟩ := step.saysOne
      have hearlier := ih.absent hattached
      rcases hsays with hsame | ⟨text, htexts, hother⟩
      · rw [hsame]
        exact ⟨ih.last, fun _ => hearlier⟩
      · rw [htexts]
        exact .append hearlier (.one hother)

/-- Nothing is served without a Controller. -/
theorem Services.detached (h : Services draining start first received plane batch)
    (hdetached : start.controllerAttached = false) : plane = start ∧ batch = first := by
  induction h with
  | refl => exact ⟨rfl, rfl⟩
  | tail services step ih =>
      have hattached := step.saysOne.1
      rw [ih.1, hdetached] at hattached
      exact nomatch hattached

/-- What an event says to the Controller that was attached before it. -/
theorem EventStep.endsOnce (h : EventStep plane event received next batch) (hevent : event ≠ .controllerAttached) :
    EndsOnce batch.texts next.controllerAttached ∧
      (plane.controllerAttached = false → batch.texts = [] ∧ next.controllerAttached = false) := by
  cases h with
  | attached => exact absurd rfl hevent
  | received bytes buffer listening services =>
      have hattached := (closed_eq_false_iff.mp listening).1
      exact ⟨services.endsOnce List.not_mem_nil, fun hdetached => nomatch hattached.symm.trans hdetached⟩
  | disconnected => exact ⟨.nil, fun _ => ⟨rfl, rfl⟩⟩
  | writeFailed => exact ⟨.nil, fun _ => ⟨rfl, rfl⟩⟩
  | @landed result change inFlight profile next batch current same applies services =>
      have hresult : resultText result ≠ detachedText := by cases result <;> decide
      constructor
      · apply services.endsOnce
        dsimp only
        split
        · exact fun hmem => hresult (List.mem_singleton.mp hmem).symm
        · exact List.not_mem_nil
      · intro hdetached
        have hreplies : plane.replies inFlight = false := by simp [replies, hdetached]
        obtain ⟨rfl, rfl⟩ := services.detached hdetached
        rw [hreplies]
        exact ⟨rfl, hdetached⟩
  | _ => exact ⟨.nil, fun hdetached => ⟨rfl, hdetached⟩⟩

end Detached

end ControllerControlPlane

/-! ### The stream of a Controller -/

/-- How the texts for a Controller become its stream: they end with the one that detaches it, or the Controller is still
attached and the block of the outcome comes behind them. -/
inductive Closes (texts : List Bytes) (plane : ControllerControlPlane) : StreamEnd → Bytes → Prop
  | detached (last : texts.getLast? = some detachedText) : Closes texts plane .detached texts.flatten
  | delivered {outcome : SessionOutcome} {block : Bytes} (attached : plane.controllerAttached = true)
      (serialized : serializeControllerSessionOutcome outcome = .ok block) :
      Closes texts plane (.delivered outcome) (texts.flatten ++ block)

/-- A stream that the Supervisor writes to one Controller: what the control plane says from its attach on, before any
other one, and the end. -/
def SupervisorStream [DecimalText] (workloadPid : Int) (childArguments : List Bytes) (ending : StreamEnd)
    (stream : Bytes) : Prop :=
  ∃ (before : List ControlStep) (attach : ControlStep) (during : List ControlStep) (plane : ControllerControlPlane),
    ControlHistory workloadPid childArguments (before ++ attach :: during) plane ∧
    attach.event = .controllerAttached ∧ (∀ step ∈ during, step.event ≠ .controllerAttached) ∧
    Closes (controllerTexts (allActions (attach :: during))) plane ending stream

section Streams

variable [DecimalText] {workloadPid : Int} {program : Bytes} {arguments : List Bytes} {plane : ControllerControlPlane}
  {before during history : List ControlStep} {attach step : ControlStep} {ending : StreamEnd} {stream : Bytes}

open ControllerControlPlane

omit [DecimalText] in
theorem controllerTexts_allActions (history more : List ControlStep) :
    controllerTexts (allActions (history ++ more)) =
      controllerTexts (allActions history) ++ controllerTexts (allActions more) := by
  rw [allActions, List.flatMap_append, controllerTexts, List.filterMap_append]
  rfl

theorem controllerTexts_step {received : List ControllerCommand} {batch : ActionBatch}
    (h : ControlHistory.Taken step received batch) : controllerTexts (allActions [step]) = batch.texts := by
  rw [allActions, List.flatMap_singleton, h.actions, ActionBatch.controllerTexts_actions]

/-- Every text but the one that detaches the Controller is calm. -/
theorem calmText_of_taken (hstream : StreamsNumerals) (hpid : workloadPid.natAbs < 10 ^ 10)
    {received : List ControllerCommand} {batch : ActionBatch} (h : ControlHistory.Taken step received batch)
    (hworkload : step.after.workloadPid = workloadPid ∧ step.after.childArguments = program :: arguments)
    {text : Bytes} (htext : text ∈ batch.texts) (hne : text ≠ detachedText) : CalmText text := by
  rcases h.event.said htext with rfl | ⟨result, rfl⟩ | hfixed | ⟨error, rfl⟩ | ⟨stopping, rfl⟩
  · exact calmText_fixed _ (by simp)
  · exact calmText_result result
  · refine calmText_fixed text ?_
    rw [List.mem_cons, List.mem_cons] at hfixed
    rcases hfixed with hhelp | hdetached | hlater
    · simp [hhelp]
    · exact absurd hdetached hne
    · exact List.mem_cons_of_mem _ (List.mem_cons_of_mem _ hlater)
  · exact calmText_error error
  · rw [hworkload.1, hworkload.2]
    exact calmText_status hstream hpid program arguments _ _ _

/-- What has been said to a Controller since its attach. -/
structure SpokenTo (texts : List Bytes) (plane : ControllerControlPlane) : Prop where
  calm : ∀ text ∈ texts, text ≠ detachedText → CalmText text
  once : EndsOnce texts plane.controllerAttached

/-- The texts from an attach on, event by event. -/
theorem spokenTo (hstream : StreamsNumerals) (hpid : workloadPid.natAbs < 10 ^ 10)
    (h : ControlHistory workloadPid (program :: arguments) history plane) :
    ∀ before attach during, history = before ++ attach :: during → attach.event = .controllerAttached →
      (∀ step ∈ during, step.event ≠ .controllerAttached) →
      SpokenTo (controllerTexts (allActions (attach :: during))) plane := by
  induction h with
  | start => exact fun before attach during hsplit => absurd hsplit (by simp)
  | @step history plane earlier event free ih =>
      intro before attach during hsplit hattach hduring
      obtain ⟨received, batch, htaken⟩ := ControlHistory.taken_handle earlier.inv event free
      have hworkload := (earlier.step event free).eventHistory.workload_eq
      have hcalm : ∀ text ∈ batch.texts, text ≠ detachedText → CalmText text := fun text htext hne =>
        calmText_of_taken hstream hpid htaken hworkload htext hne
      rcases List.eq_nil_or_concat during with rfl | ⟨initial, last, rfl⟩
      · obtain ⟨-, hlast⟩ := List.append_inj' hsplit rfl
        obtain rfl := (List.cons.inj hlast).1
        rw [controllerTexts_step htaken]
        refine ⟨hcalm, ?_⟩
        have htexts : batch.texts = [attachedText] := by
          obtain rfl : event = .controllerAttached := hattach
          have hevent := htaken.event
          cases hevent
          rfl
        rw [htexts]
        exact .one fun _ => by decide
      · rw [List.concat_eq_append] at hsplit hduring ⊢
        rw [← List.cons_append, ← List.append_assoc] at hsplit
        obtain ⟨hearlier, hlast⟩ := List.append_inj' hsplit rfl
        obtain rfl := (List.cons.inj hlast).1
        obtain ⟨hevent, hduring⟩ := List.forall_mem_append.mp hduring
        have hspoken := ih before attach initial hearlier hattach hevent
        obtain ⟨honce, hsilent⟩ := htaken.event.endsOnce (hduring _ List.mem_cons_self)
        have hattached : (ControlStep.source ⟨plane, event, (plane.handle event).2, (plane.handle event).1⟩).controllerAttached =
            plane.controllerAttached := by
          unfold ControlStep.source
          split <;> rfl
        rw [hattached] at hsilent
        rw [← List.cons_append, controllerTexts_allActions, controllerTexts_step htaken]
        refine ⟨fun text htext hne => ?_, ?_⟩
        · exact (List.mem_append.mp htext).elim (fun hmem => hspoken.calm text hmem hne) fun hmem => hcalm text hmem hne
        · cases hplane : plane.controllerAttached with
          | true => exact .append (hspoken.once.absent hplane) honce
          | false =>
              obtain ⟨hnothing, hdetached⟩ := hsilent hplane
              rw [hnothing, List.append_nil]
              exact ⟨hspoken.once.last, fun hstill => nomatch hdetached.symm.trans hstill⟩

/-- The lines of a stream, and its end. -/
theorem exists_stream_lines (hstream : StreamsNumerals) (hpid : workloadPid.natAbs < 10 ^ 10)
    (h : SupervisorStream workloadPid (program :: arguments) ending stream) :
    ending.Written ∧ ∃ lines, Calm .none lines .none ∧ stream = encodeLines (lines ++ ending.lines) := by
  obtain ⟨before, attach, during, plane, hhistory, hattach, hduring, hcloses⟩ := h
  have hspoken := spokenTo hstream hpid hhistory before attach during rfl hattach hduring
  cases hcloses with
  | detached last =>
      obtain ⟨texts, htexts⟩ := List.getLast?_eq_some_iff.mp last
      have hcalm : ∀ text ∈ texts, CalmText text := by
        intro text htext
        refine hspoken.calm text (htexts ▸ List.mem_append_left _ htext) ?_
        rintro rfl
        have hlast := hspoken.once.last
        rw [htexts, List.dropLast_concat] at hlast
        exact hlast htext
      obtain ⟨lines, hlines, hcalm⟩ := exists_lines hcalm
      refine ⟨trivial, lines, hcalm, ?_⟩
      have hend : [detachedText].flatten = encodeLines StreamEnd.detached.lines := rfl
      rw [htexts, List.flatten_append, hlines, hend]
      exact (encodeMarked_append lines _).symm
  | @delivered outcome block attached serialized =>
      obtain ⟨hdeliverable, rfl⟩ := serializeControllerSessionOutcome_eq_ok_iff.mp serialized
      have hcalm : ∀ text ∈ controllerTexts (allActions (attach :: during)), CalmText text := by
        intro text htext
        refine hspoken.calm text htext ?_
        rintro rfl
        exact hspoken.once.absent attached htext
      obtain ⟨lines, hlines, hcalm⟩ := exists_lines hcalm
      refine ⟨hdeliverable, lines, hcalm, ?_⟩
      rw [hlines]
      exact (encodeMarked_append lines _).symm

/-- The attach client takes every stream of the Supervisor, in any reads, without a complaint about the responses; it
ends with status 0 at `DETACHED` and at an outcome whose infrastructure succeeded, and with 1 at one that failed. -/
theorem attachClient_decodes (hstream : StreamsNumerals) (hpid : -2 ^ 31 ≤ workloadPid ∧ workloadPid < 2 ^ 31)
    (h : SupervisorStream workloadPid (program :: arguments) ending stream) {reads : List Bytes}
    (hreads : ∀ read ∈ reads, read ≠ []) (hcut : reads.flatten = stream) :
    (AttachClient.readResponses {} (reads.map .data)).unread = [] ∧
    ClientReport.error invalidResponseText ∉ (AttachClient.readResponses {} (reads.map .data)).reports ∧
    ClientReport.error responseTooLongText ∉ (AttachClient.readResponses {} (reads.map .data)).reports ∧
    ((AttachClient.readResponses {} (reads.map .data)).status = some 0 ↔
      ending = .detached ∨ ∃ outcome, ending = .delivered outcome ∧ outcome.infrastructureSucceeded = true) ∧
    ((AttachClient.readResponses {} (reads.map .data)).status = some 1 ↔
      ∃ outcome, ending = .delivered outcome ∧ outcome.infrastructureSucceeded = false) := by
  obtain ⟨hwritten, lines, hcalm, rfl⟩ :=
    exists_stream_lines hstream (show workloadPid.natAbs < 10 ^ 10 by omega) h
  obtain ⟨hstatus, hunread, hquiet⟩ := readResponses_stream hwritten hcalm hreads hcut
  refine ⟨hunread, fun hmem => hquiet _ hmem (by simp), fun hmem => hquiet _ hmem (by simp), ?_⟩
  rw [hstatus]
  cases ending with
  | detached => simp [StreamEnd.status]
  | delivered outcome => cases hsucceeded : outcome.infrastructureSucceeded <;> simp [StreamEnd.status, hsucceeded]

end Streams

section Sample

attribute [local instance] bitPatternText

/-- A Controller asks for the status of a Workload whose argument looks like the end of one. -/
def askingSteps : List ControlStep :=
  ControllerControlPlane.steps { workloadPid := 41, childArguments := forgingArguments }
    [.controllerAttached, .controllerBytesReceived (ascii "status\nhelp\nset nothing\n")]

def exitedOutcome : SessionOutcome := ⟨some ⟨.exited, 3⟩, [.cleanup]⟩

/-- What it is told, up to the outcome. -/
def askingStream : Bytes := (controllerTexts (allActions askingSteps)).flatten ++ encodeLines (outcomeLines exitedOutcome)

theorem attachClient_decodes_asking :
    (AttachClient.readResponses {} ([askingStream.take 30, askingStream.drop 30].map .data)).status = some 1 ∧
    (AttachClient.readResponses {} ([askingStream.take 30, askingStream.drop 30].map .data)).unread = [] :=
  have hhistory := ControllerControlPlane.controlHistory_steps (.start : ControlHistory 41 forgingArguments [] _)
    [.controllerAttached, .controllerBytesReceived (ascii "status\nhelp\nset nothing\n")] (by decide)
  have hserialized : serializeControllerSessionOutcome exitedOutcome = .ok (encodeLines (outcomeLines exitedOutcome)) := by
    decide
  have hstream : SupervisorStream 41 forgingArguments (.delivered exitedOutcome) askingStream :=
    ⟨[], _, _, _, hhistory, rfl, by decide, .delivered (by decide) hserialized⟩
  have hdecoded := attachClient_decodes streamsNumerals_bitPattern (by decide) hstream
    (show ∀ read ∈ [askingStream.take 30, askingStream.drop 30], read ≠ [] by decide +kernel) (by simp)
  ⟨hdecoded.2.2.2.2.mpr ⟨exitedOutcome, rfl, rfl⟩, hdecoded.1⟩

end Sample

end NetLagLab
