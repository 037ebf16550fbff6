import NetLagLab.HelperSupervision

/-! How a Session of the helper ends. On every path the frames bring the conversation of the Supervisor to its end, and
the last of them, like the exit status, tells whether the first pass of the rollback or the cleanup was clean. -/

namespace NetLagLab.HelperSession

open ByteLines CallPrograms CallPrograms.Program NetworkEnvironment

/-- The states in which no change can be begun. -/
def Idle (state : SupervisorState) : Prop := state ≠ .active ∧ state ≠ .failed

variable [DecimalText] {link after : Link} {state : SupervisorState} {first : Option Bool}

/-! ### Away from the supervision -/

theorem Stands.moves (h : Stands link state first) (hidle : Idle state) (hmoves : SupervisorMoves link after) :
    Stands after state first := by
  obtain ⟨hsent, hpasses, -⟩ := seen_of_moves hmoves
  have hsettled : after.settled = link.settled := by
    refine settled_moves hmoves ?_ ?_ ?_ <;> rw [h.settled]
    · exact hidle.2
    · exact hidle.1
  exact ⟨hsettled.trans h.settled, hsent ▸ h.unsent, hpasses ▸ h.first⟩

omit [DecimalText] in
theorem Stands.heard (h : Stands link state first) (hidle : Idle state) : link.supervisor.state ≠ .failed := by
  refine supervisor_going ?_
  rw [h.settled]
  exact hidle.2

/-- Reports, and a retry of what a first pass has left. -/
def AfterPass : HelperCall → Prop
  | .report _ => True
  | .retry _ => True
  | _ => False

theorem Stands.afterPass (h : Stands link state first) (hidle : Idle state) (hfirst : first ≠ none)
    {request : HelperCall} (hrequest : AfterPass request) {answer : HelperAnswer request}
    (henvironment : linkEnvironment link request answer after) :
    Heard ⟨link, request, answer, after⟩ ∧ Stands after state first := by
  obtain ⟨middle, hmoves, hanswer⟩ := henvironment
  have hmiddle := h.moves hidle hmoves
  cases request with
  | report text =>
      obtain rfl := hanswer
      exact ⟨hmiddle.heard hidle, hmiddle⟩
  | retry residual =>
      obtain rfl := hanswer
      have hafter : Stands (middle.passed (CleanupResult.failures answer) (CleanupResult.residual answer)) state first := by
        refine ⟨hmiddle.settled, hmiddle.unsent, ?_⟩
        have hpasses := hmiddle.first
        cases hlist : middle.passes with
        | nil => exact absurd (hpasses.symm.trans (congrArg List.head? hlist)) hfirst
        | cons pass passes =>
            rw [hlist] at hpasses
            rw [Link.passed, hlist]
            exact hpasses
      exact ⟨hafter.heard hidle, hafter⟩
  | _ => exact hrequest.elim

/-- What is only done after a pass leaves everything where it stands. -/
theorem Stands.confined {α : Type} {program : HelperProgram α} {post : α → Prop} (h : Stands link state first)
    (hidle : Idle state) (hfirst : first ≠ none) (hprogram : Confined AfterPass post program) :
    Safe linkEnvironment Heard (fun result after => post result ∧ Stands after state first) program link :=
  hprogram.safe (fun _ _ _ _ hrequest hbefore => hbefore.afterPass hidle hfirst hrequest) h

omit [DecimalText] in
theorem confined_reportFailures (context : Bytes) (failures : List Failure) :
    Confined AfterPass (fun _ => True) (reportFailures context failures) := by
  induction failures with
  | nil => trivial
  | cons failure failures ih => exact ⟨trivial, fun _ => ih⟩

omit [DecimalText] in
theorem confined_retryResidual (retryContext residualContext : Bytes) (residual : OwnerState) :
    Confined AfterPass (fun _ => True) (retryResidual retryContext residualContext residual) := by
  refine ⟨trivial, fun retry => ?_⟩
  change Confined _ _ (reportFailures retryContext (CleanupResult.failures retry) >>= fun _ => _)
  refine confined_bind ((confined_reportFailures retryContext _).imp fun _ _ => ?_)
  split
  · exact ⟨trivial, fun _ => trivial⟩
  · trivial

omit [DecimalText] in
/-- After a pass everything that is left is reported and retried, which changes nothing about how the pass ended. -/
theorem confined_afterPass (context retryContext residualContext : Bytes) (failures : List Failure)
    (residual : Option OwnerState) {succeeded : Bool} (hsucceeded : residual = none → succeeded = failures.isEmpty) :
    Confined AfterPass (fun result => result = cleanPass failures residual) (do
      reportFailures context failures
      match residual with
      | none => return succeeded
      | some residual =>
          retryResidual retryContext residualContext residual
          return false) := by
  refine confined_bind ((confined_reportFailures context failures).imp fun _ _ => ?_)
  cases residual with
  | none => exact (hsucceeded rfl).trans (Bool.and_true _).symm
  | some residual =>
      refine confined_bind ((confined_retryResidual retryContext residualContext residual).imp fun _ _ => ?_)
      exact (Bool.and_false _).symm

omit [DecimalText] in
theorem confined_cleanupFailedPreparation (failure : PreparationFailure) :
    Confined AfterPass (fun succeeded => succeeded = cleanPass failure.rollbackFailures failure.residual)
      (cleanupFailedPreparation failure) :=
  ⟨trivial, fun _ => confined_afterPass _ _ _ failure.rollbackFailures failure.residual fun _ => rfl⟩

omit [DecimalText] in
theorem Stands.passed (h : Stands link state none) (failures : List Failure) (residual : Option OwnerState) :
    Stands (link.passed failures residual) state (some (cleanPass failures residual)) := by
  refine ⟨h.settled, h.unsent, ?_⟩
  rw [Link.passed, List.head?_eq_none_iff.mp h.first]
  rfl

/-- The first pass of a cleanup, with everything that follows it. -/
theorem safe_cleanupPrepared (h : Stands link state none) (hidle : Idle state) (environment : OwnerState) :
    Safe linkEnvironment Heard (fun succeeded after => Stands after state (some succeeded))
      (cleanupPrepared environment) link := by
  rintro (result : CleanupResult) after ⟨middle, hmoves, rfl⟩
  have hmiddle := h.moves hidle hmoves
  have hpassed := hmiddle.passed result.failures result.residual
  refine ⟨hpassed.heard hidle, ?_⟩
  have hsucceeded : result.residual = none →
      (result.failures.isEmpty && result.residual.isNone) = result.failures.isEmpty := by
    intro hnone
    rw [hnone]
    exact Bool.and_true _
  have hafter := confined_afterPass (ascii "cleanup failed") (ascii "cleanup retry failed")
    (ascii "cleanup left residual resources") result.failures result.residual hsucceeded
  refine (hpassed.confined hidle (Option.some_ne_none _) hafter).imp ?_
  rintro _ later ⟨rfl, hlater⟩
  exact hlater

/-! ### Frames of the beginning and the end -/

omit [DecimalText] in
/-- The effect of a frame from where the conversation stands. -/
theorem Stands.carrying {line : Bytes} {next : SupervisorState} {event : HelperConversationEvent}
    (h : Stands link state first) (hidle : Idle state) (hline : newline ∉ line)
    (hshort : line.length ≤ maximumHelperMessageSize)
    (hnext : ({ state := state } : SupervisorHelperConversation).receiveLine line = ({ state := next }, event))
    (hgoing : next ≠ .failed) : (link.carrying (line ++ [newline])).settled = { state := next } := by
  have hreceived : link.settled.receiveLine line = ({ state := next }, event) := by
    rw [h.settled]
    exact hnext
  refine settled_carrying ?_ ?_ hline hshort hreceived hgoing <;> rw [h.settled]
  exact hidle.2

omit [DecimalText] in
theorem decimalTextInt_spec {value : Int} (hnonneg : 0 ≤ value) (hbound : value < 10 ^ 10) :
    newline ∉ decimalTextInt value ∧ (decimalTextInt value).length ≤ 10 := by
  have htext : decimalTextInt value = decimalText value.toNat := if_neg (by omega)
  rw [htext]
  exact ⟨newline_notMem_decimalText _, length_decimalText (by decide) (by omega)⟩

omit [DecimalText] in
/-- The frame that tells how the launch went. -/
theorem startFrame {event : HelperConversationEvent} {start : Bytes} {value : Int} {next : SupervisorState}
    (hmessage : helperConversationEventMessage event = start ++ decimalTextInt value ++ [newline])
    (h : Stands link .waitingForActivation first)
    (hstart : start = ascii "ACTIVE " ∨ start = ascii "START_FAILED ") (hnonneg : 0 ≤ value) (hbound : value < 10 ^ 10)
    (hnext : ∃ heard, ({ state := .waitingForActivation } : SupervisorHelperConversation).receiveLine
      (start ++ decimalTextInt value) = ({ state := next }, heard)) (hgoing : next ≠ .failed) :
    (link.carrying (helperConversationEventMessage event)).settled = { state := next } ∧
      cleanupOkMessage ∉ (link.carrying (helperConversationEventMessage event)).sent := by
  obtain ⟨hnewline, hlength⟩ := decimalTextInt_spec hnonneg hbound
  obtain ⟨heard, hheard⟩ := hnext
  have hshort : start.length ≤ 13 ∧ newline ∉ start := by
    rcases hstart with rfl | rfl <;> decide
  rw [hmessage]
  refine ⟨h.carrying ⟨by decide, by decide⟩ ?_ ?_ hheard hgoing, unsent_carrying h.unsent ?_⟩
  · rw [List.mem_append, not_or]
    exact ⟨hshort.2, hnewline⟩
  · rw [List.length_append, maximumHelperMessageSize]
    omega
  · intro hsame
    have hfirst := congrArg List.head? hsame
    rcases hstart with rfl | rfl <;> cases hfirst

theorem safe_activationFailed (h : Stands link .waitingForActivation first) {result : Int} (hleast : 125 ≤ result)
    (hmost : result ≤ 127) :
    Safe linkEnvironment Heard (fun sent after => sent = true ∧ Stands after .waitingForCleanup first)
      (sendEvent (.activationFailed result)) link := by
  rintro _ after ⟨middle, hmoves, rfl, rfl⟩
  have hmiddle := h.moves ⟨by decide, by decide⟩ hmoves
  have hother : parseValueAfter (ascii "START_FAILED " ++ decimalTextInt result) (ascii "ACTIVE ") 1 1000000000 = none :=
    rfl
  have hline : ∃ heard, ({ state := .waitingForActivation } : SupervisorHelperConversation).receiveLine
      (ascii "START_FAILED " ++ decimalTextInt result) = ({ state := .waitingForCleanup }, heard) := by
    rw [SupervisorHelperConversation.receiveLine_waitingForActivation rfl, hother]
    dsimp only
    rw [SupervisorHelperConversation.parseValueAfter_append _ (by omega) hleast hmost (by omega)]
    exact ⟨_, rfl⟩
  have hmessage : helperConversationEventMessage (.activationFailed result) =
      ascii "START_FAILED " ++ decimalTextInt result ++ [newline] := rfl
  obtain ⟨hsettled, hunsent⟩ := startFrame hmessage hmiddle (Or.inr rfl) (by omega) (by omega) hline (by decide)
  have hafter : Stands (middle.carrying (helperConversationEventMessage (.activationFailed result))) .waitingForCleanup
      first := ⟨hsettled, hunsent, hmiddle.first⟩
  exact ⟨hafter.heard ⟨by decide, by decide⟩, rfl, hafter⟩

/-- What is seen at the end. -/
structure Ended (link : Link) (clean : Bool) : Prop where
  settled : link.settled = { state := .finished }
  sent : cleanupOkMessage ∈ link.sent ↔ clean = true
  first : link.passes.head? = some clean

theorem safe_reportCleanup {clean : Bool} (h : Stands link .waitingForCleanup (some clean)) :
    Safe linkEnvironment Heard (fun reported after => reported = true ∧ Ended after clean) (reportCleanup clean) link := by
  rintro _ after ⟨middle, hmoves, rfl, rfl⟩
  have hmiddle := h.moves ⟨by decide, by decide⟩ hmoves
  have hline : ∃ event line, (if clean then .cleanupSucceeded else .cleanupFailed : HelperConversationEvent) = event ∧
      event.EndsCleanup ∧ helperConversationEventLine event = some line ∧
      helperConversationEventMessage event = line ++ [newline] ∧ newline ∉ line ∧
      line.length ≤ maximumHelperMessageSize ∧ (cleanupOkMessage = line ++ [newline] ↔ clean = true) := by
    cases clean with
    | false => exact ⟨_, _, rfl, Or.inr rfl, rfl, rfl, by decide⟩
    | true => exact ⟨_, _, rfl, Or.inl rfl, rfl, rfl, by decide⟩
  obtain ⟨event, line, hevent, hends, hline, hmessage, hnewline, hshort, hok⟩ := hline
  rw [hevent, hmessage]
  have hfinished : (middle.carrying (line ++ [newline])).settled = { state := .finished } :=
    hmiddle.carrying ⟨by decide, by decide⟩ hnewline hshort
      (SupervisorHelperConversation.receiveLine_cleanup rfl hends hline) (by decide)
  have hended : Ended (middle.carrying (line ++ [newline])) clean := by
    refine ⟨hfinished, ?_, hmiddle.first⟩
    rw [Link.carrying, List.mem_append, or_iff_right hmiddle.unsent, List.mem_singleton]
    exact hok
  refine ⟨supervisor_going ?_, rfl, hended⟩
  exact hfinished ▸ (fun hfailed => nomatch hfailed)

/-! ### The beginning -/

/-- Before the launch the Supervisor can send nothing but stops. -/
structure Starting (link : Link) : Prop where
  stands : Stands link .waitingForActivation none
  stream : ∃ stops : List HelperRuntimeCommand, (∀ command ∈ stops, command.isStop = true) ∧
    link.toHelper = encodeLines (stops.map (·.line)) ∧ (link.stopSent = false → stops = [])
  running : link.running = 0

theorem starting_ready : Starting Link.ready where
  stands := ⟨by decide, List.not_mem_nil, rfl⟩
  stream := ⟨[], (fun _ hmem => nomatch hmem), rfl, fun _ => rfl⟩
  running := rfl

theorem Starting.move (h : Starting link) (hmove : SupervisorMove link after) : Starting after := by
  have hidle : Idle .waitingForActivation := ⟨by decide, by decide⟩
  have hstands := h.stands.moves hidle (.single hmove)
  have hrunning := (seen_of_moves (.single hmove)).2.2.trans h.running
  obtain ⟨stops, hstops, hstream, hquiet⟩ := h.stream
  cases hmove with
  | hears way => exact ⟨hstands, ⟨stops, hstops, hstream, hquiet⟩, hrunning⟩
  | @stops command stop =>
      refine ⟨hstands, ⟨stops ++ [command], ?_, ?_, fun hnone => nomatch hnone⟩, hrunning⟩
      · exact List.forall_mem_append.mpr ⟨hstops, List.forall_mem_singleton.mpr stop⟩
      · exact encodeLines_command hstream (canonical_of_isStop stop)
  | changes quiet begins =>
      have hsettled := h.stands.settled
      rcases settled_changes (by rw [hsettled]) (by rw [hsettled]; exact hidle.2) begins [] with
        ⟨hactive, -⟩ | ⟨hcleanup | hfinished, -⟩
      · exact nomatch (congrArg SupervisorHelperConversation.state hsettled).symm.trans hactive
      · exact nomatch (congrArg SupervisorHelperConversation.state hsettled).symm.trans hcleanup
      · exact nomatch (congrArg SupervisorHelperConversation.state hsettled).symm.trans hfinished

theorem Starting.moves (h : Starting link) (hmoves : SupervisorMoves link after) : Starting after := by
  induction hmoves with
  | refl => exact h
  | tail _ hmove ih => exact ih.move hmove

/-- The frame that a launch which succeeded is told by. -/
theorem safe_activated (h : Starting link) {pid : Int} (hleast : 1 ≤ pid) (hmost : pid ≤ 2 ^ 22) :
    Safe linkEnvironment Heard (fun sent after => sent = true ∧ Supervising after {} [] 0)
      (sendEvent (.activated pid)) link := by
  rintro _ after ⟨middle, hmoves, rfl, rfl⟩
  have hmiddle := h.moves hmoves
  have hmessage : helperConversationEventMessage (.activated pid) =
      ascii "ACTIVE " ++ decimalTextInt pid ++ [newline] := rfl
  have hline : ∃ heard, ({ state := .waitingForActivation } : SupervisorHelperConversation).receiveLine
      (ascii "ACTIVE " ++ decimalTextInt pid) = ({ state := .active }, heard) := by
    rw [SupervisorHelperConversation.receiveLine_waitingForActivation rfl,
      SupervisorHelperConversation.parseValueAfter_append _ (by omega) hleast (by omega) (by omega)]
    exact ⟨_, rfl⟩
  obtain ⟨hsettled, hunsent⟩ := startFrame hmessage hmiddle.stands (Or.inl rfl) (by omega) (by omega) hline (by decide)
  obtain ⟨stops, hstops, hstream, hquiet⟩ := hmiddle.stream
  have hagrees : Agrees (middle.carrying (helperConversationEventMessage (.activated pid))) {} [] := by
    refine ⟨rfl, rfl, hsettled ▸ rfl, hsettled ▸ Or.inl rfl, fun _ => rfl, stops, ?_, hstream, ?_⟩
    · exact fun command hcommand => canonical_of_isStop (hstops command hcommand)
    · exact .nothing (hsettled ▸ rfl) rfl hstops fun hnone => ⟨hquiet hnone, rfl⟩
  have hafter : Supervising (middle.carrying (helperConversationEventMessage (.activated pid))) {} [] 0 :=
    ⟨hagrees, hunsent, hmiddle.stands.first, hmiddle.running⟩
  exact ⟨hafter.heard, rfl, hafter⟩

/-! ### The whole Session -/

/-- The Session goes on after so many turns, or it has ended. -/
def Outcome (turns : Nat) (result : Option Int) (after : Link) : Prop :=
  (result = none ∧ ∃ conversation, Supervising after conversation [] turns) ∨
    ∃ clean, result = some (if clean then 0 else 125) ∧ Ended after clean

/-- The cleanup and its report. -/
theorem safe_cleanup (h : Stands link .waitingForCleanup none) (environment : OwnerState) {β : Type}
    {next : Bool → Bool → HelperProgram β} {post : β → Link → Prop}
    (hnext : ∀ clean after, Ended after clean → Safe linkEnvironment Heard post (next clean true) after) :
    Safe linkEnvironment Heard post
      (cleanupPrepared environment >>= fun clean => reportCleanup clean >>= fun reported => next clean reported) link := by
  refine safe_bind ((safe_cleanupPrepared h ⟨by decide, by decide⟩ environment).imp fun clean middle hmiddle => ?_)
  refine safe_bind ((safe_reportCleanup hmiddle).imp ?_)
  rintro _ after ⟨rfl, hended⟩
  exact hnext clean after hended

omit [DecimalText] in
theorem outcome_status (clean : Bool) : (some (if true && true && clean then 0 else 125) : Option Int) =
    some (if clean then 0 else 125) := by
  cases clean <;> rfl

/-- The preparation failed. -/
theorem safe_preparationFailed (turns : Nat) (failure : PreparationFailure)
    (h : Stands link .waitingForActivation (some (cleanPass failure.rollbackFailures failure.residual))) :
    Safe linkEnvironment Heard (Outcome turns) (do
      let cleanupSucceeded ← cleanupFailedPreparation failure
      let failureReported ← sendEvent (.activationFailed 125)
      let cleanupReported ← reportCleanup cleanupSucceeded
      return some (if failureReported && cleanupReported && cleanupSucceeded then 0 else 125)) link := by
  have hcleanup := h.confined ⟨by decide, by decide⟩ (Option.some_ne_none _) (confined_cleanupFailedPreparation failure)
  refine safe_bind (hcleanup.imp ?_)
  rintro clean middle ⟨rfl, hmiddle⟩
  refine safe_bind ((safe_activationFailed hmiddle (by decide) (by decide)).imp ?_)
  rintro _ later ⟨rfl, hlater⟩
  refine safe_bind ((safe_reportCleanup hlater).imp ?_)
  rintro _ after ⟨rfl, hended⟩
  exact Or.inr ⟨_, outcome_status _, hended⟩

/-- The launch failed. -/
theorem safe_launchFailed (turns : Nat) (environment : OwnerState) {result : Int} (hleast : 125 ≤ result)
    (hmost : result ≤ 127) (h : Stands link .waitingForActivation none) :
    Safe linkEnvironment Heard (Outcome turns) (do
      let failureReported ← sendEvent (.activationFailed result)
      let cleanupSucceeded ← cleanupPrepared environment
      let cleanupReported ← reportCleanup cleanupSucceeded
      return some (if failureReported && cleanupReported && cleanupSucceeded then 0 else 125)) link := by
  refine safe_bind ((safe_activationFailed h hleast hmost).imp ?_)
  rintro _ middle ⟨rfl, hmiddle⟩
  exact safe_cleanup hmiddle environment fun clean after hended => Or.inr ⟨clean, outcome_status clean, hended⟩

/-- The Workload was launched. -/
theorem safe_launched (turns : Nat) (environment : OwnerState) (h : Supervising link {} [] 0) :
    Safe linkEnvironment Heard (Outcome turns) (do
      match ← superviseWorkload turns with
      | none => return none
      | some status => finishSession environment status) link := by
  refine safe_bind ((safe_superviseWorkload turns h).imp ?_)
  rintro _ middle (⟨rfl, hmiddle⟩ | ⟨rfl, hmiddle⟩)
  · exact Or.inl ⟨rfl, hmiddle⟩
  · refine safe_cleanup hmiddle environment fun clean after hended => Or.inr ⟨clean, ?_, hended⟩
    cases clean <;> rfl

theorem safe_runHelperSession (turns : Nat) (context : WorkloadContext) (identity : WorkloadIdentity)
    (standardDescriptors : List Int) :
    Safe linkEnvironment Heard (Outcome turns) (runHelperSession turns context identity standardDescriptors)
      Link.ready := by
  have hidle : Idle .waitingForActivation := ⟨by decide, by decide⟩
  rintro (environment | failure) after ⟨middle, hmoves, rfl⟩
  · have hprepared := starting_ready.moves hmoves
    refine ⟨hprepared.stands.heard hidle, ?_⟩
    rintro launch after ⟨between, hmoves, hpossible, rfl⟩
    have hlaunched := hprepared.moves hmoves
    refine ⟨hlaunched.stands.heard hidle, ?_⟩
    obtain ⟨process, failureExitCode, failure⟩ := launch
    cases process with
    | none =>
        change Safe _ _ _ (if failure ≠ [] then _ else _) _
        split
        · rintro _ _ ⟨last, hmoves, rfl⟩
          have hlast := hlaunched.stands.moves hidle hmoves
          exact ⟨hlast.heard hidle, safe_launchFailed turns environment hpossible.1 hpossible.2 hlast⟩
        · exact safe_launchFailed turns environment hpossible.1 hpossible.2 hlaunched.stands
    | some pid =>
        refine safe_bind ((safe_activated hlaunched hpossible.1 hpossible.2).imp ?_)
        rintro _ last ⟨rfl, hlast⟩
        exact safe_launched turns environment hlast
  · have hfailed := (starting_ready.moves hmoves).stands.passed failure.rollbackFailures failure.residual
    exact ⟨hfailed.heard hidle, safe_preparationFailed turns failure hfailed⟩

/-- Whatever the preparation, the launch, the Workload and the cleanup come to, and whatever the Supervisor does in
between, no frame of the helper loses the conversation. A helper that has not ended has found the Workload running in
every turn. One that has ended leaves a conversation that is finished once all is heard; it has said `CLEANUP_OK` just
when the first pass of the rollback or the cleanup met no failure and left nothing, and its status is 0 just then. -/
theorem runHelperSession_ends {turns : Nat} {context : WorkloadContext} {identity : WorkloadIdentity}
    {standardDescriptors : List Int} {trace : List (Step HelperCall HelperAnswer Link)}
    {last : HelperProgram (Option Int)} {final : Link}
    (h : Path linkEnvironment (runHelperSession turns context identity standardDescriptors) Link.ready trace last final) :
    (∀ step ∈ trace, step.after.supervisor.state ≠ .failed) ∧
      ∀ result, last = .done result →
        (result = none → final.running = turns) ∧
        ∀ status, result = some status →
          (∀ later, SupervisorMoves final later → later.settled = { state := .finished }) ∧
          (cleanupOkMessage ∈ final.sent ↔ final.passes.head? = some true) ∧
          (status = 0 ↔ cleanupOkMessage ∈ final.sent) := by
  obtain ⟨hheard, hlast⟩ := (safe_runHelperSession turns context identity standardDescriptors).path h
  refine ⟨hheard, ?_⟩
  rintro result rfl
  rcases hlast with ⟨rfl, conversation, hrunning⟩ | ⟨clean, rfl, hended⟩
  · exact ⟨fun _ => hrunning.running, fun status hstatus => nomatch hstatus⟩
  · refine ⟨(fun hnone => nomatch hnone), fun status hstatus => ⟨fun later hmoves => ?_, ?_, ?_⟩⟩
    · have hsettled := hended.settled
      rw [settled_moves hmoves (by rw [hsettled]) (by rw [hsettled]; decide) (by rw [hsettled]; decide), hsettled]
    · rw [hended.sent, hended.first, Option.some.injEq]
    · obtain rfl := Option.some.inj hstatus
      rw [hended.sent]
      cases clean <;> decide

/-- A Workload that is launched, told to stop while it runs, and ended by the signal. -/
def stoppedExample (link : Link) : (request : HelperCall) → HelperAnswer request × Link
  | .prepare => (.prepared {}, link)
  | .launch _ _ _ _ => ({ process := some 7 }, link)
  | .send text => (true, link.carrying text)
  | .pollWorkload =>
      if link.running = 0 then (.running, { link with running := link.running + 1 })
      else (.finished ⟨false, 15⟩, link)
  | .waitWorkload => (none, link)
  | .sendSignal _ => (true, link)
  | .pollSupervisor =>
      (.readable, { link with toHelper := link.toHelper ++ helperRuntimeCommandMessage .stopTerminate, stopSent := true })
  | .readSupervisor => (.data link.toHelper, { link with toHelper := [] })
  | .setDirectionSettings _ _ => (.applied, link)
  | .cleanup _ => ({}, link.passed [] none)
  | .retry _ => ({}, link.passed [] none)
  | .now => (0, link)
  | .pause => ((), link)
  | .report _ => ((), link)

/-- These answers may come wherever there is something to read. -/
theorem linkEnvironment_stoppedExample (link : Link) (request : HelperCall)
    (h : request = .readSupervisor → link.toHelper ≠ [] ∧ link.toHelper.length ≤ 4096) :
    linkEnvironment link request (stoppedExample link request).1 (stoppedExample link request).2 := by
  cases request with
  | launch context identity standardDescriptors environment =>
      exact ⟨link, .refl, (by decide : (1 : Int) ≤ 7 ∧ (7 : Int) ≤ 2 ^ 22), rfl⟩
  | send text => exact ⟨link, .refl, rfl, rfl⟩
  | sendSignal signal => exact ⟨link, .refl, rfl, rfl⟩
  | waitWorkload => exact ⟨link, .refl, (fun _ hnone => nomatch hnone), rfl⟩
  | pollWorkload =>
      refine ⟨link, .refl, ?_⟩
      by_cases hrunning : link.running = 0
      · rw [stoppedExample, if_pos hrunning]
        rfl
      · rw [stoppedExample, if_neg hrunning]
        exact ⟨(by decide : (1 : Int) ≤ 15 ∧ (15 : Int) ≤ 126), rfl⟩
  | pollSupervisor =>
      have hstop : HelperRuntimeCommand.stopTerminate.isStop = true := rfl
      exact ⟨_, .single (.stops hstop), List.append_ne_nil_of_right_ne_nil _ (List.cons_ne_nil _ _), rfl⟩
  | readSupervisor => exact ⟨link, .refl, (h rfl).1, (h rfl).2, [], (List.append_nil _).symm, rfl⟩
  | _ => exact ⟨link, .refl, rfl⟩

omit [DecimalText] in
theorem runHelperSession_ends_stopped :
    ∃ final : Link, cleanupOkMessage ∈ final.sent ∧ final.passes.head? = some true ∧
      final.settled = { state := .finished } := by
  let program := @runHelperSession bitPatternText 2 {} ⟨0, 0, []⟩ []
  have hread : ∀ step ∈ (execute (@stoppedExample bitPatternText) 12 program Link.ready).1,
      step.request = .readSupervisor → step.before.toHelper ≠ [] ∧ step.before.toHelper.length ≤ 4096 := by
    decide
  have hpath := path_execute _ 12 program Link.ready fun step hstep =>
    @linkEnvironment_stoppedExample bitPatternText step.before step.request (hread step hstep)
  have hdone : (execute (@stoppedExample bitPatternText) 12 program Link.ready).2.1 = .done (some 0) :=
    Program.eq_done_of_ended (by decide)
  rw [hdone] at hpath
  obtain ⟨-, -, hend⟩ := (@runHelperSession_ends bitPatternText _ _ _ _ _ _ _ hpath).imp_right fun hresult =>
    hresult _ rfl
  obtain ⟨hfinished, hok, hstatus⟩ := hend 0 rfl
  exact ⟨_, hstatus.mp rfl, hok.mp (hstatus.mp rfl), hfinished _ .refl⟩

end NetLagLab.HelperSession
