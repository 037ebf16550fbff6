import NetLagLab.CommandDraining

/-! What a result of a command says of the command: how it ended, or that it never ran, and that what was captured is
the beginning of what it wrote. -/

namespace NetLagLab.NetworkEnvironment.CommandRunner

open ByteLines CallPrograms CallPrograms.Program FixedWidth PipeReading Relation

variable {host after : ChildHost} {mayFail : Prop} {status : WaitStatus} {progress : Progress} {captureStdout : Bool}
  {turns maximumStdoutSize : Nat} {state : RunnerState} {deadline : TimePoint} {run : CommandRun}

/-! ### Results -/

/-- There was no child, or it was waited for. -/
def Gone (host : ChildHost) : Prop := host.phase = .absent ∨ ∃ status, host.phase = .reaped status

/-- The child did not become the command, and the write that was to say so failed before a byte of it was out. -/
def Unreported (mayFail : Prop) (code : Int) (host : ChildHost) : Prop :=
  mayFail ∧ code = 125 ∧ host.ran = false ∧ (host.pipes .childFailure).written = []

/-- What each kind of result says. -/
def Fits (mayFail : Prop) (deadline : TimePoint) (run : CommandRun) (host : ChildHost) : Prop :=
  match run.kind with
  | .success => run.code = 0 ∧ host.phase = .reaped (.exited 0) ∧ host.ran = true
  | .nonzeroExit => run.code ≠ 0 ∧ host.phase = .reaped (.exited run.code) ∧
      (host.ran = true ∨ Unreported mayFail run.code host)
  | .signal => host.phase = .reaped (.signaled run.code)
  | .timeout => deadline ≤ host.now ∧ Gone host
  | .execFailure => host.ran = false ∧ Gone host ∧ ∃ errorNumber : UInt32, run.code = errorNumber.toNat ∧
      (host.pipes .childFailure).taken = (⟨.execFailure, errorNumber⟩ : ChildFailureMessage).bytes
  | .systemFailure => mayFail ∨ host.ran = false ∧ Gone host

/-- The results that say how the child ended. -/
def CommandResultKind.EndOfChild (kind : CommandResultKind) : Prop :=
  kind = .success ∨ kind = .nonzeroExit ∨ kind = .signal ∨ kind = .execFailure

structure Explained (mayFail : Prop) (deadline : TimePoint) (captureStdout : Bool) (maximumStdoutSize : Nat)
    (run : CommandRun) (host : ChildHost) : Prop where
  fits : Fits mayFail deadline run host
  diagnostics : run.standardError = (host.pipes .standardError).taken.take maximumDiagnosticSize
  output : run.standardOutput =
    if captureStdout = true ∧ (run.kind = .success ∨ run.kind = .nonzeroExit) then
      (host.pipes .standardOutput).taken.take maximumStdoutSize
    else []
  whole : CommandResultKind.EndOfChild run.kind → ∀ stream ∈ runnerStreams captureStdout,
    host.atExit stream <+: (host.pipes stream).taken

theorem not_endOfChild_timeout : ¬ CommandResultKind.EndOfChild .timeout := by
  rintro (hend | hend | hend | hend) <;> cases hend

theorem not_endOfChild_systemFailure : ¬ CommandResultKind.EndOfChild .systemFailure := by
  rintro (hend | hend | hend | hend) <;> cases hend

/-- A result without output. -/
theorem Stands.explained (h : Stands mayFail progress captureStdout maximumStdoutSize state host)
    {kind : CommandResultKind} {code : Int} (hfits : Fits mayFail deadline (state.result kind code) host)
    (hplain : kind ≠ .success ∧ kind ≠ .nonzeroExit)
    (hwhole : CommandResultKind.EndOfChild kind → ∀ stream ∈ runnerStreams captureStdout, stream ∈ progress.drained) :
    Explained mayFail deadline captureStdout maximumStdoutSize (state.result kind code) host where
  fits := hfits
  diagnostics := by
    have hstream := standardError_mem_runnerStreams captureStdout
    exact (h.follows _ hstream).kept
  output := by
    have hkind : ¬ (captureStdout = true ∧ (kind = .success ∨ kind = .nonzeroExit)) :=
      fun hboth => hboth.2.elim hplain.1 hplain.2
    exact (if_neg hkind).symm
  whole hend stream hstream := (h.drained stream (hwhole hend stream hstream)).2

theorem Stands.explained_failure (h : Stands mayFail progress captureStdout maximumStdoutSize state host)
    (hfails : mayFail) (error : Int) :
    Explained mayFail deadline captureStdout maximumStdoutSize (state.result .systemFailure error) host := by
  exact h.explained (Or.inl hfails) ⟨by decide, by decide⟩ fun hend => absurd hend not_endOfChild_systemFailure

/-! ### The end of the child -/

def Progress.reap (progress : Progress) (status : WaitStatus) : Progress := { progress with stage := .reaped status }

/-- The child is waited for. -/
theorem Stands.reap (h : Stands mayFail progress captureStdout maximumStdoutSize state host)
    (hdrained : progress.drained = []) (hdead : host.phase = .dead status) :
    Stands mayFail (progress.reap status) captureStdout maximumStdoutSize state
      { host with phase := .reaped status } where
  story := by
    obtain ⟨hshown, hreport, hfate⟩ := h.story.of_ended (Or.inl hdead)
    exact .ended (Or.inr rfl) ⟨hshown, hreport, hfate⟩
  stage := rfl
  follows := h.follows
  unused := h.unused
  drained stream hstream := absurd (hdrained ▸ hstream) List.not_mem_nil
  polls := h.polls
  since := h.since

theorem Stands.late (h : Stands mayFail progress captureStdout maximumStdoutSize state host)
    (hlate : deadline ≤ host.now) :
    Stands mayFail { progress with since := deadline } captureStdout maximumStdoutSize state host :=
  { h with since := hlate }

/-- The child was waited for, or a call has failed. -/
def Terminated (mayFail : Prop) (progress : Progress) (captureStdout : Bool) (maximumStdoutSize : Nat)
    (state : RunnerState) (error : Option Int) (host : ChildHost) : Prop :=
  (∃ status, Stands mayFail (progress.reap status) captureStdout maximumStdoutSize state host ∧
      (error.isSome = true → mayFail)) ∨
    mayFail ∧ error.isSome = true ∧ Stands mayFail progress captureStdout maximumStdoutSize state host

theorem safe_terminateAndReap (h : Stands mayFail progress captureStdout maximumStdoutSize state host)
    (hstage : progress.stage = .waiting) (hdrained : progress.drained = []) :
    Safe (childEnvironment mayFail) Guarded (Terminated mayFail progress captureStdout maximumStdoutSize state)
      terminateAndReap host := by
  refine h.ask (fun _ => hstage) ?_
  rintro middle killed after - hmiddle ⟨hfails, rfl⟩
  refine hmiddle.ask (fun _ => hstage) ?_
  have herror : (if killed = some esrch then none else killed).isSome = true → mayFail := by
    intro hsome
    split at hsome
    · cases hsome
    · exact hfails hsome
  rintro between wait last - hbetween (⟨status, rfl, hdead, rfl⟩ | ⟨error, rfl, hmay, rfl⟩)
  · exact Or.inl ⟨status, hbetween.reap hdrained hdead, herror⟩
  · refine Or.inr ⟨hmay, ?_, hbetween⟩
    cases (if killed = some esrch then none else killed) <;> rfl

/-! ### The loop -/

/-- How the loop is left. -/
def ExitPost (mayFail : Prop) (deadline : TimePoint) (turns : Nat) (captureStdout : Bool) (maximumStdoutSize : Nat) :
    RunnerExit → ChildHost → Prop
  | none, host => Flooded turns host
  | some (.inl run), host => Explained mayFail deadline captureStdout maximumStdoutSize run host
  | some (.inr (state, status)), host => ∃ polls since,
      Stands mayFail { stage := .reaped status, polls, since } captureStdout maximumStdoutSize state host

theorem safe_abortRun {continues : RunnerState → ChildHost → Prop}
    (h : Stands mayFail progress captureStdout maximumStdoutSize state host)
    (hstage : progress.stage = .waiting) (hdrained : progress.drained = []) (hfails : mayFail) (error : Int) :
    Safe (childEnvironment mayFail) Guarded
      (fun result after => result.elim (continues · after)
        (ExitPost mayFail deadline turns captureStdout maximumStdoutSize · after))
      (abortRun state error) host := by
  refine safe_bind ((safe_terminateAndReap h hstage hdrained).imp ?_)
  rintro terminated after (⟨status, hreaped, -⟩ | ⟨-, -, hstands⟩)
  · exact hreaped.explained_failure hfails error
  · exact hstands.explained_failure hfails error

/-- The output is read, if it is captured. -/
theorem safe_drainStdout (h : Stands mayFail progress captureStdout maximumStdoutSize state host)
    (hpresent : progress.stage ≠ .before) (drainCompletely : Bool) :
    Safe (childEnvironment mayFail) Guarded (DrainPost mayFail turns progress progress captureStdout maximumStdoutSize)
      (drainOutput turns .standardOutput maximumStdoutSize drainCompletely state) host := by
  cases captureStdout with
  | false => exact safe_drainOutput_unused h _
  | true => exact safe_drainOutput h hpresent (by decide) .some

theorem DrainPost.stands {failure : Option Int}
    (h : DrainPost mayFail turns progress progress captureStdout maximumStdoutSize (some (state, failure)) host) :
    Stands mayFail progress captureStdout maximumStdoutSize state host := by
  cases h with
  | failed fails stands => exact stands
  | drained stands => exact stands

theorem DrainPost.flooded {next : Progress}
    (h : DrainPost mayFail turns progress next captureStdout maximumStdoutSize none host) : Flooded turns host := by
  cases h
  assumption

theorem safe_drainExpired {continues : RunnerState → ChildHost → Prop} {error : Option Int}
    (h : Stands mayFail progress captureStdout maximumStdoutSize state host) (hpresent : progress.stage ≠ .before)
    (hexplained : ∀ state after, Stands mayFail progress captureStdout maximumStdoutSize state after →
      Explained mayFail deadline captureStdout maximumStdoutSize
        (error.elim (state.result .timeout 0) (state.result .systemFailure)) after) :
    Safe (childEnvironment mayFail) Guarded
      (fun result after => result.elim (continues · after)
        (ExitPost mayFail deadline turns captureStdout maximumStdoutSize · after))
      (drainExpired turns maximumStdoutSize error state) host := by
  have hstream := standardError_mem_runnerStreams captureStdout
  refine safe_bind ((safe_drainOutput h hpresent hstream .some).imp ?_)
  rintro (_ | ⟨state, failure⟩) after hdrained
  · exact hdrained.flooded
  refine safe_bind ((safe_drainStdout hdrained.stands hpresent true).imp ?_)
  rintro (_ | ⟨state, failure⟩) last hdrained
  · exact hdrained.flooded
  · have hlast := hexplained state last hdrained.stands
    cases error with
    | none => exact hlast
    | some error => exact hlast

theorem safe_expireRun {continues : RunnerState → ChildHost → Prop}
    (h : Stands mayFail progress captureStdout maximumStdoutSize state host) (hstage : progress.stage = .waiting)
    (hdrained : progress.drained = []) (hsince : progress.since = deadline) :
    Safe (childEnvironment mayFail) Guarded
      (fun result after => result.elim (continues · after)
        (ExitPost mayFail deadline turns captureStdout maximumStdoutSize · after))
      (expireRun turns maximumStdoutSize state) host := by
  refine safe_bind ((safe_terminateAndReap h hstage hdrained).imp ?_)
  rintro error after (⟨status, hreaped, hfails⟩ | ⟨hmay, hsome, hstands⟩)
  · refine safe_drainExpired hreaped (fun hbefore => by cases hbefore) fun state last hlast => ?_
    cases error with
    | some error => exact hlast.explained_failure (hfails rfl) error
    | none =>
        have hgone : Gone last := Or.inr ⟨status, phase_of_stage hlast.stage⟩
        exact hlast.explained ⟨hsince ▸ hlast.since, hgone⟩ ⟨by decide, by decide⟩ fun hend =>
          absurd hend not_endOfChild_timeout
  · refine safe_drainExpired hstands (fun hbefore => by cases hstage.symm.trans hbefore) fun state last hlast => ?_
    cases error with
    | some error => exact hlast.explained_failure hmay error
    | none => cases hsome

theorem safe_pollTimeout (h : Stands mayFail progress captureStdout maximumStdoutSize state host) :
    Safe (childEnvironment mayFail) Guarded
      (fun _ after => Stands mayFail progress captureStdout maximumStdoutSize state after)
      (pollTimeout deadline) host := by
  refine h.ask (fun hrequest => by cases hrequest) ?_
  rintro middle time after - hmiddle ⟨rfl, rfl⟩
  change Safe _ _ _ (if deadline - after.now ≤ 0 then _ else _) _
  split
  · exact hmiddle
  · exact hmiddle

/-- The end of a turn polls once more. -/
theorem safe_pollPipes {since : TimePoint} {round : Nat}
    (h : Stands mayFail { stage := .waiting, polls := round, since } captureStdout maximumStdoutSize state host) :
    Safe (childEnvironment mayFail) Guarded
      (fun result after => result.elim
        (Stands mayFail { stage := .waiting, polls := round + 1, since } captureStdout maximumStdoutSize · after)
        (ExitPost mayFail deadline turns captureStdout maximumStdoutSize · after))
      (pollPipes deadline state) host := by
  refine safe_bind ((safe_pollTimeout h).imp ?_)
  rintro remaining later hlater
  refine hlater.ask (fun hrequest => by cases hrequest) ?_
  rintro middle failure after - hmiddle ⟨hfails, rfl⟩
  have hafter : Stands mayFail { stage := .waiting, polls := round + 1, since } captureStdout maximumStdoutSize state
      { middle with polls := middle.polls + 1 } := by
    exact { hmiddle with story := hmiddle.story.clocked _ _, polls := Nat.succ_le_succ hmiddle.polls }
  cases failure with
  | some error => exact safe_abortRun hafter rfl rfl (hfails rfl) error
  | none => exact hafter

/-- A turn of the loop: the child is polled once more, or the loop is left. -/
theorem safe_runnerTurn {since : TimePoint} (round : Nat)
    (h : Stands mayFail { stage := .waiting, polls := round, since } captureStdout maximumStdoutSize state host) :
    Safe (childEnvironment mayFail) Guarded
      (fun result after => result.elim
        (Stands mayFail { stage := .waiting, polls := round + 1, since } captureStdout maximumStdoutSize · after)
        (ExitPost mayFail deadline turns captureStdout maximumStdoutSize · after))
      (runnerTurn turns maximumStdoutSize deadline state) host := by
  refine safe_bind ((safe_drainPipes_partly h (fun hbefore => by cases hbefore)).imp ?_)
  intro result after hresult
  cases hresult with
  | endless flooded => exact flooded
  | failed fails stands => exact safe_abortRun stands rfl rfl fails _
  | @drained _ state hstate =>
      refine hstate.ask (fun _ => rfl) ?_
      rintro middle wait later - hmiddle (⟨rfl, rfl⟩ | ⟨status, rfl, hdead, rfl⟩ | ⟨error, rfl, hfails, rfl⟩)
      · refine hmiddle.ask (fun hrequest => by cases hrequest) ?_
        rintro between time later - hbetween ⟨rfl, rfl⟩
        change Safe _ _ _ (if deadline ≤ later.now then _ else _) _
        split
        · rename_i hlate
          exact safe_expireRun (hbetween.late hlate) rfl rfl rfl
        · exact safe_pollPipes hbetween
      · exact ⟨round, since, hmiddle.reap rfl hdead⟩
      · exact hmiddle.explained_failure hfails error

/-! ### The end of a command -/

/-- The report of a child that was waited for, once it is read to its end. -/
theorem Stands.report (h : Stands mayFail progress captureStdout maximumStdoutSize state host)
    (hstage : progress.stage = .reaped status) (hdrained : .childFailure ∈ progress.drained) :
    Ended mayFail host status ∧ state.childFailure.captured = (host.pipes .childFailure).taken ∧
      (host.pipes .childFailure).taken = (host.pipes .childFailure).written := by
  have hended := h.story.of_ended (Or.inr (phase_of_stage (h.stage.trans hstage)))
  have hstream := childFailure_mem_runnerStreams captureStdout
  have htaken : (host.pipes .childFailure).taken = (host.pipes .childFailure).written := by
    have hshown := (h.drained _ hdrained).2
    rw [hended.report] at hshown
    exact (List.prefix_append _ _).eq_of_length_le hshown.length_le
  refine ⟨hended, ?_, htaken⟩
  have hkept : state.childFailure.captured = _ := (h.follows _ hstream).kept
  rw [hkept]
  exact List.take_of_length_le (htaken ▸ h.story.report_length)

/-- The child has exited, as the command or without a report. -/
theorem Stands.explained_exited (h : Stands mayFail progress captureStdout maximumStdoutSize state host) {code : Int}
    (hran : host.ran = true ∨ Unreported mayFail code host) (hphase : host.phase = .reaped (.exited code))
    (hdrained : ∀ stream ∈ runnerStreams captureStdout, stream ∈ progress.drained) :
    Explained mayFail deadline captureStdout maximumStdoutSize
      { state.result (if code = 0 then .success else .nonzeroExit) code with
        standardOutput := state.standardOutput.captured } host where
  fits := by
    by_cases hcode : code = 0
    · rw [if_pos hcode]
      refine ⟨hcode, hcode ▸ hphase, hran.resolve_right ?_⟩
      rintro ⟨-, hgone, -⟩
      exact absurd (hcode.symm.trans hgone) (by decide)
    · rw [if_neg hcode]
      exact ⟨hcode, hphase, hran⟩
  diagnostics := by
    have hstream := standardError_mem_runnerStreams captureStdout
    exact (h.follows _ hstream).kept
  output := by
    have hkind : (if code = 0 then CommandResultKind.success else .nonzeroExit) = .success ∨
        (if code = 0 then CommandResultKind.success else .nonzeroExit) = .nonzeroExit := by
      split
      · exact Or.inl rfl
      · exact Or.inr rfl
    cases captureStdout with
    | false =>
        refine (congrArg Capture.captured (h.unused rfl)).trans (if_neg ?_).symm
        exact fun hboth => Bool.false_ne_true hboth.1
    | true =>
        exact (h.follows .standardOutput (by decide)).kept.trans (if_pos ⟨rfl, hkind⟩).symm
  whole _ stream hstream := (h.drained stream (hdrained stream hstream)).2

theorem Stands.explained_conclude (h : Stands mayFail progress captureStdout maximumStdoutSize state host)
    (hstage : progress.stage = .reaped status)
    (hdrained : ∀ stream ∈ runnerStreams captureStdout, stream ∈ progress.drained) :
    Explained mayFail deadline captureStdout maximumStdoutSize (state.conclude status) host := by
  have hstream := childFailure_mem_runnerStreams captureStdout
  have hphase := phase_of_stage (h.stage.trans hstage)
  have hgone : Gone host := Or.inr ⟨status, hphase⟩
  obtain ⟨hended, hcaptured, htaken⟩ := h.report hstage (hdrained _ hstream)
  unfold RunnerState.conclude
  dsimp only
  rw [hcaptured, htaken]
  split
  · rename_i hreported
    have hran : host.ran = false := by
      rcases hended.fate with ⟨-, hnone, -⟩ | ⟨hran, -⟩
      · exact absurd hnone hreported
      · exact hran
    have hsystem : ∀ error, Explained mayFail deadline captureStdout maximumStdoutSize
        (state.result .systemFailure error) host := by
      intro error
      exact h.explained (Or.inr ⟨hran, hgone⟩) ⟨by decide, by decide⟩ fun hend =>
        absurd hend not_endOfChild_systemFailure
    split
    · exact hsystem _
    · rename_i hlength
      rw [not_not] at hlength
      -- a whole report is one that the child has written
      obtain ⟨message, hmessage⟩ : ∃ message : ChildFailureMessage, (host.pipes .childFailure).written = message.bytes := by
        have hpart : ∀ message : ChildFailureMessage, (host.pipes .childFailure).written <+: message.bytes →
            (host.pipes .childFailure).written = message.bytes :=
          fun message hprefix => hprefix.eq_of_length (hlength.trans (length_bytes message).symm)
        rcases hended.fate with ⟨-, hnone, -⟩ | ⟨-, ⟨-, message, hprefix⟩ | ⟨-, message, hwhole | ⟨-, hprefix⟩⟩⟩
        · exact absurd hnone hreported
        · exact ⟨message, hpart message hprefix⟩
        · exact ⟨message, hwhole⟩
        · exact ⟨message, hpart message hprefix⟩
      rw [hmessage, receivedKind_bytes, receivedError_bytes]
      split
      · rename_i hkind
        refine h.explained ⟨hran, hgone, message.errorNumber, rfl, ?_⟩ ⟨by decide, by decide⟩ fun _ => hdrained
        rw [htaken, hmessage]
        congr 1
        obtain ⟨kind, errorNumber⟩ := message
        cases kind with
        | execFailure => rfl
        | systemFailure => cases hkind
      · exact hsystem _
  · rename_i hsilent
    rw [not_not] at hsilent
    have hran : ∀ code, status = .exited code → host.ran = true ∨ Unreported mayFail code host := by
      rintro code rfl
      rcases hended.fate with ⟨hran, -, -⟩ | ⟨hran, ⟨⟨number, hsignaled⟩, -⟩ | ⟨hexited, message, hwhole | ⟨hfails, -⟩⟩⟩
      · exact Or.inl hran
      · cases hsignaled
      · have hlength := length_bytes message
        rw [← hwhole, hsilent] at hlength
        cases hlength
      · exact Or.inr ⟨hfails, WaitStatus.exited.inj hexited, hran, hsilent⟩
    cases status with
    | signaled number =>
        exact h.explained hphase ⟨by decide, by decide⟩ fun _ => hdrained
    | other =>
        rcases hended.fate with ⟨-, -, hplain⟩ | ⟨-, ⟨⟨number, hsignaled⟩, -⟩ | ⟨hexited, -⟩⟩
        · exact absurd rfl hplain
        · cases hsignaled
        · cases hexited
    | exited code => exact h.explained_exited (hran code rfl) hphase hdrained

/-! ### The whole run -/

/-- What is known when a run ends or is cut off. -/
def RunPost (mayFail : Prop) (deadline : TimePoint) (turns : Nat) (captureStdout : Bool) (maximumStdoutSize : Nat) :
    Option CommandRun → ChildHost → Prop
  | none, host => turns ≤ host.polls ∨ Flooded turns host
  | some run, host => Explained mayFail deadline captureStdout maximumStdoutSize run host

theorem safe_finishRun (h : Stands mayFail progress captureStdout maximumStdoutSize state host)
    (hstage : progress.stage = .reaped status) :
    Safe (childEnvironment mayFail) Guarded (RunPost mayFail deadline turns captureStdout maximumStdoutSize)
      (finishRun turns maximumStdoutSize state status) host := by
  refine safe_bind ((safe_drainPipes_complete h hstage).imp ?_)
  intro result after hresult
  cases hresult with
  | endless flooded => exact Or.inr flooded
  | failed fails stands => exact stands.explained_failure fails _
  | drained stands =>
      have hdrained : ∀ stream ∈ runnerStreams captureStdout, stream ∈ (progress.complete captureStdout).drained :=
        fun stream hstream => List.mem_append_left _ (List.mem_reverse.mpr hstream)
      exact stands.explained_conclude hstage hdrained

/-- There is no child yet. -/
structure Fresh (host : ChildHost) : Prop where
  phase : host.phase = .absent
  ran : host.ran = false
  pipes : ∀ stream, host.pipes stream = {}

theorem Fresh.moves (h : Fresh host) (hmoves : ReflTransGen (ChildMove mayFail) host after) : Fresh after := by
  induction hmoves with
  | refl => exact h
  | tail _ hmove ih =>
      cases hmove with
      | elapses later_le => exact ⟨ih.phase, ih.ran, ih.pipes⟩
      | fails message starting => cases ih.phase.symm.trans starting
      | reports failing held => cases ih.phase.symm.trans failing
      | quits failing => cases ih.phase.symm.trans failing
      | givesUp failing fails => cases ih.phase.symm.trans failing
      | killed number early => rcases early with early | ⟨_, _, early⟩ <;> cases ih.phase.symm.trans early
      | executes starting => cases ih.phase.symm.trans starting
      | ends status executed plain => cases ih.phase.symm.trans executed
      | writes stream items ran output held => cases ih.ran.symm.trans ran
      | closes stream ran output => cases ih.ran.symm.trans ran

theorem safe_superviseChild (h : Fresh host) :
    Safe (childEnvironment mayFail) Guarded (RunPost mayFail deadline turns captureStdout maximumStdoutSize)
      (superviseChild turns deadline captureStdout maximumStdoutSize) { host with phase := .starting } := by
  have hfirst : Stands mayFail { stage := .waiting, polls := 0, since := host.now } captureStdout maximumStdoutSize
      { standardOutput := { pipeOpen := captureStdout } } { host with phase := .starting } := by
    refine ⟨.starting rfl h.ran ?_, rfl, fun stream hstream => ⟨?_, fun hclosed => ?_⟩, ?_, ?_, Nat.zero_le _, le_refl _⟩
    · exact congrArg Pipe.written (h.pipes .childFailure)
    · rw [h.pipes stream]
      refine Eq.trans ?_ List.take_nil.symm
      cases stream <;> rfl
    · cases stream with
      | standardError => cases hclosed
      | childFailure => cases hclosed
      | standardOutput =>
          obtain rfl : captureStdout = false := hclosed
          exact absurd hstream (by decide)
    · rintro rfl
      rfl
    · exact fun stream hstream => absurd hstream List.not_mem_nil
  have hround : ∀ (round : Nat) (current : RunnerState) (before : ChildHost),
      Stands mayFail { stage := .waiting, polls := round, since := host.now } captureStdout maximumStdoutSize current
        before →
      Safe (childEnvironment mayFail) Guarded
        (fun result after => result.elim
          (Stands mayFail { stage := .waiting, polls := round + 1, since := host.now } captureStdout maximumStdoutSize ·
            after)
          (ExitPost mayFail deadline turns captureStdout maximumStdoutSize · after))
        (runnerTurn turns maximumStdoutSize deadline current) before := fun round _ _ h => safe_runnerTurn round h
  refine safe_bind ((safe_loop_counted hround 0 hfirst).imp ?_)
  rintro (_ | _ | run | ⟨state, status⟩) after hresult
  · obtain ⟨last, hlast⟩ := hresult
    exact Or.inl ((Nat.zero_add turns).symm.le.trans hlast.polls)
  · exact Or.inr hresult
  · exact hresult
  · obtain ⟨polls, since, hstands⟩ := hresult
    exact safe_finishRun hstands rfl

/-- Before there is a child every result is explained. -/
theorem Fresh.explained (h : Fresh host) {kind : CommandResultKind} {error : Int}
    (hfits : Fits mayFail deadline (withoutChild kind error) host)
    (hkind : kind = .timeout ∨ kind = .systemFailure) :
    Explained mayFail deadline captureStdout maximumStdoutSize (withoutChild kind error) host where
  fits := hfits
  diagnostics := by
    rw [h.pipes]
    exact List.take_nil.symm
  output := by
    refine (if_neg ?_).symm
    rintro ⟨-, hsuccess | hnonzero⟩
    · rcases hkind with hkind | hkind <;> cases hkind.symm.trans hsuccess
    · rcases hkind with hkind | hkind <;> cases hkind.symm.trans hnonzero
  whole hend := by
    rcases hkind with rfl | rfl
    · exact absurd hend not_endOfChild_timeout
    · exact absurd hend not_endOfChild_systemFailure

/-- A call before there is a child. -/
theorem Fresh.ask {α : Type} {request : RunnerCall} {rest : RunnerAnswer request → RunnerProgram α}
    {post : α → ChildHost → Prop} (h : Fresh host)
    (hguard : request.namesChild = false)
    (hanswer : ∀ middle answer after, Fresh middle → ChildAnswers mayFail middle request answer after →
      Safe (childEnvironment mayFail) Guarded post (rest answer) after) :
    Safe (childEnvironment mayFail) Guarded post (.call request rest) host := by
  rintro answer after ⟨middle, hmoves, hanswered⟩
  exact ⟨fun hrequest => absurd (hguard.symm.trans hrequest) Bool.false_ne_true,
    hanswer middle answer after (h.moves hmoves) hanswered⟩

/-- The pipes are there, or one of the calls has failed. -/
def Prepared (mayFail : Prop) (error : Option Int) (host : ChildHost) : Prop :=
  Fresh host ∧ (error.isSome = true → mayFail)

theorem safe_makePipes (h : Fresh host) (streams : List RunnerStream) :
    Safe (childEnvironment mayFail) Guarded (Prepared mayFail) (makePipes streams) host := by
  induction streams generalizing host with
  | nil => exact ⟨h, fun hsome => by cases hsome⟩
  | cons stream streams ih =>
      refine h.ask rfl ?_
      rintro middle error after hmiddle ⟨hfails, rfl⟩
      cases error with
      | some error => exact ⟨hmiddle, hfails⟩
      | none => exact ih hmiddle

theorem safe_makeNonblocking (h : Fresh host) (streams : List RunnerStream) :
    Safe (childEnvironment mayFail) Guarded (Prepared mayFail) (makeNonblocking streams) host := by
  induction streams generalizing host with
  | nil => exact ⟨h, fun hsome => by cases hsome⟩
  | cons stream streams ih =>
      refine h.ask rfl ?_
      rintro middle error after hmiddle ⟨hfails, rfl⟩
      cases error with
      | some error => exact ⟨hmiddle, hfails⟩
      | none => exact ih hmiddle

/-- The time was up before there was a child. -/
theorem Fresh.expired (h : Fresh host) (hlate : deadline ≤ host.now) :
    Explained mayFail deadline captureStdout maximumStdoutSize (withoutChild .timeout 0) host :=
  h.explained ⟨hlate, Or.inl h.phase⟩ (Or.inl rfl)

theorem Fresh.failed (h : Fresh host) (hfails : mayFail) (error : Int) :
    Explained mayFail deadline captureStdout maximumStdoutSize (withoutChild .systemFailure error) host :=
  h.explained (Or.inl hfails) (Or.inr rfl)

theorem safe_runCommandImpl (h : Fresh host) :
    Safe (childEnvironment mayFail) Guarded (RunPost mayFail deadline turns captureStdout maximumStdoutSize)
      (runCommandImpl turns deadline captureStdout maximumStdoutSize) host := by
  refine h.ask rfl ?_
  rintro middle time host hhost ⟨rfl, rfl⟩
  change Safe _ _ _ (if deadline ≤ host.now then _ else _) _
  split
  · rename_i hlate
    exact hhost.expired hlate
  refine safe_bind ((safe_makePipes hhost _).imp ?_)
  rintro (_ | error) after ⟨hafter, hfails⟩
  swap
  · exact hafter.failed (hfails rfl) error
  refine safe_bind ((safe_makeNonblocking hafter _).imp ?_)
  rintro (_ | error) later ⟨hlater, hfails⟩
  swap
  · exact hlater.failed (hfails rfl) error
  refine hlater.ask rfl ?_
  rintro middle time host hhost ⟨rfl, rfl⟩
  change Safe _ _ _ (if deadline ≤ host.now then _ else _) _
  split
  · rename_i hlate
    exact hhost.expired hlate
  refine hhost.ask rfl ?_
  rintro middle error after hmiddle (⟨rfl, rfl⟩ | ⟨hsome, hfails, rfl⟩)
  · exact safe_superviseChild hmiddle
  · cases error with
    | none => exact absurd rfl hsome
    | some error => exact hmiddle.failed hfails error

/-- However the child, the command, what it leaves running and the clock go on between the calls: the child is signaled
and waited for only while it is there, and a result says how it ended or that the command never ran, with the beginnings
of what was written; only a report that could not be written makes a nonzero exit of a command that never ran. A run
without a result has polled in every turn, or a pipe has delivered a byte for each turn. -/
theorem runCommandImpl_explained {trace : List (Step RunnerCall RunnerAnswer ChildHost)}
    {last : RunnerProgram (Option CommandRun)} {final : ChildHost} (hfresh : Fresh host)
    (h : Path (childEnvironment mayFail) (runCommandImpl turns deadline captureStdout maximumStdoutSize) host trace last
      final) :
    (∀ step ∈ trace, Guarded step) ∧ ∀ result, last = .done result →
      (result = none → turns ≤ final.polls ∨ Flooded turns final) ∧
      ∀ run, result = some run → Explained mayFail deadline captureStdout maximumStdoutSize run final := by
  obtain ⟨hsteps, hlast⟩ := (safe_runCommandImpl hfresh).path h
  refine ⟨hsteps, ?_⟩
  rintro result rfl
  constructor
  · rintro rfl
    exact hlast
  · rintro run rfl
    exact hlast

/-! A command that writes a line while it is polled, and exits. -/

def ChildHost.greeted (host : ChildHost) : ChildHost :=
  let executed :=
    { host.withPipe .childFailure (host.pipes .childFailure).close with phase := .executed, ran := true }
  (executed.withPipe .standardOutput ((executed.pipes .standardOutput).write (ascii "hello\n"))).died (.exited 0)

theorem moves_greeted (hphase : host.phase = .starting) (hheld : (host.pipes .standardOutput).held = true) :
    ReflTransGen (ChildMove mayFail) host host.greeted :=
  (ReflTransGen.single (.executes hphase)).tail (.writes .standardOutput _ rfl (by decide) hheld)
    |>.tail (.ends (.exited 0) rfl (by decide))

def greetingExample (host : ChildHost) : (request : RunnerCall) → RunnerAnswer request × ChildHost
  | .now => (host.now, host)
  | .makePipe _ => (none, host)
  | .makeNonblocking _ => (none, host)
  | .fork => (none, { host with phase := .starting })
  | .read stream size =>
      let pipe := host.pipes stream
      if pipe.unread = [] then (if pipe.held then .nothing else .ended, host)
      else
        (.data (pipe.unread.take size),
          host.withPipe stream
            { pipe with taken := pipe.taken ++ pipe.unread.take size, unread := pipe.unread.drop size })
  | .tryWait =>
      if host.polls = 0 then (.running, host)
      else (.ended (.exited 0), { host with phase := .reaped (.exited 0) })
  | .wait => (.error echild, host)
  | .kill => (none, host)
  | .poll _ _ _ _ => (none, { host.greeted with polls := host.polls + 1 })

/-- Where these answers may come. -/
def Greets (host : ChildHost) : RunnerCall → Prop
  | .read _ size => 0 < size
  | .tryWait => host.polls ≠ 0 → host.phase = .dead (.exited 0)
  | .wait => False
  | .poll _ _ _ _ => host.phase = .starting ∧ (host.pipes .standardOutput).held = true
  | _ => True

instance (host : ChildHost) : DecidablePred (Greets host) := fun request => by
  cases request <;> unfold Greets <;> infer_instance

theorem childEnvironment_greetingExample (host : ChildHost) (request : RunnerCall) (h : Greets host request) :
    childEnvironment False host request (greetingExample host request).1 (greetingExample host request).2 := by
  cases request with
  | now => exact ⟨host, .refl, rfl, rfl⟩
  | makePipe stream => exact ⟨host, .refl, (fun hsome => by cases hsome), rfl⟩
  | makeNonblocking stream => exact ⟨host, .refl, (fun hsome => by cases hsome), rfl⟩
  | fork => exact ⟨host, .refl, Or.inl ⟨rfl, rfl⟩⟩
  | kill => exact ⟨host, .refl, (fun hsome => by cases hsome), rfl⟩
  | wait => exact h.elim
  | poll errorOpen outputOpen failureOpen timeout =>
      exact ⟨host.greeted, moves_greeted h.1 h.2, (fun hsome => by cases hsome), rfl⟩
  | tryWait =>
      refine ⟨host, .refl, ?_⟩
      unfold greetingExample
      split
      · exact Or.inl ⟨rfl, rfl⟩
      · rename_i hpolled
        exact Or.inr (Or.inl ⟨_, rfl, h hpolled, rfl⟩)
  | read stream size =>
      refine ⟨host, .refl, ?_⟩
      have hsame : host = host.withPipe stream (host.pipes stream) := by
        rw [ChildHost.withPipe, Function.update_eq_self]
      unfold greetingExample
      dsimp only
      split
      · rename_i hnothing
        split
        · exact ⟨(fun hfails => by obtain ⟨error, hfailed⟩ := hfails; cases hfailed), _, ⟨hnothing, rfl⟩, hsame⟩
        · rename_i hclosed
          rw [Bool.not_eq_true] at hclosed
          exact ⟨(fun hfails => by obtain ⟨error, hfailed⟩ := hfails; cases hfailed), _, ⟨hnothing, hclosed, rfl⟩, hsame⟩
      · rename_i hunread
        have hne : (host.pipes stream).unread.take size ≠ [] := by
          rw [ne_eq, List.take_eq_nil_iff, not_or]
          exact ⟨Nat.pos_iff_ne_zero.mp h, hunread⟩
        exact ⟨(fun hfails => by obtain ⟨error, hfailed⟩ := hfails; cases hfailed), _,
          ⟨hne, List.length_take_le _ _, _, (List.take_append_drop _ _).symm, rfl⟩, rfl⟩

theorem runCommandImpl_explained_greeting : ∃ (run : CommandRun) (final : ChildHost),
    Explained False (10 ^ 9) true 4 run final ∧ run.kind = .success ∧ run.standardOutput = ascii "hell" := by
  let program := runCommandImpl 3 (10 ^ 9) true 4
  let run : CommandRun := { kind := .success, standardOutput := ascii "hell" }
  have hgreets : ∀ step ∈ (execute greetingExample 40 program {}).1, Greets step.before step.request := by decide
  have hpath := path_execute _ 40 program {} fun step hstep =>
    childEnvironment_greetingExample step.before step.request (hgreets step hstep)
  have hdone : (execute greetingExample 40 program {}).2.1 = .done (some run) := Program.eq_done_of_ended (by decide)
  rw [hdone] at hpath
  have hfresh : Fresh {} := ⟨rfl, rfl, fun _ => rfl⟩
  obtain ⟨-, hresult⟩ := runCommandImpl_explained hfresh hpath
  exact ⟨run, _, (hresult _ rfl).2 run rfl, rfl, rfl⟩

end NetLagLab.NetworkEnvironment.CommandRunner
