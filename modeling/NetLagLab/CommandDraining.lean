import NetLagLab.CommandChild

/-! Reading the pipes of a command while its child goes on: what is kept is the beginning of what was taken, and pipes
that are read to their end hold nothing back that the child wrote. -/

namespace NetLagLab.NetworkEnvironment.CommandRunner

open ByteLines CallPrograms CallPrograms.Program FixedWidth PipeReading Relation

variable {host after : ChildHost} {mayFail : Prop} {status : WaitStatus}

/-! ### The runner and its child -/

/-- How far a run has come. -/
structure Progress where
  stage : Stage
  /-- The pipes that were read up to what was in them when the child ended. -/
  drained : List RunnerStream := []
  polls : Nat := 0
  since : TimePoint

/-- What is kept of each pipe at most. -/
def captureLimit (maximumStdoutSize : Nat) : RunnerStream → Nat
  | .standardError => maximumDiagnosticSize
  | .standardOutput => maximumStdoutSize
  | .childFailure => childFailureSize

theorem standardError_mem_runnerStreams (captureStdout : Bool) : .standardError ∈ runnerStreams captureStdout := by
  cases captureStdout <;> decide

theorem childFailure_mem_runnerStreams (captureStdout : Bool) : .childFailure ∈ runnerStreams captureStdout := by
  cases captureStdout <;> decide

/-- The runner has kept the beginnings of what it has taken, and the child is where the runner takes it to be. -/
structure Stands (mayFail : Prop) (progress : Progress) (captureStdout : Bool) (maximumStdoutSize : Nat)
    (state : RunnerState) (host : ChildHost) : Prop where
  story : Story mayFail host
  stage : host.phase.stage = progress.stage
  follows : ∀ stream ∈ runnerStreams captureStdout,
    (state.capture stream).Follows (captureLimit maximumStdoutSize stream) (host.pipes stream)
  unused : captureStdout = false → state.standardOutput = { pipeOpen := false }
  drained : ∀ stream ∈ progress.drained, (∃ status, progress.stage = .reaped status) ∧
    host.atExit stream <+: (host.pipes stream).taken
  polls : progress.polls ≤ host.polls
  since : progress.since ≤ host.now

/-- The phase of a child that was waited for. -/
theorem phase_of_stage (h : host.phase.stage = .reaped status) : host.phase = .reaped status := by
  unfold ChildPhase.stage at h
  split at h
  · cases h
  · rename_i hphase
    rw [hphase, Stage.reaped.inj h]
  · cases h

/-- What a move leaves of a pipe. -/
theorem pipe_move (hmove : ChildMove mayFail host after) (stream : RunnerStream) :
    (after.pipes stream).taken = (host.pipes stream).taken ∧
      ∀ (capture : Capture UInt8) (limit : Nat), capture.Follows limit (host.pipes stream) →
        capture.Follows limit (after.pipes stream) := by
  have hwith : ∀ (other : RunnerStream) (pipe : Pipe UInt8), pipe.taken = (host.pipes other).taken →
      (∀ (capture : Capture UInt8) (limit : Nat), capture.Follows limit (host.pipes other) → capture.Follows limit pipe) →
      ((host.withPipe other pipe).pipes stream).taken = (host.pipes stream).taken ∧
        ∀ (capture : Capture UInt8) (limit : Nat), capture.Follows limit (host.pipes stream) →
          capture.Follows limit ((host.withPipe other pipe).pipes stream) := by
    intro other pipe htaken hfollows
    by_cases hstream : stream = other
    · subst hstream
      rw [pipes_withPipe]
      exact ⟨htaken, hfollows⟩
    · rw [pipes_withPipe_of_ne hstream]
      exact ⟨rfl, fun _ _ hthis => hthis⟩
  cases hmove with
  | elapses later_le => exact ⟨rfl, fun _ _ h => h⟩
  | fails message starting => exact ⟨rfl, fun _ _ h => h⟩
  | reports failing held => exact hwith _ _ rfl fun _ _ h => h.write held _
  | quits failing => exact ⟨rfl, fun _ _ h => h.close⟩
  | givesUp failing fails => exact ⟨rfl, fun _ _ h => h.close⟩
  | killed number early => exact ⟨rfl, fun _ _ h => h.close⟩
  | executes starting => exact hwith _ _ rfl fun _ _ h => h.close
  | ends status executed plain => exact ⟨rfl, fun _ _ h => h⟩
  | writes other items ran output held => exact hwith _ _ rfl fun _ _ h => h.write held items
  | closes other ran output => exact hwith _ _ rfl fun _ _ h => h.close

theorem clock_move (hmove : ChildMove mayFail host after) : host.now ≤ after.now ∧ after.polls = host.polls := by
  cases hmove with
  | elapses later_le => exact ⟨later_le, rfl⟩
  | _ => exact ⟨le_refl _, rfl⟩

/-- A child that was waited for does not end again. -/
theorem atExit_move (hphase : host.phase = .reaped status) (hmove : ChildMove mayFail host after) :
    after.atExit = host.atExit := by
  cases hmove with
  | quits failing => cases hphase.symm.trans failing
  | givesUp failing fails => cases hphase.symm.trans failing
  | killed number early => rcases early with early | ⟨_, _, early⟩ <;> cases hphase.symm.trans early
  | ends status executed plain => cases hphase.symm.trans executed
  | _ => rfl

namespace RunnerState

variable {state : RunnerState} {stream other : RunnerStream} {capture : Capture UInt8}

@[simp] theorem capture_withCapture (state : RunnerState) (stream : RunnerStream) (capture : Capture UInt8) :
    (state.withCapture stream capture).capture stream = capture := by
  cases stream <;> rfl

@[simp] theorem withCapture_capture (state : RunnerState) (stream : RunnerStream) :
    state.withCapture stream (state.capture stream) = state := by
  cases stream <;> rfl

theorem capture_withCapture_of_ne (h : other ≠ stream) :
    (state.withCapture stream capture).capture other = state.capture other := by
  cases stream <;> cases other <;> first | rfl | exact absurd rfl h

end RunnerState

section Standing

variable {progress next : Progress} {captureStdout : Bool} {maximumStdoutSize : Nat} {state : RunnerState}
  {stream : RunnerStream}

theorem Stands.move (h : Stands mayFail progress captureStdout maximumStdoutSize state host)
    (hmove : ChildMove mayFail host after) :
    Stands mayFail progress captureStdout maximumStdoutSize state after where
  story := h.story.move hmove
  stage := (stage_move hmove).trans h.stage
  follows stream hstream := (pipe_move hmove stream).2 _ _ (h.follows stream hstream)
  unused := h.unused
  drained stream hstream := by
    obtain ⟨⟨status, hstage⟩, hshown⟩ := h.drained stream hstream
    rw [(pipe_move hmove stream).1, atExit_move (phase_of_stage (h.stage.trans hstage)) hmove]
    exact ⟨⟨status, hstage⟩, hshown⟩
  polls := (clock_move hmove).2 ▸ h.polls
  since := h.since.trans (clock_move hmove).1

theorem Stands.moves (h : Stands mayFail progress captureStdout maximumStdoutSize state host)
    (hmoves : ReflTransGen (ChildMove mayFail) host after) :
    Stands mayFail progress captureStdout maximumStdoutSize state after := by
  induction hmoves with
  | refl => exact h
  | tail _ hmove ih => exact ih.move hmove

theorem taken_moves (hmoves : ReflTransGen (ChildMove mayFail) host after) (stream : RunnerStream) :
    (after.pipes stream).taken = (host.pipes stream).taken := by
  induction hmoves with
  | refl => rfl
  | tail _ hmove ih => exact (pipe_move hmove stream).1.trans ih

/-- A call: the child may do anything before it is answered. -/
theorem Stands.ask {α : Type} {request : RunnerCall} {rest : RunnerAnswer request → RunnerProgram α}
    {post : α → ChildHost → Prop} (h : Stands mayFail progress captureStdout maximumStdoutSize state host)
    (hguard : request.namesChild = true → progress.stage = .waiting)
    (hanswer : ∀ middle answer after, ReflTransGen (ChildMove mayFail) host middle →
      Stands mayFail progress captureStdout maximumStdoutSize state middle →
      ChildAnswers mayFail middle request answer after →
      Safe (childEnvironment mayFail) Guarded post (rest answer) after) :
    Safe (childEnvironment mayFail) Guarded post (.call request rest) host := by
  rintro answer after ⟨middle, hmoves, hanswered⟩
  exact ⟨fun hrequest => h.stage.trans (hguard hrequest), hanswer middle answer after hmoves (h.moves hmoves) hanswered⟩

/-- A read of one of the pipes, with what is kept of it. -/
theorem Stands.read (h : Stands mayFail progress captureStdout maximumStdoutSize state host)
    (hpresent : progress.stage ≠ .before)
    (hstream : stream ∈ runnerStreams captureStdout) {size : Nat} {reading : PipeRead UInt8} {pipe : Pipe UInt8}
    (hread : (host.pipes stream).Reads size reading pipe) {capture : Capture UInt8}
    (hcapture : capture.Follows (captureLimit maximumStdoutSize stream) pipe) :
    Stands mayFail progress captureStdout maximumStdoutSize (state.withCapture stream capture)
      (host.withPipe stream pipe) where
  story := h.story.read (h.stage ▸ hpresent) hread.written
  stage := h.stage
  follows other hother := by
    by_cases hsame : other = stream
    · subst hsame
      rw [RunnerState.capture_withCapture, pipes_withPipe]
      exact hcapture
    · rw [RunnerState.capture_withCapture_of_ne hsame, pipes_withPipe_of_ne hsame]
      exact h.follows other hother
  unused hunused := by
    subst hunused
    cases stream with
    | standardError => exact h.unused rfl
    | standardOutput => cases hstream with
      | tail _ hstream => cases hstream with
        | tail _ hstream => cases hstream
    | childFailure => exact h.unused rfl
  drained other hother := by
    obtain ⟨hstage, hshown⟩ := h.drained other hother
    refine ⟨hstage, ?_⟩
    by_cases hsame : other = stream
    · subst hsame
      rw [pipes_withPipe]
      exact hshown.trans hread.taken_prefix
    · rw [pipes_withPipe_of_ne hsame]
      exact hshown
  polls := h.polls
  since := h.since

/-- Another pipe was read up to what was in it when the child ended. -/
def Progress.drain (progress : Progress) (stream : RunnerStream) : Progress :=
  { progress with drained := stream :: progress.drained }

theorem Stands.drain (h : Stands mayFail progress captureStdout maximumStdoutSize state host)
    (hstage : progress.stage = .reaped status) (htaken : (host.pipes stream).taken = (host.pipes stream).written) :
    Stands mayFail (progress.drain stream) captureStdout maximumStdoutSize state host where
  story := h.story
  stage := h.stage
  follows := h.follows
  unused := h.unused
  drained other hother := by
    rcases List.mem_cons.mp hother with rfl | hother
    · refine ⟨⟨status, hstage⟩, ?_⟩
      rw [htaken]
      exact (h.story.of_ended (Or.inr (phase_of_stage (h.stage.trans hstage)))).shown _
    · exact h.drained other hother
  polls := h.polls
  since := h.since

end Standing

/-! ### Draining -/

section Draining

variable {turns : Nat} {progress next : Progress} {captureStdout drainCompletely : Bool} {maximumStdoutSize : Nat}
  {state : RunnerState} {stream : RunnerStream}

/-- Some pipe has delivered a byte for each turn. -/
def Flooded (turns : Nat) (host : ChildHost) : Prop := ∃ stream, turns ≤ (host.pipes stream).taken.length

/-- How reads of pipes end. -/
inductive DrainPost (mayFail : Prop) (turns : Nat) (progress next : Progress) (captureStdout : Bool)
    (maximumStdoutSize : Nat) : Option DrainResult → ChildHost → Prop
  | endless {host : ChildHost} (flooded : Flooded turns host) :
      DrainPost mayFail turns progress next captureStdout maximumStdoutSize none host
  | failed {host : ChildHost} {state : RunnerState} {error : Int} (fails : mayFail)
      (stands : Stands mayFail progress captureStdout maximumStdoutSize state host) :
      DrainPost mayFail turns progress next captureStdout maximumStdoutSize (some (state, some error)) host
  | drained {host : ChildHost} {state : RunnerState}
      (stands : Stands mayFail next captureStdout maximumStdoutSize state host) :
      DrainPost mayFail turns progress next captureStdout maximumStdoutSize (some (state, none)) host

/-- What complete reads of a pipe add: it is drained where the child was waited for. -/
inductive Drains (progress : Progress) (stream : RunnerStream) : Bool → Progress → Prop
  | some {drainCompletely : Bool} : Drains progress stream drainCompletely progress
  | all {status : WaitStatus} (stage : progress.stage = .reaped status) :
      Drains progress stream true (progress.drain stream)

/-- The end of complete reads. -/
theorem Drains.stands (hdrains : Drains progress stream drainCompletely next)
    (h : Stands mayFail progress captureStdout maximumStdoutSize state host)
    (htaken : drainCompletely = true → (host.pipes stream).taken = (host.pipes stream).written) :
    Stands mayFail next captureStdout maximumStdoutSize state host := by
  cases hdrains with
  | some => exact h
  | all stage => exact h.drain stage (htaken rfl)

theorem Stands.exhausted (h : Stands mayFail progress captureStdout maximumStdoutSize state host)
    (hstream : stream ∈ runnerStreams captureStdout) (hclosed : (state.capture stream).pipeOpen = false) :
    (host.pipes stream).taken = (host.pipes stream).written :=
  ((h.follows stream hstream).ended hclosed).taken_eq

/-- A read that takes nothing. -/
theorem Stands.paused (h : Stands mayFail progress captureStdout maximumStdoutSize state host)
    (hpresent : progress.stage ≠ .before) (hstream : stream ∈ runnerStreams captureStdout) {size : Nat}
    {reading : PipeRead UInt8} {pipe : Pipe UInt8} (hread : (host.pipes stream).Reads size reading pipe)
    (hreading : ∀ items, reading ≠ .data items) :
    Stands mayFail progress captureStdout maximumStdoutSize state (host.withPipe stream pipe) := by
  have hsame := h.read hpresent hstream hread ((h.follows stream hstream).unchanged hread hreading)
  rwa [RunnerState.withCapture_capture] at hsame

theorem taken_withPipe {size : Nat} {reading : PipeRead UInt8} {pipe : Pipe UInt8}
    (hread : (host.pipes stream).Reads size reading pipe) (hreading : reading = .ended ∨ reading = .nothing) :
    ((host.withPipe stream pipe).pipes stream).taken = ((host.withPipe stream pipe).pipes stream).written := by
  rw [pipes_withPipe]
  exact hread.all_taken hreading

/-- A read that takes something takes a byte. -/
theorem taken_read (hmoves : ReflTransGen (ChildMove mayFail) host after) {round size : Nat} {bytes : Bytes}
    {pipe : Pipe UInt8}
    (hlength : round ≤ (host.pipes stream).taken.length) (hread : (after.pipes stream).Reads size (.data bytes) pipe) :
    round + 1 ≤ ((after.withPipe stream pipe).pipes stream).taken.length := by
  obtain ⟨hne, -, rest, -, rfl⟩ := hread
  have hpositive := List.length_pos_of_ne_nil hne
  rw [pipes_withPipe, List.length_append, taken_moves hmoves]
  omega

theorem safe_drainOutput (h : Stands mayFail progress captureStdout maximumStdoutSize state host)
    (hpresent : progress.stage ≠ .before) (hstream : stream ∈ runnerStreams captureStdout)
    (hdrains : Drains progress stream drainCompletely next) :
    Safe (childEnvironment mayFail) Guarded (DrainPost mayFail turns progress next captureStdout maximumStdoutSize)
      (drainOutput turns stream (captureLimit maximumStdoutSize stream) drainCompletely state) host := by
  have hround : ∀ (round : Nat) (current : RunnerState × Nat) (before : ChildHost),
      Stands mayFail progress captureStdout maximumStdoutSize current.1 before ∧
        round ≤ (before.pipes stream).taken.length →
      Safe (childEnvironment mayFail) Guarded
        (fun result after => result.elim
          (fun current => Stands mayFail progress captureStdout maximumStdoutSize current.1 after ∧
            round + 1 ≤ (after.pipes stream).taken.length)
          fun ended => DrainPost mayFail turns progress next captureStdout maximumStdoutSize (some ended) after)
        (drainOutputRead stream (captureLimit maximumStdoutSize stream) drainCompletely current) before := by
    rintro round ⟨state, reads⟩ before ⟨hstate, hlength⟩
    unfold drainOutputRead
    dsimp only
    split
    · rename_i hclosed
      rw [Bool.not_eq_true'] at hclosed
      exact .drained (hdrains.stands hstate fun _ => hstate.exhausted hstream hclosed)
    · rename_i hopen
      rw [Bool.not_eq_true', Bool.not_eq_false] at hopen
      refine hstate.ask (fun hrequest => by cases hrequest) ?_
      rintro middle reading after hmoves hmiddle ⟨hfails, pipe, hread, rfl⟩
      have hfollows := hmiddle.follows stream hstream
      cases reading with
      | data bytes =>
          have hkept := hmiddle.read hpresent hstream hread (hfollows.keep hopen hread)
          split
          · rename_i hsixteen
            rw [Bool.and_eq_true, Bool.not_eq_true'] at hsixteen
            exact .drained (hdrains.stands hkept fun hall => absurd (hsixteen.1.symm.trans hall) (by decide))
          · exact ⟨hkept, taken_read hmoves hlength hread⟩
      | ended =>
          have hended := hmiddle.read hpresent hstream hread (hfollows.ended_read hread)
          exact .drained (hdrains.stands hended fun _ => taken_withPipe hread (Or.inl rfl))
      | nothing =>
          have hpaused := hmiddle.paused hpresent hstream hread fun _ h => by cases h
          exact .drained (hdrains.stands hpaused fun _ => taken_withPipe hread (Or.inr rfl))
      | failed error =>
          exact .failed (hfails ⟨error, rfl⟩) (hmiddle.paused hpresent hstream hread fun _ h => by cases h)
  refine (safe_loop_counted hround 0 ⟨h, Nat.zero_le _⟩).imp ?_
  rintro (_ | ended) after hresult
  · obtain ⟨last, -, hlength⟩ := hresult
    exact .endless ⟨stream, (Nat.zero_add turns).symm.le.trans hlength⟩
  · exact hresult

/-- No more is taken of a report than there can be. -/
theorem Story.report_length (h : Story mayFail host) :
    (host.pipes .childFailure).written.length ≤ childFailureSize := by
  cases h with
  | absent phase ran pipes => rw [pipes]; exact Nat.zero_le _
  | starting phase ran report => rw [report]; exact Nat.zero_le _
  | failing phase ran report =>
      rw [← length_bytes, ← report]
      exact (List.prefix_append _ _).length_le
  | executed phase ran report => rw [report]; exact Nat.zero_le _
  | ended phase ended =>
      rcases ended.fate with ⟨-, hnone, -⟩ | ⟨-, ⟨-, message, hpart⟩ | ⟨-, message, hwhole | ⟨-, hpart⟩⟩⟩
      · rw [hnone]; exact Nat.zero_le _
      · exact hpart.length_le.trans (length_bytes message).le
      · rw [hwhole]; exact (length_bytes message).le
      · exact hpart.length_le.trans (length_bytes message).le

theorem safe_drainChildFailure (h : Stands mayFail progress captureStdout maximumStdoutSize state host)
    (hpresent : progress.stage ≠ .before) (hdrains : Drains progress .childFailure drainCompletely next) :
    Safe (childEnvironment mayFail) Guarded (DrainPost mayFail turns progress next captureStdout maximumStdoutSize)
      (drainChildFailure turns state) host := by
  have hstream := childFailure_mem_runnerStreams captureStdout
  have hround : ∀ (round : Nat) (state : RunnerState) (before : ChildHost),
      Stands mayFail progress captureStdout maximumStdoutSize state before ∧
        round ≤ (before.pipes .childFailure).taken.length →
      Safe (childEnvironment mayFail) Guarded
        (fun result after => result.elim
          (fun state => Stands mayFail progress captureStdout maximumStdoutSize state after ∧
            round + 1 ≤ (after.pipes .childFailure).taken.length)
          fun ended => DrainPost mayFail turns progress next captureStdout maximumStdoutSize (some ended) after)
        (drainChildFailureRead state) before := by
    rintro round state before ⟨hstate, hlength⟩
    unfold drainChildFailureRead
    dsimp only
    split
    · rename_i hleft
      rw [Bool.or_eq_true, Bool.not_eq_true', decide_eq_true_eq] at hleft
      refine .drained (hdrains.stands hstate fun _ => ?_)
      rcases hleft with hclosed | hfull
      · exact hstate.exhausted hstream hclosed
      · -- a whole report is all that was written
        have hkept : state.childFailure.captured = _ := (hstate.follows _ hstream).kept
        have hwritten := hstate.story.report_length
        rw [hkept, List.length_take] at hfull
        rw [Pipe.written, List.length_append] at hwritten
        have hunread : (before.pipes .childFailure).unread = [] := List.eq_nil_of_length_eq_zero (by omega)
        rw [Pipe.written, hunread, List.append_nil]
    · rename_i hopen
      rw [Bool.or_eq_true, Bool.not_eq_true', not_or, Bool.not_eq_false] at hopen
      refine hstate.ask (fun hrequest => by cases hrequest) ?_
      rintro middle reading after hmoves hmiddle ⟨hfails, pipe, hread, rfl⟩
      have hfollows := hmiddle.follows _ hstream
      cases reading with
      | data bytes =>
          have hkept := hmiddle.read hpresent hstream hread (hfollows.keep hopen.1 hread)
          exact ⟨hkept, taken_read hmoves hlength hread⟩
      | ended =>
          have hended := hmiddle.read hpresent hstream hread (hfollows.ended_read hread)
          exact .drained (hdrains.stands hended fun _ => taken_withPipe hread (Or.inl rfl))
      | nothing =>
          have hpaused := hmiddle.paused hpresent hstream hread fun _ h => by cases h
          exact .drained (hdrains.stands hpaused fun _ => taken_withPipe hread (Or.inr rfl))
      | failed error =>
          exact .failed (hfails ⟨error, rfl⟩) (hmiddle.paused hpresent hstream hread fun _ h => by cases h)
  refine (safe_loop_counted hround 0 ⟨h, Nat.zero_le _⟩).imp ?_
  rintro (_ | ended) after hresult
  · obtain ⟨last, -, hlength⟩ := hresult
    exact .endless ⟨.childFailure, (Nat.zero_add turns).symm.le.trans hlength⟩
  · exact hresult

/-- Nothing is read of a pipe that was not made. -/
theorem safe_drainOutput_unused (h : Stands mayFail progress false maximumStdoutSize state host) (limit : Nat) :
    Safe (childEnvironment mayFail) Guarded (DrainPost mayFail turns progress progress false maximumStdoutSize)
      (drainOutput turns .standardOutput limit drainCompletely state) host := by
  cases turns with
  | zero => exact .endless ⟨.standardOutput, Nat.zero_le _⟩
  | succ turns =>
      have hclosed : (state.capture .standardOutput).pipeOpen = false := congrArg Capture.pipeOpen (h.unused rfl)
      have hread : drainOutputRead .standardOutput limit drainCompletely (state, 0) = .done (.inr (state, none)) := by
        unfold drainOutputRead
        dsimp only
        rw [hclosed]
        rfl
      rw [drainOutput, loop, hread]
      exact .drained h

/-- What is known behind the drain of a pipe was known before it. -/
theorem Drains.forget (hdrains : Drains progress stream drainCompletely next)
    (h : Stands mayFail next captureStdout maximumStdoutSize state host) :
    Stands mayFail progress captureStdout maximumStdoutSize state host := by
  cases hdrains with
  | some => exact h
  | all stage => exact { h with drained := fun other hother => h.drained other (List.mem_cons_of_mem _ hother) }

theorem safe_andThen {middle : Progress} {first : RunnerProgram (Option DrainResult)}
    {rest : RunnerState → RunnerProgram (Option DrainResult)}
    (hforget : ∀ state after, Stands mayFail middle captureStdout maximumStdoutSize state after →
      Stands mayFail progress captureStdout maximumStdoutSize state after)
    (h : Safe (childEnvironment mayFail) Guarded
      (DrainPost mayFail turns progress middle captureStdout maximumStdoutSize) first host)
    (hrest : ∀ state after, Stands mayFail middle captureStdout maximumStdoutSize state after →
      Safe (childEnvironment mayFail) Guarded
        (DrainPost mayFail turns middle next captureStdout maximumStdoutSize) (rest state) after) :
    Safe (childEnvironment mayFail) Guarded (DrainPost mayFail turns progress next captureStdout maximumStdoutSize)
      (andThen first rest) host := by
  refine safe_bind (h.imp ?_)
  intro result after hresult
  cases hresult with
  | endless flooded => exact .endless flooded
  | failed fails stands => exact .failed fails stands
  | @drained _ state stands =>
      refine (hrest state _ stands).imp ?_
      intro result last hlast
      cases hlast with
      | endless flooded => exact .endless flooded
      | failed fails stands => exact .failed fails (hforget _ _ stands)
      | drained stands => exact .drained stands

theorem Drains.stage_eq (hdrains : Drains progress stream drainCompletely next) : next.stage = progress.stage := by
  cases hdrains <;> rfl

/-- The three pipes; where no output is captured the second one adds nothing. -/
theorem safe_drainPipes {first second : Progress}
    (h : Stands mayFail progress captureStdout maximumStdoutSize state host)
    (hpresent : progress.stage ≠ .before) (herror : Drains progress .standardError drainCompletely first)
    (houtput : Drains first .standardOutput drainCompletely second) (hunused : captureStdout = false → second = first)
    (hfailure : Drains second .childFailure drainCompletely next) :
    Safe (childEnvironment mayFail) Guarded (DrainPost mayFail turns progress next captureStdout maximumStdoutSize)
      (drainPipes turns maximumStdoutSize drainCompletely state) host := by
  have hfirst : first.stage ≠ .before := herror.stage_eq ▸ hpresent
  have hsecond : second.stage ≠ .before := houtput.stage_eq ▸ hfirst
  have hstream := standardError_mem_runnerStreams captureStdout
  refine safe_andThen (fun _ _ => herror.forget) (safe_drainOutput h hpresent hstream herror) fun state after hstate => ?_
  refine safe_andThen (fun _ _ => houtput.forget) ?_ fun state after hstate =>
    safe_drainChildFailure hstate hsecond hfailure
  cases captureStdout with
  | false =>
      rw [hunused rfl]
      exact safe_drainOutput_unused hstate _
  | true => exact safe_drainOutput hstate hfirst (by decide) houtput

theorem safe_drainPipes_partly (h : Stands mayFail progress captureStdout maximumStdoutSize state host)
    (hpresent : progress.stage ≠ .before) :
    Safe (childEnvironment mayFail) Guarded (DrainPost mayFail turns progress progress captureStdout maximumStdoutSize)
      (drainPipes turns maximumStdoutSize drainCompletely state) host :=
  safe_drainPipes h hpresent .some .some (fun _ => rfl) .some

/-- All pipes were read up to what was in them when the child ended. -/
def Progress.complete (progress : Progress) (captureStdout : Bool) : Progress :=
  { progress with drained := (runnerStreams captureStdout).reverse ++ progress.drained }

theorem safe_drainPipes_complete (h : Stands mayFail progress captureStdout maximumStdoutSize state host)
    (hstage : progress.stage = .reaped status) :
    Safe (childEnvironment mayFail) Guarded
      (DrainPost mayFail turns progress (progress.complete captureStdout) captureStdout maximumStdoutSize)
      (drainPipes turns maximumStdoutSize true state) host := by
  have hpresent : progress.stage ≠ .before := fun hbefore => by cases hstage.symm.trans hbefore
  cases captureStdout with
  | false => exact safe_drainPipes h hpresent (.all hstage) .some (fun _ => rfl) (.all hstage)
  | true => exact safe_drainPipes h hpresent (.all hstage) (.all hstage) (fun hfalse => by cases hfalse) (.all hstage)

end Draining

end NetLagLab.NetworkEnvironment.CommandRunner
