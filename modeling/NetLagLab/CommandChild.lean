import NetLagLab.CallRefinement
import NetLagLab.CommandRunner

/-! A command's child with the pipes to it, beside the program that runs the command. The child becomes the command or
reports why it does not, and ends at any time; what the command leaves running may still write to the pipes. -/

namespace NetLagLab.NetworkEnvironment.CommandRunner

open ByteLines CallPrograms CallPrograms.Program FixedWidth PipeReading Relation

/-! ### The child -/

inductive ChildPhase where
  | absent
  | starting
  /-- It does not become the command, and this is left of its report. -/
  | failing (message : ChildFailureMessage) (rest : Bytes)
  | executed
  | dead (status : WaitStatus)
  | reaped (status : WaitStatus)
  deriving DecidableEq

structure ChildHost where
  now : TimePoint := 0
  phase : ChildPhase := .absent
  /-- The child has become the command. -/
  ran : Bool := false
  pipes : RunnerStream → Pipe UInt8 := fun _ => {}
  /-- What had been written when the child ended. -/
  atExit : RunnerStream → Bytes := fun _ => []
  polls : Nat := 0

namespace ChildHost

def withPipe (host : ChildHost) (stream : RunnerStream) (pipe : Pipe UInt8) : ChildHost :=
  { host with pipes := Function.update host.pipes stream pipe }

def died (host : ChildHost) (status : WaitStatus) : ChildHost :=
  { host with phase := .dead status, atExit := fun stream => (host.pipes stream).written }

/-- Nobody but the child has an end to write to before it is the command. -/
def diedEarly (host : ChildHost) (status : WaitStatus) : ChildHost :=
  { host.died status with pipes := fun stream => (host.pipes stream).close }

end ChildHost

/-- What happens between two calls. Where calls may fail, the child's write of its report may too: it gives the rest up
then and ends as if it had reported. -/
inductive ChildMove (mayFail : Prop) : ChildHost → ChildHost → Prop
  | elapses {host : ChildHost} {later : TimePoint} (later_le : host.now ≤ later) :
      ChildMove mayFail host { host with now := later }
  | fails {host : ChildHost} (message : ChildFailureMessage) (starting : host.phase = .starting) :
      ChildMove mayFail host { host with phase := .failing message message.bytes }
  | reports {host : ChildHost} {message : ChildFailureMessage} {chunk rest : Bytes}
      (failing : host.phase = .failing message (chunk ++ rest)) (held : (host.pipes .childFailure).held = true) :
      ChildMove mayFail host
        { host.withPipe .childFailure ((host.pipes .childFailure).write chunk) with phase := .failing message rest }
  | quits {host : ChildHost} {message : ChildFailureMessage} (failing : host.phase = .failing message []) :
      ChildMove mayFail host (host.diedEarly (.exited 125))
  | givesUp {host : ChildHost} {message : ChildFailureMessage} {rest : Bytes}
      (failing : host.phase = .failing message rest) (fails : mayFail) :
      ChildMove mayFail host (host.diedEarly (.exited 125))
  | killed {host : ChildHost} (number : Int)
      (early : host.phase = .starting ∨ ∃ message rest, host.phase = .failing message rest) :
      ChildMove mayFail host (host.diedEarly (.signaled number))
  | executes {host : ChildHost} (starting : host.phase = .starting) :
      ChildMove mayFail host
        { host.withPipe .childFailure (host.pipes .childFailure).close with phase := .executed, ran := true }
  | ends {host : ChildHost} (status : WaitStatus) (executed : host.phase = .executed) (plain : status ≠ .other) :
      ChildMove mayFail host (host.died status)
  | writes {host : ChildHost} (stream : RunnerStream) (items : Bytes) (ran : host.ran = true)
      (output : stream ≠ .childFailure) (held : (host.pipes stream).held = true) :
      ChildMove mayFail host (host.withPipe stream ((host.pipes stream).write items))
  | closes {host : ChildHost} (stream : RunnerStream) (ran : host.ran = true) (output : stream ≠ .childFailure) :
      ChildMove mayFail host (host.withPipe stream (host.pipes stream).close)

/-- How the calls may be answered. Where calls may fail, any of them may. -/
def ChildAnswers (mayFail : Prop) : Environment RunnerCall RunnerAnswer ChildHost := fun host request =>
  match request with
  | .now => fun time after => time = host.now ∧ after = host
  | .makePipe _ => fun error after => (error.isSome = true → mayFail) ∧ after = host
  | .makeNonblocking _ => fun error after => (error.isSome = true → mayFail) ∧ after = host
  | .fork => fun error after =>
      (error = none ∧ after = { host with phase := .starting }) ∨ (error ≠ none ∧ mayFail ∧ after = host)
  | .read stream size => fun reading after => ((∃ error, reading = .failed error) → mayFail) ∧
      ∃ pipe, (host.pipes stream).Reads size reading pipe ∧ after = host.withPipe stream pipe
  | .tryWait => fun wait after =>
      (wait = .running ∧ after = host) ∨
      (∃ status, wait = .ended status ∧ host.phase = .dead status ∧ after = { host with phase := .reaped status }) ∨
      ∃ error, wait = .failed error ∧ mayFail ∧ after = host
  | .wait => fun wait after =>
      (∃ status, wait = .ok status ∧ host.phase = .dead status ∧ after = { host with phase := .reaped status }) ∨
      ∃ error, wait = .error error ∧ mayFail ∧ after = host
  | .kill => fun error after => (error.isSome = true → mayFail) ∧ after = host
  | .poll _ _ _ _ => fun error after => (error.isSome = true → mayFail) ∧ after = { host with polls := host.polls + 1 }

abbrev childEnvironment (mayFail : Prop) : Environment RunnerCall RunnerAnswer ChildHost :=
  interleaved (ChildMove mayFail) (ChildAnswers mayFail)

/-! ### What holds of the child at any time -/

/-- Whether there is a child that has not been waited for. -/
inductive Stage where
  | before
  | waiting
  | reaped (status : WaitStatus)
  deriving DecidableEq

def ChildPhase.stage : ChildPhase → Stage
  | .absent => .before
  | .reaped status => .reaped status
  | _ => .waiting

/-- The calls that name the child. -/
def RunnerCall.namesChild : RunnerCall → Bool
  | .tryWait => true
  | .wait => true
  | .kill => true
  | _ => false

/-- The child is signaled and waited for only while it is there: not before the fork, and not once it was waited for and
its number may be another process's. -/
def Guarded (step : Step RunnerCall RunnerAnswer ChildHost) : Prop :=
  step.request.namesChild = true → step.before.phase.stage = .waiting

variable {host after : ChildHost} {status : WaitStatus} {mayFail : Prop}

/-- An end: the child's report is empty where it became the command, and complete where it has quit and its writes have
not failed. -/
structure Ended (mayFail : Prop) (host : ChildHost) (status : WaitStatus) : Prop where
  shown : ∀ stream, host.atExit stream <+: (host.pipes stream).written
  report : host.atExit .childFailure = (host.pipes .childFailure).written
  fate : (host.ran = true ∧ (host.pipes .childFailure).written = [] ∧ status ≠ .other) ∨
    host.ran = false ∧ ((∃ number, status = .signaled number) ∧
        (∃ message : ChildFailureMessage, (host.pipes .childFailure).written <+: message.bytes) ∨
      status = .exited 125 ∧ ∃ message : ChildFailureMessage, (host.pipes .childFailure).written = message.bytes ∨
        mayFail ∧ (host.pipes .childFailure).written <+: message.bytes)

/-- What has happened so far, by the phase of the child. -/
inductive Story (mayFail : Prop) (host : ChildHost) : Prop
  | absent (phase : host.phase = .absent) (ran : host.ran = false) (pipes : ∀ stream, host.pipes stream = {})
  | starting (phase : host.phase = .starting) (ran : host.ran = false) (report : (host.pipes .childFailure).written = [])
  | failing {message : ChildFailureMessage} {rest : Bytes} (phase : host.phase = .failing message rest)
      (ran : host.ran = false) (report : (host.pipes .childFailure).written ++ rest = message.bytes)
  | executed (phase : host.phase = .executed) (ran : host.ran = true) (report : (host.pipes .childFailure).written = [])
  | ended {status : WaitStatus} (phase : host.phase = .dead status ∨ host.phase = .reaped status)
      (ended : Ended mayFail host status)

/-- The story of a child whose phase is known. -/
theorem Story.of_starting (h : Story mayFail host) (hphase : host.phase = .starting) :
    host.ran = false ∧ (host.pipes .childFailure).written = [] := by
  cases h with
  | starting phase ran report => exact ⟨ran, report⟩
  | absent phase => cases phase.symm.trans hphase
  | failing phase => cases phase.symm.trans hphase
  | executed phase => cases phase.symm.trans hphase
  | ended phase => rcases phase with phase | phase <;> cases phase.symm.trans hphase

theorem Story.of_failing (h : Story mayFail host) {message : ChildFailureMessage} {rest : Bytes}
    (hphase : host.phase = .failing message rest) :
    host.ran = false ∧ (host.pipes .childFailure).written ++ rest = message.bytes := by
  cases h with
  | failing phase ran report =>
      cases phase.symm.trans hphase
      exact ⟨ran, report⟩
  | absent phase => cases phase.symm.trans hphase
  | starting phase => cases phase.symm.trans hphase
  | executed phase => cases phase.symm.trans hphase
  | ended phase => rcases phase with phase | phase <;> cases phase.symm.trans hphase

theorem Story.of_executed (h : Story mayFail host) (hphase : host.phase = .executed) :
    host.ran = true ∧ (host.pipes .childFailure).written = [] := by
  cases h with
  | executed phase ran report => exact ⟨ran, report⟩
  | absent phase => cases phase.symm.trans hphase
  | starting phase => cases phase.symm.trans hphase
  | failing phase => cases phase.symm.trans hphase
  | ended phase => rcases phase with phase | phase <;> cases phase.symm.trans hphase

theorem Story.of_ended (h : Story mayFail host) (hphase : host.phase = .dead status ∨ host.phase = .reaped status) :
    Ended mayFail host status := by
  have hstatus : ∀ {earlier}, host.phase = .dead earlier ∨ host.phase = .reaped earlier → earlier = status := by
    rintro earlier (hearlier | hearlier) <;> rcases hphase with hphase | hphase <;>
      cases hearlier.symm.trans hphase <;> rfl
  cases h with
  | ended phase ended =>
      cases hstatus phase
      exact ended
  | absent phase => rcases hphase with hphase | hphase <;> cases phase.symm.trans hphase
  | starting phase => rcases hphase with hphase | hphase <;> cases phase.symm.trans hphase
  | failing phase => rcases hphase with hphase | hphase <;> cases phase.symm.trans hphase
  | executed phase => rcases hphase with hphase | hphase <;> cases phase.symm.trans hphase

@[simp] theorem pipes_withPipe (host : ChildHost) (stream : RunnerStream) (pipe : Pipe UInt8) :
    (host.withPipe stream pipe).pipes stream = pipe := Function.update_self _ _ _

theorem pipes_withPipe_of_ne {stream other : RunnerStream} (h : other ≠ stream) (pipe : Pipe UInt8) :
    (host.withPipe stream pipe).pipes other = host.pipes other := Function.update_of_ne h _ _

/-- A pipe to which more was written shows what it showed. -/
theorem Ended.withPipe (h : Ended mayFail host status) {stream : RunnerStream} {pipe : Pipe UInt8}
    (hwritten : (host.pipes stream).written <+: pipe.written)
    (hreport : stream = .childFailure → pipe.written = (host.pipes .childFailure).written) :
    Ended mayFail (host.withPipe stream pipe) status := by
  have hsame : ((host.withPipe stream pipe).pipes .childFailure).written = (host.pipes .childFailure).written := by
    by_cases hstream : RunnerStream.childFailure = stream
    · subst hstream
      rw [pipes_withPipe]
      exact hreport rfl
    · rw [pipes_withPipe_of_ne hstream]
  refine ⟨fun other => ?_, h.report.trans hsame.symm, ?_⟩
  · by_cases hother : other = stream
    · subst hother
      rw [pipes_withPipe]
      exact (h.shown other).trans hwritten
    · rw [pipes_withPipe_of_ne hother]
      exact h.shown other
  · rw [hsame]
    exact h.fate

/-- An early end. -/
theorem Story.diedEarly (message : ChildFailureMessage) (hran : host.ran = false)
    (hreport : (∃ number, status = .signaled number) ∧ (host.pipes .childFailure).written <+: message.bytes ∨
      status = .exited 125 ∧ ((host.pipes .childFailure).written = message.bytes ∨
        mayFail ∧ (host.pipes .childFailure).written <+: message.bytes)) : Story mayFail (host.diedEarly status) := by
  refine .ended (Or.inl rfl) ⟨fun stream => ?_, rfl, Or.inr ⟨hran, ?_⟩⟩
  · exact List.prefix_refl _
  · exact hreport.imp (And.imp_right fun h => ⟨message, h⟩) (And.imp_right fun h => ⟨message, h⟩)

/-- Another pipe of a command that has run. -/
theorem Story.output (h : Story mayFail host) {stream : RunnerStream} {pipe : Pipe UInt8} (hran : host.ran = true)
    (houtput : stream ≠ .childFailure) (hwritten : (host.pipes stream).written <+: pipe.written) :
    Story mayFail (host.withPipe stream pipe) := by
  have hother : (host.withPipe stream pipe).pipes .childFailure = host.pipes .childFailure :=
    pipes_withPipe_of_ne houtput.symm pipe
  cases h with
  | absent phase ran pipes => exact absurd (hran.symm.trans ran) (by decide)
  | starting phase ran report => exact absurd (hran.symm.trans ran) (by decide)
  | failing phase ran report => exact absurd (hran.symm.trans ran) (by decide)
  | executed phase ran report => exact .executed phase ran (by rw [hother]; exact report)
  | ended phase ended => exact .ended phase (ended.withPipe hwritten fun h => absurd h houtput)

/-- The clock and the polls are no part of the story. -/
theorem Story.clocked (h : Story mayFail host) (now : TimePoint) (polls : Nat) :
    Story mayFail { host with now, polls } := by
  cases h with
  | absent phase ran pipes => exact .absent phase ran pipes
  | starting phase ran report => exact .starting phase ran report
  | failing phase ran report => exact .failing phase ran report
  | executed phase ran report => exact .executed phase ran report
  | ended phase ended => exact .ended phase ⟨ended.shown, ended.report, ended.fate⟩

/-- What holds at any time is kept by what happens between two calls. -/
theorem Story.move (h : Story mayFail host) (hmove : ChildMove mayFail host after) : Story mayFail after := by
  cases hmove with
  | elapses later_le => exact h.clocked _ host.polls
  | fails message starting =>
      obtain ⟨hran, hreport⟩ := h.of_starting starting
      exact .failing rfl hran (by rw [hreport]; rfl)
  | @reports message chunk rest failing held =>
      obtain ⟨hran, hreport⟩ := h.of_failing failing
      have hpipe := pipes_withPipe host .childFailure ((host.pipes .childFailure).write chunk)
      refine .failing rfl hran ((congrArg (fun pipe => pipe.written ++ rest) hpipe).trans ?_)
      rw [Pipe.written_write, List.append_assoc]
      exact hreport
  | @quits message failing =>
      obtain ⟨hran, hreport⟩ := h.of_failing failing
      rw [List.append_nil] at hreport
      exact .diedEarly message hran (Or.inr ⟨rfl, Or.inl hreport⟩)
  | @givesUp message rest failing fails =>
      obtain ⟨hran, hreport⟩ := h.of_failing failing
      exact .diedEarly message hran (Or.inr ⟨rfl, Or.inr ⟨fails, rest, hreport⟩⟩)
  | killed number early =>
      rcases early with starting | ⟨message, rest, failing⟩
      · obtain ⟨hran, hreport⟩ := h.of_starting starting
        refine .diedEarly ⟨.execFailure, 0⟩ hran (Or.inl ⟨⟨number, rfl⟩, ?_⟩)
        rw [hreport]
        exact List.nil_prefix
      · obtain ⟨hran, hreport⟩ := h.of_failing failing
        exact .diedEarly message hran (Or.inl ⟨⟨number, rfl⟩, rest, hreport⟩)
  | executes starting =>
      have hpipe := pipes_withPipe host .childFailure (host.pipes .childFailure).close
      exact .executed rfl rfl ((congrArg Pipe.written hpipe).trans (h.of_starting starting).2)
  | ends status executed plain =>
      obtain ⟨hran, hreport⟩ := h.of_executed executed
      exact .ended (Or.inl rfl) ⟨fun stream => List.prefix_refl _, rfl, Or.inl ⟨hran, hreport, plain⟩⟩
  | writes stream items ran output held => exact h.output ran output (Pipe.written_prefix_write _ _)
  | closes stream ran output => exact h.output ran output (List.prefix_refl _)

/-- A read changes nothing of what was written. -/
theorem Story.read (h : Story mayFail host) {stream : RunnerStream} {pipe : Pipe UInt8}
    (hpresent : host.phase.stage ≠ .before) (hwritten : pipe.written = (host.pipes stream).written) :
    Story mayFail (host.withPipe stream pipe) := by
  have hreport : ((host.withPipe stream pipe).pipes .childFailure).written = (host.pipes .childFailure).written := by
    by_cases hstream : RunnerStream.childFailure = stream
    · subst hstream
      rw [pipes_withPipe, hwritten]
    · rw [pipes_withPipe_of_ne hstream]
  cases h with
  | absent phase => exact absurd (congrArg ChildPhase.stage phase) hpresent
  | starting phase ran report => exact .starting phase ran (hreport.trans report)
  | failing phase ran report => exact .failing phase ran (by rw [hreport]; exact report)
  | executed phase ran report => exact .executed phase ran (hreport.trans report)
  | ended phase ended =>
      exact .ended phase (ended.withPipe (by rw [hwritten]) fun hstream => by rw [hwritten, hstream])

/-- Nothing that happens between two calls waits for the child or makes one. -/
theorem stage_move (hmove : ChildMove mayFail host after) : after.phase.stage = host.phase.stage := by
  cases hmove with
  | elapses later_le => rfl
  | fails message starting => rw [starting]; rfl
  | reports failing held => rw [failing]; rfl
  | quits failing => rw [failing]; rfl
  | givesUp failing fails => rw [failing]; rfl
  | killed number early =>
      rcases early with early | ⟨message, rest, early⟩
      · rw [early]; rfl
      · rw [early]; rfl
  | executes starting => rw [starting]; rfl
  | ends status executed plain => rw [executed]; rfl
  | writes stream items ran output held => rfl
  | closes stream ran output => rfl

end NetLagLab.NetworkEnvironment.CommandRunner
