import NetLagLab.SupervisedSession

/-! The composed system as one machine: the Supervisor with its control plane, its conversation and its lifecycle, two
streams of bytes, and the helper with its conversation, the profile that its adapter has confirmed and the commands of the
last read that are still to be carried out. The supervision of the helper's program runs on this machine, so what holds
of its states holds of the two variables of that program wherever it is. -/

namespace NetLagLab

open ByteLines CallPrograms CallPrograms.Program HelperRuntimeConversation HelperSession NetworkEnvironment Relation

/-- Where the helper is. -/
inductive SupervisionPhase where
  /-- The Workload has not been launched. -/
  | starting
  /-- These commands of the last read are to be carried out. -/
  | carrying (commands : List HelperRuntimeCommand)
  /-- A change has been carried out, and its reply is to be sent. -/
  | replying (completion : ProfileChangeCompletion) (behind : List HelperRuntimeCommand)
  /-- A read was not acceptable, or there was no reply to a change. -/
  | refused
  /-- The end of the Workload has been reported, or that it was not launched. -/
  | ended
  /-- The cleanup has been reported. -/
  | cleaned
  deriving DecidableEq

structure ComposedSession where
  session : SupervisedSession
  supervision : Supervision := {}
  phase : SupervisionPhase := .starting

namespace SupervisedSession

/-- The helper sends a text. -/
def sending (session : SupervisedSession) (text : Bytes) : SupervisedSession :=
  { session with toSupervisor := session.toSupervisor ++ text, sent := session.sent ++ [text] }

end SupervisedSession

namespace ComposedSession

section Machine

variable [DecimalText]

/-- What the helper makes of a read. -/
def reading (composed : ComposedSession) (bytes rest : Bytes) : ComposedSession :=
  let received := composed.supervision.conversation.receiveBytes bytes
  { session := { composed.session with toHelper := rest }
    supervision := { composed.supervision with conversation := received.1 }
    phase := if received.2.valid then .carrying received.2.commands else .refused }

/-- The reply to a change, with the commands behind it. -/
def replied (composed : ComposedSession) (completion : ProfileChangeCompletion) (behind : List HelperRuntimeCommand) :
    ComposedSession :=
  let completed := composed.supervision.conversation.completeProfileChange completion
  match completed.2 with
  | none => { composed with phase := .refused }
  | some response =>
      { session := composed.session.sending response
        supervision := { composed.supervision with conversation := completed.1 }
        phase := .carrying behind }

theorem reading_of_valid {composed : ComposedSession} {bytes rest : Bytes}
    (h : (composed.supervision.conversation.receiveBytes bytes).2.valid = true) :
    composed.reading bytes rest = {
      session := { composed.session with toHelper := rest }
      supervision := { composed.supervision with conversation := (composed.supervision.conversation.receiveBytes bytes).1 }
      phase := .carrying (composed.supervision.conversation.receiveBytes bytes).2.commands } := by
  unfold reading
  dsimp only
  rw [if_pos h]

omit [DecimalText] in
theorem replied_of_some {composed : ComposedSession} {completion : ProfileChangeCompletion}
    {behind : List HelperRuntimeCommand} {response : Bytes}
    (h : (composed.supervision.conversation.completeProfileChange completion).2 = some response) :
    composed.replied completion behind = {
      session := composed.session.sending response
      supervision := { composed.supervision with
        conversation := (composed.supervision.conversation.completeProfileChange completion).1 }
      phase := .carrying behind } := by
  unfold replied
  dsimp only
  rw [h]

/-- A step of the Supervisor, or one of the helper: it launches the Workload, looks after the Workload and its socket,
reads, carries out the next command with any outcome, replies, or reports the end. -/
inductive Step : ComposedSession → ComposedSession → Prop
  | supervisor {composed : ComposedSession} {next : SupervisedSession}
      (moves : SupervisedSession.Moves composed.session next) : Step composed { composed with session := next }
  | activates {composed : ComposedSession} {pid : Int} (starting : composed.phase = .starting) (least : 1 ≤ pid)
      (most : pid ≤ 2 ^ 22) :
      Step composed
        { composed with
          session := composed.session.sending (helperConversationEventMessage (.activated pid))
          phase := .carrying [] }
  | fails {composed : ComposedSession} {result : Int} (starting : composed.phase = .starting) (least : 125 ≤ result)
      (most : result ≤ 127) :
      Step composed
        { composed with
          session := composed.session.sending (helperConversationEventMessage (.activationFailed result))
          phase := .ended }
  | looks {composed : ComposedSession} (idle : composed.phase = .carrying []) :
      Step composed { composed with session := { composed.session with running := composed.session.running + 1 } }
  | reads {composed : ComposedSession} {bytes rest : Bytes} (idle : composed.phase = .carrying [])
      (way : composed.session.toHelper = bytes ++ rest) : Step composed (composed.reading bytes rest)
  | stops {composed : ComposedSession} {command : HelperRuntimeCommand} {behind : List HelperRuntimeCommand}
      (next : composed.phase = .carrying (command :: behind)) (stop : command.isStop = true) :
      Step composed { composed with phase := .carrying behind }
  | applies {composed : ComposedSession} {change : ProfileChange} {behind : List HelperRuntimeCommand}
      {trace : List (CallPrograms.Step HelperCall HelperAnswer SupervisedSession)}
      {applied : ProfileChangeCompletion × NetworkProfile} {after : SupervisedSession}
      (next : composed.phase = .carrying (.profileChange change :: behind))
      (run : Path (interleaved SupervisedSession.Moves SupervisedSession.Answered)
        (applyChange composed.supervision.confirmed change) composed.session trace (.done applied) after) :
      Step composed
        { session := after
          supervision := { composed.supervision with confirmed := applied.2 }
          phase := .replying applied.1 behind }
  | replies {composed : ComposedSession} {completion : ProfileChangeCompletion} {behind : List HelperRuntimeCommand}
      (pending : composed.phase = .replying completion behind) : Step composed (composed.replied completion behind)
  | finishes {composed : ComposedSession} {status : WorkloadStatus} (idle : composed.phase = .carrying [])
      (possible : status.Possible) :
      Step composed
        { session := composed.session.sending (helperConversationEventMessage status.event)
          supervision := { composed.supervision with conversation := composed.supervision.conversation.finishWorkload }
          phase := .ended }
  | cleans {composed : ComposedSession} {event : HelperConversationEvent} (ended : composed.phase = .ended)
      (report : event.EndsCleanup) :
      Step composed
        { composed with session := composed.session.sending (helperConversationEventMessage event), phase := .cleaned }

/-- The helper is about to prepare its environment and the Supervisor to enter its loop. -/
def begun (childArguments : List Bytes) : ComposedSession where
  session := .begun childArguments

abbrev Reached (childArguments : List Bytes) : ComposedSession → Prop := ReflTransGen Step (begun childArguments)

/-! ### What holds in every state -/

/-- Everything is heard of a Workload that is gone, and what is confirmed then is this. -/
structure Settled (ledger : Ledger) (state : SupervisorState) (confirmed : NetworkProfile) : Prop where
  settled : ledger.link.settled = { state := state }
  profile : ledger.settledProfile = confirmed

/-- The helper's side of the invariant, phase by phase. -/
def Tallies (composed : ComposedSession) : Prop :=
  match composed.phase with
  | .starting => Beginning composed.session.ledger ∧ composed.supervision = {}
  | .carrying commands => ∃ running, Kept composed.session.ledger composed.supervision.conversation commands
      composed.supervision.confirmed running
  | .replying completion behind => ∃ change running, HelperSession.Carried composed.session.ledger
      composed.supervision.conversation behind change completion composed.supervision.confirmed running
  | .refused => False
  | .ended => Settled composed.session.ledger .waitingForCleanup composed.supervision.confirmed
  | .cleaned => Settled composed.session.ledger .finished composed.supervision.confirmed

structure Inv (composed : ComposedSession) : Prop where
  sound : composed.session.supervisor.Sound
  asks : composed.session.ledger.Asks
  tallies : composed.Tallies

section Steps

variable {composed after : ComposedSession} {ledger later : Ledger} {state next : SupervisorState}
  {confirmed : NetworkProfile}

theorem Settled.moves (h : Settled ledger state confirmed) (hidle : Idle state) (hmoves : LedgerMoves ledger later) :
    Settled later state confirmed := by
  induction hmoves with
  | refl => exact h
  | @tail middle later _ hmove ih =>
      have hbuffer : middle.link.settled.buffer = [] := by rw [ih.settled]
      have hgoing : middle.link.settled.state ≠ .failed := by
        rw [ih.settled]
        exact hidle.2
      have hquiet : middle.link.settled.state ≠ .active := by
        rw [ih.settled]
        exact hidle.1
      exact ⟨(settled_moves (.single hmove.link) hbuffer hgoing hquiet).trans ih.settled,
        (settledProfile_move hgoing hmove).trans ih.profile⟩

omit [DecimalText] in
/-- What is sent of a Workload that is gone confirms nothing. -/
theorem Settled.sent {text : Bytes} (h : Settled ledger state confirmed) (hnext : next ≠ .failed)
    (hsettled : (ledger.link.carrying text).settled = { state := next }) :
    Settled { ledger with link := ledger.link.carrying text } next confirmed := by
  refine ⟨hsettled, (settledProfile_sent ?_ ?_).trans h.profile⟩
  · rw [h.settled]
  · rw [hsettled]
    exact hnext

omit [DecimalText] in
/-- The cleanup is reported. -/
theorem Settled.cleaned {event : HelperConversationEvent} (h : Settled ledger .waitingForCleanup confirmed)
    (hevent : event.EndsCleanup) :
    Settled { ledger with link := ledger.link.carrying (helperConversationEventMessage event) } .finished confirmed := by
  have hline : ∃ line, helperConversationEventLine event = some line ∧
      helperConversationEventMessage event = line ++ [newline] ∧ newline ∉ line ∧
      line.length ≤ maximumHelperMessageSize := by
    rcases hevent with rfl | rfl
    · exact ⟨_, rfl, rfl, by decide, by decide⟩
    · exact ⟨_, rfl, rfl, by decide, by decide⟩
  obtain ⟨line, hline, hmessage, hnewline, hshort⟩ := hline
  have hreceived : ledger.link.settled.receiveLine line = ({ state := .finished }, event) := by
    rw [h.settled, SupervisorHelperConversation.receiveLine_cleanup rfl hevent hline]
  refine h.sent (fun hfailed => by cases hfailed) ?_
  rw [hmessage]
  refine settled_carrying ?_ ?_ hnewline hshort hreceived (fun hfailed => by cases hfailed)
  · rw [h.settled]
  · rw [h.settled]
    decide

theorem Tallies.moves {next : SupervisedSession} (h : composed.Tallies)
    (hmoves : LedgerMoves composed.session.ledger next.ledger) : Tallies { composed with session := next } := by
  obtain ⟨session, supervision, phase⟩ := composed
  cases phase with
  | starting => exact ⟨h.1.moves hmoves, h.2⟩
  | carrying commands =>
      obtain ⟨running, hkept⟩ := h
      exact ⟨running, hkept.moves hmoves⟩
  | replying completion behind =>
      obtain ⟨change, running, hcarried⟩ := h
      exact ⟨change, running, hcarried.moves hmoves⟩
  | refused => exact h
  | ended => exact Settled.moves h ⟨by decide, by decide⟩ hmoves
  | cleaned => exact Settled.moves h ⟨by decide, by decide⟩ hmoves

/-- The Workload is launched. -/
theorem Inv.activates {pid : Int} (h : composed.Inv) (hstarting : composed.phase = .starting) (hleast : 1 ≤ pid)
    (hmost : pid ≤ 2 ^ 22) :
    Inv { composed with
      session := composed.session.sending (helperConversationEventMessage (.activated pid))
      phase := .carrying [] } := by
  obtain ⟨session, supervision, phase⟩ := composed
  obtain rfl : phase = .starting := hstarting
  obtain ⟨hbeginning, hfresh⟩ := h.tallies
  obtain rfl : supervision = {} := hfresh
  have hstep : ledgerEnvironment session.ledger (.send (helperConversationEventMessage (.activated pid))) true
      (session.sending (helperConversationEventMessage (.activated pid))).ledger := ⟨_, .refl, ⟨rfl, rfl⟩, rfl, rfl⟩
  obtain ⟨-, -, hkept⟩ := hbeginning.activated hleast hmost true _ hstep
  exact ⟨h.sound, h.asks, 0, hkept⟩

/-- The preparation or the launch has failed. -/
theorem Inv.fails {result : Int} (h : composed.Inv) (hstarting : composed.phase = .starting) (hleast : 125 ≤ result)
    (hmost : result ≤ 127) :
    Inv { composed with
      session := composed.session.sending (helperConversationEventMessage (.activationFailed result))
      phase := .ended } := by
  obtain ⟨session, supervision, phase⟩ := composed
  obtain rfl : phase = .starting := hstarting
  obtain ⟨hbeginning, hfresh⟩ := h.tallies
  obtain rfl : supervision = {} := hfresh
  have hstep : ledgerEnvironment session.ledger (.send (helperConversationEventMessage (.activationFailed result))) true
      (session.sending (helperConversationEventMessage (.activationFailed result))).ledger :=
    ⟨_, .refl, ⟨rfl, rfl⟩, rfl, rfl⟩
  obtain ⟨-, -, hidling⟩ := safe_startFailed hbeginning.starting.stands hbeginning.idling hleast hmost true _ hstep
  have hbefore : Settled session.ledger .waitingForActivation {} := ⟨hbeginning.idling.settled, hbeginning.profile⟩
  exact ⟨h.sound, h.asks, hbefore.sent (fun hfailed => by cases hfailed) hidling.settled⟩

/-- A change is carried out, whatever the environment answers and whatever the Supervisor does meanwhile. -/
theorem Inv.applies {change : ProfileChange} {behind : List HelperRuntimeCommand}
    {trace : List (CallPrograms.Step HelperCall HelperAnswer SupervisedSession)}
    {applied : ProfileChangeCompletion × NetworkProfile} {session : SupervisedSession} (h : composed.Inv)
    (hnext : composed.phase = .carrying (.profileChange change :: behind))
    (hrun : Path (interleaved SupervisedSession.Moves SupervisedSession.Answered)
      (applyChange composed.supervision.confirmed change) composed.session trace (.done applied) session) :
    Inv {
      session
      supervision := { composed.supervision with confirmed := applied.2 }
      phase := .replying applied.1 behind } := by
  obtain ⟨before, supervision, phase⟩ := composed
  obtain rfl : phase = .carrying (.profileChange change :: behind) := hnext
  obtain ⟨running, hkept⟩ := h.tallies
  obtain ⟨hpath, hsound⟩ := SupervisedSession.refines.path hrun h.sound
  have hsafe := hkept.applyChange.invariant
    (fun step hstep _ (hbefore : step.before.Asks) => hbefore.step hstep) h.asks
  obtain ⟨-, hcarried, hasks⟩ := hsafe.path hpath
  exact ⟨hsound, hasks, change, running, hcarried⟩

/-- The reply to a change is sent. -/
theorem Inv.replies {completion : ProfileChangeCompletion} {behind : List HelperRuntimeCommand} (h : composed.Inv)
    (hpending : composed.phase = .replying completion behind) : Inv (composed.replied completion behind) := by
  obtain ⟨session, supervision, phase⟩ := composed
  obtain rfl : phase = .replying completion behind := hpending
  obtain ⟨change, running, hcarried⟩ := h.tallies
  rw [replied_of_some (hcarried.supervising.agrees.reply completion).1]
  exact ⟨h.sound, h.asks, running, hcarried.reply⟩

theorem Inv.step (h : composed.Inv) (hstep : Step composed after) : after.Inv := by
  cases hstep with
  | supervisor moves =>
      obtain ⟨hmoves, hsound⟩ := SupervisedSession.movesRefine _ _ h.sound moves
      exact ⟨hsound, h.asks.moves hmoves, h.tallies.moves hmoves⟩
  | activates starting least most => exact h.activates starting least most
  | fails starting least most => exact h.fails starting least most
  | looks idle =>
      obtain ⟨session, supervision, phase⟩ := composed
      obtain rfl : phase = .carrying [] := idle
      obtain ⟨running, hkept⟩ := h.tallies
      exact ⟨h.sound, h.asks, running + 1, hkept.counted⟩
  | @reads bytes rest idle way =>
      obtain ⟨session, supervision, phase⟩ := composed
      obtain rfl : phase = .carrying [] := idle
      obtain ⟨running, hkept⟩ := h.tallies
      obtain ⟨hvalid, hread⟩ := hkept.read way
      rw [reading_of_valid hvalid]
      exact ⟨h.sound, h.asks, running, hread⟩
  | @stops command behind next stop =>
      obtain ⟨session, supervision, phase⟩ := composed
      obtain rfl : phase = .carrying (command :: behind) := next
      obtain ⟨running, hkept⟩ := h.tallies
      exact ⟨h.sound, h.asks, running, (hkept.stop stop).2⟩
  | applies next run => exact h.applies next run
  | replies pending => exact h.replies pending
  | @finishes status idle possible =>
      obtain ⟨session, supervision, phase⟩ := composed
      obtain rfl : phase = .carrying [] := idle
      obtain ⟨running, hkept⟩ := h.tallies
      have hends := possible.endsWorkload
      exact ⟨h.sound, h.asks, (hkept.terminal hends).settled, hkept.terminal_profile hends⟩
  | @cleans event ended report =>
      obtain ⟨session, supervision, phase⟩ := composed
      obtain rfl : phase = .ended := ended
      exact ⟨h.sound, h.asks, Settled.cleaned h.tallies report⟩

theorem inv_begun (childArguments : List Bytes) : (begun childArguments).Inv where
  sound := SupervisorProcess.sound_begun childArguments
  asks := fun hsome => by cases hsome
  tallies := ⟨SupervisedSession.beginning_begun childArguments, rfl⟩

theorem Reached.inv {childArguments : List Bytes} (h : Reached childArguments composed) : composed.Inv := by
  induction h with
  | refl => exact inv_begun childArguments
  | tail _ hstep ih => exact ih.step hstep

/-- The Supervisor goes on. -/
theorem Reached.moves {childArguments : List Bytes} {session next : SupervisedSession} {state : Supervision}
    {phase : SupervisionPhase} (h : Reached childArguments ⟨session, state, phase⟩)
    (hmoves : ReflTransGen SupervisedSession.Moves session next) : Reached childArguments ⟨next, state, phase⟩ := by
  induction hmoves with
  | refl => exact h
  | tail _ hmove ih => exact ih.tail (.supervisor hmove)

/-! ### The two profiles -/

/-- What the helper has confirmed is what the Supervisor has, or that with the change that it waits for. -/
theorem Inv.profiles (h : composed.Inv) :
    composed.supervision.confirmed = composed.session.ledger.confirmed ∨ ∃ change,
      composed.session.ledger.link.supervisor.state = .active ∧
      composed.session.ledger.link.supervisor.pendingProfileChange = some change ∧
        composed.supervision.confirmed = composed.session.ledger.confirmed.changed change := by
  have hsettled : composed.session.ledger.settledProfile = composed.supervision.confirmed →
      composed.supervision.confirmed = composed.session.ledger.confirmed ∨ ∃ change,
        composed.session.ledger.link.supervisor.state = .active ∧
        composed.session.ledger.link.supervisor.pendingProfileChange = some change ∧
          composed.supervision.confirmed = composed.session.ledger.confirmed.changed change := by
    intro hprofile
    rw [← hprofile]
    exact settledProfile_cases h.asks
  obtain ⟨session, supervision, phase⟩ := composed
  have htallies := h.tallies
  cases phase with
  | starting =>
      obtain ⟨hbeginning, hfresh⟩ := htallies
      obtain rfl : supervision = {} := hfresh
      exact hsettled hbeginning.profile
  | carrying commands =>
      obtain ⟨running, hkept⟩ := htallies
      exact hsettled hkept.settled
  | replying completion behind =>
      obtain ⟨change, running, hcarried⟩ := htallies
      obtain ⟨hactive, hpending, hunheard⟩ := unheard_of_pending h.asks hcarried.pending
      have hconfirmed := hcarried.settled
      rw [hunheard] at hconfirmed
      by_cases happlied : completion = .applied
      · rw [if_pos happlied] at hconfirmed
        exact Or.inr ⟨change, hactive, hpending, hconfirmed⟩
      · rw [if_neg happlied] at hconfirmed
        exact Or.inl hconfirmed
  | refused => exact htallies.elim
  | ended => exact hsettled (Settled.profile htallies)
  | cleaned => exact hsettled (Settled.profile htallies)

/-- Whatever the Controllers and the terminal ask for, whatever the environment makes of the changes, and however the
frames are cut and the steps of the two sides interleave: with no change in flight the control plane shows the profile
that the helper's adapter has confirmed, and with one in flight that profile or the one before the change. -/
theorem confirmedProfile_reached {childArguments : List Bytes} {plane : ControllerControlPlane}
    (h : Reached childArguments composed)
    (hplane : composed.session.supervisor.adapter.session.controlPlane = some plane) :
    (plane.inFlightChange = none → composed.supervision.confirmed = plane.confirmedProfile) ∧
      ∀ change, plane.inFlightChange = some change → composed.supervision.confirmed = plane.confirmedProfile ∨
        composed.supervision.confirmed = plane.confirmedProfile.changed change := by
  have hinv := h.inv
  have hconfirmed : composed.session.ledger.confirmed = plane.confirmedProfile :=
    SessionAdapter.confirmedProfile_of_some hplane
  rcases hinv.profiles with hsame | ⟨change, hactive, hpending, hchanged⟩
  · rw [hconfirmed] at hsame
    exact ⟨fun _ => hsame, fun _ _ => Or.inl hsame⟩
  · rw [hconfirmed] at hchanged
    have hinFlight : plane.inFlightChange = some change :=
      (hinv.sound.disciplined.inv.inFlight hactive plane hplane).trans hpending
    rw [hinFlight]
    refine ⟨(fun hnone => by cases hnone), fun other hother => Or.inr ?_⟩
    rw [← Option.some.inj hother]
    exact hchanged

/-! ### What the helper reads -/

/-- The commands of the whole lines of a stream. -/
def streamCommands (stream : Bytes) : List HelperRuntimeCommand :=
  (splitLines stream).1.filterMap parseHelperRuntimeCommand

/-- The changes that the helper has yet to answer: those on their way to it, and the one that it has taken. -/
def unanswered (composed : ComposedSession) : Nat :=
  (streamCommands (composed.supervision.conversation.buffer ++ composed.session.toHelper)).countP (!·.isStop) +
    composed.supervision.conversation.pendingProfileChange.toList.length

theorem streamCommands_encodeLines {coming : List HelperRuntimeCommand}
    (hcanonical : ∀ command ∈ coming, command.Canonical) :
    streamCommands (encodeLines (coming.map (·.line))) = coming := by
  have hlines : ∀ line ∈ coming.map (·.line), newline ∉ line := by
    intro line hline
    obtain ⟨command, hcommand, rfl⟩ := List.mem_map.mp hline
    exact (helperRuntimeCommandMessage_spec (hcanonical command hcommand)).2.1
  have hsplit := splitAtMark_encodeMarked_append hlines []
  rw [List.append_nil] at hsplit
  rw [streamCommands, splitLines, encodeLines, hsplit, splitAtMark_nil, List.append_nil]
  clear hsplit hlines
  induction coming with
  | nil => rfl
  | cons command coming ih =>
      obtain ⟨hhead, htail⟩ := List.forall_mem_cons.mp hcanonical
      rw [List.map_cons, List.filterMap_cons_some (helperRuntimeCommandMessage_spec hhead).2.2.2, ih htail]

omit [DecimalText] in
theorem countP_stops {commands : List HelperRuntimeCommand} (h : ∀ command ∈ commands, command.isStop = true) :
    commands.countP (!·.isStop) = 0 := by
  refine List.countP_eq_zero.mpr fun command hcommand => ?_
  rw [h command hcommand]
  decide

/-- At most one change is on its way or taken. -/
theorem unanswered_of_agrees {link : HelperSession.Link} {conversation : HelperRuntimeConversation} {commands : List HelperRuntimeCommand}
    (h : Agrees link conversation commands) :
    (streamCommands (conversation.buffer ++ link.toHelper)).countP (!·.isStop) +
      conversation.pendingProfileChange.toList.length ≤ 1 := by
  obtain ⟨coming, hcanonical, hstream, howed⟩ := h.stream
  rw [hstream, streamCommands_encodeLines hcanonical]
  cases howed with
  | nothing settled pending stops quiet =>
      rw [countP_stops fun command hcommand => stops command (List.mem_append_right _ hcommand), pending]
      decide
  | @coming change sent behind settled active pending stopping delivered first stops quiet =>
      rw [first, List.countP_cons, countP_stops stops, pending]
      exact Nat.le_refl 1
  | delivered settled active pending first stops quiet =>
      rw [countP_stops fun command hcommand => stops command (List.mem_append_right _ hcommand), pending]
      exact Nat.le_refl 1

/-- Until the end of the Workload is reported at most one change is unanswered. -/
theorem Inv.unanswered (h : composed.Inv) (hended : composed.phase ≠ .ended) (hcleaned : composed.phase ≠ .cleaned) :
    composed.unanswered ≤ 1 := by
  obtain ⟨session, supervision, phase⟩ := composed
  have htallies := h.tallies
  cases phase with
  | starting =>
      obtain ⟨hbeginning, hfresh⟩ := htallies
      obtain rfl : supervision = {} := hfresh
      obtain ⟨stops, hstops, hstream, -⟩ := hbeginning.starting.stream
      have hstream : session.toHelper = encodeLines (stops.map (·.line)) := hstream
      unfold ComposedSession.unanswered
      rw [hstream, List.nil_append, streamCommands_encodeLines fun command hcommand => canonical_of_isStop
        (hstops command hcommand), countP_stops hstops]
      exact Nat.zero_le 1
  | carrying commands =>
      obtain ⟨running, hkept⟩ := htallies
      exact unanswered_of_agrees hkept.supervising.agrees
  | replying completion behind =>
      obtain ⟨change, running, hcarried⟩ := htallies
      exact unanswered_of_agrees hcarried.supervising.agrees
  | refused => exact htallies.elim
  | ended => exact absurd rfl hended
  | cleaned => exact absurd rfl hcleaned

theorem Inv.valid {bytes rest : Bytes} (h : composed.Inv) (hidle : composed.phase = .carrying [])
    (hway : composed.session.toHelper = bytes ++ rest) :
    (composed.supervision.conversation.receiveBytes bytes).2.valid = true := by
  obtain ⟨session, supervision, phase⟩ := composed
  obtain rfl : phase = .carrying [] := hidle
  obtain ⟨running, hkept⟩ := h.tallies
  exact (hkept.read hway).1

/-- Whatever is asked of the Supervisor and when, and however the stream of its commands is cut: what the helper reads
is acceptable and there is a reply to every change, no change goes out behind a stop, and until the end of the Workload
is reported no second change goes out while one is unanswered. -/
theorem receiveBytes_reached {childArguments : List Bytes} (h : Reached childArguments composed) :
    composed.phase ≠ .refused ∧
      (∀ bytes rest, composed.phase = .carrying [] → composed.session.toHelper = bytes ++ rest →
        (composed.supervision.conversation.receiveBytes bytes).2.valid = true) ∧
      (composed.session.supervisor.adapter.session.commands.Pairwise fun earlier behind =>
        earlier.isStop = true → behind.isStop = true) ∧
      (composed.phase ≠ .ended → composed.phase ≠ .cleaned → composed.unanswered ≤ 1) := by
  have hinv := h.inv
  refine ⟨fun hrefused => ?_, fun bytes rest hidle hway => hinv.valid hidle hway,
    hinv.sound.disciplined.obedient.ordered, hinv.unanswered⟩
  have htallies := hinv.tallies
  unfold Tallies at htallies
  rw [hrefused] at htallies
  exact htallies

end Steps

end Machine

section Sample

attribute [local instance] bitPatternText

/-- A Controller has asked for a delay, and the helper is about to read. -/
def asked : ComposedSession := ⟨SupervisedSession.askedSession, {}, .carrying []⟩

/-- The helper has read the change. -/
def taken : ComposedSession where
  session := { SupervisedSession.askedSession with toHelper := [] }
  supervision := { conversation := { pendingProfileChange := some (.setDelay .outbound 5) } }
  phase := .carrying [.profileChange (.setDelay .outbound 5)]

/-- The change has been carried out, and its reply is not sent yet. -/
def applied : ComposedSession where
  session := { taken.session with
    inForce := Function.update taken.session.inForce .outbound (some { delay := 5 }) }
  supervision := { taken.supervision with confirmed := NetworkProfile.changed {} (.setDelay .outbound 5) }
  phase := .replying .applied []

theorem reached_asked : Reached [ascii "sleep"] asked := by
  have hbegun : Reached [ascii "sleep"] (begun [ascii "sleep"]) := .refl
  have hlaunched : Reached [ascii "sleep"] ⟨SupervisedSession.launchedSession, {}, .carrying []⟩ :=
    hbegun.tail (.activates rfl (by decide) (by decide))
  exact hlaunched.moves SupervisedSession.moves_askedSession

theorem reached_taken : Reached [ascii "sleep"] taken := by
  have hway : asked.session.toHelper = asked.session.toHelper ++ [] := (List.append_nil _).symm
  have hreads := reached_asked.tail (.reads rfl hway)
  have hread : asked.supervision.conversation.receiveBytes asked.session.toHelper =
      ({ pendingProfileChange := some (.setDelay .outbound 5) }, ⟨true, [.profileChange (.setDelay .outbound 5)], none⟩) := by
    decide
  rw [reading_of_valid (congrArg (·.2.valid) hread), hread] at hreads
  exact hreads

theorem reached_applied : Reached [ascii "sleep"] applied := by
  have hshaped : interleaved SupervisedSession.Moves SupervisedSession.Answered taken.session
      (.setDirectionSettings .outbound { delay := 5 }) ShapingChangeResult.applied applied.session :=
    ⟨_, .refl, rfl, rfl, rfl, rfl⟩
  have hrun : Path (interleaved SupervisedSession.Moves SupervisedSession.Answered)
      (applyChange taken.supervision.confirmed (.setDelay .outbound 5)) taken.session _
      (.done (.applied, NetworkProfile.changed {} (.setDelay .outbound 5))) applied.session :=
    .step hshaped (.refl _ _)
  exact reached_taken.tail (.applies rfl hrun)

theorem receiveBytes_reached_asked :
    asked.session.toHelper = helperRuntimeCommandMessage (.profileChange (.setDelay .outbound 5)) ∧
      (asked.supervision.conversation.receiveBytes asked.session.toHelper).2.valid = true ∧ asked.unanswered ≤ 1 := by
  obtain ⟨-, hvalid, -, hunanswered⟩ := receiveBytes_reached reached_asked
  have hway : asked.session.toHelper = asked.session.toHelper ++ [] := (List.append_nil _).symm
  exact ⟨by decide, hvalid _ [] rfl hway, hunanswered (by decide) (by decide)⟩

theorem confirmedProfile_reached_applied :
    ∃ plane, applied.session.supervisor.adapter.session.controlPlane = some plane ∧
      plane.inFlightChange = some (.setDelay .outbound 5) ∧ applied.supervision.confirmed ≠ plane.confirmedProfile ∧
      applied.supervision.confirmed = plane.confirmedProfile.changed (.setDelay .outbound 5) := by
  have hsome : applied.session.supervisor.adapter.session.controlPlane.isSome = true := by decide
  obtain ⟨plane, hplane⟩ := Option.isSome_iff_exists.mp hsome
  have hboth : applied.session.supervisor.adapter.session.controlPlane.map
      (fun shown => (shown.inFlightChange, shown.confirmedProfile)) = some (some (.setDelay .outbound 5), {}) := by
    decide
  rw [hplane] at hboth
  obtain ⟨hinFlight, hconfirmed⟩ := Prod.mk.inj (Option.some.inj hboth)
  have hdiffers : applied.supervision.confirmed ≠ plane.confirmedProfile := by
    rw [hconfirmed]
    decide
  rcases (confirmedProfile_reached reached_applied hplane).2 _ hinFlight with hsame | hchanged
  · exact absurd hsame hdiffers
  · exact ⟨plane, hplane, hinFlight, hdiffers, hchanged⟩

end Sample

end ComposedSession

end NetLagLab
