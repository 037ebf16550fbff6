import NetLagLab.HelperLink

/-! The helper while the Workload runs. Every change that the Supervisor waits for is on its way to the helper, or is
being carried out; what the helper has settled with it, the conversation of the Supervisor has settled too. -/

namespace NetLagLab.HelperSession

open ByteLines CallPrograms CallPrograms.Program HelperRuntimeConversation

variable [DecimalText]

/-- What is owed of the delivered commands and of those that are coming. A change comes before every stop, and none is
owed once its reply is on its way. -/
inductive Owed (link : Link) (conversation : HelperRuntimeConversation) (commands coming : List HelperRuntimeCommand) :
    Prop
  | nothing (settled : link.settled.pendingProfileChange = none) (pending : conversation.pendingProfileChange = none)
      (stops : ∀ command ∈ commands ++ coming, command.isStop = true)
      (quiet : link.stopSent = false → commands ++ coming = [] ∧ conversation.stopping = false)
  | coming {change sent : ProfileChange} {behind : List HelperRuntimeCommand}
      (settled : link.settled.pendingProfileChange = some change) (active : link.settled.state = .active)
      (pending : conversation.pendingProfileChange = none) (stopping : conversation.stopping = false)
      (delivered : commands = []) (first : coming = .profileChange sent :: behind)
      (stops : ∀ command ∈ behind, command.isStop = true) (quiet : link.stopSent = false → behind = [])
  | delivered {change sent : ProfileChange} {behind : List HelperRuntimeCommand}
      (settled : link.settled.pendingProfileChange = some change) (active : link.settled.state = .active)
      (pending : conversation.pendingProfileChange = some sent) (first : commands = .profileChange sent :: behind)
      (stops : ∀ command ∈ behind ++ coming, command.isStop = true)
      (quiet : link.stopSent = false → behind ++ coming = [] ∧ conversation.stopping = false)

/-- The helper and the link agree, with these commands delivered and not yet carried out. -/
structure Agrees (link : Link) (conversation : HelperRuntimeConversation) (commands : List HelperRuntimeCommand) :
    Prop where
  valid : conversation.valid = true
  going : conversation.workloadFinished = false
  buffer : link.settled.buffer = []
  active : link.settled.state = .active ∨ link.settled.state = .profileStateUnknown
  known : link.settled.state = .active → conversation.profileStateUnknown = false
  stream : ∃ coming : List HelperRuntimeCommand, (∀ command ∈ coming, command.Canonical) ∧
    conversation.buffer ++ link.toHelper = encodeLines (coming.map (·.line)) ∧ Owed link conversation commands coming

variable {link after : Link} {conversation : HelperRuntimeConversation} {commands : List HelperRuntimeCommand}

theorem Agrees.settled_going (h : Agrees link conversation commands) : link.settled.state ≠ .failed := by
  rcases h.active with hstate | hstate <;> rw [hstate] <;> decide

/-! ### The Supervisor's moves -/

omit [DecimalText] in
/-- What is owed is a matter of what is settled and of whether a stop was sent. -/
theorem Owed.of_same {coming : List HelperRuntimeCommand} (h : Owed link conversation commands coming)
    (hsettled : after.settled = link.settled) (hstop : after.stopSent = link.stopSent) :
    Owed after conversation commands coming := by
  cases h with
  | nothing settled pending stops quiet =>
      exact .nothing (hsettled ▸ settled) pending stops (hstop ▸ quiet)
  | coming settled active pending stopping delivered first stops quiet =>
      exact .coming (hsettled ▸ settled) (hsettled ▸ active) pending stopping delivered first stops (hstop ▸ quiet)
  | delivered settled active pending first stops quiet =>
      exact .delivered (hsettled ▸ settled) (hsettled ▸ active) pending first stops (hstop ▸ quiet)

omit [DecimalText] in
theorem canonical_of_isStop {command : HelperRuntimeCommand} (h : command.isStop = true) : command.Canonical := by
  cases command with
  | profileChange change => exact nomatch h
  | _ => exact trivial

theorem Agrees.counting (h : Agrees link conversation commands) (running : Nat) :
    Agrees { link with running } conversation commands := by
  obtain ⟨coming, hcanonical, hstream, howed⟩ := h.stream
  exact ⟨h.valid, h.going, h.buffer, h.active, h.known, coming, hcanonical, hstream, howed.of_same rfl rfl⟩

/-- One more command on its way. -/
theorem encodeLines_command {stream : Bytes} {coming : List HelperRuntimeCommand} {command : HelperRuntimeCommand}
    (h : stream = encodeLines (coming.map (·.line))) (hcanonical : command.Canonical) :
    stream ++ helperRuntimeCommandMessage command = encodeLines ((coming ++ [command]).map (·.line)) := by
  rw [h, (helperRuntimeCommandMessage_spec hcanonical).1]
  simp [encodeLines]

theorem Agrees.move (h : Agrees link conversation commands) (hmove : SupervisorMove link after) :
    Agrees after conversation commands := by
  obtain ⟨coming, hcanonical, hstream, howed⟩ := h.stream
  cases hmove with
  | hears way =>
      have hsame := settled_hears way
      exact ⟨h.valid, h.going, hsame ▸ h.buffer, hsame ▸ h.active, hsame ▸ h.known, coming, hcanonical, hstream,
        howed.of_same hsame rfl⟩
  | @stops command stop =>
      have hcommand := canonical_of_isStop stop
      refine ⟨h.valid, h.going, h.buffer, h.active, h.known, coming ++ [command], ?_, ?_, ?_⟩
      · exact List.forall_mem_append.mpr ⟨hcanonical, List.forall_mem_singleton.mpr hcommand⟩
      · dsimp only
        rw [← List.append_assoc]
        exact encodeLines_command hstream hcommand
      · cases howed with
        | nothing settled pending stops quiet =>
            refine .nothing settled pending ?_ (fun hquiet => nomatch hquiet)
            rw [← List.append_assoc]
            exact List.forall_mem_append.mpr ⟨stops, List.forall_mem_singleton.mpr stop⟩
        | coming settled active pending stopping delivered first stops quiet =>
            refine .coming settled active pending stopping delivered (by rw [first]; rfl) ?_
              (fun hquiet => nomatch hquiet)
            exact List.forall_mem_append.mpr ⟨stops, List.forall_mem_singleton.mpr stop⟩
        | delivered settled active pending first stops quiet =>
            refine .delivered settled active pending first ?_ (fun hquiet => nomatch hquiet)
            rw [← List.append_assoc]
            exact List.forall_mem_append.mpr ⟨stops, List.forall_mem_singleton.mpr stop⟩
  | @changes change message next quiet begins =>
      rcases settled_changes h.buffer h.settled_going begins (link.toHelper ++ message) with
        ⟨hactive, hnone, hlegal, rfl, hsettled⟩ | ⟨hended, -⟩
      · have hquiet : commands ++ coming = [] ∧ conversation.stopping = false := by
          cases howed with
          | nothing settled pending stops silent => exact silent quiet
          | coming settled => exact nomatch hnone.symm.trans settled
          | delivered settled => exact nomatch hnone.symm.trans settled
        have hpending : conversation.pendingProfileChange = none := by
          cases howed with
          | nothing settled pending => exact pending
          | coming settled => exact nomatch hnone.symm.trans settled
          | delivered settled => exact nomatch hnone.symm.trans settled
        obtain ⟨⟨rfl, rfl⟩, hstopping⟩ := hquiet.imp_left List.append_eq_nil_iff.mp
        have hsent : (HelperRuntimeCommand.profileChange change.normalized).Canonical :=
          ProfileChange.canonical_normalized hlegal
        refine ⟨h.valid, h.going, hsettled ▸ h.buffer, hsettled ▸ h.active, hsettled ▸ h.known,
          [.profileChange change.normalized], List.forall_mem_singleton.mpr hsent, ?_, ?_⟩
        · rw [serializeProfileChange_normalized hlegal]
          dsimp only
          rw [← List.append_assoc]
          exact encodeLines_command hstream hsent
        · exact .coming (by rw [hsettled]) (hsettled ▸ hactive) hpending hstopping rfl rfl
            (fun _ hnone => nomatch hnone) (fun _ => rfl)
      · rcases hended with hstate | hstate <;> rcases h.active with hactive | hunknown <;> simp_all

theorem Agrees.moves (h : Agrees link conversation commands) (hmoves : SupervisorMoves link after) :
    Agrees after conversation commands := by
  induction hmoves with
  | refl => exact h
  | tail _ hmove ih => exact ih.move hmove

/-! ### What the helper reads -/

/-- Stops are taken in any state but the last. -/
theorem receiveLines_allStops (hgoing : conversation.workloadFinished = false) (stops : List HelperRuntimeCommand)
    (hstops : ∀ command ∈ stops, command.isStop = true) :
    conversation.receiveLines (stops.map (·.line)) =
      ({ conversation with stopping := conversation.stopping || !stops.isEmpty }, stops) := by
  induction stops generalizing conversation with
  | nil => simp [receiveLines]
  | cons command stops ih =>
      obtain ⟨hstop, hrest⟩ := List.forall_mem_cons.mp hstops
      obtain ⟨-, -, hshort, hparse⟩ := helperRuntimeCommandMessage_spec (canonical_of_isStop hstop)
      have hline : conversation.receiveLine command.line = some ({ conversation with stopping := true }, [command]) := by
        rw [receiveLine, hparse]
        cases command with
        | profileChange change => cases hstop
        | _ => simp [hgoing]
      have hnext : ({ conversation with stopping := true } : HelperRuntimeConversation).workloadFinished = false := hgoing
      rw [List.map_cons, receiveLines_valid_cons hshort hline, ih hnext hrest]
      simp

/-- A change is taken while none is pending and no stop has come. -/
theorem receiveLine_change {change : ProfileChange} (hcanonical : change.Canonical)
    (hgoing : conversation.workloadFinished = false) (hpending : conversation.pendingProfileChange = none)
    (hstopping : conversation.stopping = false) (hknown : conversation.profileStateUnknown = false) :
    conversation.receiveLine change.line =
      some ({ conversation with pendingProfileChange := some change }, [.profileChange change]) := by
  rw [receiveLine, parseHelperRuntimeCommand_line hcanonical]
  simp [hgoing, hpending, hstopping, hknown]

/-- The lines of a read are the first of the commands that are coming, and they are delivered. -/
theorem Owed.lines {first second : List HelperRuntimeCommand} (howed : Owed link conversation [] (first ++ second))
    (hcanonical : ∀ command ∈ first, command.Canonical) (hgoing : conversation.workloadFinished = false)
    (hknown : link.settled.state = .active → conversation.profileStateUnknown = false) :
    ∃ next : HelperRuntimeConversation, conversation.receiveLines (first.map (·.line)) = (next, first) ∧
      next.valid = conversation.valid ∧ next.workloadFinished = false ∧
      next.profileStateUnknown = conversation.profileStateUnknown ∧
      ∀ buffer, Owed link { next with buffer } first second := by
  cases howed with
  | nothing settled pending stops quiet =>
      rw [List.nil_append] at stops quiet
      have hfirst := receiveLines_allStops hgoing first fun command hmem => stops command (List.mem_append_left _ hmem)
      refine ⟨_, hfirst, rfl, hgoing, rfl, fun buffer => .nothing settled pending stops fun hquiet => ?_⟩
      obtain ⟨hnone, hstopping⟩ := quiet hquiet
      refine ⟨hnone, ?_⟩
      dsimp only
      rw [hstopping, (List.append_eq_nil_iff.mp hnone).1]
      rfl
  | @coming change sent behind settled active pending stopping delivered hfirst stops quiet =>
      cases first with
      | nil => exact ⟨conversation, rfl, rfl, hgoing, rfl, fun buffer =>
          .coming settled active pending stopping rfl hfirst stops quiet⟩
      | cons command first =>
          obtain ⟨rfl, rfl⟩ := List.cons.inj hfirst
          have hsent := hcanonical _ List.mem_cons_self
          have hline := receiveLine_change hsent hgoing pending stopping (hknown active)
          have hmore := receiveLines_allStops
            (show ({ conversation with pendingProfileChange := some sent } :
              HelperRuntimeConversation).workloadFinished = false from hgoing) first
            fun command hmem => stops command (List.mem_append_left _ hmem)
          have hlines : conversation.receiveLines ((.profileChange sent :: first : List HelperRuntimeCommand).map (·.line)) =
              ({ conversation with
                  pendingProfileChange := some sent
                  stopping := conversation.stopping || !first.isEmpty }, .profileChange sent :: first) := by
            refine (receiveLines_valid_cons (length_line_le hsent) hline).trans ?_
            rw [hmore]
            rfl
          refine ⟨_, hlines, rfl, hgoing, rfl, fun buffer => .delivered settled active rfl rfl stops fun hquiet => ?_⟩
          have hnone := quiet hquiet
          refine ⟨hnone, ?_⟩
          dsimp only
          rw [stopping, (List.append_eq_nil_iff.mp hnone).1]
          rfl
  | delivered settled active pending first => exact nomatch first

/-- What is read is acceptable, whatever piece of it arrives. -/
theorem Agrees.read (h : Agrees link conversation []) {bytes rest : Bytes} (hway : link.toHelper = bytes ++ rest) :
    (conversation.receiveBytes bytes).2.valid = true ∧
      Agrees { link with toHelper := rest } (conversation.receiveBytes bytes).1
        (conversation.receiveBytes bytes).2.commands := by
  obtain ⟨coming, hcanonical, hstream, howed⟩ := h.stream
  have hpieces : ∀ piece ∈ coming.map (·.line), newline ∉ piece ∧ piece.length ≤ maximumHelperMessageSize := by
    intro piece hpiece
    obtain ⟨command, hcommand, rfl⟩ := List.mem_map.mp hpiece
    obtain ⟨-, hnewline, hshort, -⟩ := helperRuntimeCommandMessage_spec (hcanonical command hcommand)
    exact ⟨hnewline, hshort⟩
  rw [hway, ← List.append_assoc] at hstream
  obtain ⟨more, hlines, hrest⟩ := splitAtMark_of_append_eq (fun piece hpiece => (hpieces piece hpiece).1) hstream
  obtain ⟨first, second, rfl, hfirst, rfl⟩ := List.map_eq_append_iff.mp hlines
  obtain ⟨hcanonicalFirst, hcanonicalSecond⟩ := List.forall_mem_append.mp hcanonical
  obtain ⟨next, hnext, hvalid, hgoing, hunknown, howed'⟩ := howed.lines hcanonicalFirst h.going h.known
  have hshort : (splitLines (conversation.buffer ++ bytes)).2.length ≤ maximumHelperMessageSize := by
    refine length_le_of_append_eq (notMem_splitAtMark_snd _) (fun piece hpiece => ?_) hrest
    rw [List.map_append] at hpieces
    exact (hpieces piece (List.mem_append_right _ hpiece)).2
  have hnotInvalid : ∀ {left : Bool}, left = true → ¬ left = false := by
    rintro _ rfl
    exact Bool.noConfusion
  have hread : conversation.receiveBytes bytes =
      ({ next with buffer := (splitLines (conversation.buffer ++ bytes)).2 }, ⟨true, first, none⟩) := by
    rw [receiveBytes, if_neg (hnotInvalid h.valid)]
    dsimp only
    rw [← hfirst, hnext, if_neg (hnotInvalid (hvalid.trans h.valid)), if_neg (Nat.not_lt.mpr hshort)]
  rw [hread]
  refine ⟨rfl, hvalid.trans h.valid, hgoing, h.buffer, h.active, fun hactive => hunknown.trans (h.known hactive),
    second, hcanonicalSecond, hrest, ?_⟩
  exact (howed' _).of_same rfl rfl

/-! ### What the helper sends -/

def cleanupOkMessage : Bytes := helperConversationEventMessage .cleanupSucceeded

/-- A text that has been sent. -/
def Link.carrying (link : Link) (text : Bytes) : Link :=
  { link with toSupervisor := link.toSupervisor ++ text, sent := link.sent ++ [text] }

omit [DecimalText] in
/-- A frame has its effect as soon as it is sent. -/
theorem settled_carrying {line : Bytes} {next : SupervisorHelperConversation} {event : HelperConversationEvent}
    (hbuffer : link.settled.buffer = []) (hgoing : link.settled.state ≠ .failed) (hline : newline ∉ line)
    (hshort : line.length ≤ maximumHelperMessageSize) (hnext : link.settled.receiveLine line = (next, event))
    (hheard : next.state ≠ .failed) :
    (link.carrying (line ++ [newline])).settled = { next with buffer := [] } := by
  refine Eq.trans ?_ (SupervisorHelperConversation.receiveBytes_line hbuffer hgoing hline hshort hnext hheard)
  exact SupervisorHelperConversation.receiveBytes_append _ _

/-- The reply to the change that is being carried out. -/
theorem Agrees.reply {sent : ProfileChange} {behind : List HelperRuntimeCommand}
    (h : Agrees link conversation (.profileChange sent :: behind)) (completion : ProfileChangeCompletion) :
    (conversation.completeProfileChange completion).2 = some (replyLine completion ++ [newline]) ∧
      Agrees (link.carrying (replyLine completion ++ [newline])) (conversation.completeProfileChange completion).1
        behind := by
  obtain ⟨coming, hcanonical, hstream, howed⟩ := h.stream
  cases howed with
  | nothing settled pending stops quiet => exact nomatch stops (.profileChange sent) (by simp)
  | coming settled active pending stopping delivered => exact nomatch delivered
  | @delivered change sent' behind' settled active pending first stops quiet =>
      obtain ⟨hsent, rfl⟩ := List.cons.inj first
      have hcomplete : conversation.completeProfileChange completion =
          ({ conversation with
              pendingProfileChange := none
              profileStateUnknown := conversation.profileStateUnknown || decide (completion = .stateUnknown) },
            some (replyLine completion ++ [newline])) := by
        rw [completeProfileChange, if_neg]
        rw [h.valid, h.going, pending]
        simp
      have hnext : ∃ next event, link.settled.receiveLine (replyLine completion) = (next, event) ∧
          next.pendingProfileChange = none ∧
          (next.state = .active ∧ completion ≠ .stateUnknown ∨ next.state = .profileStateUnknown) := by
        have hreply := SupervisorHelperConversation.receiveLine_reply active settled completion
        cases completion with
        | applied => exact ⟨_, _, hreply, rfl, Or.inl ⟨active, by decide⟩⟩
        | restoredAfterFailure => exact ⟨_, _, hreply, rfl, Or.inl ⟨active, by decide⟩⟩
        | stateUnknown => exact ⟨_, _, hreply, rfl, Or.inr rfl⟩
      obtain ⟨next, event, hreceived, hnone, hstate⟩ := hnext
      have hline : newline ∉ replyLine completion ∧ (replyLine completion).length ≤ maximumHelperMessageSize := by
        cases completion <;> decide
      have hheard : next.state ≠ .failed := by
        rcases hstate with ⟨hstate, -⟩ | hstate <;> rw [hstate] <;> decide
      have hsettled := settled_carrying h.buffer h.settled_going hline.1 hline.2 hreceived hheard
      have hstates : next.state = .active ∨ next.state = .profileStateUnknown := hstate.imp_left And.left
      have hknown : next.state = .active → (conversation.profileStateUnknown || decide (completion = .stateUnknown)) =
          false := by
        intro hactive
        rcases hstate with ⟨-, hcompletion⟩ | hunknown
        · rw [h.known active, decide_eq_false hcompletion]
          rfl
        · exact nomatch hactive.symm.trans hunknown
      rw [hcomplete]
      refine ⟨rfl, h.valid, h.going, hsettled ▸ rfl, hsettled ▸ hstates, hsettled ▸ hknown, coming, hcanonical, hstream,
        .nothing ?_ rfl stops quiet⟩
      rw [hsettled]
      exact hnone

/-- The event that reports a status. -/
def WorkloadStatus.event (status : WorkloadStatus) : HelperConversationEvent :=
  if status.exited then .workloadExited status.value else .workloadSignaled status.value

omit [DecimalText] in
theorem WorkloadStatus.Possible.endsWorkload {status : WorkloadStatus} (h : status.Possible) :
    status.event.EndsWorkload := by
  unfold WorkloadStatus.Possible at h
  unfold WorkloadStatus.event
  by_cases hexited : status.exited = true
  · rw [if_pos hexited] at h ⊢
    exact h
  · rw [if_neg hexited] at h ⊢
    exact ⟨h.1, by have := h.2; omega⟩

omit [DecimalText] in
theorem exists_line {event : HelperConversationEvent} (h : event.EndsWorkload) :
    ∃ line, helperConversationEventLine event = some line ∧ helperConversationEventMessage event = line ++ [newline] := by
  cases event with
  | workloadExited result => exact ⟨_, rfl, rfl⟩
  | workloadSignaled signal => exact ⟨_, rfl, rfl⟩
  | _ => exact h.elim

/-- The end of the Workload ends the conversation about it, whatever is pending. -/
theorem Agrees.terminal (h : Agrees link conversation commands) {event : HelperConversationEvent}
    (hevent : event.EndsWorkload) :
    (link.carrying (helperConversationEventMessage event)).settled = { state := .waitingForCleanup } ∧
      helperConversationEventMessage event ≠ cleanupOkMessage := by
  obtain ⟨line, hline, hmessage⟩ := exists_line hevent
  obtain ⟨hhead, hnewline, hshort⟩ := SupervisorHelperConversation.line_of_endsWorkload hevent hline
  rw [hmessage]
  refine ⟨?_, ?_⟩
  · exact settled_carrying h.buffer h.settled_going hnewline hshort
      (SupervisorHelperConversation.receiveLine_terminal h.active hevent hline) (fun hfailed => nomatch hfailed)
  · intro hsame
    have hfirst := congrArg List.head? hsame
    rw [List.head?_append, hhead] at hfirst
    exact nomatch hfirst

/-! ### The loop -/

/-- Nothing that is heard loses the conversation. -/
def Heard (step : Step HelperCall HelperAnswer Link) : Prop := step.after.supervisor.state ≠ .failed

/-- The Workload runs and no cleanup has begun. -/
structure Supervising (link : Link) (conversation : HelperRuntimeConversation) (commands : List HelperRuntimeCommand)
    (running : Nat) : Prop where
  agrees : Agrees link conversation commands
  unsent : cleanupOkMessage ∉ link.sent
  first : link.passes.head? = none
  running : link.running = running

variable {running : Nat}

theorem Supervising.moves (h : Supervising link conversation commands running) (hmoves : SupervisorMoves link after) :
    Supervising after conversation commands running := by
  obtain ⟨hsent, hpasses, hrunning⟩ := seen_of_moves hmoves
  exact ⟨h.agrees.moves hmoves, hsent ▸ h.unsent, hpasses ▸ h.first, hrunning ▸ h.running⟩

theorem Supervising.heard (h : Supervising link conversation commands running) : link.supervisor.state ≠ .failed :=
  supervisor_going h.agrees.settled_going

omit [DecimalText] in
theorem unsent_carrying {text : Bytes} (h : cleanupOkMessage ∉ link.sent) (htext : text ≠ cleanupOkMessage) :
    cleanupOkMessage ∉ (link.carrying text).sent := by
  intro hmem
  rcases List.mem_append.mp hmem with hbefore | hlast
  · exact h hbefore
  · exact htext (List.mem_singleton.mp hlast).symm

theorem Supervising.reply {sent : ProfileChange} {behind : List HelperRuntimeCommand}
    (h : Supervising link conversation (.profileChange sent :: behind) running) (completion : ProfileChangeCompletion) :
    Supervising (link.carrying (replyLine completion ++ [newline])) (conversation.completeProfileChange completion).1
      behind running := by
  refine ⟨(h.agrees.reply completion).2, unsent_carrying h.unsent ?_, h.first, h.running⟩
  cases completion <;> decide

omit [DecimalText] in
/-- The environment is asked to shape a direction, and nothing else. -/
theorem confined_applyChange (confirmed : NetworkProfile) (change : ProfileChange) :
    Confined (fun request => ∃ direction settings, request = .setDirectionSettings direction settings)
      (fun _ => True) (applyChange confirmed change) := by
  unfold applyChange
  split
  · trivial
  · split
    · trivial
    · dsimp only
      split
      · trivial
      · split
        · trivial
        · refine ⟨⟨_, _, rfl⟩, fun answer => ?_⟩
          cases answer <;> trivial

theorem safe_applyChange (h : Supervising link conversation commands running) (confirmed : NetworkProfile)
    (change : ProfileChange) :
    Safe linkEnvironment Heard (fun _ after => Supervising after conversation commands running)
      (applyChange confirmed change) link := by
  have hkept : ∀ before request answer after, (∃ direction settings, request = .setDirectionSettings direction settings) →
      Supervising before conversation commands running → linkEnvironment before request answer after →
      Heard ⟨before, request, answer, after⟩ ∧ Supervising after conversation commands running := by
    rintro before request answer after ⟨direction, settings, rfl⟩ hbefore ⟨middle, hmoves, rfl⟩
    have hmiddle := hbefore.moves hmoves
    exact ⟨hmiddle.heard, hmiddle⟩
  exact ((confined_applyChange confirmed change).safe hkept h).imp fun _ _ hafter => hafter.2

/-- A stop that is carried out leaves nothing owed. -/
theorem Agrees.stopped {command : HelperRuntimeCommand} {behind : List HelperRuntimeCommand}
    (h : Agrees link conversation (command :: behind)) (hstop : command.isStop = true) :
    Agrees link conversation behind := by
  obtain ⟨coming, hcanonical, hstream, howed⟩ := h.stream
  refine ⟨h.valid, h.going, h.buffer, h.active, h.known, coming, hcanonical, hstream, ?_⟩
  cases howed with
  | nothing settled pending stops quiet =>
      refine .nothing settled pending (fun other hother => stops other (List.mem_cons_of_mem _ hother)) fun hquiet => ?_
      exact nomatch (quiet hquiet).1
  | coming settled active pending stopping delivered => exact nomatch delivered
  | delivered settled active pending first =>
      obtain ⟨rfl, -⟩ := List.cons.inj first
      exact nomatch hstop

/-- The commands of a read are carried out, each change with its reply. -/
theorem safe_carryOut (turns : Nat) (commands : List HelperRuntimeCommand) (state : Supervision)
    (h : Supervising link state.conversation commands running) :
    Safe linkEnvironment Heard (fun result after => ∃ next, result = .inl next ∧
      Supervising after next.conversation [] running) (carryOut turns commands state) link := by
  induction commands generalizing link state with
  | nil => exact ⟨state, rfl, h⟩
  | cons command commands ih =>
      have hstop : command.isStop = true → ∀ signal, Safe linkEnvironment Heard (fun result after => ∃ next,
          result = .inl next ∧ Supervising after next.conversation [] running) (do
            if ← ask (.sendSignal signal) then carryOut turns commands state
            else
              let _ ← ask (.send (helperErrorMessage (ascii "Failed to stop Workload.")))
              abandon turns) link := by
        rintro hstop signal _ after ⟨middle, hmoves, rfl, rfl⟩
        have hafter := h.moves hmoves
        exact ⟨hafter.heard, ih state ⟨hafter.agrees.stopped hstop, hafter.unsent, hafter.first, hafter.running⟩⟩
      cases command with
      | profileChange change =>
          refine safe_bind ((safe_applyChange h state.confirmed change).imp fun applied middle hmiddle => ?_)
          dsimp only
          rw [(hmiddle.agrees.reply applied.1).1]
          rintro _ after ⟨between, hmoves, rfl, rfl⟩
          have hnext := (hmiddle.moves hmoves).reply applied.1
          exact ⟨hnext.heard, ih ⟨_, applied.2⟩ hnext⟩
      | stopTerminate => exact hstop rfl _
      | stopKill => exact hstop rfl _
      | compatibilityShutdown => exact hstop rfl _

/-- Where the conversation stands with nothing pending, and the first pass if there was one. -/
structure Stands (link : Link) (state : SupervisorState) (first : Option Bool) : Prop where
  settled : link.settled = { state := state }
  unsent : cleanupOkMessage ∉ link.sent
  first : link.passes.head? = first

/-- A turn of the supervision goes on with the Workload found running once more, or it has reported the end of it. -/
theorem safe_superviseTurn (turns : Nat) (state : Supervision) (h : Supervising link state.conversation [] running) :
    Safe linkEnvironment Heard
      (fun result after => result.elim (fun next => Supervising after next.conversation [] (running + 1))
        fun status => status = some 0 ∧ Stands after .waitingForCleanup none)
      (superviseTurn turns state) link := by
  rintro polled after ⟨middle, hmoves, hanswer⟩
  have hmiddle := h.moves hmoves
  cases polled with
  | error => exact hanswer.elim
  | finished status =>
      obtain ⟨hpossible, rfl⟩ := hanswer
      refine ⟨hmiddle.heard, ?_⟩
      rintro _ after ⟨between, hmoves, rfl, rfl⟩
      have hbetween := hmiddle.moves hmoves
      obtain ⟨hsettled, hother⟩ := hbetween.agrees.terminal hpossible.endsWorkload
      have hended : Stands (between.carrying (helperConversationEventMessage status.event)) .waitingForCleanup none :=
        ⟨hsettled, unsent_carrying hbetween.unsent hother, hbetween.first⟩
      refine ⟨supervisor_going ?_, rfl, hended⟩
      exact hsettled ▸ (fun hfailed => nomatch hfailed)
  | running =>
      obtain rfl := hanswer
      have hcounted : Supervising { middle with running := middle.running + 1 } state.conversation [] (running + 1) :=
        ⟨hmiddle.agrees.counting _, hmiddle.unsent, hmiddle.first, congrArg (· + 1) hmiddle.running⟩
      refine ⟨hcounted.heard, ?_⟩
      rintro ready after ⟨between, hmoves, hanswer⟩
      have hbetween := hcounted.moves hmoves
      cases ready with
      | failed => exact hanswer.elim
      | timedOut =>
          obtain rfl := hanswer
          exact ⟨hbetween.heard, hbetween⟩
      | readable =>
          obtain ⟨-, rfl⟩ := hanswer
          refine ⟨hbetween.heard, ?_⟩
          rintro read after ⟨last, hmoves, hanswer⟩
          have hlast := hbetween.moves hmoves
          cases read with
          | data bytes =>
              obtain ⟨-, -, rest, hway, rfl⟩ := hanswer
              obtain ⟨hvalid, hagrees⟩ := hlast.agrees.read hway
              have hread : Supervising { last with toHelper := rest } (state.conversation.receiveBytes bytes).1
                  (state.conversation.receiveBytes bytes).2.commands (running + 1) :=
                ⟨hagrees, hlast.unsent, hlast.first, hlast.running⟩
              refine ⟨hread.heard, ?_⟩
              change Safe _ _ _ (receive turns state bytes) _
              rw [receive, if_pos hvalid]
              refine (safe_carryOut turns _ _ hread).imp ?_
              rintro _ _ ⟨next, rfl, hnext⟩
              exact hnext
          | peerClosed => exact hanswer.elim
          | failed => exact hanswer.elim

/-- The supervision ends with the Workload, or it has found it running in every turn. -/
theorem safe_superviseWorkload (turns : Nat) (h : Supervising link {} [] 0) :
    Safe linkEnvironment Heard
      (fun result after => (result = none ∧ ∃ conversation, Supervising after conversation [] turns) ∨
        result = some 0 ∧ Stands after .waitingForCleanup none)
      (superviseWorkload turns) link := by
  have hturn : ∀ (round : Nat) (state : Supervision) (host : Link), Supervising host state.conversation [] round →
      Safe linkEnvironment Heard
        (fun result after => result.elim (fun next => Supervising after next.conversation [] (round + 1))
          fun status => status = some 0 ∧ Stands after .waitingForCleanup none)
        (superviseTurn turns state) host := fun _ state _ hstate => safe_superviseTurn turns state hstate
  have hstart : Supervising link ({} : Supervision).conversation [] 0 := h
  refine safe_bind ((safe_loop_counted hturn 0 hstart).imp ?_)
  intro result after hresult
  cases result with
  | none =>
      obtain ⟨last, hlast⟩ := hresult
      rw [Nat.zero_add] at hlast
      exact Or.inl ⟨rfl, _, hlast⟩
  | some status =>
      obtain ⟨rfl, hended⟩ := hresult
      exact Or.inr ⟨rfl, hended⟩

end NetLagLab.HelperSession
