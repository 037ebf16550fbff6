import NetLagLab.ActionExecutor
import NetLagLab.FrameLanguage
import NetLagLab.HelperSession
import NetLagLab.RuntimeStream
import NetLagLab.SessionReads

/-! The link between the helper and the Supervisor. What either side sends is on its way until the other side reads
it, in pieces of any size, and the Supervisor does what it may do between any two calls of the helper. The frames that
are on their way have their effect already settled: it does not depend on when they are heard. -/

namespace NetLagLab

open ByteLines CallPrograms NetworkEnvironment HelperRuntimeConversation

/-! ### What the Supervisor hears -/

namespace SupervisorHelperConversation

section Streams

variable {conversation : SupervisorHelperConversation}

theorem receiveLines_append (lines more : List Bytes) : ∀ {conversation : SupervisorHelperConversation},
    conversation.state ≠ .failed → (conversation.receiveLines (lines ++ more)).1 =
      if (conversation.receiveLines lines).1.state = .failed then lost
      else ((conversation.receiveLines lines).1.receiveLines more).1 := by
  induction lines with
  | nil =>
      intro conversation hgoing
      rw [List.nil_append, receiveLines, if_neg hgoing]
  | cons line lines ih =>
      intro conversation hgoing
      rw [List.cons_append, receiveLines, receiveLines]
      by_cases hlong : maximumHelperMessageSize < line.length
      · rw [if_pos hlong, if_pos hlong]
        exact (if_pos rfl).symm
      · rw [if_neg hlong, if_neg hlong]
        dsimp only
        by_cases hfailed : (conversation.receiveLine line).1.state = .failed
        · rw [if_pos hfailed, if_pos hfailed]
          exact (if_pos rfl).symm
        · rw [if_neg hfailed, if_neg hfailed]
          exact ih hfailed

/-- What a read makes of a conversation that goes on, from the lines of it. -/
theorem receiveBytes_eq (hgoing : conversation.state ≠ .failed) (bytes : Bytes) :
    (conversation.receiveBytes bytes).1 =
      if (conversation.receiveLines (splitLines (conversation.buffer ++ bytes)).1).1.state = .failed ∨
          maximumHelperMessageSize < (splitLines (conversation.buffer ++ bytes)).2.length then lost
      else { (conversation.receiveLines (splitLines (conversation.buffer ++ bytes)).1).1 with
        buffer := (splitLines (conversation.buffer ++ bytes)).2 } := by
  rw [receiveBytes, if_neg hgoing]
  dsimp only
  by_cases hfailed : (conversation.receiveLines (splitLines (conversation.buffer ++ bytes)).1).1.state = .failed
  · rw [if_pos hfailed, if_pos (Or.inl hfailed),
      SessionAdapter.receiveLines_failed _ hgoing hfailed]
  · rw [if_neg hfailed]
    by_cases hlong : maximumHelperMessageSize < (splitLines (conversation.buffer ++ bytes)).2.length
    · rw [if_pos hlong, if_pos (Or.inr hlong)]
    · rw [if_neg hlong, if_neg (not_or.mpr ⟨hfailed, hlong⟩)]

theorem receiveBytes_failed (hfailed : conversation.state = .failed) (bytes : Bytes) :
    (conversation.receiveBytes bytes).1 = conversation := by
  rw [receiveBytes, if_pos hfailed]

/-- A read comes to what its parts come to. -/
theorem receiveBytes_append (first second : Bytes) : (conversation.receiveBytes (first ++ second)).1 =
    ((conversation.receiveBytes first).1.receiveBytes second).1 := by
  by_cases hstate : conversation.state = .failed
  · rw [receiveBytes_failed hstate, receiveBytes_failed hstate, receiveBytes_failed hstate]
  · have hsplit : splitLines (conversation.buffer ++ (first ++ second)) =
        ((splitLines (conversation.buffer ++ first)).1 ++
            (splitLines ((splitLines (conversation.buffer ++ first)).2 ++ second)).1,
          (splitLines ((splitLines (conversation.buffer ++ first)).2 ++ second)).2) :=
      (congrArg splitLines (List.append_assoc conversation.buffer first second).symm).trans
        (splitAtMark_append newline (conversation.buffer ++ first) second)
    rw [receiveBytes_eq hstate first, receiveBytes_eq hstate (first ++ second), hsplit]
    have hrest : newline ∉ (splitLines (conversation.buffer ++ first)).2 := notMem_splitAtMark_snd _
    generalize splitLines (conversation.buffer ++ first) = cut at hrest ⊢
    dsimp only
    rw [receiveLines_append _ _ hstate]
    have hlost : lost.state = .failed := rfl
    by_cases hfailed : (conversation.receiveLines cut.1).1.state = .failed
    · rw [if_pos hfailed, if_pos (Or.inl hlost), if_pos (Or.inl hfailed), receiveBytes_failed hlost]
    · rw [if_neg hfailed]
      by_cases hlong : maximumHelperMessageSize < cut.2.length
      · rw [if_pos (Or.inr hlong : _ ∨ maximumHelperMessageSize < cut.2.length), receiveBytes_failed hlost]
        refine if_pos ?_
        rcases splitAtMark_unfinished hrest with ⟨-, hmore⟩ | ⟨line, lines, hlines, hprefix⟩
        · refine Or.inr ?_
          rw [hmore, List.length_append]
          omega
        · refine Or.inl ?_
          rw [hlines, receiveLines, if_pos (hlong.trans_le hprefix.length_le)]
          exact hlost
      · rw [if_neg (not_or.mpr ⟨hfailed, hlong⟩)]
        have hgoing : ({ (conversation.receiveLines cut.1).1 with buffer := cut.2 } :
            SupervisorHelperConversation).state ≠ .failed := hfailed
        rw [receiveBytes_eq hgoing, ← resume_of_ne hfailed, receiveLines_resume _ _ hfailed, resume_of_ne hfailed,
          resume_state]
        dsimp only
        by_cases hnext : ((conversation.receiveLines cut.1).1.receiveLines
            (splitLines (cut.2 ++ second)).1).1.state = .failed
        · rw [if_pos (Or.inl hnext), if_pos (Or.inl hnext)]
        · by_cases hmore : maximumHelperMessageSize < (splitLines (cut.2 ++ second)).2.length
          · rw [if_pos (Or.inr hmore), if_pos (Or.inr hmore)]
          · rw [if_neg (not_or.mpr ⟨hnext, hmore⟩), if_neg (not_or.mpr ⟨hnext, hmore⟩), resume_of_ne hnext]

/-- A read of one whole line that is taken. -/
theorem receiveBytes_line {line : Bytes} {next : SupervisorHelperConversation} {event : HelperConversationEvent}
    (hbuffer : conversation.buffer = []) (hgoing : conversation.state ≠ .failed) (hline : newline ∉ line)
    (hshort : line.length ≤ maximumHelperMessageSize) (hnext : conversation.receiveLine line = (next, event))
    (hheard : next.state ≠ .failed) :
    (conversation.receiveBytes (line ++ [newline])).1 = { next with buffer := [] } := by
  have hframe : conversation.receiveFrame line = (next, event) := by
    rw [receiveFrame, if_neg (Nat.not_lt.mpr hshort), hnext]
  have hread := (receiveBytes_frame hbuffer hgoing hline).2.2
  rw [hframe] at hread
  exact hread hheard

/-! ### A change that is begun while frames are on their way -/

theorem receiveLines_cons {line : Bytes} (hshort : line.length ≤ maximumHelperMessageSize)
    (hgoing : (conversation.receiveLine line).1.state ≠ .failed) (lines : List Bytes) :
    (conversation.receiveLines (line :: lines)).1 = ((conversation.receiveLine line).1.receiveLines lines).1 := by
  rw [receiveLines, if_neg (Nat.not_lt.mpr hshort)]
  dsimp only
  rw [if_neg hgoing]

/-- Of lines that are taken, the first one is. -/
theorem receiveLines_going {line : Bytes} {lines : List Bytes}
    (h : (conversation.receiveLines (line :: lines)).1.state ≠ .failed) :
    line.length ≤ maximumHelperMessageSize ∧ (conversation.receiveLine line).1.state ≠ .failed := by
  rw [receiveLines] at h
  by_cases hlong : maximumHelperMessageSize < line.length
  · rw [if_pos hlong] at h
    exact absurd rfl h
  · rw [if_neg hlong] at h
    refine ⟨Nat.not_lt.mp hlong, fun hfailed => ?_⟩
    dsimp only at h
    rw [if_pos hfailed] at h
    exact absurd rfl h

/-- Behind the end of the Workload there is only the cleanup. -/
theorem receiveLines_ended (lines : List Bytes) : ∀ {conversation : SupervisorHelperConversation},
    conversation.state = .waitingForCleanup ∨ conversation.state = .finished →
    (conversation.receiveLines lines).1.state ≠ .failed →
    (conversation.receiveLines lines).1.state = .waitingForCleanup ∨
      (conversation.receiveLines lines).1.state = .finished := by
  induction lines with
  | nil => exact fun hended _ => hended
  | cons line lines ih =>
      intro conversation hended hgoing
      obtain ⟨hshort, hnext⟩ := receiveLines_going hgoing
      rw [receiveLines_cons hshort hnext] at hgoing ⊢
      refine ih (Or.inr ?_) hgoing
      rcases hended with hcleanup | hfinished
      · rw [receiveLine_waitingForCleanup hcleanup] at hnext ⊢
        by_cases hok : line = ascii "CLEANUP_OK"
        · rw [if_pos hok]
        · rw [if_neg hok] at hnext ⊢
          by_cases hnot : line = ascii "CLEANUP_FAILED"
          · rw [if_pos hnot]
          · rw [if_neg hnot] at hnext
            exact absurd rfl hnext
      · rw [receiveLine_over (Or.inl hfinished)] at hnext
        exact absurd rfl hnext

/-- While nothing is pending, a frame that is taken ends the Workload, and it would be taken with a change pending. -/
theorem receiveLine_unasked {line : Bytes} (hstate : conversation.state = .active)
    (hnone : conversation.pendingProfileChange = none) (hgoing : (conversation.receiveLine line).1.state ≠ .failed)
    (change : ProfileChange) : (conversation.receiveLine line).1.state = .waitingForCleanup ∧
      ({ conversation with pendingProfileChange := some change } : SupervisorHelperConversation).receiveLine line =
        conversation.receiveLine line := by
  have hreply : conversation.receiveReply line = none := by
    unfold receiveReply
    rw [hstate, hnone]
  rw [receiveLine_end (Or.inl hstate) hreply] at hgoing ⊢
  rcases conversation.receiveTerminal_cases line with ⟨event, hframe, -, hterminal⟩ | ⟨-, hterminal⟩
  · have hpending : ({ conversation with pendingProfileChange := some change } :
        SupervisorHelperConversation).receiveReply line = none := by
      refine receiveReply_of_ne ?_ ?_ ?_ <;> intro hline <;> exact not_terminalFrame event (by simp [hline]) hframe
    have hbegun : ({ conversation with pendingProfileChange := some change } :
        SupervisorHelperConversation).state = .active := hstate
    refine ⟨by rw [hterminal], ?_⟩
    rw [receiveLine_end (Or.inl hbegun) hpending]
    unfold receiveTerminal
    rfl
  · rw [hterminal] at hgoing
    exact absurd rfl hgoing

/-- Nothing is on its way when a change is begun, or the end of the Workload is and the change makes no difference. -/
theorem receiveBytes_begun {bytes : Bytes} (hstate : conversation.state = .active)
    (hnone : conversation.pendingProfileChange = none) (hbuffer : (conversation.receiveBytes bytes).1.buffer = [])
    (hgoing : (conversation.receiveBytes bytes).1.state ≠ .failed) (change : ProfileChange) :
    (conversation.receiveBytes bytes).1 = conversation ∧
        (({ conversation with pendingProfileChange := some change } :
          SupervisorHelperConversation).receiveBytes bytes).1 = { conversation with pendingProfileChange := some change } ∨
      ((conversation.receiveBytes bytes).1.state = .waitingForCleanup ∨
          (conversation.receiveBytes bytes).1.state = .finished) ∧
        (({ conversation with pendingProfileChange := some change } :
          SupervisorHelperConversation).receiveBytes bytes).1 = (conversation.receiveBytes bytes).1 := by
  have hactive : conversation.state ≠ .failed := by
    rw [hstate]
    decide
  have hbegun : ({ conversation with pendingProfileChange := some change } :
      SupervisorHelperConversation).state ≠ .failed := hactive
  have hjoin := splitAtMark_join newline (conversation.buffer ++ bytes)
  rw [receiveBytes_eq hbegun]
  rw [receiveBytes_eq hactive] at hbuffer hgoing ⊢
  generalize hcut : splitLines (conversation.buffer ++ bytes) = cut at hjoin hbuffer hgoing ⊢
  by_cases hlost : (conversation.receiveLines cut.1).1.state = .failed ∨ maximumHelperMessageSize < cut.2.length
  · rw [if_pos hlost] at hgoing
    exact absurd rfl hgoing
  · rw [if_neg hlost] at hbuffer hgoing ⊢
    obtain ⟨lines, rest⟩ := cut
    obtain rfl : rest = [] := hbuffer
    cases lines with
    | nil =>
        rw [show splitAtMark newline _ = _ from hcut, encodeMarked_nil, List.nil_append] at hjoin
        obtain ⟨hempty, -⟩ := List.append_eq_nil_iff.mp hjoin.symm
        obtain ⟨buffer, pending, state⟩ := conversation
        obtain rfl : buffer = [] := hempty
        obtain rfl : state = .active := hstate
        exact Or.inl ⟨rfl, rfl⟩
    | cons line lines =>
        obtain ⟨hshort, hnext⟩ := receiveLines_going hgoing
        obtain ⟨hended, hsame⟩ := receiveLine_unasked hstate hnone hnext change
        have hlines : (({ conversation with pendingProfileChange := some change } :
            SupervisorHelperConversation).receiveLines (line :: lines)).1 =
              (conversation.receiveLines (line :: lines)).1 := by
          rw [receiveLines_cons hshort (by rw [hsame]; exact hnext), hsame, receiveLines_cons hshort hnext]
        refine Or.inr ⟨?_, ?_⟩
        · rw [receiveLines_cons hshort hnext] at hgoing ⊢
          exact receiveLines_ended lines (Or.inl hended) hgoing
        · dsimp only
          rw [hlines]
          exact if_neg hlost

end Streams

end SupervisorHelperConversation

/-! ### The link -/

namespace HelperSession

/-- The Supervisor with the bytes on their way to either side, and what has been seen of the helper. -/
structure Link where
  supervisor : SupervisorHelperConversation
  toSupervisor : Bytes
  toHelper : Bytes := []
  /-- Whether the Supervisor has asked for a stop. -/
  stopSent : Bool := false
  /-- The texts that the helper has sent. -/
  sent : List Bytes := []
  /-- The passes of rollbacks, cleanups and retries: whether a pass met no failure and left nothing. -/
  passes : List Bool := []
  /-- How often the Workload was found running. -/
  running : Nat := 0
  deriving DecidableEq

/-- The helper has just said that it is ready. -/
def Link.ready : Link := { supervisor := {}, toSupervisor := helperConversationEventMessage .ready }

/-- A connected Supervisor that keeps to what it may send: a change only where its conversation lets it begin one and
before any stop, and stops at any time. -/
inductive SupervisorMove [DecimalText] : Link → Link → Prop
  | hears {link : Link} {heard rest : Bytes} (way : link.toSupervisor = heard ++ rest) :
      SupervisorMove link
        { link with supervisor := (link.supervisor.receiveBytes heard).1, toSupervisor := rest }
  | changes {link : Link} {change : ProfileChange} {message : Bytes} {next : SupervisorHelperConversation}
      (quiet : link.stopSent = false) (begins : link.supervisor.beginProfileChange change = some (message, next)) :
      SupervisorMove link { link with supervisor := next, toHelper := link.toHelper ++ message }
  | stops {link : Link} {command : HelperRuntimeCommand} (stop : command.isStop = true) :
      SupervisorMove link
        { link with toHelper := link.toHelper ++ helperRuntimeCommandMessage command, stopSent := true }

abbrev SupervisorMoves [DecimalText] := Relation.ReflTransGen SupervisorMove

/-- A process ends with an exit code of eight bits or by a signal. -/
def WorkloadStatus.Possible (status : WorkloadStatus) : Prop :=
  if status.exited then 0 ≤ status.value ∧ status.value ≤ 255 else 1 ≤ status.value ∧ status.value ≤ 126

/-- The limit of the system on PIDs, and the exit codes of a launch that failed. -/
def WorkloadLaunchResult.Possible (result : WorkloadLaunchResult) : Prop :=
  match result.process with
  | some pid => 1 ≤ pid ∧ pid ≤ 2 ^ 22
  | none => 125 ≤ result.failureExitCode ∧ result.failureExitCode ≤ 127

/-- Whether a pass met no failure and left nothing. -/
def cleanPass (failures : List Failure) (residual : Option OwnerState) : Bool := failures.isEmpty && residual.isNone

def Link.passed (link : Link) (failures : List Failure) (residual : Option OwnerState) : Link :=
  { link with passes := link.passes ++ [cleanPass failures residual] }

/-- How the calls may be answered: every send succeeds, no poll fails, every signal is delivered and the Supervisor
stays connected. -/
def Link.Answers (link : Link) : (request : HelperCall) → HelperAnswer request → Link → Prop
  | .prepare, .prepared _, after => after = link
  | .prepare, .failed failure, after => after = link.passed failure.rollbackFailures failure.residual
  | .launch _ _ _ _, result, after => WorkloadLaunchResult.Possible result ∧ after = link
  | .send text, succeeded, after =>
      succeeded = true ∧ after = { link with toSupervisor := link.toSupervisor ++ text, sent := link.sent ++ [text] }
  | .pollWorkload, .running, after => after = { link with running := link.running + 1 }
  | .pollWorkload, .finished status, after => status.Possible ∧ after = link
  | .pollWorkload, .error, _ => False
  | .waitWorkload, result, after => (∀ status, result = some status → WorkloadStatus.Possible status) ∧ after = link
  | .sendSignal _, delivered, after => delivered = true ∧ after = link
  | .pollSupervisor, .failed, _ => False
  | .pollSupervisor, .timedOut, after => after = link
  | .pollSupervisor, .readable, after => link.toHelper ≠ [] ∧ after = link
  | .readSupervisor, .data bytes, after => bytes ≠ [] ∧ bytes.length ≤ 4096 ∧
      ∃ rest, link.toHelper = bytes ++ rest ∧ after = { link with toHelper := rest }
  | .readSupervisor, _, _ => False
  | .setDirectionSettings _ _, _, after => after = link
  | .cleanup _, result, after => after = link.passed (CleanupResult.failures result) (CleanupResult.residual result)
  | .retry _, result, after => after = link.passed (CleanupResult.failures result) (CleanupResult.residual result)
  | .now, _, after => after = link
  | .pause, _, after => after = link
  | .report _, _, after => after = link

/-- Between two calls of the helper the Supervisor does what it may. -/
def linkEnvironment [DecimalText] : Environment HelperCall HelperAnswer Link := fun link request answer after =>
  ∃ middle, SupervisorMoves link middle ∧ middle.Answers request answer after

/-- The conversation once all that is on its way has been heard. -/
def Link.settled (link : Link) : SupervisorHelperConversation := (link.supervisor.receiveBytes link.toSupervisor).1

section Moves

variable [DecimalText] {link after : Link}

/-- The Supervisor has no part in what is seen of the helper. -/
theorem seen_of_moves (h : SupervisorMoves link after) :
    after.sent = link.sent ∧ after.passes = link.passes ∧ after.running = link.running := by
  induction h with
  | refl => exact ⟨rfl, rfl, rfl⟩
  | tail _ hmove ih => cases hmove <;> exact ih

omit [DecimalText] in
theorem settled_hears {heard rest : Bytes} (way : link.toSupervisor = heard ++ rest) :
    ({ link with supervisor := (link.supervisor.receiveBytes heard).1, toSupervisor := rest } : Link).settled =
      link.settled := by
  rw [Link.settled, Link.settled, way, SupervisorHelperConversation.receiveBytes_append]

/-- A change is begun with nothing on its way, or it makes no difference to a conversation that ends. -/
theorem settled_changes {change : ProfileChange} {message : Bytes} {next : SupervisorHelperConversation}
    (hbuffer : link.settled.buffer = []) (hgoing : link.settled.state ≠ .failed)
    (begins : link.supervisor.beginProfileChange change = some (message, next)) (more : Bytes) :
    link.settled.state = .active ∧ link.settled.pendingProfileChange = none ∧ change.Legal ∧
        message = serializeProfileChange change ∧
        ({ link with supervisor := next, toHelper := more } : Link).settled =
          { link.settled with pendingProfileChange := some change } ∨
      (link.settled.state = .waitingForCleanup ∨ link.settled.state = .finished) ∧
        ({ link with supervisor := next, toHelper := more } : Link).settled = link.settled := by
  obtain ⟨hactive, hnone, hlegal, houtcome⟩ := SupervisorHelperConversation.beginProfileChange_eq_some_iff.mp begins
  obtain ⟨rfl, rfl⟩ := Prod.mk.inj houtcome
  rcases SupervisorHelperConversation.receiveBytes_begun hactive hnone hbuffer hgoing change with
    ⟨hsame, hbegun⟩ | hended
  · refine Or.inl ?_
    have hsettled : link.settled = link.supervisor := hsame
    rw [hsettled]
    exact ⟨hactive, hnone, hlegal, rfl, hbegun⟩
  · exact Or.inr hended

/-- Where no change can be begun, nothing that the Supervisor does makes a difference to its conversation. -/
theorem settled_moves (h : SupervisorMoves link after) (hbuffer : link.settled.buffer = [])
    (hgoing : link.settled.state ≠ .failed) (hstate : link.settled.state ≠ .active) : after.settled = link.settled := by
  induction h with
  | refl => rfl
  | @tail middle after _ hmove ih =>
      cases hmove with
      | hears way => exact (settled_hears way).trans ih
      | changes quiet begins =>
          rw [← ih] at hbuffer hgoing hstate ⊢
          rcases settled_changes hbuffer hgoing begins _ with ⟨hactive, -⟩ | ⟨-, hsame⟩
          · exact absurd hactive hstate
          · exact hsame
      | stops stop => exact ih

omit [DecimalText] in
/-- A conversation that is not lost once all is heard is not lost before. -/
theorem supervisor_going (hgoing : link.settled.state ≠ .failed) : link.supervisor.state ≠ .failed := by
  intro hfailed
  rw [Link.settled, SupervisorHelperConversation.receiveBytes_failed hfailed] at hgoing
  exact hgoing hfailed

end Moves

end HelperSession

end NetLagLab
