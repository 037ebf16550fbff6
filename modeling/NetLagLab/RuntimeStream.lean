import NetLagLab.CommandCodec
import NetLagLab.RuntimeConversation
import NetLagLab.StreamPieces

/-! The helper's side of the conversation as a stream: what is delivered and answered over a whole run, in which any
bytes are received, changes are completed and the Workload finishes in any order. -/

namespace NetLagLab

open ByteLines StreamPieces

inductive RuntimeStep where
  | received (bytes : Bytes)
  | completed (completion : ProfileChangeCompletion)
  | finished
  deriving DecidableEq

/-- A step with its bytes one at a time. -/
def RuntimeStep.bytewise : RuntimeStep → List RuntimeStep
  | .received bytes => (bytes.map fun byte => [byte]).map .received
  | .completed completion => [.completed completion]
  | .finished => [.finished]

/-- The bytes of the steps, in their order. -/
def receivedBytes (steps : List RuntimeStep) : Bytes :=
  steps.flatMap fun
    | .received bytes => bytes
    | _ => []

/-- What is seen of a step: each command, the rejection of a line, the end of a change with its reply. -/
inductive RuntimeEvent where
  | delivered (command : HelperRuntimeCommand)
  | rejected
  | completed (completion : ProfileChangeCompletion) (reply : Option Bytes)
  | finished
  deriving DecidableEq

namespace RuntimeEvent

/-- A delivered Profile Change. -/
def isChange : RuntimeEvent → Bool
  | .delivered command => !command.isStop
  | _ => false

/-- The end of a change that was pending. -/
def isAnswer : RuntimeEvent → Bool
  | .completed _ reply => reply.isSome
  | _ => false

/-- A delivered stop, or the end of a pending change in an unknown state. -/
def endsChanges : RuntimeEvent → Bool
  | .delivered command => command.isStop
  | .completed .stateUnknown reply => reply.isSome
  | _ => false

/-- A delivered stop. -/
def stop : RuntimeEvent → Option HelperRuntimeCommand
  | .delivered command => if command.isStop then some command else none
  | _ => none

/-- Something that the helper acts on or answers. -/
def isHeard : RuntimeEvent → Bool
  | .delivered _ => true
  | .rejected => true
  | .completed _ reply => reply.isSome
  | .finished => false

end RuntimeEvent

namespace HelperRuntimeConversation

section Run

variable [DecimalText]

/-- A read, with the commands that it delivers and the rejection. -/
def feed : Machine HelperRuntimeConversation UInt8 RuntimeEvent := fun conversation bytes =>
  ((conversation.receiveBytes bytes).1, (conversation.receiveBytes bytes).2.commands.map .delivered ++
    if (conversation.receiveBytes bytes).2.response.isSome then [.rejected] else [])

def step (conversation : HelperRuntimeConversation) : RuntimeStep → HelperRuntimeConversation × List RuntimeEvent
  | .received bytes => feed conversation bytes
  | .completed completion =>
      ((conversation.completeProfileChange completion).1,
        [.completed completion (conversation.completeProfileChange completion).2])
  | .finished => (conversation.finishWorkload, [.finished])

/-- The steps in turn, with all that is seen of them. -/
def run (conversation : HelperRuntimeConversation) :
    List RuntimeStep → HelperRuntimeConversation × List RuntimeEvent
  | [] => (conversation, [])
  | next :: steps =>
      (((conversation.step next).1.run steps).1, (conversation.step next).2 ++ ((conversation.step next).1.run steps).2)

end Run

/-- What a read comes to behind its lines. -/
def endRead (outcome : HelperRuntimeConversation × List HelperRuntimeCommand) (rest : Bytes) :
    HelperRuntimeConversation × List RuntimeEvent :=
  if outcome.1.valid = false then (outcome.1, outcome.2.map .delivered ++ [.rejected])
  else if maximumHelperMessageSize < rest.length then
    (outcome.1.invalidate, outcome.2.map .delivered ++ [.rejected])
  else ({ outcome.1 with buffer := rest }, outcome.2.map .delivered)

section Feed

variable [DecimalText] {conversation : HelperRuntimeConversation}

theorem feed_valid (h : conversation.valid = true) (bytes : Bytes) : feed conversation bytes =
    endRead (conversation.receiveLines (splitLines (conversation.buffer ++ bytes)).1)
      (splitLines (conversation.buffer ++ bytes)).2 := by
  unfold feed receiveBytes endRead
  rw [if_neg (by rw [h]; exact Bool.noConfusion)]
  dsimp only
  split
  · rfl
  · split
    · rfl
    · exact congrArg (Prod.mk _) (List.append_nil _)

theorem feed_invalid (h : conversation.valid = false) (bytes : Bytes) : feed conversation bytes = (conversation, []) := by
  unfold feed receiveBytes
  rw [if_pos h]
  rfl

end Feed

/-! ### Moves -/

/-- What can be seen next, and what it makes of the conversation. -/
inductive Move (conversation : HelperRuntimeConversation) : HelperRuntimeConversation → List RuntimeEvent → Prop
  | kept (buffer : Bytes) : Move conversation { conversation with buffer } []
  | stop {command : HelperRuntimeCommand} (isstop : command.isStop = true) (valid : conversation.valid = true)
      (going : conversation.workloadFinished = false) :
      Move conversation { conversation with stopping := true } [.delivered command]
  | change (change : ProfileChange) (valid : conversation.valid = true) (going : conversation.workloadFinished = false)
      (known : conversation.profileStateUnknown = false) (free : conversation.pendingProfileChange = none)
      (unstopped : conversation.stopping = false) :
      Move conversation { conversation with pendingProfileChange := some change } [.delivered (.profileChange change)]
  | rejected (valid : conversation.valid = true) : Move conversation conversation.invalidate [.rejected]
  | answered (completion : ProfileChangeCompletion) (valid : conversation.valid = true)
      (going : conversation.workloadFinished = false) (pending : conversation.pendingProfileChange.isSome = true) :
      Move conversation
        { conversation with
          pendingProfileChange := none
          profileStateUnknown := conversation.profileStateUnknown || decide (completion = .stateUnknown) }
        [.completed completion (some (replyLine completion ++ [newline]))]
  | ignored (completion : ProfileChangeCompletion)
      (idle : conversation.valid = false ∨ conversation.workloadFinished = true
        ∨ conversation.pendingProfileChange = none) :
      Move conversation conversation [.completed completion none]
  | finished : Move conversation conversation.finishWorkload [.finished]

/-- Moves in turn. -/
inductive Moves (conversation : HelperRuntimeConversation) : HelperRuntimeConversation → List RuntimeEvent → Prop
  | refl : Moves conversation conversation []
  | tail {middle next : HelperRuntimeConversation} {seen events : List RuntimeEvent} (moves : Moves conversation middle seen)
      (move : Move middle next events) : Moves conversation next (seen ++ events)

section Moves

variable {conversation middle next : HelperRuntimeConversation} {seen events : List RuntimeEvent}

theorem Move.moves (h : Move conversation next events) : Moves conversation next events := .tail .refl h

theorem Moves.trans (h : Moves conversation middle seen) (hnext : Moves middle next events) :
    Moves conversation next (seen ++ events) := by
  induction hnext with
  | refl => rwa [List.append_nil]
  | tail moves move ih =>
      rw [← List.append_assoc]
      exact .tail ih move

variable [DecimalText]

/-- A line that is taken. -/
theorem receiveLine_moves {line : Bytes} {commands : List HelperRuntimeCommand} (hvalid : conversation.valid = true)
    (h : conversation.receiveLine line = some (next, commands)) :
    Moves conversation next (commands.map .delivered) := by
  unfold receiveLine at h
  split at h
  · exact nomatch h
  · rename_i change _
    split at h
    · cases h
      exact .refl
    · rename_i hknown
      rw [Option.ite_none_left_eq_some, Bool.not_eq_true, Bool.or_eq_false_iff, Bool.or_eq_false_iff,
        Option.isSome_eq_false_iff, Option.isNone_iff_eq_none] at h
      obtain ⟨⟨⟨hgoing, hfree⟩, hunstopped⟩, hnext⟩ := h
      cases hnext
      exact (Move.change change hvalid hgoing (Bool.eq_false_of_not_eq_true hknown) hfree hunstopped).moves
  · rename_i command hother _
    rw [Option.ite_none_left_eq_some, Bool.not_eq_true] at h
    obtain ⟨hgoing, hnext⟩ := h
    cases hnext
    refine (Move.stop ?_ hvalid hgoing).moves
    cases command with
    | profileChange change => exact (hother change rfl).elim
    | _ => rfl

theorem receiveLine_valid {line : Bytes} {commands : List HelperRuntimeCommand}
    (h : conversation.receiveLine line = some (next, commands)) : next.valid = conversation.valid := by
  unfold receiveLine at h
  split at h
  · exact nomatch h
  · split at h
    · cases h
      rfl
    · obtain ⟨-, hnext⟩ := Option.ite_none_left_eq_some.mp h
      cases hnext
      rfl
  · obtain ⟨-, hnext⟩ := Option.ite_none_left_eq_some.mp h
    cases hnext
    rfl

omit [DecimalText] in
/-- What is rejected, if the conversation is no longer valid. -/
def rejection (conversation : HelperRuntimeConversation) : List RuntimeEvent :=
  if conversation.valid = false then [.rejected] else []

/-- The lines of a read, with the rejection of one. -/
theorem receiveLines_moves (hvalid : conversation.valid = true) (lines : List Bytes) :
    Moves conversation (conversation.receiveLines lines).1
      ((conversation.receiveLines lines).2.map .delivered ++ (conversation.receiveLines lines).1.rejection) := by
  induction lines generalizing conversation with
  | nil =>
      have hkept : conversation.rejection = [] := if_neg (by rw [hvalid]; exact Bool.noConfusion)
      rw [receiveLines, hkept]
      exact .refl
  | cons line lines ih =>
      rw [receiveLines]
      split
      · exact (Move.rejected hvalid).moves
      · split
        · exact (Move.rejected hvalid).moves
        · rename_i next commands hline
          dsimp only
          rw [List.map_append, List.append_assoc]
          exact (receiveLine_moves hvalid hline).trans (ih ((receiveLine_valid hline).trans hvalid))

theorem feed_moves (conversation : HelperRuntimeConversation) (bytes : Bytes) :
    Moves conversation (feed conversation bytes).1 (feed conversation bytes).2 := by
  cases hvalid : conversation.valid with
  | false =>
      rw [feed_invalid hvalid]
      exact .refl
  | true =>
      have hlines := receiveLines_moves hvalid (splitLines (conversation.buffer ++ bytes)).1
      rw [feed_valid hvalid]
      generalize conversation.receiveLines (splitLines (conversation.buffer ++ bytes)).1 = outcome at hlines ⊢
      generalize (splitLines (conversation.buffer ++ bytes)).2 = rest
      unfold rejection at hlines
      unfold endRead
      split
      · rename_i hinvalid
        rwa [if_pos hinvalid] at hlines
      · rename_i hkept
        rw [if_neg hkept, List.append_nil] at hlines
        rw [Bool.not_eq_false] at hkept
        split
        · exact hlines.trans (Move.rejected hkept).moves
        · have hall := hlines.trans (Move.kept rest).moves
          rwa [List.append_nil] at hall

theorem step_moves (conversation : HelperRuntimeConversation) (next : RuntimeStep) :
    Moves conversation (conversation.step next).1 (conversation.step next).2 := by
  cases next with
  | received bytes => exact feed_moves conversation bytes
  | completed completion =>
      unfold step completeProfileChange
      dsimp only
      split
      · exact (Move.ignored completion ‹_›).moves
      · rename_i hpending
        rw [not_or, not_or, Bool.not_eq_false, Bool.not_eq_true, ← ne_eq, Option.ne_none_iff_isSome] at hpending
        exact (Move.answered completion hpending.1 hpending.2.1 hpending.2.2).moves
  | finished => exact Move.finished.moves

/-- A run is made of moves. -/
theorem run_moves (conversation : HelperRuntimeConversation) (steps : List RuntimeStep) :
    Moves conversation (conversation.run steps).1 (conversation.run steps).2 := by
  induction steps generalizing conversation with
  | nil => exact .refl
  | cons next steps ih => exact (step_moves conversation next).trans (ih _)

end Moves

/-! ### The order of what is seen -/

/-- Every delivered change has been answered. -/
def Answered (events : List RuntimeEvent) : Prop :=
  ∀ before event after, events = before ++ event :: after → event.isChange = true →
    ∃ answer ∈ after, answer.isAnswer = true

/-- What may come later than an event: nothing but silence after a rejection, and no change after a stop or an
unknown state. -/
def Later (event later : RuntimeEvent) : Prop :=
  (event.endsChanges = true → later.isChange = false) ∧ (event = .rejected → later.isHeard = false)

/-- What the conversation remembers of the events so far, and their order. -/
structure Ordered (conversation : HelperRuntimeConversation) (events : List RuntimeEvent) : Prop where
  valid : conversation.valid = false ↔ .rejected ∈ events
  finished : conversation.workloadFinished = true ↔ .finished ∈ events
  stopping : ∀ command : HelperRuntimeCommand, command.isStop = true → .delivered command ∈ events →
    conversation.stopping = true
  unknown : ∀ reply, .completed .stateUnknown (some reply) ∈ events → conversation.profileStateUnknown = true
  answered : conversation.pendingProfileChange = none → conversation.workloadFinished = false → Answered events
  pending : ∀ change, conversation.pendingProfileChange = some change → ∃ before after,
    events = before ++ .delivered (.profileChange change) :: after ∧ ∀ event ∈ after, event.isAnswer = false
  later : events.Pairwise Later
  between : ∀ before event after, events = before ++ event :: after → event.isChange = true → Answered before

section Ordered

variable {conversation next : HelperRuntimeConversation} {events seen : List RuntimeEvent} {event : RuntimeEvent}

theorem ordered_fresh : Ordered {} [] where
  valid := ⟨(fun h => nomatch h), fun h => nomatch h⟩
  finished := ⟨(fun h => nomatch h), fun h => nomatch h⟩
  stopping := fun _ _ h => nomatch h
  unknown := fun _ h => nomatch h
  answered := fun _ _ before _ _ h => absurd h.symm (List.append_ne_nil_of_right_ne_nil before (List.cons_ne_nil _ _))
  pending := fun _ h => nomatch h
  later := List.Pairwise.nil
  between := fun before _ _ h => absurd h.symm (List.append_ne_nil_of_right_ne_nil before (List.cons_ne_nil _ _))

/-- One more event is the last of a split, or stands behind it. -/
theorem concat_eq_split {before after : List RuntimeEvent} {split : RuntimeEvent}
    (h : events ++ [event] = before ++ split :: after) :
    (before = events ∧ split = event ∧ after = []) ∨
      ∃ front, after = front ++ [event] ∧ events = before ++ split :: front := by
  rcases List.eq_nil_or_concat after with rfl | ⟨front, last, rfl⟩
  · obtain ⟨rfl, hlast⟩ := List.append_inj' h rfl
    exact Or.inl ⟨rfl, (List.singleton_inj.mp hlast).symm, rfl⟩
  · rw [List.concat_eq_append, ← List.cons_append, ← List.append_assoc] at h
    obtain ⟨rfl, hlast⟩ := List.append_inj' h rfl
    exact Or.inr ⟨front, by rw [List.concat_eq_append, List.singleton_inj.mp hlast], rfl⟩

theorem Answered.concat (h : Answered events) (hevent : event.isChange = false) : Answered (events ++ [event]) := by
  intro before split after hsplit hchange
  rcases concat_eq_split hsplit with ⟨-, rfl, -⟩ | ⟨front, rfl, hfront⟩
  · exact nomatch hevent.symm.trans hchange
  · obtain ⟨answer, hanswer, hmem⟩ := h before split front hfront hchange
    exact ⟨answer, List.mem_append_left _ hanswer, hmem⟩

theorem answered_concat (h : event.isAnswer = true) (hevent : event.isChange = false) : Answered (events ++ [event]) := by
  intro before split after hsplit hchange
  rcases concat_eq_split hsplit with ⟨-, rfl, -⟩ | ⟨front, rfl, -⟩
  · exact nomatch hevent.symm.trans hchange
  · exact ⟨event, List.mem_append_right _ List.mem_cons_self, h⟩

/-- One more event keeps the order if nothing before it forbids it, and a change finds the others answered. -/
theorem Ordered.concat_order (h : Ordered conversation events) (event : RuntimeEvent)
    (hlater : ∀ before ∈ events, Later before event)
    (hanswered : event.isChange = true → Answered events) :
    (events ++ [event]).Pairwise Later ∧
      ∀ before split after, events ++ [event] = before ++ split :: after → split.isChange = true → Answered before := by
  refine ⟨List.pairwise_append.mpr ⟨h.later, List.pairwise_singleton _ _, ?_⟩, ?_⟩
  · intro before hbefore later hmem
    rw [List.mem_singleton.mp hmem]
    exact hlater before hbefore
  · intro before split after hsplit hchange
    rcases concat_eq_split hsplit with ⟨rfl, rfl, -⟩ | ⟨front, -, hfront⟩
    · exact hanswered hchange
    · exact h.between before split front hfront hchange

theorem Ordered.not_rejected (h : Ordered conversation events) (hvalid : conversation.valid = true)
    (hmem : event ∈ events) : event ≠ .rejected := by
  rintro rfl
  exact nomatch hvalid.symm.trans (h.valid.mpr hmem)

theorem Ordered.of_endsChanges (h : Ordered conversation events) (hmem : event ∈ events)
    (hends : event.endsChanges = true) : conversation.stopping = true ∨ conversation.profileStateUnknown = true := by
  cases event with
  | delivered command => exact Or.inl (h.stopping command hends hmem)
  | rejected => exact nomatch hends
  | completed completion reply =>
      cases completion with
      | stateUnknown =>
          obtain ⟨text, rfl⟩ := Option.isSome_iff_exists.mp hends
          exact Or.inr (h.unknown text hmem)
      | applied => exact nomatch hends
      | restoredAfterFailure => exact nomatch hends
  | finished => exact nomatch hends

theorem Ordered.pending_concat (h : Ordered conversation events) (hanswer : event.isAnswer = false) (change : ProfileChange)
    (hpending : conversation.pendingProfileChange = some change) : ∃ before after,
    events ++ [event] = before ++ .delivered (.profileChange change) :: after ∧
      ∀ event ∈ after, event.isAnswer = false := by
  obtain ⟨before, after, rfl, hafter⟩ := h.pending change hpending
  refine ⟨before, after ++ [event], by rw [List.append_assoc, List.cons_append], fun other hother => ?_⟩
  rcases List.mem_append.mp hother with hother | hother
  · exact hafter other hother
  · rwa [List.mem_singleton.mp hother]

/-- A move keeps the order. -/
theorem Ordered.move (h : Ordered conversation events) (hmove : Move conversation next seen) :
    Ordered next (events ++ seen) := by
  cases hmove with
  | kept buffer =>
      rw [List.append_nil]
      exact ⟨h.valid, h.finished, h.stopping, h.unknown, h.answered, h.pending, h.later, h.between⟩
  | @stop command isstop valid going =>
      have hchange : (RuntimeEvent.delivered command).isChange = false := by
        rw [RuntimeEvent.isChange, isstop]
        rfl
      obtain ⟨hlater, hbetween⟩ := h.concat_order (.delivered command)
        (fun before hbefore => ⟨fun _ => hchange, fun hrejected => absurd hrejected (h.not_rejected valid hbefore)⟩)
        (fun hcontra => nomatch hchange.symm.trans hcontra)
      exact ⟨by simpa using h.valid, by simpa using h.finished, fun _ _ _ => rfl, by simpa using h.unknown,
        fun hfree hgoing => (h.answered hfree hgoing).concat hchange, h.pending_concat rfl, hlater, hbetween⟩
  | change change valid going known free unstopped =>
      have hlast : ∀ before ∈ events, Later before (.delivered (.profileChange change)) := by
        refine fun before hbefore => ⟨fun hends => ?_, fun hrejected => ?_⟩
        · rcases h.of_endsChanges hbefore hends with hstopping | hunknown
          · exact nomatch unstopped.symm.trans hstopping
          · exact nomatch known.symm.trans hunknown
        · exact absurd hrejected (h.not_rejected valid hbefore)
      obtain ⟨hlater, hbetween⟩ := h.concat_order (.delivered (.profileChange change)) hlast
        (fun _ => h.answered free going)
      refine ⟨by simpa using h.valid, by simpa using h.finished, fun command hstop hmem => ?_,
        by simpa using h.unknown, (fun hnone => nomatch hnone), fun other hother => ?_, hlater, hbetween⟩
      · rcases List.mem_append.mp hmem with hmem | hmem
        · exact h.stopping command hstop hmem
        · rw [List.mem_singleton, RuntimeEvent.delivered.injEq] at hmem
          rw [hmem] at hstop
          exact nomatch hstop
      · obtain rfl := Option.some.inj hother
        exact ⟨events, [], rfl, fun event hevent => nomatch hevent⟩
  | rejected valid =>
      obtain ⟨hlater, hbetween⟩ := h.concat_order .rejected
        (fun before hbefore => ⟨fun _ => rfl, fun hrejected => absurd hrejected (h.not_rejected valid hbefore)⟩)
        (fun hcontra => nomatch hcontra)
      exact ⟨by simp [invalidate], by simpa [invalidate] using h.finished, by simpa [invalidate] using h.stopping,
        by simpa [invalidate] using h.unknown,
        fun hfree hgoing => (h.answered hfree hgoing).concat rfl, h.pending_concat rfl, hlater, hbetween⟩
  | answered completion valid going pending =>
      obtain ⟨hlater, hbetween⟩ := h.concat_order (.completed completion (some _))
        (fun before hbefore => ⟨fun _ => rfl, fun hrejected => absurd hrejected (h.not_rejected valid hbefore)⟩)
        (fun hcontra => nomatch hcontra)
      refine ⟨by simpa using h.valid, by simpa using h.finished, by simpa using h.stopping, fun reply hmem => ?_,
        fun _ _ => answered_concat rfl rfl, (fun change hnone => nomatch hnone), hlater, hbetween⟩
      rcases List.mem_append.mp hmem with hmem | hmem
      · dsimp only
        rw [h.unknown reply hmem]
        rfl
      · rw [List.mem_singleton, RuntimeEvent.completed.injEq] at hmem
        dsimp only
        rw [← hmem.1, decide_eq_true rfl, Bool.or_true]
  | ignored completion idle =>
      obtain ⟨hlater, hbetween⟩ := h.concat_order (.completed completion none)
        (fun before hbefore => ⟨fun _ => rfl, fun _ => rfl⟩)
        (fun hcontra => nomatch hcontra)
      exact ⟨by simpa using h.valid, by simpa using h.finished, by simpa using h.stopping, by simpa using h.unknown,
        fun hfree hgoing => (h.answered hfree hgoing).concat rfl, h.pending_concat rfl, hlater, hbetween⟩
  | finished =>
      obtain ⟨hlater, hbetween⟩ := h.concat_order .finished (fun before hbefore => ⟨fun _ => rfl, fun _ => rfl⟩)
        (fun hcontra => nomatch hcontra)
      exact ⟨by simpa [finishWorkload] using h.valid, by simp [finishWorkload],
        by simpa [finishWorkload] using h.stopping, by simpa [finishWorkload] using h.unknown,
        (fun _ hgoing => nomatch hgoing), (fun change hnone => nomatch hnone), hlater, hbetween⟩

theorem Ordered.moves (h : Ordered conversation events) (hmoves : Moves conversation next seen) :
    Ordered next (events ++ seen) := by
  induction hmoves with
  | refl => rwa [List.append_nil]
  | tail moves move ih =>
      rw [← List.append_assoc]
      exact ih.move move

theorem ordered_run [DecimalText] (steps : List RuntimeStep) : Ordered (run {} steps).1 (run {} steps).2 := by
  have hmoves := ordered_fresh.moves (run_moves {} steps)
  rwa [List.nil_append] at hmoves

end Ordered

/-! ### Reads in pieces -/

section Pieces

variable [DecimalText] {conversation : HelperRuntimeConversation} {steps : List RuntimeStep}

theorem receiveLines_valid_cons {line : Bytes} {lines : List Bytes} {next : HelperRuntimeConversation}
    {commands : List HelperRuntimeCommand} (hshort : line.length ≤ maximumHelperMessageSize)
    (hline : conversation.receiveLine line = some (next, commands)) :
    conversation.receiveLines (line :: lines) = ((next.receiveLines lines).1, commands ++ (next.receiveLines lines).2) := by
  rw [receiveLines, if_neg (Nat.not_lt.mpr hshort), hline]

theorem receiveLines_refused {line : Bytes} {lines : List Bytes}
    (h : maximumHelperMessageSize < line.length ∨ conversation.receiveLine line = none) :
    conversation.receiveLines (line :: lines) = (conversation.invalidate, []) := by
  rw [receiveLines]
  split
  · rfl
  · rename_i hshort
    rw [h.resolve_left hshort]

/-- A line is refused, or it is taken. -/
theorem receiveLine_cases (conversation : HelperRuntimeConversation) (line : Bytes) :
    (maximumHelperMessageSize < line.length ∨ conversation.receiveLine line = none) ∨
      line.length ≤ maximumHelperMessageSize ∧ ∃ next commands, conversation.receiveLine line = some (next, commands) := by
  by_cases hlong : maximumHelperMessageSize < line.length
  · exact Or.inl (Or.inl hlong)
  · cases hline : conversation.receiveLine line with
    | none => exact Or.inl (Or.inr rfl)
    | some outcome => exact Or.inr ⟨Nat.not_lt.mp hlong, outcome.1, outcome.2, rfl⟩

/-- Lines go on behind others, unless one of those is refused. -/
theorem receiveLines_append (hvalid : conversation.valid = true) (lines more : List Bytes) :
    conversation.receiveLines (lines ++ more) =
      if (conversation.receiveLines lines).1.valid = false then conversation.receiveLines lines
      else (((conversation.receiveLines lines).1.receiveLines more).1,
        (conversation.receiveLines lines).2 ++ ((conversation.receiveLines lines).1.receiveLines more).2) := by
  induction lines generalizing conversation with
  | nil =>
      rw [receiveLines, if_neg (by rw [hvalid]; exact Bool.noConfusion)]
      rfl
  | cons line lines ih =>
      rw [List.cons_append]
      rcases receiveLine_cases conversation line with hrefused | ⟨hshort, next, commands, hline⟩
      · rw [receiveLines_refused hrefused, receiveLines_refused hrefused]
        exact (if_pos rfl).symm
      · rw [receiveLines_valid_cons hshort hline, receiveLines_valid_cons hshort hline,
          ih ((receiveLine_valid hline).trans hvalid)]
        split
        · rfl
        · rw [List.append_assoc]

theorem receiveLine_buffer (buffer line : Bytes) : { conversation with buffer }.receiveLine line =
    (conversation.receiveLine line).map fun outcome => ({ outcome.1 with buffer }, outcome.2) := by
  unfold receiveLine
  split
  · rfl
  · dsimp only
    split
    · rfl
    · split <;> rfl
  · dsimp only
    split <;> rfl

omit [DecimalText] in
theorem endRead_commands (outcome : HelperRuntimeConversation × List HelperRuntimeCommand)
    (commands : List HelperRuntimeCommand) (rest : Bytes) :
    endRead (outcome.1, commands ++ outcome.2) rest =
      ((endRead outcome rest).1, commands.map .delivered ++ (endRead outcome rest).2) := by
  unfold endRead
  dsimp only
  split
  · rw [List.map_append, List.append_assoc]
  · split
    · rw [List.map_append, List.append_assoc]
    · rw [List.map_append]

/-- The buffer does not matter to the lines. -/
theorem endRead_buffer (hvalid : conversation.valid = true) (buffer rest : Bytes) (lines : List Bytes) :
    endRead ({ conversation with buffer }.receiveLines lines) rest = endRead (conversation.receiveLines lines) rest := by
  induction lines generalizing conversation with
  | nil =>
      have hkept : ¬ conversation.valid = false := by
        rw [hvalid]
        exact Bool.noConfusion
      rw [receiveLines, receiveLines, endRead, endRead, if_neg hkept, if_neg hkept]
      rfl
  | cons line lines ih =>
      rcases receiveLine_cases conversation line with hrefused | ⟨hshort, next, heard, hline⟩
      · have hrefused' : maximumHelperMessageSize < line.length ∨ { conversation with buffer }.receiveLine line = none := by
          rw [receiveLine_buffer]
          exact hrefused.imp_right fun hnone => by rw [hnone]; rfl
        rw [receiveLines_refused hrefused, receiveLines_refused hrefused']
        rfl
      · have hline' : { conversation with buffer }.receiveLine line = some ({ next with buffer }, heard) := by
          rw [receiveLine_buffer, hline]
          rfl
        rw [receiveLines_valid_cons hshort hline, receiveLines_valid_cons hshort hline', endRead_commands,
          endRead_commands, ih ((receiveLine_valid hline).trans hvalid)]

/-- A line that is too long already is refused when it goes on. -/
theorem endRead_tooLong (hvalid : conversation.valid = true) {rest : Bytes} (hrest : newline ∉ rest)
    (hlong : maximumHelperMessageSize < rest.length) (second : Bytes) :
    endRead (conversation.receiveLines (splitLines (rest ++ second)).1) (splitLines (rest ++ second)).2 =
      (conversation.invalidate, [.rejected]) := by
  have hkept : ¬ conversation.valid = false := by
    rw [hvalid]
    exact Bool.noConfusion
  rcases splitAtMark_unfinished hrest with ⟨hlines, htail⟩ | ⟨line, lines, hlines, hline⟩
  · have hstill : maximumHelperMessageSize < (rest ++ second).length :=
      hlong.trans_le (List.prefix_append rest second).length_le
    rw [hlines, htail, receiveLines, endRead, if_neg hkept, if_pos hstill]
    rfl
  · rw [hlines, receiveLines_refused (Or.inl (hlong.trans_le hline.length_le))]
    rfl

/-- A read goes on behind another. -/
theorem endRead_feed (outcome : HelperRuntimeConversation × List HelperRuntimeCommand) {rest : Bytes}
    (hrest : newline ∉ rest) (second : Bytes) :
    endRead
        (if outcome.1.valid = false then outcome
        else ((outcome.1.receiveLines (splitLines (rest ++ second)).1).1,
          outcome.2 ++ (outcome.1.receiveLines (splitLines (rest ++ second)).1).2))
        (splitLines (rest ++ second)).2 =
      ((feed (endRead outcome rest).1 second).1,
        (endRead outcome rest).2 ++ (feed (endRead outcome rest).1 second).2) := by
  cases hvalid : outcome.1.valid with
  | false =>
      rw [if_pos rfl, endRead, if_pos hvalid, endRead, if_pos hvalid, feed_invalid hvalid, List.append_nil]
  | true =>
      rw [if_neg Bool.noConfusion, endRead_commands]
      by_cases hlong : maximumHelperMessageSize < rest.length
      · have hread : endRead outcome rest = (outcome.1.invalidate, outcome.2.map .delivered ++ [.rejected]) := by
          rw [endRead, if_neg (by rw [hvalid]; exact Bool.noConfusion), if_pos hlong]
        rw [hread, endRead_tooLong hvalid hrest hlong, feed_invalid rfl, List.append_nil]
      · have hread : endRead outcome rest = ({ outcome.1 with buffer := rest }, outcome.2.map .delivered) := by
          rw [endRead, if_neg (by rw [hvalid]; exact Bool.noConfusion), if_neg hlong]
        have hnext : ({ outcome.1 with buffer := rest } : HelperRuntimeConversation).valid = true := hvalid
        have hfeed := (feed_valid hnext second).trans (endRead_buffer hvalid rest _ _)
        rw [hread, hfeed]

/-- A read comes to what its parts come to. -/
theorem feed_append (conversation : HelperRuntimeConversation) (first second : Bytes) :
    feed conversation (first ++ second) = feedAll feed conversation [first, second] := by
  rw [feedAll_cons, feedAll_singleton]
  cases hvalid : conversation.valid with
  | false => rw [feed_invalid hvalid, feed_invalid hvalid, feed_invalid hvalid]; rfl
  | true =>
      have hsplit : splitLines (conversation.buffer ++ first ++ second) = _ := splitAtMark_append newline _ second
      rw [feed_valid hvalid, feed_valid hvalid, ← List.append_assoc, hsplit, receiveLines_append hvalid]
      exact endRead_feed _ (notMem_splitAtMark_snd _) second

/-- What is kept between reads: an unfinished line that is not too long. -/
def Tidy (conversation : HelperRuntimeConversation) : Prop :=
  newline ∉ conversation.buffer ∧ conversation.buffer.length ≤ maximumHelperMessageSize

omit [DecimalText] in
theorem tidy_nil (h : conversation.buffer = []) : conversation.Tidy := by
  rw [Tidy, h]
  exact ⟨List.not_mem_nil, Nat.zero_le _⟩

theorem receiveLines_buffer (lines : List Bytes) : (conversation.receiveLines lines).1.valid = false →
    conversation.valid = true → (conversation.receiveLines lines).1.buffer = [] := by
  induction lines generalizing conversation with
  | nil => exact fun hinvalid hvalid => nomatch hinvalid.symm.trans hvalid
  | cons line lines ih =>
      intro hinvalid hvalid
      rcases receiveLine_cases conversation line with hrefused | ⟨hshort, next, heard, hline⟩
      · rw [receiveLines_refused hrefused]
        rfl
      · rw [receiveLines_valid_cons hshort hline] at hinvalid ⊢
        exact ih hinvalid ((receiveLine_valid hline).trans hvalid)

theorem Tidy.feed (h : conversation.Tidy) (bytes : Bytes) : (feed conversation bytes).1.Tidy := by
  cases hvalid : conversation.valid with
  | false => rwa [feed_invalid hvalid]
  | true =>
      rw [feed_valid hvalid, endRead]
      split
      · exact tidy_nil (receiveLines_buffer _ ‹_› hvalid)
      · split
        · exact tidy_nil rfl
        · exact ⟨notMem_splitAtMark_snd _, Nat.not_lt.mp ‹_›⟩

omit [DecimalText] in
/-- The end of a change is nothing to the stream. -/
theorem completeProfileChange_keeps (conversation : HelperRuntimeConversation) (completion : ProfileChangeCompletion) :
    (conversation.completeProfileChange completion).1.valid = conversation.valid ∧
      (conversation.completeProfileChange completion).1.buffer = conversation.buffer ∧
      (conversation.completeProfileChange completion).1.workloadFinished = conversation.workloadFinished := by
  unfold completeProfileChange
  split <;> exact ⟨rfl, rfl, rfl⟩

theorem Tidy.step (h : conversation.Tidy) (next : RuntimeStep) : (conversation.step next).1.Tidy := by
  cases next with
  | received bytes => exact h.feed bytes
  | completed completion =>
      have hbuffer := (completeProfileChange_keeps conversation completion).2.1
      unfold Tidy
      rwa [show (conversation.step (.completed completion)).1.buffer = conversation.buffer from hbuffer]
  | finished => exact tidy_nil rfl

/-- A read of nothing. -/
theorem Tidy.feed_nil (h : conversation.Tidy) : HelperRuntimeConversation.feed conversation [] = (conversation, []) := by
  cases hvalid : conversation.valid with
  | false => exact feed_invalid hvalid []
  | true =>
      rw [feed_valid hvalid, List.append_nil, show splitLines conversation.buffer = _ from splitAtMark_of_notMem h.1,
        receiveLines, endRead, if_neg (by rw [hvalid]; exact Bool.noConfusion), if_neg (Nat.not_lt.mpr h.2)]
      rfl

theorem run_append (steps more : List RuntimeStep) : conversation.run (steps ++ more) =
    (((conversation.run steps).1.run more).1, (conversation.run steps).2 ++ ((conversation.run steps).1.run more).2) := by
  induction steps generalizing conversation with
  | nil => rfl
  | cons next steps ih => rw [List.cons_append, run, ih, run, List.append_assoc]

/-- Reads are those of the machine in turn. -/
theorem run_received (pieces : List Bytes) :
    conversation.run (pieces.map .received) = feedAll HelperRuntimeConversation.feed conversation pieces := by
  induction pieces generalizing conversation with
  | nil => rfl
  | cons piece pieces ih =>
      rw [List.map_cons, run, ih, feedAll_cons]
      rfl

/-- A run does not depend on how its bytes arrive. -/
theorem run_bytewise (h : conversation.Tidy) (steps : List RuntimeStep) :
    conversation.run (steps.flatMap RuntimeStep.bytewise) = conversation.run steps := by
  induction steps generalizing conversation with
  | nil => rfl
  | cons next steps ih =>
      have hstep : conversation.run next.bytewise = conversation.step next := by
        cases next with
        | received bytes =>
            rw [RuntimeStep.bytewise, run_received]
            rcases bytes with _ | ⟨byte, bytes⟩
            · exact h.feed_nil.symm
            · rw [feedAll_of_append feed_append (by rw [List.map_cons]; exact List.cons_ne_nil _ _)]
              rw [← List.flatMap_def, List.flatMap_singleton']
              rfl
        | completed completion => exact Prod.ext rfl (List.append_nil _)
        | finished => rfl
      rw [List.flatMap_cons, run_append, hstep, ih (h.step next), run]

end Pieces

/-! ### Stops -/

section Stops

variable [DecimalText] {conversation next : HelperRuntimeConversation} {commands : List HelperRuntimeCommand}
  {events : List RuntimeEvent} {stream : Bytes}

/-- The stop that a line is. -/
def stopOf (line : Bytes) : Option HelperRuntimeCommand :=
  (parseHelperRuntimeCommand line).filter HelperRuntimeCommand.isStop

theorem receiveLine_stop {line : Bytes} (hgoing : conversation.workloadFinished = false)
    (h : conversation.receiveLine line = some (next, commands)) :
    next.workloadFinished = false ∧
      (commands.map RuntimeEvent.delivered).filterMap RuntimeEvent.stop = (stopOf line).toList := by
  unfold receiveLine at h
  unfold stopOf
  split at h
  · exact nomatch h
  · rename_i change hline
    rw [hline]
    split at h
    · cases h
      exact ⟨hgoing, rfl⟩
    · obtain ⟨-, hnext⟩ := Option.ite_none_left_eq_some.mp h
      cases hnext
      exact ⟨hgoing, rfl⟩
  · rename_i command hother hline
    obtain ⟨-, hnext⟩ := Option.ite_none_left_eq_some.mp h
    cases hnext
    rw [hline]
    cases command with
    | profileChange change => exact (hother change rfl).elim
    | _ => exact ⟨hgoing, rfl⟩

/-- A stop line is never refused before the Workload has finished. -/
theorem stopOf_refused {line : Bytes} (hgoing : conversation.workloadFinished = false)
    (h : conversation.receiveLine line = none) : stopOf line = none := by
  unfold receiveLine at h
  unfold stopOf
  split at h
  · rename_i hline
    rw [hline]
    rfl
  · rename_i change hline
    rw [hline]
    rfl
  · rw [if_neg (by rw [hgoing]; exact Bool.noConfusion)] at h
    exact nomatch h

theorem filterMap_stopOf_cons (line : Bytes) (lines : List Bytes) :
    (line :: lines).filterMap stopOf = (stopOf line).toList ++ lines.filterMap stopOf := by
  rw [List.filterMap_cons]
  cases stopOf line <;> rfl

/-- The lines up to the point of rejection, if there is one. -/
inductive Taken (lines : List Bytes) (unfinished : Bytes) (stops : List HelperRuntimeCommand) : Prop
  | line (taken : List Bytes) (bad : Bytes) (more : List Bytes) (cut : lines = taken ++ bad :: more)
      (refused : maximumHelperMessageSize < bad.length ∨ stopOf bad = none) (heard : stops = taken.filterMap stopOf)
  | unfinished (long : maximumHelperMessageSize < unfinished.length) (heard : stops = lines.filterMap stopOf)

theorem receiveLines_stops (lines : List Bytes) (hgoing : conversation.workloadFinished = false)
    (hvalid : conversation.valid = true) :
    (conversation.receiveLines lines).1.workloadFinished = false ∧
      ((conversation.receiveLines lines).1.valid = true ∧
          ((conversation.receiveLines lines).2.map RuntimeEvent.delivered).filterMap RuntimeEvent.stop =
            lines.filterMap stopOf ∨
        (conversation.receiveLines lines).1.valid = false ∧ ∃ taken bad more, lines = taken ++ bad :: more ∧
          (maximumHelperMessageSize < bad.length ∨ stopOf bad = none) ∧
          ((conversation.receiveLines lines).2.map RuntimeEvent.delivered).filterMap RuntimeEvent.stop =
            taken.filterMap stopOf) := by
  induction lines generalizing conversation with
  | nil => exact ⟨hgoing, Or.inl ⟨hvalid, rfl⟩⟩
  | cons line lines ih =>
      rcases receiveLine_cases conversation line with hrefused | ⟨hshort, next, heard, hline⟩
      · rw [receiveLines_refused hrefused]
        exact ⟨hgoing, Or.inr ⟨rfl, [], line, lines, rfl, hrefused.imp_right (stopOf_refused hgoing), rfl⟩⟩
      · obtain ⟨hnext, hheard⟩ := receiveLine_stop hgoing hline
        obtain ⟨hfinished, hstops⟩ := ih hnext ((receiveLine_valid hline).trans hvalid)
        rw [receiveLines_valid_cons hshort hline, List.map_append, List.filterMap_append, hheard]
        refine ⟨hfinished, hstops.imp (fun h => ⟨h.1, ?_⟩) fun h => ⟨h.1, ?_⟩⟩
        · rw [filterMap_stopOf_cons, h.2]
        · obtain ⟨-, taken, bad, more, rfl, hbad, htaken⟩ := h
          exact ⟨line :: taken, bad, more, rfl, hbad, by rw [filterMap_stopOf_cons, htaken]⟩

/-- What the conversation has made of the stream so far. -/
structure Heard (conversation : HelperRuntimeConversation) (events : List RuntimeEvent) (read : List Bytes × Bytes) :
    Prop where
  going : conversation.workloadFinished = false
  all : conversation.valid = true →
    conversation.buffer = read.2 ∧ events.filterMap RuntimeEvent.stop = read.1.filterMap stopOf
  taken : conversation.valid = false → Taken read.1 read.2 (events.filterMap RuntimeEvent.stop)

/-- A rejection stays where it is when more is received. -/
theorem Taken.received {stops : List HelperRuntimeCommand}
    (h : Taken (splitLines stream).1 (splitLines stream).2 stops) (bytes : Bytes) :
    Taken (splitLines (stream ++ bytes)).1 (splitLines (stream ++ bytes)).2 stops := by
  have hsplit : splitLines (stream ++ bytes) = _ := splitAtMark_append newline stream bytes
  rw [hsplit]
  cases h with
  | line taken bad more cut refused heard =>
      rw [cut, List.append_assoc, List.cons_append]
      exact .line taken bad _ rfl refused heard
  | unfinished long heard =>
      have hrest : newline ∉ (splitAtMark newline stream).2 := notMem_splitAtMark_snd stream
      obtain ⟨hlines, htail⟩ | ⟨line, lines, hlines, hline⟩ := splitAtMark_unfinished hrest
      · refine .unfinished ?_ ?_
        · rw [htail]
          exact long.trans_le (List.prefix_append _ bytes).length_le
        · rw [hlines, List.append_nil, heard]
      · rw [hlines]
        exact .line _ line lines rfl (Or.inl (long.trans_le hline.length_le)) heard

omit [DecimalText] in
theorem filterMap_stop_rejected (commands : List HelperRuntimeCommand) :
    (commands.map RuntimeEvent.delivered ++ [RuntimeEvent.rejected]).filterMap RuntimeEvent.stop =
      (commands.map RuntimeEvent.delivered).filterMap RuntimeEvent.stop := by
  rw [List.filterMap_append]
  exact List.append_nil _

theorem heard_endRead (earlier lines : List Bytes) (rest : Bytes) (hgoing : conversation.workloadFinished = false)
    (hvalid : conversation.valid = true)
    (hearlier : events.filterMap RuntimeEvent.stop = earlier.filterMap stopOf) :
    Heard (endRead (conversation.receiveLines lines) rest).1
      (events ++ (endRead (conversation.receiveLines lines) rest).2) (earlier ++ lines, rest) := by
  obtain ⟨hfinished, ⟨hkept, hall⟩ | ⟨hinvalid, taken, bad, more, rfl, hbad, hsome⟩⟩ :=
    receiveLines_stops lines hgoing hvalid
  · have hstops : (events ++ (conversation.receiveLines lines).2.map RuntimeEvent.delivered).filterMap RuntimeEvent.stop =
        (earlier ++ lines).filterMap stopOf := by
      rw [List.filterMap_append, List.filterMap_append, hearlier, hall]
    rw [endRead, if_neg (by rw [hkept]; exact Bool.noConfusion)]
    split
    · refine ⟨hfinished, (fun hcontra => nomatch hcontra), fun _ => .unfinished ‹_› ?_⟩
      rw [List.filterMap_append, filterMap_stop_rejected, ← List.filterMap_append]
      exact hstops
    · exact ⟨hfinished, fun _ => ⟨rfl, hstops⟩, fun hcontra => nomatch hkept.symm.trans hcontra⟩
  · rw [endRead, if_pos hinvalid]
    refine ⟨hfinished, (fun hcontra => nomatch hinvalid.symm.trans hcontra), fun _ =>
      .line (earlier ++ taken) bad more (List.append_assoc _ _ _).symm hbad ?_⟩
    rw [List.filterMap_append, filterMap_stop_rejected, List.filterMap_append, hearlier, hsome]

theorem Heard.feed (h : Heard conversation events (splitLines stream)) (bytes : Bytes) :
    Heard (feed conversation bytes).1 (events ++ (feed conversation bytes).2) (splitLines (stream ++ bytes)) := by
  cases hvalid : conversation.valid with
  | false =>
      rw [feed_invalid hvalid, List.append_nil]
      exact ⟨h.going, (fun hcontra => nomatch hvalid.symm.trans hcontra), fun _ => (h.taken hvalid).received bytes⟩
  | true =>
      obtain ⟨hbuffer, hheard⟩ := h.all hvalid
      have hsplit : splitLines (stream ++ bytes) = _ := splitAtMark_append newline stream bytes
      rw [feed_valid hvalid, hbuffer, hsplit]
      exact heard_endRead _ _ _ h.going hvalid hheard

theorem Heard.step (h : Heard conversation events (splitLines stream)) {next : RuntimeStep} (hnext : next ≠ .finished) :
    Heard (conversation.step next).1 (events ++ (conversation.step next).2)
      (splitLines (stream ++ receivedBytes [next])) := by
  cases next with
  | received bytes =>
      rw [receivedBytes, List.flatMap_singleton]
      exact h.feed bytes
  | completed completion =>
      have hevents : (events ++ (conversation.step (.completed completion)).2).filterMap RuntimeEvent.stop =
          events.filterMap RuntimeEvent.stop := by
        rw [List.filterMap_append]
        exact List.append_nil _
      have hquiet : receivedBytes [.completed completion] = [] := rfl
      rw [hquiet, List.append_nil]
      obtain ⟨hvalid, hbuffer, hgoing⟩ := completeProfileChange_keeps conversation completion
      refine ⟨hgoing.trans h.going, fun hstill => ?_, fun hinvalid => ?_⟩
      · obtain ⟨hsame, hstops⟩ := h.all (hvalid.symm.trans hstill)
        exact ⟨hbuffer.trans hsame, hevents.trans hstops⟩
      · rw [hevents]
        exact h.taken (hvalid.symm.trans hinvalid)
  | finished => exact absurd rfl hnext

/-- The stops of a run in which the Workload goes on. -/
theorem heard_run {steps : List RuntimeStep} (h : Heard conversation events (splitLines stream))
    (hgoing : .finished ∉ steps) :
    Heard (conversation.run steps).1 (events ++ (conversation.run steps).2)
      (splitLines (stream ++ receivedBytes steps)) := by
  induction steps generalizing conversation events stream with
  | nil =>
      rw [receivedBytes, List.flatMap_nil, List.append_nil, run, List.append_nil]
      exact h
  | cons next steps ih =>
      rw [List.mem_cons, not_or] at hgoing
      have hrest := ih (h.step (Ne.symm hgoing.1)) hgoing.2
      rw [run, ← List.append_assoc]
      rw [List.append_assoc stream, receivedBytes, receivedBytes, ← List.flatMap_append] at hrest
      exact hrest

omit [DecimalText] in
/-- No stop is delivered any more when the Workload has finished. -/
theorem Moves.finished (h : Moves conversation next events) (hfinished : conversation.workloadFinished = true) :
    next.workloadFinished = true ∧ events.filterMap RuntimeEvent.stop = [] := by
  induction h with
  | refl => exact ⟨hfinished, rfl⟩
  | @tail middle next seen events moves move ih =>
      obtain ⟨hmiddle, hseen⟩ := ih
      rw [List.filterMap_append, hseen, List.nil_append]
      cases move with
      | stop isstop valid going => exact nomatch going.symm.trans hmiddle
      | change change valid going known free unstopped => exact nomatch going.symm.trans hmiddle
      | answered completion valid going pending => exact nomatch going.symm.trans hmiddle
      | finished => exact ⟨rfl, rfl⟩
      | _ => exact ⟨hmiddle, rfl⟩

/-- The stops of a run are those that it has received when the Workload finishes. -/
theorem run_stops {steps before after : List RuntimeStep} (hgoing : .finished ∉ before)
    (hsteps : steps = before ∨ steps = before ++ .finished :: after) :
    (.rejected ∉ (run {} before).2 → (run {} steps).2.filterMap RuntimeEvent.stop =
        (splitLines (receivedBytes before)).1.filterMap stopOf) ∧
      (.rejected ∈ (run {} before).2 → Taken (splitLines (receivedBytes before)).1 (splitLines (receivedBytes before)).2
        ((run {} steps).2.filterMap RuntimeEvent.stop)) := by
  have hstart : Heard ({} : HelperRuntimeConversation) [] (splitLines []) :=
    ⟨rfl, fun _ => ⟨rfl, rfl⟩, (fun hcontra => nomatch hcontra)⟩
  have hbefore := heard_run hstart hgoing
  rw [List.nil_append, List.nil_append] at hbefore
  have hstops : (run {} steps).2.filterMap RuntimeEvent.stop = (run {} before).2.filterMap RuntimeEvent.stop := by
    rcases hsteps with rfl | rfl
    · rfl
    · have hafter := (run_moves (run {} before).1.finishWorkload after).finished rfl
      rw [run_append, List.filterMap_append, run, List.filterMap_append]
      rw [show ((run {} before).1.step .finished).1 = (run {} before).1.finishWorkload from rfl, hafter.2]
      exact List.append_nil _
  have hvalid := (ordered_run before).valid
  rw [hstops]
  exact ⟨fun hkept => (hbefore.all (Bool.eq_true_of_not_eq_false (mt hvalid.mp hkept))).2,
    fun hrejected => hbefore.taken (hvalid.mpr hrejected)⟩

end Stops

/-! ### A whole run -/

section Whole

variable {conversation : HelperRuntimeConversation} {events : List RuntimeEvent}

/-- A completion is answered when the last change has not been, on a conversation that goes on. -/
theorem Ordered.reply_iff (h : Ordered conversation events) (completion : ProfileChangeCompletion) :
    (conversation.completeProfileChange completion).2.isSome = true ↔
      .rejected ∉ events ∧ .finished ∉ events ∧ ∃ change before after,
        events = before ++ .delivered (.profileChange change) :: after ∧ ∀ event ∈ after, event.isAnswer = false := by
  have hreply : (conversation.completeProfileChange completion).2.isSome = true ↔
      ¬ (conversation.valid = false ∨ conversation.workloadFinished = true ∨
        conversation.pendingProfileChange = none) := by
    unfold completeProfileChange
    split
    · rename_i hidle
      exact ⟨(fun hcontra => nomatch hcontra), fun hcontra => absurd hidle hcontra⟩
    · rename_i hbusy
      exact ⟨fun _ => hbusy, fun _ => rfl⟩
  rw [hreply, h.valid, h.finished, not_or, not_or, and_congr_right_iff, and_congr_right_iff]
  intro _ hgoing
  constructor
  · intro hpending
    obtain ⟨change, hchange⟩ := Option.ne_none_iff_exists'.mp hpending
    exact ⟨change, h.pending change hchange⟩
  · rintro ⟨change, before, after, rfl, hafter⟩ hnone
    have hunfinished : conversation.workloadFinished = false := Bool.eq_false_of_not_eq_true (mt h.finished.mp hgoing)
    obtain ⟨answer, hmem, hanswer⟩ := h.answered hnone hunfinished before _ after rfl rfl
    exact nomatch hanswer.symm.trans (hafter answer hmem)

/-- Between two changes the first is answered, and its state is known. -/
theorem Ordered.known_between (h : Ordered conversation events) {before middle after : List RuntimeEvent}
    {first second : ProfileChange}
    (hevents : events = before ++ .delivered (.profileChange first) :: (middle ++
      .delivered (.profileChange second) :: after)) :
    ∃ completion reply, completion ≠ .stateUnknown ∧ .completed completion (some reply) ∈ middle := by
  rw [← List.cons_append, ← List.append_assoc] at hevents
  obtain ⟨answer, hmem, hanswer⟩ := h.between _ _ after hevents rfl before _ middle rfl rfl
  have hlater := h.later
  rw [hevents, List.pairwise_append] at hlater
  have hknown := (hlater.2.2 answer (List.mem_append_right _ (List.mem_cons_of_mem _ hmem)) _ List.mem_cons_self).1
  cases answer with
  | completed completion reply =>
      obtain ⟨text, rfl⟩ := Option.isSome_iff_exists.mp hanswer
      refine ⟨completion, text, ?_, hmem⟩
      rintro rfl
      exact nomatch hknown rfl
  | _ => exact nomatch hanswer

theorem Ordered.after (h : Ordered conversation events) {before after : List RuntimeEvent} {event : RuntimeEvent}
    (hevents : events = before ++ event :: after) : ∀ later ∈ after, Later event later := by
  have hlater := h.later
  rw [hevents] at hlater
  exact (List.pairwise_cons.mp (List.pairwise_append.mp hlater).2.1).1

end Whole

/-- What a run of the helper's conversation delivers and answers, and in which order. -/
theorem runtime_order [DecimalText] (steps : List RuntimeStep) :
    (∀ before middle after first second,
      (run {} steps).2 = before ++ .delivered (.profileChange first) :: (middle ++
        .delivered (.profileChange second) :: after) →
      ∃ completion reply, completion ≠ .stateUnknown ∧ .completed completion (some reply) ∈ middle) ∧
    (∀ before event after, (run {} steps).2 = before ++ event :: after → event.endsChanges = true →
      ∀ later ∈ after, later.isChange = false) ∧
    (∀ before after, .finished ∉ before → steps = before ∨ steps = before ++ .finished :: after →
      (.rejected ∉ (run {} before).2 → (run {} steps).2.filterMap RuntimeEvent.stop =
        (splitLines (receivedBytes before)).1.filterMap stopOf) ∧
      (.rejected ∈ (run {} before).2 → Taken (splitLines (receivedBytes before)).1 (splitLines (receivedBytes before)).2
        ((run {} steps).2.filterMap RuntimeEvent.stop))) ∧
    (∀ others : List RuntimeStep, steps.flatMap RuntimeStep.bytewise = others.flatMap RuntimeStep.bytewise →
      run {} steps = run {} others) ∧
    (∀ completion, ((run {} steps).1.completeProfileChange completion).2.isSome = true ↔
      .rejected ∉ (run {} steps).2 ∧ .finished ∉ (run {} steps).2 ∧ ∃ change before after,
        (run {} steps).2 = before ++ .delivered (.profileChange change) :: after ∧
          ∀ event ∈ after, event.isAnswer = false) ∧
    (∀ before after, (run {} steps).2 = before ++ .rejected :: after → ∀ later ∈ after, later.isHeard = false) := by
  have hordered := ordered_run steps
  have hfresh : Tidy {} := tidy_nil rfl
  refine ⟨fun before middle after first second => hordered.known_between, ?_, ?_, ?_, hordered.reply_iff, ?_⟩
  · exact fun before event after hevents hends later hlater => (hordered.after hevents later hlater).1 hends
  · exact fun before after hgoing hsteps => run_stops hgoing hsteps
  · intro others hothers
    rw [← run_bytewise hfresh steps, hothers, run_bytewise hfresh others]
  · exact fun before after hevents later hlater => (hordered.after hevents later hlater).2 rfl

section Sample

attribute [local instance] bitPatternText

/-- A completion that answers nothing leaves the state known. -/
theorem runtime_order_unasked : ¬ ∀ (steps : List RuntimeStep) before reply after,
    (run {} steps).2 = before ++ .completed .stateUnknown reply :: after → ∀ later ∈ after, later.isChange = false := by
  intro h
  have hrun : (run {} [.completed .stateUnknown, .received (ascii "PROFILE_RESET OUTBOUND DELAY\n")]).2 =
      [] ++ .completed .stateUnknown none :: [.delivered (.profileChange (.resetSetting .outbound .delay))] := by
    decide
  exact nomatch h _ _ _ _ hrun _ List.mem_cons_self

/-- A change, a piece of the next, the end of the first, and the rest with a stop. -/
def pieceSteps : List RuntimeStep :=
  [.received (ascii "PROFILE_RESET OUTBOUND DELAY\nPROFILE_RESET INBOUND"), .completed .applied,
    .received (ascii " JITTER\nSTOP TERM\n")]

theorem runtime_order_pieces :
    (run {} (pieceSteps ++ [.finished])).2.filterMap RuntimeEvent.stop = [.stopTerminate] := by
  have hstops := (runtime_order (pieceSteps ++ [.finished])).2.2.1 pieceSteps [] (by decide) (Or.inr rfl)
  exact (hstops.1 (by decide)).trans (by decide)

end Sample

end HelperRuntimeConversation

end NetLagLab
