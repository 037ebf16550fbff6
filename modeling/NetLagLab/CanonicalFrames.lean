import NetLagLab.CommandCodec
import NetLagLab.SupervisorConversation

/-! The spellings of the frames of the helper. The Supervisor accepts a number in more than one of them: a frame is the
one that the helper writes for its event exactly if the number, where it has one, is spelled as runtime commands have
to spell theirs. -/

namespace NetLagLab

open ByteLines

/-- What the frames that carry a number begin with. -/
def numberedFrames : List Bytes :=
  [ascii "ACTIVE ", ascii "START_FAILED ", ascii "WORKLOAD_EXITED ", ascii "WORKLOAD_SIGNALED "]

/-- The number of a frame, if it is of a kind that has one. -/
def frameNumber (line : Bytes) : Option Bytes :=
  (numberedFrames.find? (·.isPrefixOf line)).map fun start => line.drop start.length

/-- The number of the frame, if there is one, has no sign and no leading zero. -/
def CanonicalFrame (line : Bytes) : Prop :=
  ∀ number, frameNumber line = some number → hasCanonicalUnsignedSpelling number = true

section Numbers

variable {line start text : Bytes} {minimum maximum value : Int}

/-- A number is written back as it was read if its spelling is canonical. -/
theorem decimalTextInt_eq_iff (hminimum : 0 ≤ minimum) (h : parseBoundedInteger text minimum maximum = some value) :
    decimalTextInt value = text ↔ hasCanonicalUnsignedSpelling text = true := by
  have hnonneg : 0 ≤ value := hminimum.trans (parseBoundedInteger_range h).1
  have hwritten : decimalTextInt value = decimalText value.toNat := if_neg (not_lt.mpr hnonneg)
  rw [hwritten]
  constructor
  · rintro rfl
    exact hasCanonicalUnsignedSpelling_decimalText _
  · intro hcanonical
    have hdigits := hcanonical
    unfold hasCanonicalUnsignedSpelling at hdigits
    rw [Bool.if_false_left, Bool.and_eq_true] at hdigits
    have hsign : text.head? ≠ some 45 := by
      intro hhead
      exact absurd (List.all_eq_true.mp hdigits.2 45 (List.mem_of_mem_head? hhead)) (by decide)
    unfold parseBoundedInteger at h
    simp only [hsign, decide_false, Bool.false_eq_true, if_false, Option.ite_none_left_eq_some, Option.some.injEq] at h
    rw [← h.2.2.2, Int.toNat_natCast]
    exact decimalText_decimalValue hcanonical

theorem eq_append_of_parseValueAfter (h : parseValueAfter line start minimum maximum = some value) :
    ∃ text, line = start ++ text ∧ parseBoundedInteger text minimum maximum = some value := by
  unfold parseValueAfter at h
  split at h
  · rename_i hprefix
    obtain ⟨text, rfl⟩ := List.isPrefixOf_iff_prefix.mp hprefix
    rw [List.drop_left] at h
    exact ⟨text, rfl, h⟩
  · exact nomatch h

theorem frameNumber_append (hstart : start ∈ numberedFrames) (text : Bytes) : frameNumber (start ++ text) = some text := by
  have hown : start.isPrefixOf (start ++ text) = true := List.isPrefixOf_iff_prefix.mpr (List.prefix_append _ _)
  simp only [numberedFrames, List.mem_cons, List.not_mem_nil, or_false] at hstart
  rcases hstart with rfl | rfl | rfl | rfl <;> rfl

/-- A frame with a number. -/
theorem numbered_iff (hstart : start ∈ numberedFrames) (hminimum : 0 ≤ minimum)
    (h : parseValueAfter line start minimum maximum = some value) :
    some (start ++ decimalTextInt value) = some line ↔ CanonicalFrame line := by
  obtain ⟨text, rfl, hparse⟩ := eq_append_of_parseValueAfter h
  rw [Option.some.injEq, List.append_cancel_left_eq, decimalTextInt_eq_iff hminimum hparse, CanonicalFrame,
    frameNumber_append hstart]
  exact ⟨fun hcanonical number hnumber => Option.some.inj hnumber ▸ hcanonical, fun h => h text rfl⟩

/-- A frame without a number. -/
theorem plain_iff (h : frameNumber line = none) : some line = some line ↔ CanonicalFrame line :=
  ⟨(fun _ _ hnumber => nomatch h.symm.trans hnumber), fun _ => rfl⟩

end Numbers

namespace SupervisorHelperConversation

variable {conversation : SupervisorHelperConversation} {line : Bytes}

theorem receiveTerminal_canonical (h : (conversation.receiveTerminal line).2 ≠ .conversationLost) :
    helperConversationEventLine (conversation.receiveTerminal line).2 = some line ↔ CanonicalFrame line := by
  unfold receiveTerminal at h ⊢
  cases hexited : parseValueAfter line (ascii "WORKLOAD_EXITED ") 0 255 with
  | some result => exact numbered_iff (by decide) le_rfl hexited
  | none =>
      rw [hexited] at h
      cases hsignaled : parseValueAfter line (ascii "WORKLOAD_SIGNALED ") 1 127 with
      | some signal => exact numbered_iff (by decide) (by decide) hsignaled
      | none =>
          rw [hsignaled] at h
          exact absurd rfl h

/-- An accepted line is that of its event if its number is spelled canonically. -/
theorem receiveLine_canonical (h : (conversation.receiveLine line).2 ≠ .conversationLost) :
    helperConversationEventLine (conversation.receiveLine line).2 = some line ↔ CanonicalFrame line := by
  unfold receiveLine at h ⊢
  cases hreply : conversation.receiveReply line with
  | some outcome =>
      obtain ⟨change, -, -, ⟨rfl, rfl⟩ | ⟨rfl, rfl⟩ | ⟨rfl, rfl⟩⟩ := receiveReply_some hreply
      · exact plain_iff (by decide)
      · exact plain_iff (by decide)
      · exact plain_iff (by decide)
  | none =>
      rw [hreply] at h
      dsimp only at h ⊢
      split at h
      · exact absurd rfl h
      · rename_i herror
        rw [if_neg herror]
        cases hstate : conversation.state with
        | waitingForReady =>
            rw [hstate] at h
            dsimp only at h ⊢
            split at h
            · rename_i hready
              subst hready
              exact plain_iff (by decide)
            · exact absurd rfl h
        | waitingForActivation =>
            rw [hstate] at h
            dsimp only at h ⊢
            cases hactive : parseValueAfter line (ascii "ACTIVE ") 1 1000000000 with
            | some pid => exact numbered_iff (by decide) (by decide) hactive
            | none =>
                rw [hactive] at h
                cases hfailed : parseValueAfter line (ascii "START_FAILED ") 125 127 with
                | some result => exact numbered_iff (by decide) (by decide) hfailed
                | none =>
                    rw [hfailed] at h
                    exact absurd rfl h
        | active =>
            rw [hstate] at h
            exact receiveTerminal_canonical h
        | profileStateUnknown =>
            rw [hstate] at h
            exact receiveTerminal_canonical h
        | waitingForCleanup =>
            rw [hstate] at h
            dsimp only at h ⊢
            split at h
            · rename_i hok
              subst hok
              exact plain_iff (by decide)
            · rename_i hnot
              rw [if_neg hnot]
              split at h
              · rename_i hfailed
                subst hfailed
                exact plain_iff (by decide)
              · exact absurd rfl h
        | finished =>
            rw [hstate] at h
            exact absurd rfl h
        | failed =>
            rw [hstate] at h
            exact absurd rfl h

/-- Behind events a last one comes with one line at most. -/
theorem mem_zip_concat {lines : List Bytes} {events : List HelperConversationEvent} {event last : HelperConversationEvent}
    (h : (line, event) ∈ lines.zip (events ++ [last])) : (line, event) ∈ lines.zip events ∨ event = last := by
  induction lines generalizing events with
  | nil => exact nomatch h
  | cons first lines ih =>
      cases events with
      | nil =>
          rw [List.nil_append, List.zip_cons_cons, List.zip_nil_right, List.mem_singleton] at h
          exact .inr (Prod.ext_iff.mp h).2
      | cons event events =>
          rw [List.cons_append, List.zip_cons_cons, List.mem_cons] at h
          rw [List.zip_cons_cons, List.mem_cons, or_assoc]
          exact h.imp_right ih

/-- Every line that is turned into an event. -/
theorem receiveLines_canonical {lines : List Bytes} {event : HelperConversationEvent}
    (hturned : (line, event) ∈ lines.zip (conversation.receiveLines lines).2) (hevent : event ≠ .conversationLost) :
    helperConversationEventLine event = some line ↔ CanonicalFrame line := by
  induction lines generalizing conversation with
  | nil => exact nomatch hturned
  | cons first lines ih =>
      unfold receiveLines at hturned
      split at hturned
      · rw [List.zip_cons_cons, List.zip_nil_right, List.mem_singleton] at hturned
        exact absurd (Prod.ext_iff.mp hturned).2 hevent
      · dsimp only at hturned
        have hfirst : (line, event) = (first, (conversation.receiveLine first).2) →
            (helperConversationEventLine event = some line ↔ CanonicalFrame line) := by
          intro hpair
          rw [Prod.mk.injEq] at hpair
          obtain ⟨rfl, heq⟩ := hpair
          rw [heq] at hevent ⊢
          exact receiveLine_canonical hevent
        split at hturned
        · rw [List.zip_cons_cons, List.zip_nil_right, List.mem_singleton] at hturned
          exact hfirst hturned
        · rw [List.zip_cons_cons, List.mem_cons] at hturned
          exact hturned.elim hfirst ih

end SupervisorHelperConversation

theorem message_eq_iff {event : HelperConversationEvent} {line : Bytes} :
    helperConversationEventMessage event = line ++ [newline] ↔ helperConversationEventLine event = some line := by
  unfold helperConversationEventMessage
  cases helperConversationEventLine event with
  | none => simp
  | some written => simp

open SupervisorHelperConversation

/-- A line that is turned into an event is the message of that event exactly if its number, where it has one, is
spelled without a sign and without leading zeros. -/
theorem receiveBytes_canonical (conversation : SupervisorHelperConversation) (bytes : Bytes) {line : Bytes}
    {event : HelperConversationEvent}
    (hturned : (line, event) ∈ (splitLines (conversation.buffer ++ bytes)).1.zip (conversation.receiveBytes bytes).2)
    (hevent : event ≠ .conversationLost) :
    helperConversationEventMessage event = line ++ [newline] ↔ CanonicalFrame line := by
  rw [message_eq_iff]
  unfold receiveBytes at hturned
  split at hturned
  · rw [List.zip_nil_right] at hturned
    exact nomatch hturned
  · dsimp only at hturned
    split at hturned
    · exact receiveLines_canonical hturned hevent
    · split at hturned
      · exact receiveLines_canonical ((mem_zip_concat hturned).resolve_right hevent) hevent
      · exact receiveLines_canonical hturned hevent

/-- The helper tells the Supervisor the process of the Workload. -/
theorem receiveBytes_canonical_active :
    helperConversationEventMessage (.activated 7) = ascii "ACTIVE 7" ++ [newline] ↔ CanonicalFrame (ascii "ACTIVE 7") :=
  receiveBytes_canonical {} (ascii "READY\nACTIVE 7\n") (by decide) (by decide)

/-- A number with leading zeros is accepted as well. -/
theorem not_receiveBytes_canonical : ¬ ∀ (conversation : SupervisorHelperConversation) (bytes line : Bytes)
    (event : HelperConversationEvent),
    (line, event) ∈ (splitLines (conversation.buffer ++ bytes)).1.zip (conversation.receiveBytes bytes).2 →
    event ≠ .conversationLost → helperConversationEventMessage event = line ++ [newline] := fun h =>
  absurd (h {} (ascii "READY\nACTIVE 007\n") (ascii "ACTIVE 007") (.activated 7) (by decide) (by decide))
    (by decide)

end NetLagLab
