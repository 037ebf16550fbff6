import NetLagLab.FrameLanguage

/-! The Supervisor's side of the conversation as a stream. However the bytes of the helper are cut, and wherever
changes are sent between them, the events are those of the longest part of the conversation that the grammar allows;
what follows it loses the conversation, once and for good. -/

namespace NetLagLab

open ByteLines HelperRuntimeConversation

/-- A byte of the helper, or a change that is sent to it. -/
inductive ConversationSymbol where
  | byte (byte : UInt8)
  | sent (change : ProfileChange)

/-- The frames and the changes in their order, behind an unfinished frame, and the unfinished frame after them. -/
def itemsOf : Bytes → List ConversationSymbol → List ConversationItem × Bytes
  | unfinished, [] => ([], unfinished)
  | unfinished, .byte byte :: symbols =>
      if byte = newline then (.frame unfinished :: (itemsOf [] symbols).1, (itemsOf [] symbols).2)
      else itemsOf (unfinished ++ [byte]) symbols
  | unfinished, .sent change :: symbols =>
      (.sent change :: (itemsOf unfinished symbols).1, (itemsOf unfinished symbols).2)

inductive ConversationStep where
  | received (bytes : Bytes)
  | begun (change : ProfileChange)

def ConversationStep.symbols : ConversationStep → List ConversationSymbol
  | .received bytes => bytes.map .byte
  | .begun change => [.sent change]

namespace SupervisorHelperConversation

/-- The steps in turn, each change being begun, with all events. -/
def talk [DecimalText] (conversation : SupervisorHelperConversation) :
    List ConversationStep → Option (SupervisorHelperConversation × List HelperConversationEvent)
  | [] => some (conversation, [])
  | .received bytes :: steps =>
      ((conversation.receiveBytes bytes).1.talk steps).map fun outcome =>
        (outcome.1, (conversation.receiveBytes bytes).2 ++ outcome.2)
  | .begun change :: steps =>
      match conversation.beginProfileChange change with
      | none => none
      | some (_, next) => next.talk steps

/-! ### Items and reads -/

section Items

variable {unfinished bytes : Bytes} {symbols : List ConversationSymbol}

theorem itemsOf_bytes (h : newline ∉ unfinished) :
    itemsOf unfinished (bytes.map .byte ++ symbols) =
      ((splitLines (unfinished ++ bytes)).1.map .frame ++ (itemsOf (splitLines (unfinished ++ bytes)).2 symbols).1,
        (itemsOf (splitLines (unfinished ++ bytes)).2 symbols).2) := by
  induction bytes generalizing unfinished with
  | nil =>
      rw [List.append_nil, show splitLines unfinished = _ from splitAtMark_of_notMem h]
      rfl
  | cons byte bytes ih =>
      rw [List.map_cons, List.cons_append, itemsOf]
      by_cases hbyte : byte = newline
      · rw [if_pos hbyte, hbyte, show splitLines (unfinished ++ newline :: bytes) = _ from splitAtMark_piece h bytes,
          ih List.not_mem_nil]
        rfl
      · have hnext : newline ∉ unfinished ++ [byte] := by
          rw [List.mem_append, List.mem_singleton, not_or]
          exact ⟨h, Ne.symm hbyte⟩
        rw [if_neg hbyte, ih hnext, List.append_assoc, List.singleton_append]

end Items

/-! ### Where the conversation stands -/

/-- The conversation has taken these items, and what can be said from it is what can be said behind them. -/
structure Tracks (conversation : SupervisorHelperConversation) (items : List ConversationItem)
    (heard : List HelperConversationEvent) : Prop where
  going : conversation.state ≠ .failed
  waits : conversation.Waits
  short : Short items
  behind : ∀ more said, Spoken (items ++ more) said ↔ ∃ rest, said = heard ++ rest ∧ conversation.Says more rest

/-- Nothing can be said behind the accepted items with the frame that follows them, whole or unfinished. -/
def Stuck (accepted items : List ConversationItem) (unfinished : Bytes) : Prop :=
  (∃ line, ∃ more, items = accepted ++ .frame line :: more ∧ (maximumHelperMessageSize < line.length ∨
      ∀ rest said, ¬ Spoken (accepted ++ .frame line :: rest) said)) ∨
    items = accepted ∧ maximumHelperMessageSize < unfinished.length

/-- The conversation went on up to where it is stuck. -/
def Stopped (items : List ConversationItem) (unfinished : Bytes) (heard : List HelperConversationEvent) : Prop :=
  ∃ conversation accepted, Tracks conversation accepted heard ∧ Stuck accepted items unfinished

section Tracks

variable {conversation : SupervisorHelperConversation} {items : List ConversationItem}
  {heard : List HelperConversationEvent} {line : Bytes}

theorem tracks_fresh : Tracks {} [] [] where
  going := fun h => nomatch h
  waits := fun h => nomatch h
  short := fun _ h => nomatch h
  behind := fun _ said => ⟨fun h => ⟨said, rfl, h⟩, fun ⟨_, hsaid, hrest⟩ => hsaid ▸ hrest⟩

theorem Tracks.spoken (h : Tracks conversation items heard) : Spoken items heard := by
  have hrest := (h.behind [] heard).mpr ⟨[], (List.append_nil heard).symm, says_nil_iff.mpr ⟨h.going, rfl⟩⟩
  rwa [List.append_nil] at hrest

theorem Tracks.unique (h : Tracks conversation items heard) {said : List HelperConversationEvent}
    (hsaid : Spoken items said) : said = heard := by
  rw [← List.append_nil items, h.behind] at hsaid
  obtain ⟨rest, rfl, hrest⟩ := hsaid
  rw [(says_nil_iff.mp hrest).2, List.append_nil]

theorem Tracks.buffer (h : Tracks conversation items heard) (buffer : Bytes) :
    Tracks { conversation with buffer } items heard := ⟨h.going, h.waits, h.short, h.behind⟩

/-- A frame that is taken. -/
theorem Tracks.frame (h : Tracks conversation items heard) (hlength : line.length ≤ maximumHelperMessageSize)
    (hgoing : (conversation.receiveLine line).1.state ≠ .failed) :
    Tracks (conversation.receiveLine line).1 (items ++ [.frame line]) (heard ++ [(conversation.receiveLine line).2]) := by
  refine ⟨hgoing, fun hsome => ?_, ?_, fun more said => ?_⟩
  · rw [receiveLine_settles h.waits line] at hsome
    exact nomatch hsome
  · intro other hother
    rcases List.mem_append.mp hother with hother | hother
    · exact h.short other hother
    · rw [List.mem_singleton, ConversationItem.frame.injEq] at hother
      rwa [hother]
  · rw [List.append_assoc, List.singleton_append, h.behind]
    simp only [says_frame_iff h.waits, List.append_assoc, List.singleton_append]
    constructor
    · rintro ⟨_, rfl, -, rest, rfl, hrest⟩
      exact ⟨rest, rfl, hrest⟩
    · rintro ⟨rest, rfl, hrest⟩
      exact ⟨_, rfl, hgoing, rest, rfl, hrest⟩

/-- A frame that loses the conversation is said nowhere in its place. -/
theorem Tracks.lost (h : Tracks conversation items heard) (hfailed : (conversation.receiveLine line).1.state = .failed)
    (rest : List ConversationItem) (said : List HelperConversationEvent) :
    ¬ Spoken (items ++ .frame line :: rest) said := by
  rw [h.behind]
  rintro ⟨_, -, hsaid⟩
  exact ((says_frame_iff h.waits).mp hsaid).1 hfailed

/-- A change that is begun. -/
theorem Tracks.sent [DecimalText] (h : Tracks conversation items heard) {change : ProfileChange}
    {outcome : Bytes × SupervisorHelperConversation} (hbegin : conversation.beginProfileChange change = some outcome) :
    Tracks outcome.2 (items ++ [.sent change]) heard := by
  obtain ⟨hactive, -, -, houtcome⟩ := beginProfileChange_eq_some_iff.mp hbegin
  refine ⟨?_, fun _ => ?_, ?_, fun more said => ?_⟩
  · rw [houtcome]
    exact h.going
  · rw [houtcome]
    exact hactive
  · intro line hline
    refine h.short line ?_
    simpa using hline
  · rw [List.append_assoc, List.singleton_append, h.behind]
    simp only [says_sent_iff, hbegin, Option.some.injEq, exists_eq_left']

theorem receiveLine_failed (hgoing : conversation.state ≠ .failed)
    (h : (conversation.receiveLine line).1.state = .failed) :
    conversation.receiveLine line = (lost, .conversationLost) := by
  cases hreply : conversation.receiveReply line with
  | some outcome =>
      have houtcome : conversation.receiveLine line = outcome := by
        unfold receiveLine
        rw [hreply]
      obtain ⟨change, -, -, hline⟩ := receiveReply_some hreply
      rw [houtcome] at h
      rcases hline with ⟨-, rfl⟩ | ⟨-, rfl⟩ | ⟨-, rfl⟩
      · exact absurd h hgoing
      · exact absurd h hgoing
      · exact nomatch h
  | none =>
      cases hstate : conversation.state with
      | waitingForReady =>
          rw [receiveLine_waitingForReady hstate] at h ⊢
          split at h
          · exact nomatch h
          · rw [if_neg ‹_›]
      | waitingForActivation =>
          rw [receiveLine_waitingForActivation hstate] at h ⊢
          split at h
          · exact nomatch h
          · split at h
            · exact nomatch h
            · rfl
      | active =>
          rw [receiveLine_end (Or.inl hstate) hreply] at h ⊢
          rcases conversation.receiveTerminal_cases line with ⟨event, -, -, hterminal⟩ | ⟨-, hterminal⟩
          · rw [hterminal] at h
            exact nomatch h
          · exact hterminal
      | profileStateUnknown =>
          rw [receiveLine_end (Or.inr hstate) hreply] at h ⊢
          rcases conversation.receiveTerminal_cases line with ⟨event, -, -, hterminal⟩ | ⟨-, hterminal⟩
          · rw [hterminal] at h
            exact nomatch h
          · exact hterminal
      | waitingForCleanup =>
          rw [receiveLine_waitingForCleanup hstate] at h ⊢
          split at h
          · exact nomatch h
          · split at h
            · exact nomatch h
            · rw [if_neg ‹_›, if_neg ‹_›]
      | finished => exact receiveLine_over (Or.inl hstate)
      | failed => exact absurd hstate hgoing

/-- The lines of a read are taken, or those before the one that loses the conversation. -/
theorem receiveLines_tracks (h : Tracks conversation items heard) (lines : List Bytes) (unfinished : Bytes) :
    (∃ said, (conversation.receiveLines lines).2 = said ∧ (conversation.receiveLines lines).1.state ≠ .failed ∧
        Tracks (conversation.receiveLines lines).1 (items ++ lines.map .frame) (heard ++ said)) ∨
      ∃ said, conversation.receiveLines lines = (lost, said ++ [.conversationLost]) ∧
        Stopped (items ++ lines.map .frame) unfinished (heard ++ said) := by
  induction lines generalizing conversation items heard with
  | nil =>
      refine Or.inl ⟨[], rfl, h.going, ?_⟩
      rwa [List.map_nil, List.append_nil, List.append_nil]
  | cons line lines ih =>
      rw [receiveLines]
      by_cases hlong : maximumHelperMessageSize < line.length
      · rw [if_pos hlong]
        refine Or.inr ⟨[], rfl, conversation, items, ?_, Or.inl ⟨line, _, rfl, Or.inl hlong⟩⟩
        rwa [List.append_nil]
      · rw [if_neg hlong]
        dsimp only
        by_cases hfailed : (conversation.receiveLine line).1.state = .failed
        · rw [if_pos hfailed, receiveLine_failed h.going hfailed]
          refine Or.inr ⟨[], rfl, conversation, items, ?_, Or.inl ⟨line, _, rfl, Or.inr (h.lost hfailed)⟩⟩
          rwa [List.append_nil]
        · rw [if_neg hfailed]
          have hnext := ih (h.frame (Nat.not_lt.mp hlong) hfailed)
          rw [List.map_cons, List.append_cons items]
          rcases hnext with ⟨said, hsaid, hgoing, htracks⟩ | ⟨said, hsaid, hstopped⟩
          · refine Or.inl ⟨_, rfl, hgoing, ?_⟩
            dsimp only
            rw [List.append_cons heard, hsaid]
            exact htracks
          · refine Or.inr ⟨(conversation.receiveLine line).2 :: said, ?_, ?_⟩
            · rw [hsaid]
              rfl
            · rw [List.append_cons heard]
              exact hstopped

end Tracks

/-! ### Reads and changes in turn -/

section Talk

variable {conversation : SupervisorHelperConversation} {items : List ConversationItem}
  {heard : List HelperConversationEvent} {unfinished bytes : Bytes}

/-- Once the conversation is stuck, more bytes do not help. -/
theorem Stopped.more (h : Stopped items unfinished heard) (hunfinished : newline ∉ unfinished) (bytes : Bytes) :
    Stopped (items ++ (splitLines (unfinished ++ bytes)).1.map .frame) (splitLines (unfinished ++ bytes)).2 heard := by
  obtain ⟨conversation, accepted, htracks, hstuck⟩ := h
  refine ⟨conversation, accepted, htracks, ?_⟩
  rcases hstuck with ⟨line, more, rfl, hline⟩ | ⟨rfl, hlong⟩
  · exact Or.inl ⟨line, _, by rw [List.append_assoc, List.cons_append], hline⟩
  · rcases splitAtMark_unfinished hunfinished with ⟨hnone, hrest⟩ | ⟨line, lines, hsome, hprefix⟩
    · refine Or.inr ⟨?_, ?_⟩
      · rw [hnone, List.map_nil, List.append_nil]
      · rw [hrest, List.length_append]
        omega
    · refine Or.inl ⟨line, lines.map .frame, ?_, Or.inl (hlong.trans_le hprefix.length_le)⟩
      rw [hsome, List.map_cons]

/-- What a read does to a conversation that goes on. -/
theorem receiveBytes_tracks (h : Tracks conversation items heard) (bytes : Bytes) :
    (Tracks (conversation.receiveBytes bytes).1
        (items ++ (splitLines (conversation.buffer ++ bytes)).1.map .frame) (heard ++ (conversation.receiveBytes bytes).2) ∧
      (conversation.receiveBytes bytes).1.buffer = (splitLines (conversation.buffer ++ bytes)).2 ∧
      (splitLines (conversation.buffer ++ bytes)).2.length ≤ maximumHelperMessageSize) ∨
    ∃ said, conversation.receiveBytes bytes = (lost, said ++ [.conversationLost]) ∧
      Stopped (items ++ (splitLines (conversation.buffer ++ bytes)).1.map .frame)
        (splitLines (conversation.buffer ++ bytes)).2 (heard ++ said) := by
  rw [receiveBytes, if_neg h.going]
  dsimp only
  generalize splitLines (conversation.buffer ++ bytes) = received
  rcases receiveLines_tracks h received.1 received.2 with ⟨said, hsaid, hgoing, htracks⟩ | ⟨said, hsaid, hstopped⟩
  · rw [if_neg hgoing, hsaid]
    split
    · rename_i hlong
      exact Or.inr ⟨said, rfl, _, _, htracks, Or.inr ⟨rfl, hlong⟩⟩
    · rename_i hshort
      exact Or.inl ⟨htracks.buffer received.2, rfl, Nat.not_lt.mp hshort⟩
  · have hlost : lost.state = .failed := rfl
    rw [hsaid, if_pos hlost]
    exact Or.inr ⟨said, rfl, hstopped⟩

variable [DecimalText] {steps : List ConversationStep} {final : SupervisorHelperConversation}
  {events : List HelperConversationEvent}

/-- A lost conversation hears nothing any more. -/
theorem talk_lost (h : Stopped items unfinished heard) (hunfinished : newline ∉ unfinished)
    (htalk : lost.talk steps = some (final, events)) :
    events = [] ∧ final = lost ∧ Stopped (items ++ (itemsOf unfinished (steps.flatMap ConversationStep.symbols)).1)
      (itemsOf unfinished (steps.flatMap ConversationStep.symbols)).2 heard := by
  induction steps generalizing items unfinished events with
  | nil =>
      obtain ⟨rfl, rfl⟩ := Prod.mk.inj (Option.some.inj htalk)
      refine ⟨rfl, rfl, ?_⟩
      rw [List.flatMap_nil, itemsOf, List.append_nil]
      exact h
  | cons step steps ih =>
      cases step with
      | received bytes =>
          have hsilent : lost.receiveBytes bytes = (lost, []) := if_pos rfl
          rw [talk, hsilent] at htalk
          obtain ⟨outcome, houtcome, hlast⟩ := Option.map_eq_some_iff.mp htalk
          obtain ⟨rfl, rfl⟩ := Prod.mk.inj hlast
          obtain ⟨hevents, hfinal, hstopped⟩ := ih (h.more hunfinished bytes) (notMem_splitAtMark_snd _) houtcome
          refine ⟨by rw [List.nil_append, hevents], hfinal, ?_⟩
          rw [List.flatMap_cons, ConversationStep.symbols, itemsOf_bytes hunfinished, ← List.append_assoc]
          exact hstopped
      | begun change =>
          have hrefused : lost.beginProfileChange change = none := if_pos (Or.inl (by decide))
          rw [talk, hrefused] at htalk
          exact nomatch htalk

/-- A conversation goes on through all steps, or up to where it is stuck. -/
theorem talk_tracks (h : Tracks conversation items heard) (hbuffer : newline ∉ conversation.buffer)
    (hlength : conversation.buffer.length ≤ maximumHelperMessageSize)
    (htalk : conversation.talk steps = some (final, events)) :
    (Tracks final (items ++ (itemsOf conversation.buffer (steps.flatMap ConversationStep.symbols)).1) (heard ++ events) ∧
      final.buffer = (itemsOf conversation.buffer (steps.flatMap ConversationStep.symbols)).2 ∧
      final.buffer.length ≤ maximumHelperMessageSize) ∨
    ∃ said, events = said ++ [.conversationLost] ∧ final = lost ∧
      Stopped (items ++ (itemsOf conversation.buffer (steps.flatMap ConversationStep.symbols)).1)
        (itemsOf conversation.buffer (steps.flatMap ConversationStep.symbols)).2 (heard ++ said) := by
  induction steps generalizing conversation items heard events with
  | nil =>
      obtain ⟨rfl, rfl⟩ := Prod.mk.inj (Option.some.inj htalk)
      refine Or.inl ⟨?_, rfl, hlength⟩
      rw [List.flatMap_nil, itemsOf, List.append_nil, List.append_nil]
      exact h
  | cons step steps ih =>
      cases step with
      | received bytes =>
          rw [talk] at htalk
          obtain ⟨outcome, houtcome, hlast⟩ := Option.map_eq_some_iff.mp htalk
          obtain ⟨rfl, rfl⟩ := Prod.mk.inj hlast
          rw [List.flatMap_cons, ConversationStep.symbols, itemsOf_bytes hbuffer, ← List.append_assoc]
          have hunfinished : newline ∉ (splitLines (conversation.buffer ++ bytes)).2 := notMem_splitAtMark_snd _
          rcases receiveBytes_tracks h bytes with ⟨htracks, hnext, hbound⟩ | ⟨said, hread, hstopped⟩
          · have hrest := ih htracks (by rw [hnext]; exact hunfinished) (by rw [hnext]; exact hbound) houtcome
            rw [hnext] at hrest
            rcases hrest with ⟨hall, hfinal⟩ | ⟨said, hsaid, hfinal, hstopped⟩
            · rw [List.append_assoc heard] at hall
              exact Or.inl ⟨hall, hfinal⟩
            · refine Or.inr ⟨(conversation.receiveBytes bytes).2 ++ said, ?_, hfinal, ?_⟩
              · rw [hsaid, List.append_assoc]
              · rw [← List.append_assoc heard]
                exact hstopped
          · rw [hread] at houtcome ⊢
            obtain ⟨hsilent, hfinal, hlast⟩ := talk_lost hstopped hunfinished houtcome
            refine Or.inr ⟨said, ?_, hfinal, hlast⟩
            rw [hsilent, List.append_nil]
      | begun change =>
          rw [talk] at htalk
          split at htalk
          · exact nomatch htalk
          · rename_i message next hbegin
            obtain ⟨-, -, -, houtcome⟩ := beginProfileChange_eq_some_iff.mp hbegin
            obtain ⟨-, rfl⟩ := Prod.mk.inj houtcome
            have hnext := ih (h.sent hbegin) hbuffer hlength htalk
            rw [List.append_assoc, List.singleton_append] at hnext
            exact hnext

omit [DecimalText] in
/-- No frame stands for the loss of the conversation. -/
theorem Spoken.kept {said : List HelperConversationEvent} (h : Spoken items said) : .conversationLost ∉ said := by
  have hcleanup : ∀ {items said}, CleanupPart items said → .conversationLost ∉ said := by
    intro items said h
    cases h with
    | nothing => exact List.not_mem_nil
    | cleanup frame => cases frame <;> simp
  have hend : ∀ {items said}, EndPart items said → .conversationLost ∉ said := by
    intro items said h
    cases h with
    | nothing => exact List.not_mem_nil
    | terminal frame rest =>
        rw [List.mem_cons, not_or]
        refine ⟨?_, hcleanup rest⟩
        cases frame <;> exact fun h => nomatch h
  have hactive : ∀ {pending items said}, ActivePart pending items said → .conversationLost ∉ said := by
    intro pending items said h
    induction h with
    | ended rest => exact hend rest
    | sent legal rest ih => exact ih
    | answered frame rest ih => simpa using ih
    | unknown text rest => simpa using hend rest
  cases h with
  | nothing => exact List.not_mem_nil
  | ready rest =>
      cases rest with
      | nothing => simp
      | active value rest => simpa using hactive rest
      | startFailed value rest => simpa using hcleanup rest

omit [DecimalText] in
/-- What is accepted before a conversation is stuck is the longest part of it that the grammar allows. -/
theorem Stuck.longest {accepted longer : List ConversationItem} {said : List HelperConversationEvent}
    (h : Stuck accepted items unfinished) (hlonger : longer <+: items) (hspoken : Spoken longer said)
    (hshort : Short longer) : longer.length ≤ accepted.length := by
  rcases h with ⟨line, more, rfl, hline⟩ | ⟨rfl, -⟩
  · rcases List.prefix_or_prefix_of_prefix hlonger (List.prefix_append accepted _) with hprefix | ⟨behind, rfl⟩
    · exact hprefix.length_le
    · rcases behind with _ | ⟨item, behind⟩
      · rw [List.append_nil]
      · obtain ⟨rfl, -⟩ := List.cons_prefix_cons.mp ((List.prefix_append_right_inj accepted).mp hlonger)
        rcases hline with hlong | hnever
        · exact absurd (hshort line (by simp)) (Nat.not_le.mpr hlong)
        · exact absurd hspoken (hnever behind said)
  · exact hlonger.length_le

/-- The events of a conversation are those of the longest part of it that the grammar allows. If anything follows,
or a frame grows too long, one more event says that the conversation is lost, and nothing is heard after it. A change
begins only while the Workload runs with nothing pending, and the helper may leave without a loss only when the
conversation is over. -/
theorem talk_language (h : talk {} steps = some (final, events)) :
    ∃ accepted rest said unfinished,
      itemsOf [] (steps.flatMap ConversationStep.symbols) = (accepted ++ rest, unfinished) ∧
      Spoken accepted said ∧ (∀ other, Spoken accepted other → other = said) ∧ Short accepted ∧
      (∀ longer other, longer <+: accepted ++ rest → Spoken longer other → Short longer →
        longer.length ≤ accepted.length) ∧
      (if rest = [] ∧ unfinished.length ≤ maximumHelperMessageSize then
        events = said ∧ final.state ≠ .failed ∧ final.buffer = unfinished
      else events = said ++ [.conversationLost] ∧ final = lost) ∧
      .conversationLost ∉ said ∧
      (∀ change outcome, final.beginProfileChange change = some outcome →
        final.state = .active ∧ final.pendingProfileChange = none) ∧
      final.peerClosed.2 =
        if final.state = .failed ∨ final.state = .finished ∧ final.buffer = [] then [] else [.conversationLost] := by
  have hbegin : ∀ change outcome, final.beginProfileChange change = some outcome →
      final.state = .active ∧ final.pendingProfileChange = none := by
    intro change outcome hbegin
    obtain ⟨hactive, hnone, -⟩ := beginProfileChange_eq_some_iff.mp hbegin
    exact ⟨hactive, hnone⟩
  have hclosed : final.peerClosed.2 =
      if final.state = .failed ∨ final.state = .finished ∧ final.buffer = [] then [] else [.conversationLost] := by
    unfold peerClosed
    by_cases hfailed : final.state = .failed
    · rw [if_pos hfailed, if_pos (Or.inl hfailed)]
    · rw [if_neg hfailed]
      by_cases hfinished : final.state = .finished ∧ final.buffer = []
      · rw [if_pos hfinished, if_pos (Or.inr hfinished)]
      · rw [if_neg hfinished, if_neg (not_or.mpr ⟨hfailed, hfinished⟩)]
  rcases talk_tracks tracks_fresh List.not_mem_nil (Nat.zero_le _) h with
    ⟨htracks, hbuffer, hlength⟩ | ⟨said, rfl, rfl, speaker, accepted, htracks, hstuck⟩
  · rw [List.nil_append, List.nil_append] at htracks
    refine ⟨_, [], events, _, by rw [List.append_nil], htracks.spoken, fun other => htracks.unique, htracks.short,
      fun longer other hlonger _ _ => ?_, ?_, Spoken.kept htracks.spoken, hbegin, hclosed⟩
    · rw [List.append_nil] at hlonger
      exact hlonger.length_le
    · rw [hbuffer] at hlength
      rw [if_pos ⟨rfl, hlength⟩]
      exact ⟨rfl, htracks.going, hbuffer⟩
  · rw [List.nil_append] at hstuck htracks
    have hitems : ∃ rest, (itemsOf [] (steps.flatMap ConversationStep.symbols)).1 = accepted ++ rest ∧
        ¬ (rest = [] ∧ (itemsOf [] (steps.flatMap ConversationStep.symbols)).2.length ≤ maximumHelperMessageSize) := by
      rcases hstuck with ⟨line, more, hitems, -⟩ | ⟨hitems, hlong⟩
      · exact ⟨_, hitems, fun hnone => nomatch hnone.1⟩
      · exact ⟨[], by rw [List.append_nil]; exact hitems, fun hnone => Nat.not_le.mpr hlong hnone.2⟩
    obtain ⟨rest, hrest, hover⟩ := hitems
    refine ⟨accepted, rest, said, _, by rw [← hrest], htracks.spoken, fun other => htracks.unique, htracks.short,
      fun longer other hlonger hspoken hshort => ?_, ?_, Spoken.kept htracks.spoken, hbegin, hclosed⟩
    · rw [← hrest] at hlonger
      exact hstuck.longest hlonger hspoken hshort
    · rw [if_neg hover]
      exact ⟨rfl, rfl⟩

end Talk

/-- An activation in two reads, a change with its answer, and a frame that may not come. -/
def talkExample : List ConversationStep :=
  [.received (ascii "READY\nACTI"), .received (ascii "VE 7\n"), .begun (.resetSetting .outbound .delay),
    .received (ascii "PROFILE_OK\nREADY\n")]

theorem talk_language_changed :
    @talk bitPatternText {} talkExample = some (lost, [.ready, .activated 7,
      .profileChangeResult .applied (.resetSetting .outbound .delay), .conversationLost]) ∧
    ∃ accepted rest said unfinished,
      itemsOf [] (talkExample.flatMap ConversationStep.symbols) = (accepted ++ rest, unfinished) ∧ Spoken accepted said := by
  have htalk : @talk bitPatternText {} talkExample = some (lost, [.ready, .activated 7,
      .profileChangeResult .applied (.resetSetting .outbound .delay), .conversationLost]) := by decide
  obtain ⟨accepted, rest, said, unfinished, hitems, hspoken, -⟩ := @talk_language bitPatternText _ _ _ htalk
  exact ⟨htalk, accepted, rest, said, unfinished, hitems, hspoken⟩

end SupervisorHelperConversation

end NetLagLab
