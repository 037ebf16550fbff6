import NetLagLab.CallRefinement
import NetLagLab.HelperSupervision
import NetLagLab.ProfileTracking

/-! The settings on both sides of the link: what the Supervisor has confirmed, and what the helper's environment was
told last. Once all that is on its way has been heard the two are equal, and before that they differ by one change. -/

namespace NetLagLab

open ByteLines CallPrograms CallPrograms.Program HelperRuntimeConversation NetworkEnvironment

/-! ### What is heard of changes -/

/-- The Supervisor's profile behind an event: the change of an applied result is part of it. -/
def HelperConversationEvent.credit (profile : NetworkProfile) : HelperConversationEvent → NetworkProfile
  | .profileChangeResult .applied change => profile.changed change
  | _ => profile

def credited (profile : NetworkProfile) (events : List HelperConversationEvent) : NetworkProfile :=
  events.foldl HelperConversationEvent.credit profile

theorem credit_of_isLate {profile : NetworkProfile} {event : HelperConversationEvent} (h : event.isLate = true) :
    event.credit profile = profile := by
  cases event with
  | profileChangeResult result change => cases h
  | _ => rfl

theorem credited_of_isLate {profile : NetworkProfile} {events : List HelperConversationEvent}
    (h : ∀ event ∈ events, event.isLate = true) : credited profile events = profile := by
  induction events generalizing profile with
  | nil => rfl
  | cons event events ih =>
      rw [List.forall_mem_cons] at h
      rw [credited, List.foldl_cons, credit_of_isLate h.1]
      exact ih h.2

namespace SupervisorHelperConversation

variable {conversation next middle : SupervisorHelperConversation} {profile : NetworkProfile}
  {events : List HelperConversationEvent} {event : HelperConversationEvent}

theorem FirstEvent.credited (h : FirstEvent conversation middle event) (profile : NetworkProfile) :
    event.credit profile = profile ∨ conversation.state = .active ∧ ∃ change,
      conversation.pendingProfileChange = some change ∧ event = .profileChangeResult .applied change ∧
        middle = { conversation with pendingProfileChange := none } := by
  cases h with
  | result result change before pending after =>
      cases result with
      | applied => exact Or.inr ⟨before, change, pending, rfl, after⟩
      | restoredAfterFailure => exact Or.inl rfl
  | late event islate => exact Or.inl (credit_of_isLate islate)
  | _ => exact Or.inl rfl

/-- A read confirms at most the pending change, and only by settling it. -/
theorem ReadEvents.credited (h : ReadEvents conversation next events) (profile : NetworkProfile) :
    credited profile events = profile ∨ conversation.state = .active ∧ next.pendingProfileChange = none ∧ ∃ change,
      conversation.pendingProfileChange = some change ∧ NetLagLab.credited profile events = profile.changed change := by
  cases h with
  | nothing => exact Or.inl rfl
  | one middle event first state pending =>
      refine (first.credited profile).imp id ?_
      rintro ⟨hactive, change, hchange, rfl, rfl⟩
      exact ⟨hactive, pending, change, hchange, rfl⟩
  | more middle event rest first lateEvents state settled =>
      have hrest : NetLagLab.credited profile (event :: rest) = event.credit profile := credited_of_isLate lateEvents
      rw [hrest]
      refine (first.credited profile).imp id ?_
      rintro ⟨hactive, change, hchange, rfl, -⟩
      exact ⟨hactive, settled, change, hchange, rfl⟩

/-- A change is pending only while the Workload runs. -/
def Asking (conversation : SupervisorHelperConversation) : Prop :=
  conversation.pendingProfileChange.isSome = true → conversation.state = .active

theorem Asking.inv (h : conversation.Asking) (hsome : conversation.pendingProfileChange.isSome = true) :
    conversation.Inv := by
  refine ⟨?_, h⟩
  rw [h hsome]
  decide

/-- A change that is pending behind a read was pending before it. -/
theorem ReadEvents.pending_eq (h : ReadEvents conversation next events) (hinv : conversation.Inv) {change : ProfileChange}
    (hpending : next.pendingProfileChange = some change) : conversation.pendingProfileChange = some change := by
  cases h with
  | nothing state pending => exact pending.symm.trans hpending
  | one middle event first state pending =>
      rw [pending, (first.settled hinv).1] at hpending
      cases hpending
  | more middle event rest first lateEvents state settled =>
      rw [settled] at hpending
      cases hpending

theorem ReadEvents.asking (h : ReadEvents conversation next events) (hinv : conversation.Inv) : next.Asking := by
  intro hsome
  obtain ⟨change, hchange⟩ := Option.isSome_iff_exists.mp hsome
  have hbefore := hinv.pending (Option.isSome_iff_exists.mpr ⟨change, h.pending_eq hinv hchange⟩)
  cases h with
  | nothing state pending => exact state.trans hbefore
  | one middle event first state pending =>
      rw [pending, (first.settled hinv).1] at hchange
      cases hchange
  | more middle event rest first lateEvents state settled =>
      rw [settled] at hchange
      cases hchange

/-! While nothing is pending, nothing is confirmed. -/

theorem receiveLine_quiet (hnone : conversation.pendingProfileChange = none) (line : Bytes) (profile : NetworkProfile) :
    (conversation.receiveLine line).1.pendingProfileChange = none ∧
      (conversation.receiveLine line).2.credit profile = profile := by
  rw [receiveLine, receiveReply_none hnone]
  dsimp only
  split
  · exact ⟨rfl, rfl⟩
  · unfold receiveTerminal
    -- every other frame leaves the pending change as it is or drops it
    cases conversation.state <;> dsimp only <;> repeat' split
    all_goals exact ⟨by first | rfl | exact hnone, rfl⟩

theorem receiveLines_quiet (lines : List Bytes) (profile : NetworkProfile) : ∀ {conversation : SupervisorHelperConversation},
    conversation.pendingProfileChange = none → (conversation.receiveLines lines).1.pendingProfileChange = none ∧
      NetLagLab.credited profile (conversation.receiveLines lines).2 = profile := by
  induction lines with
  | nil => exact fun hnone => ⟨hnone, rfl⟩
  | cons line lines ih =>
      intro conversation hnone
      obtain ⟨hnext, hcredit⟩ := receiveLine_quiet hnone line profile
      rw [receiveLines]
      split
      · exact ⟨rfl, rfl⟩
      · dsimp only
        split
        · exact ⟨rfl, hcredit⟩
        · obtain ⟨hlast, hrest⟩ := ih hnext
          refine ⟨hlast, ?_⟩
          rw [NetLagLab.credited, List.foldl_cons, hcredit]
          exact hrest

theorem receiveBytes_quiet (hnone : conversation.pendingProfileChange = none) (bytes : Bytes) (profile : NetworkProfile) :
    (conversation.receiveBytes bytes).1.pendingProfileChange = none ∧
      NetLagLab.credited profile (conversation.receiveBytes bytes).2 = profile := by
  obtain ⟨hlines, hcredit⟩ := receiveLines_quiet (splitLines (conversation.buffer ++ bytes)).1 profile hnone
  rw [receiveBytes]
  split
  · exact ⟨hnone, rfl⟩
  · dsimp only
    split
    · exact ⟨hlines, hcredit⟩
    · split
      · refine ⟨rfl, ?_⟩
        rw [NetLagLab.credited, List.foldl_append]
        exact hcredit
      · exact ⟨hlines, hcredit⟩

/-! Reads that the conversation survives. -/

theorem receiveLines_append_events (lines more : List Bytes) : ∀ {conversation : SupervisorHelperConversation},
    (conversation.receiveLines lines).1.state ≠ .failed → (conversation.receiveLines (lines ++ more)).2 =
      (conversation.receiveLines lines).2 ++ ((conversation.receiveLines lines).1.receiveLines more).2 := by
  induction lines with
  | nil => exact fun _ => rfl
  | cons line lines ih =>
      intro conversation hgoing
      obtain ⟨hshort, hnext⟩ := receiveLines_going hgoing
      rw [receiveLines_cons hshort hnext] at hgoing ⊢
      have hcons : ∀ lines, (conversation.receiveLines (line :: lines)).2 =
          (conversation.receiveLine line).2 :: ((conversation.receiveLine line).1.receiveLines lines).2 := by
        intro lines
        rw [receiveLines, if_neg (Nat.not_lt.mpr hshort)]
        dsimp only
        rw [if_neg hnext]
      rw [List.cons_append, hcons, hcons, ih hgoing, List.cons_append]

/-- What a read does that leaves the conversation going. -/
theorem receiveBytes_going {bytes : Bytes} (h : (conversation.receiveBytes bytes).1.state ≠ .failed) :
    conversation.state ≠ .failed ∧
      (conversation.receiveLines (splitLines (conversation.buffer ++ bytes)).1).1.state ≠ .failed ∧
      (splitLines (conversation.buffer ++ bytes)).2.length ≤ maximumHelperMessageSize ∧
      conversation.receiveBytes bytes =
        ({ (conversation.receiveLines (splitLines (conversation.buffer ++ bytes)).1).1 with
            buffer := (splitLines (conversation.buffer ++ bytes)).2 },
          (conversation.receiveLines (splitLines (conversation.buffer ++ bytes)).1).2) := by
  have hstate : conversation.state ≠ .failed := by
    intro hfailed
    rw [receiveBytes_failed hfailed] at h
    exact h hfailed
  have hread := h
  rw [receiveBytes_eq hstate] at hread
  split at hread
  · exact absurd rfl hread
  · rename_i hgoing
    rw [not_or, Nat.not_lt] at hgoing
    refine ⟨hstate, hgoing.1, hgoing.2, ?_⟩
    rw [receiveBytes, if_neg hstate]
    dsimp only
    rw [if_neg hgoing.1, if_neg (Nat.not_lt.mpr hgoing.2)]

/-- The events of a read are those of its parts. -/
theorem receiveBytes_append_events {first second : Bytes}
    (h : (conversation.receiveBytes (first ++ second)).1.state ≠ .failed) :
    (conversation.receiveBytes (first ++ second)).2 =
      (conversation.receiveBytes first).2 ++ ((conversation.receiveBytes first).1.receiveBytes second).2 := by
  have hsecond := h
  rw [receiveBytes_append] at hsecond
  have hfirst : (conversation.receiveBytes first).1.state ≠ .failed := (receiveBytes_going hsecond).1
  obtain ⟨-, -, -, hwhole⟩ := receiveBytes_going h
  obtain ⟨-, hlines, -, hread⟩ := receiveBytes_going hfirst
  obtain ⟨-, -, -, hmore⟩ := receiveBytes_going hsecond
  rw [hwhole, hmore, hread, ← List.append_assoc, splitLines, splitAtMark_append, receiveLines_append_events _ _ hlines]
  dsimp only
  rw [← resume_of_ne hlines, receiveLines_resume _ _ hlines]

/-- A change that is begun makes no difference to what a read confirms: nothing is on its way, or the end of the
Workload is. -/
theorem credited_begun {bytes : Bytes} (hstate : conversation.state = .active)
    (hnone : conversation.pendingProfileChange = none) (hgoing : (conversation.receiveBytes bytes).1.state ≠ .failed)
    (change : ProfileChange) :
    credited profile (({ conversation with pendingProfileChange := some change } :
      SupervisorHelperConversation).receiveBytes bytes).2 = profile := by
  obtain ⟨-, hlines, hshort, hread⟩ := receiveBytes_going hgoing
  have hbegun : ({ conversation with pendingProfileChange := some change } :
      SupervisorHelperConversation).state ≠ .failed := by
    dsimp only
    rw [hstate]
    decide
  cases hcut : (splitLines (conversation.buffer ++ bytes)).1 with
  | nil =>
      rw [receiveBytes, if_neg hbegun]
      dsimp only
      rw [hcut, receiveLines, if_neg hbegun, if_neg (Nat.not_lt.mpr hshort)]
      rfl
  | cons line lines =>
      rw [hcut] at hlines
      obtain ⟨hlength, hnext⟩ := receiveLines_going hlines
      obtain ⟨-, hsame⟩ := receiveLine_unasked hstate hnone hnext change
      have hboth : ({ conversation with pendingProfileChange := some change } :
          SupervisorHelperConversation).receiveLines (line :: lines) = conversation.receiveLines (line :: lines) := by
        rw [receiveLines, receiveLines, hsame]
      have hsameRead : ({ conversation with pendingProfileChange := some change } :
          SupervisorHelperConversation).receiveBytes bytes = conversation.receiveBytes bytes := by
        rw [hread, receiveBytes, if_neg hbegun]
        dsimp only
        rw [hcut, hboth, if_neg hlines, if_neg (Nat.not_lt.mpr hshort)]
      rw [hsameRead]
      exact (receiveBytes_quiet hnone bytes profile).2

theorem Asking.receiveBytes (h : conversation.Asking) (bytes : Bytes) : (conversation.receiveBytes bytes).1.Asking := by
  cases hpending : conversation.pendingProfileChange with
  | none =>
      intro hsome
      rw [(receiveBytes_quiet hpending bytes {}).1] at hsome
      cases hsome
  | some change =>
      have hinv := h.inv (by rw [hpending]; rfl)
      exact (receiveBytes_events hinv bytes).asking hinv

end SupervisorHelperConversation

namespace HelperRuntimeConversation

variable [DecimalText] {conversation : HelperRuntimeConversation} {bytes rest tail : Bytes} {change : ProfileChange}

/-- What a read does that finds nothing to reject. -/
theorem receiveBytes_valid (h : (conversation.receiveBytes bytes).2.valid = true) :
    (conversation.receiveLines (splitLines (conversation.buffer ++ bytes)).1).1.valid = true ∧
      conversation.receiveBytes bytes =
        ({ (conversation.receiveLines (splitLines (conversation.buffer ++ bytes)).1).1 with
            buffer := (splitLines (conversation.buffer ++ bytes)).2 },
          ⟨true, (conversation.receiveLines (splitLines (conversation.buffer ++ bytes)).1).2, none⟩) := by
  unfold receiveBytes at h ⊢
  split at h
  · cases h
  · rename_i hstill
    dsimp only at h
    rw [if_neg hstill]
    dsimp only
    split at h
    · cases h
    · rename_i hlines
      rw [Bool.not_eq_false] at hlines
      split at h
      · cases h
      · rename_i hshort
        rw [if_neg (by rw [hlines]; decide), if_neg hshort]
        exact ⟨hlines, rfl⟩

/-- Of a stream that begins with a change, a read delivers it first or nothing. -/
theorem receiveBytes_first (hcanonical : change.Canonical) (hknown : conversation.profileStateUnknown = false)
    (hstream : conversation.buffer ++ (bytes ++ rest) = change.line ++ newline :: tail)
    (hvalid : (conversation.receiveBytes bytes).2.valid = true) :
    (conversation.receiveBytes bytes).2.commands.head? = some (.profileChange change) ∨
      (conversation.receiveBytes bytes).2.commands = [] ∧
        (conversation.receiveBytes bytes).1.buffer ++ rest = change.line ++ newline :: tail := by
  have hjoin := splitAtMark_join newline (conversation.buffer ++ bytes)
  have hwhole : splitAtMark newline (conversation.buffer ++ bytes ++ rest) = _ := splitAtMark_append _ _ _
  rw [List.append_assoc, hstream, splitAtMark_piece (newline_notMem_line hcanonical)] at hwhole
  obtain ⟨hpieces, -⟩ := Prod.mk.inj hwhole
  obtain ⟨hlines, hread⟩ := receiveBytes_valid hvalid
  rw [hread]
  rw [splitLines] at hlines ⊢
  generalize splitAtMark newline (conversation.buffer ++ bytes) = cut at hjoin hpieces hlines ⊢
  obtain ⟨pieces, unfinished⟩ := cut
  cases pieces with
  | nil =>
      rw [encodeMarked_nil, List.nil_append] at hjoin
      obtain rfl : unfinished = _ := hjoin
      exact Or.inr ⟨rfl, (List.append_assoc _ _ _).trans hstream⟩
  | cons piece pieces =>
      obtain ⟨rfl, -⟩ := List.cons.inj hpieces
      left
      have hline : conversation.receiveLine change.line =
          if conversation.workloadFinished || conversation.pendingProfileChange.isSome || conversation.stopping then none
          else some ({ conversation with pendingProfileChange := some change }, [.profileChange change]) := by
        rw [receiveLine, parseHelperRuntimeCommand_line hcanonical]
        dsimp only
        rw [hknown]
        rfl
      dsimp only at hlines ⊢
      rw [receiveLines, if_neg (Nat.not_lt.mpr (length_line_le hcanonical)), hline] at hlines ⊢
      split at hlines
      · cases hlines
      · rename_i hdelivered
        split at hdelivered
        · cases hdelivered
        · obtain ⟨-, rfl⟩ := Prod.mk.inj (Option.some.inj hdelivered)
          rfl

end HelperRuntimeConversation

/-! ### The ledger -/

namespace HelperSession

/-- The link with the settings on its two sides. -/
structure Ledger where
  link : Link
  /-- What the Supervisor has confirmed. -/
  confirmed : NetworkProfile := {}
  /-- The settings of a direction as far as they are known. -/
  inForce : ShapingDirection → Option DirectionSettings := fun _ => some {}

namespace Ledger

/-- What a call makes of the settings in force. -/
def recorded (ledger : Ledger) : (request : HelperCall) → HelperAnswer request → ShapingDirection →
    Option DirectionSettings
  | .setDirectionSettings direction requested, .applied => Function.update ledger.inForce direction (some requested)
  | .setDirectionSettings direction _, .stateUnknown => Function.update ledger.inForce direction none
  | _, _ => ledger.inForce

/-- How the calls of the helper may be answered, and what is in force then. -/
def Answers : Environment HelperCall HelperAnswer Ledger := fun before request answer after =>
  before.link.Answers request answer after.link ∧ after.confirmed = before.confirmed ∧
    after.inForce = before.recorded request answer

/-- What the Supervisor will have confirmed once all that is on its way has been heard. -/
def settledProfile (ledger : Ledger) : NetworkProfile :=
  credited ledger.confirmed (ledger.link.supervisor.receiveBytes ledger.link.toSupervisor).2

/-- The helper has said that a state is unknown. -/
def Told (ledger : Ledger) : Prop := profileStateUnknownLine ++ [newline] ∈ ledger.link.sent

/-- What is in force is as the profile has it, unless it is unknown. -/
def Balanced (ledger : Ledger) (profile : NetworkProfile) (unknown : Prop) : Prop :=
  ∀ direction, ledger.inForce direction = some (profile.settings direction) ∨
    ledger.inForce direction = none ∧ unknown

theorem Balanced.imp {ledger : Ledger} {profile : NetworkProfile} {unknown unknown' : Prop}
    (h : ledger.Balanced profile unknown) (himp : unknown → unknown') : ledger.Balanced profile unknown' :=
  fun direction => (h direction).imp id (And.imp_right himp)

end Ledger

/-- The moves of the Supervisor on the ledger: what it hears is confirmed, and a change that it begins is one that a
Controller can ask for. -/
inductive LedgerMove [DecimalText] : Ledger → Ledger → Prop
  | hears {ledger : Ledger} {heard rest : Bytes} (way : ledger.link.toSupervisor = heard ++ rest) :
      LedgerMove ledger
        { ledger with
          link := { ledger.link with supervisor := (ledger.link.supervisor.receiveBytes heard).1, toSupervisor := rest }
          confirmed := credited ledger.confirmed (ledger.link.supervisor.receiveBytes heard).2 }
  | changes {ledger : Ledger} {change : ProfileChange} {message : Bytes} {next : SupervisorHelperConversation}
      (quiet : ledger.link.stopSent = false) (canonical : change.Canonical)
      (begins : ledger.link.supervisor.beginProfileChange change = some (message, next)) :
      LedgerMove ledger
        { ledger with link := { ledger.link with supervisor := next, toHelper := ledger.link.toHelper ++ message } }
  | stops {ledger : Ledger} {command : HelperRuntimeCommand} (stop : command.isStop = true) :
      LedgerMove ledger
        { ledger with
          link := { ledger.link with
            toHelper := ledger.link.toHelper ++ helperRuntimeCommandMessage command
            stopSent := true } }

abbrev LedgerMoves [DecimalText] := Relation.ReflTransGen LedgerMove

/-- Between two calls of the helper the Supervisor does what it may. -/
def ledgerEnvironment [DecimalText] : Environment HelperCall HelperAnswer Ledger :=
  interleaved LedgerMove Ledger.Answers

/-- Where the change is that the Supervisor waits for: delivered, or the first that the helper reads. -/
def Comes (link : Link) (conversation : HelperRuntimeConversation) (commands : List HelperRuntimeCommand)
    (change : ProfileChange) [DecimalText] : Prop :=
  commands.head? = some (.profileChange change) ∨
    commands = [] ∧ ∃ tail, conversation.buffer ++ link.toHelper = change.line ++ newline :: tail

section Moves

variable [DecimalText] {ledger after : Ledger} {conversation : HelperRuntimeConversation}
  {commands : List HelperRuntimeCommand}

theorem LedgerMove.link (h : LedgerMove ledger after) : SupervisorMove ledger.link after.link := by
  cases h with
  | hears way => exact .hears way
  | changes quiet canonical begins => exact .changes quiet begins
  | stops stop => exact .stops stop

/-- The Supervisor has no part in what is in force and in what has been said. -/
theorem Ledger.Balanced.move {profile : NetworkProfile} {unknown : Prop} (h : ledger.Balanced profile unknown)
    (hmove : LedgerMove ledger after) : after.Balanced profile unknown := by
  cases hmove <;> exact h

theorem Ledger.Told.move (h : ledger.Told) (hmove : LedgerMove ledger after) : after.Told := by
  cases hmove <;> exact h

theorem LedgerMove.asking (h : ledger.link.supervisor.Asking) (hmove : LedgerMove ledger after) :
    after.link.supervisor.Asking := by
  cases hmove with
  | hears way => exact h.receiveBytes _
  | changes quiet canonical begins =>
      obtain ⟨hactive, -, -, houtcome⟩ := SupervisorHelperConversation.beginProfileChange_eq_some_iff.mp begins
      obtain ⟨-, rfl⟩ := Prod.mk.inj houtcome
      exact fun _ => hactive
  | stops stop => exact h

theorem linkMoves (h : LedgerMoves ledger after) : SupervisorMoves ledger.link after.link := by
  induction h with
  | refl => exact .refl
  | tail _ hmove ih => exact ih.tail hmove.link

omit [DecimalText] in
/-- The calls of the helper leave the conversation of the Supervisor alone. -/
theorem supervisor_of_answers {link later : Link} {request : HelperCall} {answer : HelperAnswer request}
    (h : link.Answers request answer later) : later.supervisor = link.supervisor := by
  cases request with
  | prepare => cases answer <;> obtain rfl := h <;> rfl
  | launch context identity standardDescriptors environment =>
      obtain ⟨-, rfl⟩ := h
      rfl
  | send text =>
      obtain ⟨-, rfl⟩ := h
      rfl
  | pollWorkload =>
      cases answer with
      | running =>
          obtain rfl := h
          rfl
      | finished status =>
          obtain ⟨-, rfl⟩ := h
          rfl
      | error => exact h.elim
  | waitWorkload =>
      obtain ⟨-, rfl⟩ := h
      rfl
  | sendSignal signal =>
      obtain ⟨-, rfl⟩ := h
      rfl
  | pollSupervisor =>
      cases answer with
      | failed => exact h.elim
      | timedOut =>
          obtain rfl := h
          rfl
      | readable =>
          obtain ⟨-, rfl⟩ := h
          rfl
  | readSupervisor =>
      cases answer with
      | data bytes =>
          obtain ⟨-, -, rest, -, rfl⟩ := h
          rfl
      | _ => exact h.elim
  | _ =>
      obtain rfl := h
      rfl

/-- The ledger without the settings is the link. -/
theorem refines_linkEnvironment : Refines ledgerEnvironment linkEnvironment Ledger.link fun _ => True := by
  rintro before request answer after - ⟨middle, hmoves, hanswer, -⟩
  exact ⟨⟨middle.link, linkMoves hmoves, hanswer⟩, trivial⟩

/-- What the Supervisor does changes neither what is settled nor what is in force, and a change that it begins is the
next one that the helper reads. -/
structure Framed (ledger after : Ledger) (conversation : HelperRuntimeConversation)
    (commands : List HelperRuntimeCommand) : Prop where
  profile : after.settledProfile = ledger.settledProfile
  pending : ∀ change, ledger.link.settled.pendingProfileChange = some change →
    after.link.settled.pendingProfileChange = some change
  comes : ∀ change, after.link.settled.pendingProfileChange = some change →
    ledger.link.settled.pendingProfileChange = some change ∧ (Comes ledger.link conversation commands change →
      Comes after.link conversation commands change) ∨
    change.Canonical ∧ Comes after.link conversation commands change

omit [DecimalText] in
theorem settledProfile_hears {heard rest : Bytes} (way : ledger.link.toSupervisor = heard ++ rest)
    (hgoing : ledger.link.settled.state ≠ .failed) :
    credited (credited ledger.confirmed (ledger.link.supervisor.receiveBytes heard).2)
      ((ledger.link.supervisor.receiveBytes heard).1.receiveBytes rest).2 = ledger.settledProfile := by
  rw [Link.settled, way] at hgoing
  rw [Ledger.settledProfile, way, SupervisorHelperConversation.receiveBytes_append_events hgoing]
  exact (List.foldl_append).symm

/-- What the Supervisor does is settled already. -/
theorem settledProfile_move (hgoing : ledger.link.settled.state ≠ .failed) (hmove : LedgerMove ledger after) :
    after.settledProfile = ledger.settledProfile := by
  cases hmove with
  | hears way => exact settledProfile_hears way hgoing
  | stops stop => rfl
  | @changes change message next quiet canonical begins =>
      obtain ⟨hactive, hnone, -, houtcome⟩ := SupervisorHelperConversation.beginProfileChange_eq_some_iff.mp begins
      obtain ⟨-, rfl⟩ := Prod.mk.inj houtcome
      refine (SupervisorHelperConversation.credited_begun hactive hnone hgoing change).trans ?_
      exact (SupervisorHelperConversation.receiveBytes_quiet hnone _ _).2.symm

theorem Agrees.framed (h : Agrees ledger.link conversation commands) (hmove : LedgerMove ledger after) :
    Framed ledger after conversation commands := by
  have hprofile := settledProfile_move h.settled_going hmove
  cases hmove with
  | hears way =>
      have hsettled := settled_hears way
      refine ⟨hprofile, fun change hchange => ?_, fun change hchange => Or.inl ⟨?_, id⟩⟩
      · dsimp only
        rwa [hsettled]
      · dsimp only at hchange
        rwa [hsettled] at hchange
  | @stops command stop =>
      refine ⟨hprofile, fun change hchange => hchange, fun change hchange => Or.inl ⟨hchange, ?_⟩⟩
      refine Or.imp id ?_
      rintro ⟨hnone, tail, htail⟩
      refine ⟨hnone, tail ++ helperRuntimeCommandMessage command, ?_⟩
      dsimp only
      rw [← List.append_assoc, htail, List.append_assoc, List.cons_append]
  | @changes change message next quiet canonical begins =>
      rcases settled_changes h.buffer h.settled_going begins _ with ⟨-, hfree, -, rfl, hsettled⟩ | ⟨hended, -⟩
      · refine ⟨hprofile, fun other hother => ?_, fun other hother => Or.inr ?_⟩
        · simp [hfree] at hother
        · dsimp only at hother
          rw [hsettled, Option.some.injEq] at hother
          subst hother
          obtain ⟨coming, -, hstream, howed⟩ := h.stream
          have hquiet : commands ++ coming = [] := by
            cases howed with
            | nothing settled pending stops silent => exact (silent quiet).1
            | coming settled => simp [hfree] at settled
            | delivered settled => simp [hfree] at settled
          obtain ⟨rfl, rfl⟩ := List.append_eq_nil_iff.mp hquiet
          refine ⟨canonical, Or.inr ⟨rfl, [], ?_⟩⟩
          dsimp only
          rw [← List.append_assoc, hstream, serializeProfileChange_of_canonical canonical]
          rfl
      · exfalso
        rcases h.active with hactive | hunknown <;> rcases hended with hstate | hstate <;> simp_all

omit [DecimalText] in
/-- A frame of the helper is confirmed as soon as it is sent. -/
theorem settledProfile_carrying {line : Bytes} {next : SupervisorHelperConversation} {event : HelperConversationEvent}
    (hbuffer : ledger.link.settled.buffer = []) (hgoing : ledger.link.settled.state ≠ .failed) (hline : newline ∉ line)
    (hshort : line.length ≤ maximumHelperMessageSize) (hnext : ledger.link.settled.receiveLine line = (next, event))
    (hheard : next.state ≠ .failed) :
    ({ ledger with link := ledger.link.carrying (line ++ [newline]) } : Ledger).settledProfile =
      event.credit ledger.settledProfile := by
  have hsettled := settled_carrying hbuffer hgoing hline hshort hnext hheard
  have hframe : ledger.link.settled.receiveFrame line = (next, event) := by
    rw [SupervisorHelperConversation.receiveFrame, if_neg (Nat.not_lt.mpr hshort), hnext]
  have hevents := (SupervisorHelperConversation.receiveBytes_frame hbuffer hgoing hline).1
  rw [hframe] at hevents
  have hstill : (ledger.link.supervisor.receiveBytes (ledger.link.toSupervisor ++ (line ++ [newline]))).1.state ≠
      .failed := by
    change (ledger.link.carrying (line ++ [newline])).settled.state ≠ .failed
    rw [hsettled]
    exact hheard
  change credited ledger.confirmed (ledger.link.supervisor.receiveBytes (ledger.link.toSupervisor ++ (line ++ [newline]))).2
    = _
  rw [SupervisorHelperConversation.receiveBytes_append_events hstill]
  change credited ledger.confirmed (_ ++ (ledger.link.settled.receiveBytes (line ++ [newline])).2) = _
  rw [hevents, credited, List.foldl_append]
  rfl

end Moves

end HelperSession

end NetLagLab
