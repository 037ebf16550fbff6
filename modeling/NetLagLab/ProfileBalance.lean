import NetLagLab.HelperSessionEnd
import NetLagLab.ProfileLedger

/-! The helper while the Workload runs, with the settings that it brings into force. A change is brought into force when
it is carried out and confirmed when its reply is heard; nothing else moves either side of the ledger. -/

namespace NetLagLab

open ByteLines CallPrograms CallPrograms.Program HelperRuntimeConversation HelperSession NetworkEnvironment

/-! ### Profiles that a helper confirms -/

/-- Valid, without a bandwidth, and with the one spelling of every loss. -/
structure NetworkProfile.Regular (profile : NetworkProfile) : Prop where
  valid : validate profile = []
  unlimited : ∀ direction, (profile.settings direction).bandwidthKbps = none
  loss : ∀ direction, (profile.settings direction).packetLossPercent.IsPercentage

theorem NetworkProfile.regular_default : NetworkProfile.Regular {} where
  valid := validate_default
  unlimited := fun direction => by cases direction <;> rfl
  loss := fun direction => by cases direction <;> exact Double.isPercentage_zero

theorem DirectionSettings.eq_of_same {left right : DirectionSettings} (hleft : left.packetLossPercent.IsPercentage)
    (hright : right.packetLossPercent.IsPercentage) (h : left.same right = true) : left = right := by
  obtain ⟨delay, jitter, loss, bandwidth⟩ := left
  obtain ⟨delay', jitter', loss', bandwidth'⟩ := right
  simp only [DirectionSettings.same, Bool.and_eq_true, decide_eq_true_eq] at h
  obtain ⟨⟨⟨rfl, rfl⟩, hsame⟩, rfl⟩ := h
  have hloss : loss = loss' := Double.eq_of_same hleft hright hsame
  rw [hloss]

theorem NetworkProfile.ext_settings {left right : NetworkProfile}
    (h : ∀ direction, left.settings direction = right.settings direction) : left = right := by
  obtain ⟨outbound, inbound⟩ := left
  obtain ⟨outbound', inbound'⟩ := right
  have houtbound : outbound = outbound' := h .outbound
  have hinbound : inbound = inbound' := h .inbound
  rw [houtbound, hinbound]

section Changes

variable {profile : NetworkProfile} {change : ProfileChange}

theorem ProfileChange.Canonical.loss_applyTo (h : change.Canonical) {settings : DirectionSettings}
    (hsettings : settings.packetLossPercent.IsPercentage) :
    (change.applyTo settings).packetLossPercent.IsPercentage := by
  cases change with
  | setPacketLoss direction percent => exact h
  | resetSetting direction setting =>
      cases setting with
      | packetLoss => exact Double.isPercentage_zero
      | _ => exact hsettings
  | _ => exact hsettings

theorem NetworkProfile.Regular.loss_changed (h : profile.Regular) (hcanonical : change.Canonical)
    (direction : ShapingDirection) : ((profile.changed change).settings direction).packetLossPercent.IsPercentage := by
  by_cases hdirection : direction = change.direction.shaping
  · rw [hdirection, settings_changed]
    exact hcanonical.loss_applyTo (h.loss _)
  · rw [settings_changed_ne profile hdirection]
    exact h.loss direction

theorem NetworkProfile.Regular.changed (h : profile.Regular) (hcanonical : change.Canonical)
    (hkind : changesBandwidth change = false) : (profile.changed change).Regular where
  valid := (validate_changed_iff h.valid change).mpr hcanonical.legal
  unlimited := fun direction => by
    by_cases hdirection : direction = change.direction.shaping
    · rw [hdirection, settings_changed, bandwidth_applyTo hkind]
      exact h.unlimited _
    · rw [settings_changed_ne profile hdirection]
      exact h.unlimited direction
  loss := h.loss_changed hcanonical

/-- A change that makes no difference makes none at all. -/
theorem NetworkProfile.Regular.changed_eq (h : profile.Regular) (hcanonical : change.Canonical)
    (hsame : ((profile.changed change).settings change.direction.shaping).same
      (profile.settings change.direction.shaping) = true) : profile.changed change = profile := by
  refine NetworkProfile.ext_settings fun direction => ?_
  by_cases hdirection : direction = change.direction.shaping
  · subst hdirection
    exact DirectionSettings.eq_of_same (h.loss_changed hcanonical _) (h.loss _) hsame
  · exact settings_changed_ne profile hdirection

end Changes

namespace HelperSession

variable [DecimalText] {ledger after : Ledger} {conversation : HelperRuntimeConversation}
  {commands behind : List HelperRuntimeCommand} {confirmed : NetworkProfile} {running : Nat} {change : ProfileChange}
  {completion : ProfileChangeCompletion}

/-! ### What holds between two commands -/

/-- The helper has confirmed what is in force and what the Supervisor will have confirmed, and what the Supervisor waits
for comes next. -/
structure Kept (ledger : Ledger) (conversation : HelperRuntimeConversation) (commands : List HelperRuntimeCommand)
    (confirmed : NetworkProfile) (running : Nat) : Prop where
  supervising : Supervising ledger.link conversation commands running
  regular : confirmed.Regular
  balanced : ledger.Balanced confirmed ledger.Told
  settled : ledger.settledProfile = confirmed
  comes : ∀ change, ledger.link.settled.pendingProfileChange = some change →
    change.Canonical ∧ Comes ledger.link conversation commands change

/-- A change has been carried out and its reply is not sent yet. -/
structure Carried (ledger : Ledger) (conversation : HelperRuntimeConversation) (behind : List HelperRuntimeCommand)
    (change : ProfileChange) (completion : ProfileChangeCompletion) (confirmed : NetworkProfile) (running : Nat) :
    Prop where
  supervising : Supervising ledger.link conversation (.profileChange change :: behind) running
  regular : confirmed.Regular
  balanced : ledger.Balanced confirmed (completion = .stateUnknown ∨ ledger.Told)
  settled : confirmed =
    if completion = .applied then ledger.settledProfile.changed change else ledger.settledProfile
  pending : ledger.link.settled.pendingProfileChange = some change

theorem Kept.move (h : Kept ledger conversation commands confirmed running) (hmove : LedgerMove ledger after) :
    Kept after conversation commands confirmed running := by
  have hframed := h.supervising.agrees.framed hmove
  refine ⟨h.supervising.moves (.single hmove.link), h.regular, (h.balanced.move hmove).imp fun htold => htold.move hmove,
    hframed.profile.trans h.settled, fun change hchange => ?_⟩
  rcases hframed.comes change hchange with ⟨hbefore, hcomes⟩ | hnew
  · exact ⟨(h.comes change hbefore).1, hcomes (h.comes change hbefore).2⟩
  · exact hnew

theorem Kept.moves (h : Kept ledger conversation commands confirmed running) (hmoves : LedgerMoves ledger after) :
    Kept after conversation commands confirmed running := by
  induction hmoves with
  | refl => exact h
  | tail _ hmove ih => exact ih.move hmove

theorem Carried.move (h : Carried ledger conversation behind change completion confirmed running)
    (hmove : LedgerMove ledger after) : Carried after conversation behind change completion confirmed running := by
  have hframed := h.supervising.agrees.framed hmove
  exact ⟨h.supervising.moves (.single hmove.link), h.regular,
    (h.balanced.move hmove).imp (Or.imp id fun htold => htold.move hmove), hframed.profile.symm ▸ h.settled,
    hframed.pending change h.pending⟩

theorem Carried.moves (h : Carried ledger conversation behind change completion confirmed running)
    (hmoves : LedgerMoves ledger after) : Carried after conversation behind change completion confirmed running := by
  induction hmoves with
  | refl => exact h
  | tail _ hmove ih => exact ih.move hmove

/-! ### Profiles between the two sides -/

/-- What is in force is what the Supervisor has confirmed, or that with the change that it waits for. It is unknown only
while a change is waited for, or when the helper has said so. -/
def Differ (ledger : Ledger) : Prop :=
  ledger.Balanced ledger.confirmed ledger.Told ∨
    ∃ change, ledger.link.supervisor.state = .active ∧ ledger.link.supervisor.pendingProfileChange = some change ∧
      (ledger.Balanced ledger.confirmed True ∨ ledger.Balanced (ledger.confirmed.changed change) ledger.Told)

omit [DecimalText] in
/-- A change that is pending once all is heard was pending before, and nothing is confirmed. -/
theorem unheard_of_pending (hasking : ledger.link.supervisor.Asking)
    (hpending : ledger.link.settled.pendingProfileChange = some change) :
    ledger.link.supervisor.state = .active ∧ ledger.link.supervisor.pendingProfileChange = some change ∧
      ledger.settledProfile = ledger.confirmed := by
  have hsome : ledger.link.supervisor.pendingProfileChange.isSome = true := by
    by_contra hnone
    rw [Bool.not_eq_true, Option.isSome_eq_false_iff, Option.isNone_iff_eq_none] at hnone
    have hsettled := (SupervisorHelperConversation.receiveBytes_quiet hnone ledger.link.toSupervisor {}).1
    change ledger.link.settled.pendingProfileChange = none at hsettled
    rw [hpending] at hsettled
    cases hsettled
  have hinv := hasking.inv hsome
  have hread := SupervisorHelperConversation.receiveBytes_events hinv ledger.link.toSupervisor
  have hunheard : ledger.settledProfile = ledger.confirmed := by
    refine (hread.credited ledger.confirmed).resolve_right ?_
    rintro ⟨-, hnone, -⟩
    change ledger.link.settled.pendingProfileChange = none at hnone
    rw [hpending] at hnone
    cases hnone
  exact ⟨hasking hsome, hread.pending_eq hinv hpending, hunheard⟩

theorem Carried.differ (h : Carried ledger conversation behind change completion confirmed running)
    (hasking : ledger.link.supervisor.Asking) : Differ ledger := by
  obtain ⟨hactive, hpending, hunheard⟩ := unheard_of_pending hasking h.pending
  refine Or.inr ⟨change, hactive, hpending, ?_⟩
  have hbalanced := h.balanced
  rw [h.settled, hunheard] at hbalanced
  by_cases happlied : completion = .applied
  · rw [if_pos happlied] at hbalanced
    refine Or.inr (hbalanced.imp (Or.rec (fun hunknown => ?_) id))
    rw [happlied] at hunknown
    cases hunknown
  · rw [if_neg happlied] at hbalanced
    exact Or.inl (hbalanced.imp fun _ => trivial)

/-! ### A change is carried out -/

/-- Before the Workload is launched and behind its end no change can be begun. -/
structure Idling (ledger : Ledger) (state : SupervisorState) : Prop where
  settled : ledger.link.settled = { state := state }
  balanced : ledger.Balanced ledger.settledProfile ledger.Told

/-- What holds of the two sides wherever the helper is. -/
inductive Tallied (ledger : Ledger) : Prop
  | kept {conversation : HelperRuntimeConversation} {commands : List HelperRuntimeCommand} {confirmed : NetworkProfile}
      {running : Nat} (h : Kept ledger conversation commands confirmed running)
  | carried {conversation : HelperRuntimeConversation} {behind : List HelperRuntimeCommand} {change : ProfileChange}
      {completion : ProfileChangeCompletion} {confirmed : NetworkProfile} {running : Nat}
      (h : Carried ledger conversation behind change completion confirmed running)
  | idling {state : SupervisorState} (idle : Idle state) (h : Idling ledger state)

theorem Idling.move {state : SupervisorState} (h : Idling ledger state) (hidle : Idle state)
    (hmove : LedgerMove ledger after) : Idling after state := by
  have hbuffer : ledger.link.settled.buffer = [] := by rw [h.settled]
  have hgoing : ledger.link.settled.state ≠ .failed := by
    rw [h.settled]
    exact hidle.2
  have hquiet : ledger.link.settled.state ≠ .active := by
    rw [h.settled]
    exact hidle.1
  refine ⟨(settled_moves (.single hmove.link) hbuffer hgoing hquiet).trans h.settled, ?_⟩
  rw [settledProfile_move hgoing hmove]
  exact (h.balanced.move hmove).imp fun htold => htold.move hmove

theorem Idling.moves {state : SupervisorState} (h : Idling ledger state) (hidle : Idle state)
    (hmoves : LedgerMoves ledger after) : Idling after state := by
  induction hmoves with
  | refl => exact h
  | tail _ hmove ih => exact ih.move hidle hmove

theorem Tallied.moves (h : Tallied ledger) (hmoves : LedgerMoves ledger after) : Tallied after := by
  cases h with
  | kept h => exact .kept (h.moves hmoves)
  | carried h => exact .carried (h.moves hmoves)
  | idling idle h => exact .idling idle (h.moves idle hmoves)

omit [DecimalText] in
/-- What is on its way confirms at most the pending change. -/
theorem settledProfile_cases (hasking : ledger.link.supervisor.Asking) :
    ledger.settledProfile = ledger.confirmed ∨ ∃ change, ledger.link.supervisor.state = .active ∧
      ledger.link.supervisor.pendingProfileChange = some change ∧
        ledger.settledProfile = ledger.confirmed.changed change := by
  cases hpending : ledger.link.supervisor.pendingProfileChange with
  | none => exact Or.inl (SupervisorHelperConversation.receiveBytes_quiet hpending _ _).2
  | some change =>
      have hinv := hasking.inv (by rw [hpending]; rfl)
      have hread := SupervisorHelperConversation.receiveBytes_events hinv ledger.link.toSupervisor
      refine (hread.credited ledger.confirmed).imp id ?_
      rintro ⟨hactive, -, other, hother, hchanged⟩
      exact ⟨other, hactive, hpending.symm.trans hother, hchanged⟩

omit [DecimalText] in
/-- Where what is settled balances, the two sides differ by the pending change at most. -/
theorem differ_of_settled (hasking : ledger.link.supervisor.Asking) (h : ledger.Balanced ledger.settledProfile ledger.Told) :
    Differ ledger := by
  rcases settledProfile_cases hasking with hsame | ⟨change, hactive, hpending, hchanged⟩
  · exact Or.inl (hsame ▸ h)
  · exact Or.inr ⟨change, hactive, hpending, Or.inr (hchanged ▸ h)⟩

theorem Tallied.differ (h : Tallied ledger) (hasking : ledger.link.supervisor.Asking) : Differ ledger := by
  cases h with
  | kept h => exact differ_of_settled hasking (h.settled.symm ▸ h.balanced)
  | carried h => exact h.differ hasking
  | idling idle h => exact differ_of_settled hasking h.balanced

/-- The Supervisor has not lost the conversation. -/
theorem Tallied.heard (h : Tallied ledger) : ledger.link.supervisor.state ≠ .failed := by
  cases h with
  | kept h => exact h.supervising.heard
  | carried h => exact h.supervising.heard
  | idling idle h =>
      refine supervisor_going ?_
      rw [h.settled]
      exact idle.2

/-- What the helper does in step with the Supervisor: the two sides tally, the one error that is answered is that the
state is unknown, and a signal is sent only after a stop. -/
structure Obeys (step : Step HelperCall HelperAnswer Ledger) : Prop where
  tallied : Tallied step.after
  accepts : ∀ safeMessage, step.request = .send (helperErrorMessage safeMessage) →
    safeMessage = ascii "PROFILE_STATE_UNKNOWN"
  stopped : ∀ signal, step.request = .sendSignal signal → step.after.link.stopSent = true

/-- Calls that send nothing, neither to the Supervisor nor to the Workload. -/
def Silent : HelperCall → Prop
  | .send _ => False
  | .sendSignal _ => False
  | _ => True

theorem obeys_of_send {text : Bytes} {sent : Bool}
    (htext : text.head? ≠ helperErrorPrefix.head? ∨ text = profileStateUnknownLine ++ [newline])
    (htallied : Tallied after) : Obeys ⟨ledger, .send text, sent, after⟩ where
  tallied := htallied
  accepts := by
    intro safeMessage herror
    obtain rfl := HelperCall.send.inj herror
    rcases htext with hhead | hline
    · exact absurd rfl hhead
    · have hsame : helperErrorPrefix ++ safeMessage = helperErrorPrefix ++ ascii "PROFILE_STATE_UNKNOWN" :=
        List.append_cancel_right hline
      exact List.append_cancel_left hsame
  stopped := by
    intro signal hsignal
    cases hsignal

/-- An answer that brings nothing into force is one about the link. -/
theorem exists_answer {request : HelperCall} {answer : HelperAnswer request}
    (hrequest : ∀ before : Ledger, before.recorded request answer = before.inForce)
    (h : ledgerEnvironment ledger request answer after) : ∃ middle link, LedgerMoves ledger middle ∧
      middle.link.Answers request answer link ∧ after = { middle with link := link } := by
  obtain ⟨middle, hmoves, hlink, hconfirmed, hinForce⟩ := h
  refine ⟨middle, after.link, hmoves, hlink, ?_⟩
  obtain ⟨link, settled, inForce⟩ := after
  obtain rfl : settled = middle.confirmed := hconfirmed
  obtain rfl : inForce = middle.inForce := hinForce.trans (hrequest middle)
  rfl

theorem obeys_of_silent {request : HelperCall} {answer : HelperAnswer request} (hrequest : Silent request)
    (htallied : Tallied after) : Obeys ⟨ledger, request, answer, after⟩ where
  tallied := htallied
  accepts := by
    rintro safeMessage rfl
    exact hrequest.elim
  stopped := by
    rintro signal rfl
    exact hrequest.elim

/-- The change to be carried out next is the one that the Supervisor waits for. -/
theorem Kept.next {sent : ProfileChange} (h : Kept ledger conversation (.profileChange sent :: behind) confirmed running) :
    ledger.link.settled.pendingProfileChange = some sent ∧ sent.Canonical := by
  obtain ⟨coming, -, -, howed⟩ := h.supervising.agrees.stream
  have hpending : ∃ change, ledger.link.settled.pendingProfileChange = some change := by
    cases howed with
    | nothing settled pending stops =>
        have hstop := stops (.profileChange sent) (by simp)
        cases hstop
    | coming settled => exact ⟨_, settled⟩
    | delivered settled => exact ⟨_, settled⟩
  obtain ⟨change, hchange⟩ := hpending
  obtain ⟨hcanonical, hcomes⟩ := h.comes change hchange
  rcases hcomes with hhead | ⟨hnone, -⟩
  · obtain rfl : sent = change := by simpa using hhead
    exact ⟨hchange, hcanonical⟩
  · cases hnone

/-- A change that the helper ends by itself. -/
theorem Kept.ended {sent : ProfileChange} (h : Kept ledger conversation (.profileChange sent :: behind) confirmed running)
    (hended : completion = .applied → confirmed.changed sent = confirmed) :
    Carried ledger conversation behind sent completion confirmed running := by
  refine ⟨h.supervising, h.regular, h.balanced.imp Or.inr, ?_, h.next.1⟩
  rw [h.settled]
  split
  · rename_i happlied
    exact (hended happlied).symm
  · rfl

/-- The settings of a direction are asked for. -/
theorem Kept.asked {sent : ProfileChange} {direction : ShapingDirection} {answer : ShapingChangeResult}
    (h : Kept ledger conversation (.profileChange sent :: behind) confirmed running)
    (hdirection : sent.direction.shaping = direction) (hkind : changesBandwidth sent = false)
    (hstep : ledgerEnvironment ledger
      (.setDirectionSettings direction ((confirmed.changed sent).settings direction)) answer after) :
    Obeys ⟨ledger, .setDirectionSettings direction ((confirmed.changed sent).settings direction), answer, after⟩ ∧
      Carried after conversation behind sent answer.completion
        (if answer = .applied then confirmed.changed sent else confirmed) running := by
  obtain ⟨middle, hmoves, hlink, hconfirmed, hinForce⟩ := hstep
  have hmiddle := h.moves hmoves
  obtain ⟨hpending, hcanonical⟩ := hmiddle.next
  obtain ⟨link, settled, inForce⟩ := after
  obtain rfl : link = middle.link := hlink
  obtain rfl : settled = middle.confirmed := hconfirmed
  obtain rfl := hinForce
  refine (fun hcarried => ⟨obeys_of_silent trivial (.carried hcarried), hcarried⟩) ?_
  subst hdirection
  have hother : ∀ other, other ≠ sent.direction.shaping →
      (confirmed.changed sent).settings other = confirmed.settings other :=
    fun other hother => settings_changed_ne confirmed hother
  cases answer with
  | applied =>
      refine ⟨hmiddle.supervising, h.regular.changed hcanonical hkind, fun other => ?_, ?_, hpending⟩
      · change Function.update middle.inForce _ (some _) other = _ ∨ Function.update middle.inForce _ _ other = none ∧ _
        rw [Function.update_apply]
        split
        · rename_i hsame
          rw [hsame]
          exact Or.inl rfl
        · rename_i hdiffers
          rw [if_pos rfl, hother other hdiffers]
          exact (hmiddle.balanced other).imp id (And.imp_right Or.inr)
      · exact congrArg (fun profile : NetworkProfile => profile.changed sent) hmiddle.settled.symm
  | restoredAfterFailure =>
      exact ⟨hmiddle.supervising, h.regular, hmiddle.balanced.imp Or.inr, hmiddle.settled.symm, hpending⟩
  | stateUnknown =>
      refine ⟨hmiddle.supervising, h.regular, fun other => ?_, hmiddle.settled.symm, hpending⟩
      change Function.update middle.inForce _ none other = _ ∨ Function.update middle.inForce _ none other = none ∧ _
      rw [Function.update_apply]
      split
      · exact Or.inr ⟨rfl, Or.inl rfl⟩
      · exact (hmiddle.balanced other).imp id (And.imp_right Or.inr)

/-- A change of one direction that differs. -/
theorem Kept.shaped {sent : ProfileChange} {direction : ShapingDirection}
    {next : ShapingChangeResult → HelperProgram (ProfileChangeCompletion × NetworkProfile)}
    (h : Kept ledger conversation (.profileChange sent :: behind) confirmed running)
    (hdirection : sent.direction.shaping = direction) (hkind : changesBandwidth sent = false)
    (hnext : ∀ answer, next answer =
      .done (answer.completion, if answer = .applied then confirmed.changed sent else confirmed)) :
    Safe ledgerEnvironment Obeys
      (fun applied after => Carried after conversation behind sent applied.1 applied.2 running)
      (.call (.setDirectionSettings direction ((confirmed.changed sent).settings direction)) next) ledger := by
  intro answer after hstep
  obtain ⟨hobeys, hcarried⟩ := h.asked hdirection hkind hstep
  refine ⟨hobeys, ?_⟩
  rw [hnext answer]
  exact hcarried

theorem Kept.applyChange {sent : ProfileChange}
    (h : Kept ledger conversation (.profileChange sent :: behind) confirmed running) :
    Safe ledgerEnvironment Obeys
      (fun applied after => Carried after conversation behind sent applied.1 applied.2 running)
      (applyChange confirmed sent) ledger := by
  obtain ⟨-, hcanonical⟩ := h.next
  have hsameSelf : ∀ other, other ≠ sent.direction.shaping →
      ((confirmed.changed sent).settings other).same (confirmed.settings other) = true := by
    intro other hother
    rw [settings_changed_ne confirmed hother]
    exact settings_same_self h.regular.valid other
  unfold HelperSession.applyChange
  rw [applyProfileChange_of_legal h.regular.valid hcanonical.legal]
  dsimp only
  split
  · exact h.ended fun happlied => by cases happlied
  · rename_i hfree
    rw [Bool.or_eq_true, Bool.or_eq_true, not_or, not_or, Bool.not_eq_true] at hfree
    have hkind := hfree.1.1
    cases hdirection : sent.direction.shaping with
    | outbound =>
        have hinbound : (confirmed.changed sent).inbound.same confirmed.inbound = true :=
          hsameSelf .inbound (by rw [hdirection]; decide)
        rw [hinbound]
        cases hsame : (confirmed.changed sent).outbound.same confirmed.outbound with
        | true => exact h.ended fun _ => h.regular.changed_eq hcanonical (by rw [hdirection]; exact hsame)
        | false => exact h.shaped hdirection hkind fun answer => by cases answer <;> rfl
    | inbound =>
        have houtbound : (confirmed.changed sent).outbound.same confirmed.outbound = true :=
          hsameSelf .outbound (by rw [hdirection]; decide)
        rw [houtbound]
        cases hsame : (confirmed.changed sent).inbound.same confirmed.inbound with
        | true => exact h.ended fun _ => h.regular.changed_eq hcanonical (by rw [hdirection]; exact hsame)
        | false => exact h.shaped hdirection hkind fun answer => by cases answer <;> rfl

/-! ### The loop -/

theorem Carried.active (h : Carried ledger conversation behind change completion confirmed running) :
    ledger.link.settled.state = .active := by
  obtain ⟨coming, -, -, howed⟩ := h.supervising.agrees.stream
  cases howed with
  | nothing settled => simp [h.pending] at settled
  | coming settled active => exact active
  | delivered settled active => exact active

/-- The reply settles the change on both sides. -/
theorem Carried.reply (h : Carried ledger conversation behind change completion confirmed running) :
    Kept { ledger with link := ledger.link.carrying (replyLine completion ++ [newline]) }
      (conversation.completeProfileChange completion).1 behind confirmed running := by
  have hreply := SupervisorHelperConversation.receiveLine_reply h.active h.pending completion
  have hline : newline ∉ replyLine completion ∧ (replyLine completion).length ≤ maximumHelperMessageSize := by
    cases completion <;> decide
  have hbuffer := h.supervising.agrees.buffer
  have hgoing := h.supervising.agrees.settled_going
  have houtcome : ∃ next event, ledger.link.settled.receiveLine (replyLine completion) = (next, event) ∧
      next.state ≠ .failed ∧ next.pendingProfileChange = none ∧
      event.credit ledger.settledProfile = confirmed := by
    rw [hreply, h.settled]
    cases completion with
    | applied => exact ⟨_, _, rfl, hgoing, rfl, rfl⟩
    | restoredAfterFailure => exact ⟨_, _, rfl, hgoing, rfl, rfl⟩
    | stateUnknown => exact ⟨_, _, rfl, (fun hfailed => by cases hfailed), rfl, rfl⟩
  obtain ⟨next, event, hnext, hheard, hnone, hcredit⟩ := houtcome
  have htold : completion = .stateUnknown ∨ ledger.Told → profileStateUnknownLine ++ [newline] ∈
      ledger.link.sent ++ [replyLine completion ++ [newline]] := by
    rintro (rfl | htold)
    · exact List.mem_append_right _ (List.mem_singleton_self _)
    · exact List.mem_append_left _ htold
  refine ⟨h.supervising.reply completion, h.regular, h.balanced.imp htold, ?_, fun other hother => ?_⟩
  · rw [settledProfile_carrying hbuffer hgoing hline.1 hline.2 hnext hheard, hcredit]
  · dsimp only at hother
    rw [settled_carrying hbuffer hgoing hline.1 hline.2 hnext hheard] at hother
    simp [hnone] at hother

/-- A stop that is carried out was sent. -/
theorem Kept.stop {command : HelperRuntimeCommand} (h : Kept ledger conversation (command :: behind) confirmed running)
    (hstop : command.isStop = true) :
    ledger.link.stopSent = true ∧ Kept ledger conversation behind confirmed running := by
  obtain ⟨coming, -, -, howed⟩ := h.supervising.agrees.stream
  have hnone : ledger.link.settled.pendingProfileChange = none ∧ ledger.link.stopSent = true := by
    cases howed with
    | nothing settled pending stops quiet =>
        refine ⟨settled, ?_⟩
        by_contra hquiet
        have hempty := (quiet (Bool.eq_false_iff.mpr hquiet)).1
        simp at hempty
    | coming settled active pending stopping delivered => cases delivered
    | delivered settled active pending first =>
        obtain ⟨rfl, -⟩ := List.cons.inj first
        cases hstop
  refine ⟨hnone.2, ⟨h.supervising.agrees.stopped hstop, h.supervising.unsent, h.supervising.first,
    h.supervising.running⟩, h.regular, h.balanced, h.settled, fun change hchange => ?_⟩
  simp [hnone.1] at hchange

/-- What is read is acceptable, and the awaited change is delivered first or still comes first. -/
theorem Kept.read {bytes rest : Bytes} (h : Kept ledger conversation [] confirmed running)
    (hway : ledger.link.toHelper = bytes ++ rest) :
    (conversation.receiveBytes bytes).2.valid = true ∧
      Kept { ledger with link := { ledger.link with toHelper := rest } } (conversation.receiveBytes bytes).1
        (conversation.receiveBytes bytes).2.commands confirmed running := by
  obtain ⟨hvalid, hagrees⟩ := h.supervising.agrees.read hway
  refine ⟨hvalid, ⟨hagrees, h.supervising.unsent, h.supervising.first, h.supervising.running⟩, h.regular, h.balanced,
    h.settled, fun change hchange => ?_⟩
  obtain ⟨hcanonical, hcomes⟩ := h.comes change hchange
  refine ⟨hcanonical, ?_⟩
  rcases hcomes with hhead | ⟨-, tail, htail⟩
  · cases hhead
  · rw [hway] at htail
    have hactive : ledger.link.settled.state = .active := by
      obtain ⟨coming, -, -, howed⟩ := h.supervising.agrees.stream
      have hpending : ledger.link.settled.pendingProfileChange = some change := hchange
      cases howed with
      | nothing settled => simp [hpending] at settled
      | coming settled active => exact active
      | delivered settled active => exact active
    refine (receiveBytes_first hcanonical (h.supervising.agrees.known hactive) htail hvalid).imp id ?_
    rintro ⟨hnone, hstream⟩
    exact ⟨hnone, tail, hstream⟩

theorem Kept.carryOut (turns : Nat) (commands : List HelperRuntimeCommand) (state : Supervision)
    (h : Kept ledger state.conversation commands state.confirmed running) :
    Safe ledgerEnvironment Obeys (fun result after => ∃ next : Supervision, result = .inl next ∧
      Kept after next.conversation [] next.confirmed running) (HelperSession.carryOut turns commands state) ledger := by
  induction commands generalizing ledger state with
  | nil => exact ⟨state, rfl, h⟩
  | cons command commands ih =>
      have hstop : command.isStop = true → ∀ signal, Safe ledgerEnvironment Obeys (fun result after =>
          ∃ next : Supervision, result = .inl next ∧ Kept after next.conversation [] next.confirmed running) (do
            if ← ask (.sendSignal signal) then HelperSession.carryOut turns commands state
            else
              let _ ← ask (.send (helperErrorMessage (ascii "Failed to stop Workload.")))
              abandon turns) ledger := by
        intro hstop signal delivered after hstep
        obtain ⟨middle, link, hmoves, ⟨rfl, rfl⟩, rfl⟩ := exists_answer (fun _ => rfl) hstep
        obtain ⟨hsent, hnext⟩ := (h.moves hmoves).stop hstop
        exact ⟨⟨.kept hnext, (fun _ herror => by cases herror), fun _ _ => hsent⟩, ih state hnext⟩
      cases command with
      | profileChange change =>
          refine safe_bind (h.applyChange.imp fun applied middle hmiddle => ?_)
          dsimp only
          rw [(hmiddle.supervising.agrees.reply applied.1).1]
          intro sent after hstep
          obtain ⟨between, link, hmoves, ⟨rfl, rfl⟩, rfl⟩ := exists_answer (fun _ => rfl) hstep
          have hnext := (hmiddle.moves hmoves).reply
          have hreply : (replyLine applied.1 ++ [newline]).head? ≠ helperErrorPrefix.head? ∨
              replyLine applied.1 ++ [newline] = profileStateUnknownLine ++ [newline] := by
            cases applied.1 <;> decide
          exact ⟨obeys_of_send hreply (.kept hnext), ih ⟨_, applied.2⟩ hnext⟩
      | stopTerminate => exact hstop rfl _
      | stopKill => exact hstop rfl _
      | compatibilityShutdown => exact hstop rfl _

/-- The report of the end confirms nothing. -/
theorem Kept.terminal_profile (h : Kept ledger conversation commands confirmed running) {event : HelperConversationEvent}
    (hevent : event.EndsWorkload) :
    ({ ledger with link := ledger.link.carrying (helperConversationEventMessage event) } : Ledger).settledProfile =
      confirmed := by
  obtain ⟨line, hline, hmessage⟩ := exists_line hevent
  obtain ⟨-, hnewline, hshort⟩ := SupervisorHelperConversation.line_of_endsWorkload hevent hline
  have hnext := SupervisorHelperConversation.receiveLine_terminal h.supervising.agrees.active hevent hline
  have hlate : event.credit ledger.settledProfile = ledger.settledProfile := by
    cases event with
    | profileChangeResult result change => exact hevent.elim
    | _ => rfl
  rw [hmessage, settledProfile_carrying h.supervising.agrees.buffer h.supervising.agrees.settled_going hnewline hshort
    hnext (fun hfailed => by cases hfailed), hlate, h.settled]

/-- The status is reported, whatever is pending. -/
theorem Kept.terminal (h : Kept ledger conversation commands confirmed running) {event : HelperConversationEvent}
    (hevent : event.EndsWorkload) :
    Idling { ledger with link := ledger.link.carrying (helperConversationEventMessage event) } .waitingForCleanup := by
  refine ⟨(h.supervising.agrees.terminal hevent).1, ?_⟩
  rw [h.terminal_profile hevent]
  exact h.balanced.imp (List.mem_append_left _)

/-- The Workload is found running once more. -/
theorem Kept.counted (h : Kept ledger conversation commands confirmed running) :
    Kept { ledger with link := { ledger.link with running := ledger.link.running + 1 } } conversation commands confirmed
      (running + 1) :=
  ⟨⟨h.supervising.agrees.counting _, h.supervising.unsent, h.supervising.first,
    congrArg (· + 1) h.supervising.running⟩, h.regular, h.balanced, h.settled, h.comes⟩

/-- A turn goes on with what it found, or it has reported the end of the Workload. -/
theorem Kept.superviseTurn (turns : Nat) (state : Supervision)
    (h : Kept ledger state.conversation [] state.confirmed running) :
    Safe ledgerEnvironment Obeys
      (fun result after => result.elim (fun next => Kept after next.conversation [] next.confirmed (running + 1))
        fun status => status = some 0 ∧ Idling after .waitingForCleanup)
      (HelperSession.superviseTurn turns state) ledger := by
  intro polled after hstep
  obtain ⟨middle, link, hmoves, hanswer, rfl⟩ := exists_answer (fun _ => rfl) hstep
  have hmiddle := h.moves hmoves
  cases polled with
  | error => exact hanswer.elim
  | finished status =>
      obtain ⟨hpossible, rfl⟩ := hanswer
      refine ⟨obeys_of_silent trivial (.kept hmiddle), ?_⟩
      intro sent after hstep
      obtain ⟨between, link, hmoves, ⟨rfl, rfl⟩, rfl⟩ := exists_answer (fun _ => rfl) hstep
      have hended := (hmiddle.moves hmoves).terminal hpossible.endsWorkload
      refine ⟨obeys_of_send (Or.inl ?_) (.idling ⟨by decide, by decide⟩ hended), rfl, hended⟩
      split <;> exact fun hhead => by cases hhead
  | running =>
      obtain rfl := hanswer
      have hcounted := hmiddle.counted
      refine ⟨obeys_of_silent trivial (.kept hcounted), ?_⟩
      intro ready after hstep
      obtain ⟨between, link, hmoves, hanswer, rfl⟩ := exists_answer (fun _ => rfl) hstep
      have hbetween := hcounted.moves hmoves
      cases ready with
      | failed => exact hanswer.elim
      | timedOut =>
          obtain rfl := hanswer
          exact ⟨obeys_of_silent trivial (.kept hbetween), hbetween⟩
      | readable =>
          obtain ⟨-, rfl⟩ := hanswer
          refine ⟨obeys_of_silent trivial (.kept hbetween), ?_⟩
          intro read after hstep
          obtain ⟨last, link, hmoves, hanswer, rfl⟩ := exists_answer (fun _ => rfl) hstep
          have hlast := hbetween.moves hmoves
          cases read with
          | data bytes =>
              obtain ⟨-, -, rest, hway, rfl⟩ := hanswer
              obtain ⟨hvalid, hread⟩ := hlast.read hway
              refine ⟨obeys_of_silent trivial (.kept hread), ?_⟩
              change Safe _ _ _ (receive turns state bytes) _
              rw [receive, if_pos hvalid]
              refine (Kept.carryOut turns _ { state with conversation := (state.conversation.receiveBytes bytes).1 }
                hread).imp ?_
              rintro _ _ ⟨next, rfl, hnext⟩
              exact hnext
          | peerClosed => exact hanswer.elim
          | failed => exact hanswer.elim

/-- The supervision ends with the Workload, or it goes on with both sides in step. -/
theorem Kept.superviseWorkload (turns : Nat) (h : Kept ledger {} [] {} 0) :
    Safe ledgerEnvironment Obeys (fun result after => ∀ status, result = some status → Idling after .waitingForCleanup)
      (HelperSession.superviseWorkload turns) ledger := by
  have hturn : ∀ (round : Nat) (state : Supervision) (host : Ledger),
      Kept host state.conversation [] state.confirmed round → Safe ledgerEnvironment Obeys
        (fun result after => result.elim (fun next => Kept after next.conversation [] next.confirmed (round + 1))
          fun status => status = some 0 ∧ Idling after .waitingForCleanup)
        (HelperSession.superviseTurn turns state) host := fun _ state _ hstate => hstate.superviseTurn turns state
  have hstart : Kept ledger ({} : Supervision).conversation [] ({} : Supervision).confirmed 0 := h
  refine safe_bind ((safe_loop_counted hturn 0 hstart).imp ?_)
  rintro (_ | _) after hresult status hstatus
  · cases hstatus
  · exact hresult.2

end HelperSession

end NetLagLab
