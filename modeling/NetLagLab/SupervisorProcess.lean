import NetLagLab.LifecycleSafety
import NetLagLab.SupervisorProgress

/-! The Supervisor as a process: the lifecycle with the adapter that it waits on, one turn of `poll` at a time. Whatever
its Controllers and the terminal do, each of its steps is a sequence of moves that the link with the helper allows. -/

namespace NetLagLab

open ByteLines ControllerControlPlane HelperSession Relation SupervisorHelperConversation

namespace SessionAdapter

variable [DecimalText] {adapter middle after : SessionAdapter} {next : SupervisorHelperConversation}
  {event : HelperConversationEvent} {events : List HelperConversationEvent}

/-! ### A read -/

/-- What holds of the adapter between two steps. -/
structure Disciplined (adapter : SessionAdapter) : Prop where
  inv : adapter.Inv
  obedient : Obedient adapter
  backed : Backed adapter
  active : adapter.conversation.state = .active → adapter.controlPlane.isSome = true

theorem Disciplined.progress (h : Disciplined adapter) (hprogress : Progresses adapter after) (hinv : after.Inv) :
    Disciplined after where
  inv := hinv
  obedient := hprogress.obedient h.obedient
  backed := h.backed.progress hprogress
  active := fun hactive => hprogress.planned.trans (h.active (hprogress.state.symm.trans hactive))

/-- What comes of a read once its events are delivered. -/
structure Delivers (adapter after : SessionAdapter) (next : SupervisorHelperConversation)
    (events : List HelperConversationEvent) : Prop where
  voices : Voices (adapter.withConversation next) after
  obedient : Obedient after
  backed : Backed after
  silenced : adapter.Silenced → after.Silenced
  planned : adapter.controlPlane.isSome = true → after.controlPlane.isSome = true
  active : next.state = .active → after.controlPlane.isSome = true
  state : after.conversation.state = next.state
  sends : after.sends.helper = []
  confirmed : after.confirmedProfile = credited adapter.confirmedProfile events

/-- An event that creates no control plane. -/
theorem Disciplined.delivers (h : Disciplined adapter) (hsends : adapter.sends.helper = [])
    (hactive : next.state = .active → adapter.conversation.state = .active)
    (hprogress : Progresses (adapter.withConversation next) after)
    (hconfirmed : after.confirmedProfile = credited adapter.confirmedProfile events) : Delivers adapter after next events := by
  have hobedient : Obedient (adapter.withConversation next) := ⟨h.obedient.silenced, h.obedient.ordered⟩
  have hbacked : Backed (adapter.withConversation next) := ⟨h.backed.triggers, h.backed.planned⟩
  exact {
    voices := hprogress.voices hobedient
    obedient := hprogress.obedient hobedient
    backed := hbacked.progress hprogress
    silenced := hprogress.silenced
    planned := fun hsome => hprogress.planned.trans hsome
    active := fun hstate => hprogress.planned.trans (h.active (hactive hstate))
    state := hprogress.state
    sends := hprogress.sends hsends
    confirmed := hconfirmed }

theorem Delivers.proceed (h : Delivers adapter middle next events) (hproceeds : Proceeds middle after) :
    Delivers adapter after next events where
  voices := h.voices.trans (hproceeds.1.voices h.obedient)
  obedient := hproceeds.1.obedient h.obedient
  backed := h.backed.progress hproceeds.1
  silenced := fun hsilenced => hproceeds.1.silenced (h.silenced hsilenced)
  planned := fun hsome => hproceeds.1.planned.trans (h.planned hsome)
  active := fun hstate => hproceeds.1.planned.trans (h.active hstate)
  state := hproceeds.1.state.trans h.state
  sends := hproceeds.1.sends h.sends
  confirmed := hproceeds.2.trans h.confirmed

/-- The events behind the first one confirm nothing. -/
theorem Delivers.lates (h : Delivers adapter middle next [event]) (hcore : middle.Core) (listens : Bool)
    (hlate : ∀ event ∈ events, event.isLate = true) :
    Delivers adapter (events.foldl (deliverHelperEvent listens) middle) next (event :: events) :=
  { h.proceed (proceeds_lates listens events hcore h.sends hlate) with
    confirmed := by
      rw [(proceeds_lates listens events hcore h.sends hlate).2, h.confirmed]
      exact (credited_of_isLate hlate).symm }

/-- The Workload has started: there is a control plane from now on. -/
theorem Disciplined.activated (h : Disciplined adapter) (hsends : adapter.sends.helper = [])
    (hpending : adapter.pendingEvents = []) (hwaiting : adapter.conversation.state = .waitingForActivation)
    (listens : Bool) (workloadPid : Int) :
    Delivers adapter ((adapter.withConversation next).deliverHelperEvent listens (.activated workloadPid)) next
      [.activated workloadPid] := by
  obtain ⟨hnone, -⟩ := h.inv.waiting hwaiting
  have hquiet : ¬ adapter.Silenced := by
    rintro ⟨plane, hplane, -⟩
    rw [hnone] at hplane
    cases hplane
  have hstop : adapter.stopSent = false := by
    rw [Bool.eq_false_iff]
    exact fun hsent => hquiet (h.obedient.silenced hsent)
  have hafter : ∀ after : SessionAdapter, after.conversation = next → after.commands = adapter.commands →
      after.controlPlane = some { workloadPid, childArguments := adapter.childArguments } →
      (∀ lifecycle ∈ after.pendingEvents, lifecycle.isTrigger = false) → after.sends = adapter.sends →
      Delivers adapter after next [.activated workloadPid] := by
    intro after hconversation hcommands hplane hevents hsame
    have hsome : after.controlPlane.isSome = true := by rw [hplane]; rfl
    have hstill : after.stopSent = false := by
      rw [stopSent, hcommands]
      exact hstop
    exact {
      voices := voices_of_same hconversation hcommands
      obedient := ⟨fun hsent => absurd (hstill.symm.trans hsent) Bool.false_ne_true, hcommands ▸ h.obedient.ordered⟩
      backed := ⟨fun lifecycle hmem htrigger => absurd ((hevents lifecycle hmem).symm.trans htrigger) Bool.false_ne_true,
        fun _ _ => hsome⟩
      silenced := fun hsilenced => absurd hsilenced hquiet
      planned := fun _ => hsome
      active := fun _ => hsome
      state := congrArg SupervisorHelperConversation.state hconversation
      sends := by rw [hsame, hsends]
      confirmed := by
        rw [confirmedProfile_of_some hplane, confirmedProfile, hnone]
        rfl }
  unfold deliverHelperEvent
  dsimp only
  split
  · refine hafter _ rfl rfl rfl (fun lifecycle hlifecycle => ?_) rfl
    have hmem : lifecycle ∈ adapter.pendingEvents ++ [.activated workloadPid] := hlifecycle
    rw [hpending] at hmem
    rw [List.mem_singleton.mp hmem]
    rfl
  · refine hafter _ rfl rfl rfl (fun lifecycle hlifecycle => ?_) rfl
    have hmem : lifecycle ∈ adapter.pendingEvents ++ [.conversationLost] := hlifecycle
    rw [hpending] at hmem
    rw [List.mem_singleton.mp hmem]
    rfl

/-- The first event of a read. -/
theorem Disciplined.first {read : SupervisorHelperConversation} (h : Disciplined adapter) (hsends : adapter.sends.helper = [])
    (hpending : adapter.pendingEvents = []) (listens : Bool) (hfirst : FirstEvent adapter.conversation read event)
    (hactive : next.state = .active → read.state = .active) :
    Delivers adapter ((adapter.withConversation next).deliverHelperEvent listens event) next [event] := by
  have hcore : (adapter.withConversation next).Core := h.inv.toCore.withConversation next
  cases hfirst with
  | activated workloadPid before after => exact h.activated hsends hpending before listens workloadPid
  | activationFailed result before after =>
      refine h.delivers hsends (fun hstate => ?_) (progresses_push _ (fun value hvalue => by cases hvalue)
        fun htrigger => by cases htrigger) rfl
      have hread := hactive hstate
      rw [after] at hread
      cases hread
  | result result change before pending after =>
      obtain ⟨plane, hplane⟩ := Option.isSome_iff_exists.mp (h.active before)
      obtain ⟨hinFlight, hcanonical, -⟩ := h.inv.remaining_result before pending hplane .applied
      obtain ⟨hprogress, hconfirmed⟩ :=
        progresses_result hcore (show (adapter.withConversation next).sends.helper = [] from hsends)
          (show (adapter.withConversation next).controlPlane = some plane from hplane) hinFlight hcanonical result
      exact h.delivers hsends (fun _ => before) hprogress hconfirmed
  | unknown change before pending after =>
      have hhandle : Proceeds (adapter.withConversation next)
          ((adapter.withConversation next).handleControlEvent .helperProfileStateUnknown) :=
        proceeds_handle hcore hsends (by decide) (fun plane => ⟨rfl, by decide⟩) fun _ => rfl
      exact h.delivers hsends (fun _ => before) hhandle.1 hhandle.2
  | late event islate after settled =>
      have hlate : Proceeds (adapter.withConversation next)
          ((adapter.withConversation next).deliverHelperEvent listens event) :=
        proceeds_late hcore hsends listens islate
      refine h.delivers hsends (fun hstate => ?_) hlate.1 (hlate.2.trans ?_)
      · rw [hactive hstate] at after
        cases after
      · exact (credit_of_isLate islate).symm

theorem Disciplined.reads (h : Disciplined adapter) (hsends : adapter.sends.helper = [])
    (hpending : adapter.pendingEvents = []) (listens : Bool) (hread : ReadEvents adapter.conversation next events) :
    Delivers adapter (events.foldl (deliverHelperEvent listens) (adapter.withConversation next)) next events := by
  have hnext := hread.inv h.inv.conversation
  cases hread with
  | nothing state pending =>
      exact h.delivers hsends (fun hstate => state.symm.trans hstate) (.refl _) rfl
  | one middle event first state pending =>
      exact h.first hsends hpending listens first fun hstate => state.symm.trans hstate
  | more middle event rest first lateEvents state settled =>
      have hne : ∀ current : SupervisorState, current.isLate = false → next.state ≠ current := by
        rintro current hcurrent rfl
        exact absurd (state.symm.trans hcurrent) (by decide)
      have hreading : Reading adapter next :=
        ⟨h.inv, hnext, hne _ rfl, fun hactive => absurd hactive (hne _ rfl)⟩
      have hcore : ((adapter.withConversation next).deliverHelperEvent listens event).Core :=
        (hreading.deliver_first listens first fun hactive => absurd hactive (hne _ rfl)).toCore
      have hfirst : Delivers adapter ((adapter.withConversation next).deliverHelperEvent listens event) next [event] :=
        h.first hsends hpending listens first fun hstate => absurd hstate (hne _ rfl)
      exact hfirst.lates hcore listens lateEvents

end SessionAdapter

/-! ### A turn of `poll` -/

/-- Nothing fails on the socket to the helper. -/
structure CycleInput.Connected (input : CycleInput) : Prop where
  sends : input.helperSends = []
  reads : (input.helper.pollin || input.helper.pollhup) = true → ∃ bytes, input.helperRead = .data bytes

/-- What a turn reads from the helper. -/
def CycleInput.heard (input : CycleInput) : Bytes :=
  if input.helper.pollin || input.helper.pollhup then
    match input.helperRead with
    | .data bytes => bytes
    | _ => []
  else []

namespace SessionAdapter

variable [DecimalText] {adapter middle after : SessionAdapter} {ledger : Ledger}

/-- The ledger as the adapter has it, with its confirmed profile. -/
structure Shows (ledger : Ledger) (adapter : SessionAdapter) : Prop extends Matches ledger adapter where
  confirmed : ledger.confirmed = adapter.confirmedProfile

/-- The ledger behind a step of the adapter. -/
def advanced (ledger : Ledger) (after : SessionAdapter) (commands : List HelperRuntimeCommand) (rest : Bytes) : Ledger :=
  { ledger with
    link := { ledger.link with
      supervisor := after.conversation
      toSupervisor := rest
      toHelper := ledger.link.toHelper ++ commandBytes commands
      stopSent := after.stopSent }
    confirmed := after.confirmedProfile }

/-- With what it reads first, a step of the adapter is a sequence of moves. -/
def Advances (adapter after : SessionAdapter) (heard : Bytes) : Prop :=
  ∃ commands, after.commands = adapter.commands ++ commands ∧ ∀ ledger rest, Shows ledger adapter →
    ledger.link.toSupervisor = heard ++ rest → LedgerMoves ledger (advanced ledger after commands rest)

/-- A step that reads nothing. -/
theorem Voices.advances (h : Voices adapter after) (hconfirmed : after.confirmedProfile = adapter.confirmedProfile) :
    Advances adapter after [] := by
  obtain ⟨commands, hcommands, hmoves⟩ := h
  refine ⟨commands, hcommands, fun ledger rest hshows hway => ?_⟩
  have hrest : rest = ledger.link.toSupervisor := hway.symm
  have hsame : advanced ledger after commands rest = spoken ledger after commands := by
    rw [advanced, hconfirmed, ← hshows.confirmed, hrest]
    rfl
  rw [hsame]
  exact hmoves ledger hshows.toMatches

/-- A step that reads from the helper first. -/
theorem Delivers.advances {bytes : Bytes} {next : SupervisorHelperConversation} {events : List HelperConversationEvent}
    (h : Delivers adapter after next events) (hread : adapter.conversation.receiveBytes bytes = (next, events)) :
    Advances adapter after bytes := by
  obtain ⟨commands, hcommands, hmoves⟩ := h.voices
  refine ⟨commands, hcommands, fun ledger rest hshows hway => ?_⟩
  have hhears := LedgerMove.hears hway
  rw [hshows.conversation, hread, hshows.confirmed] at hhears
  refine ReflTransGen.head hhears ?_
  have hsame : advanced ledger after commands rest = spoken
      { ledger with
        link := { ledger.link with supervisor := next, toSupervisor := rest }
        confirmed := credited adapter.confirmedProfile events } after commands := by
    rw [advanced, h.confirmed]
    rfl
  rw [hsame]
  exact hmoves _ ⟨rfl, hshows.stopSent⟩

theorem Advances.trans {heard : Bytes} (h : Advances adapter middle heard) (hmore : Advances middle after []) :
    Advances adapter after heard := by
  obtain ⟨commands, hcommands, hmoves⟩ := h
  obtain ⟨more, hmoreCommands, hmoreMoves⟩ := hmore
  refine ⟨commands ++ more, by rw [hmoreCommands, hcommands, List.append_assoc], fun ledger rest hshows hway => ?_⟩
  have hlast := hmoreMoves (advanced ledger middle commands rest) rest ⟨⟨rfl, rfl⟩, rfl⟩ rfl
  have hsame : advanced (advanced ledger middle commands rest) after more rest =
      advanced ledger after (commands ++ more) rest := by
    simp only [advanced, commandBytes, List.flatMap_append, List.append_assoc]
  rw [hsame] at hlast
  exact (hmoves ledger rest hshows hway).trans hlast

theorem Advances.of_withSends {input : CycleInput} {heard : Bytes} (h : Advances (adapter.withSends input) after heard) :
    Advances adapter after heard := by
  obtain ⟨commands, hcommands, hmoves⟩ := h
  exact ⟨commands, hcommands, fun ledger rest hshows =>
    hmoves ledger rest ⟨⟨hshows.conversation, hshows.stopSent⟩, hshows.confirmed⟩⟩

/-- The invariant and the moves of a turn. -/
theorem Disciplined.cycle (h : Disciplined adapter) (hpending : adapter.pendingEvents = []) {input : CycleInput}
    (hconnected : input.Connected) :
    Disciplined (adapter.waitCycle input).1 ∧
      (adapter.Silenced → (adapter.waitCycle input).1.Silenced) ∧
      (adapter.controlPlane.isSome = true → (adapter.waitCycle input).1.controlPlane.isSome = true) ∧
      Advances adapter (adapter.waitCycle input).1 input.heard := by
  have hinv := h.inv.waitCycle input
  have hsteps := waitCycle_steps adapter input
  have hstart : Disciplined (adapter.withSends input) := ⟨{ h.inv with }, ⟨h.obedient.silenced, h.obedient.ordered⟩,
    ⟨h.backed.triggers, h.backed.planned⟩, h.active⟩
  have hsends : (adapter.withSends input).sends.helper = [] := hconnected.sends
  generalize (adapter.waitCycle input).1 = after at hinv hsteps ⊢
  by_cases hready : (input.helper.pollin || input.helper.pollhup) = true
  · obtain ⟨bytes, hbytes⟩ := hconnected.reads hready
    have hheard : input.heard = bytes := by
      rw [CycleInput.heard, if_pos hready, hbytes]
    rw [if_pos hready, hbytes] at hsteps
    have hread := hstart.reads hsends hpending input.listens (receiveBytes_events hstart.inv.conversation bytes)
    have hdelivers := hread.proceed
      (proceeds_steps (hstart.inv.readHelperEvents input.listens (.data bytes)) hread.sends hsteps)
    refine ⟨⟨hinv, hdelivers.obedient, hdelivers.backed, fun hactive => hdelivers.active (hdelivers.state.symm.trans hactive)⟩,
      hdelivers.silenced, hdelivers.planned, ?_⟩
    rw [hheard]
    exact (hdelivers.advances rfl).of_withSends
  · have hheard : input.heard = [] := if_neg hready
    rw [if_neg hready] at hsteps
    obtain ⟨hprogress, hconfirmed⟩ := proceeds_steps hstart.inv hsends hsteps
    refine ⟨hstart.progress hprogress hinv, hprogress.silenced, fun hsome => hprogress.planned.trans hsome, ?_⟩
    rw [hheard]
    exact ((hprogress.voices hstart.obedient).advances hconfirmed).of_withSends

end SessionAdapter

end NetLagLab
