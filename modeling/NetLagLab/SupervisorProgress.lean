import NetLagLab.ProfileLedger
import NetLagLab.SessionInvariant
import NetLagLab.StopPolicy

/-! What the adapter of the Supervisor does on the link with the helper. Every step between two reads is made of moves
that the link allows: a change goes out only while no stop has, and where the conversation begins it. -/

namespace NetLagLab

open ByteLines ControllerControlPlane HelperSession Relation

/-- The commands as they go out. -/
def commandBytes [DecimalText] (commands : List HelperRuntimeCommand) : Bytes :=
  commands.flatMap helperRuntimeCommandMessage

namespace SessionAdapter

/-- The profile that the Controllers are shown as the one in force. -/
def confirmedProfile (adapter : SessionAdapter) : NetworkProfile :=
  (adapter.controlPlane.map (·.confirmedProfile)).getD {}

def stopSent (adapter : SessionAdapter) : Bool := adapter.commands.any (·.isStop)

/-- The control plane begins no change any more. -/
def Silenced (adapter : SessionAdapter) : Prop :=
  ∃ plane, adapter.controlPlane = some plane ∧ (plane.stopping = true ∨ plane.profileStateFailed = true)

/-- No change follows a stop, and none will. -/
structure Obedient (adapter : SessionAdapter) : Prop where
  silenced : adapter.stopSent = true → adapter.Silenced
  ordered : adapter.commands.Pairwise fun earlier later => earlier.isStop = true → later.isStop = true

/-- The events that lead to a stop are held back only where the control plane begins no change any more. -/
structure Backed (adapter : SessionAdapter) : Prop where
  triggers : ∀ event ∈ adapter.pendingEvents, event.isTrigger = true → adapter.controlPlane.isSome = true →
    adapter.Silenced
  planned : ∀ workloadPid, LifecycleEvent.activated workloadPid ∈ adapter.pendingEvents →
    adapter.controlPlane.isSome = true

/-- The link as the adapter has it. -/
structure Matches (ledger : Ledger) (adapter : SessionAdapter) : Prop where
  conversation : ledger.link.supervisor = adapter.conversation
  stopSent : ledger.link.stopSent = adapter.stopSent

/-- The ledger when the adapter has sent more commands. -/
def spoken [DecimalText] (ledger : Ledger) (after : SessionAdapter) (commands : List HelperRuntimeCommand) : Ledger :=
  { ledger with
    link := { ledger.link with
      supervisor := after.conversation
      toHelper := ledger.link.toHelper ++ commandBytes commands
      stopSent := after.stopSent } }

section Voices

variable [DecimalText] {adapter middle after : SessionAdapter} {ledger : Ledger}

/-- What the adapter sends are moves of the Supervisor. -/
def Voices (adapter after : SessionAdapter) : Prop :=
  ∃ commands, after.commands = adapter.commands ++ commands ∧
    ∀ ledger, Matches ledger adapter → LedgerMoves ledger (spoken ledger after commands)

theorem matches_spoken (ledger : Ledger) (after : SessionAdapter) (commands : List HelperRuntimeCommand) :
    Matches (spoken ledger after commands) after := ⟨rfl, rfl⟩

/-- Nothing is sent. -/
theorem voices_of_same (hconversation : after.conversation = adapter.conversation)
    (hcommands : after.commands = adapter.commands) : Voices adapter after := by
  refine ⟨[], hcommands.trans (List.append_nil _).symm, fun ledger h => ?_⟩
  have hsame : spoken ledger after [] = ledger := by
    unfold spoken stopSent
    rw [hconversation, hcommands, ← h.conversation]
    have hstop : ledger.link.stopSent = adapter.commands.any (·.isStop) := h.stopSent
    rw [← hstop, show commandBytes [] = [] from rfl, List.append_nil]
  rw [hsame]

theorem Voices.trans (h : Voices adapter middle) (hmore : Voices middle after) : Voices adapter after := by
  obtain ⟨commands, hcommands, hmoves⟩ := h
  obtain ⟨more, hmoreCommands, hmoreMoves⟩ := hmore
  refine ⟨commands ++ more, by rw [hmoreCommands, hcommands, List.append_assoc], fun ledger hmatches => ?_⟩
  have hlast := hmoreMoves _ (matches_spoken ledger middle commands)
  have hsame : spoken (spoken ledger middle commands) after more = spoken ledger after (commands ++ more) := by
    simp only [spoken, commandBytes, List.flatMap_append, List.append_assoc]
  rw [hsame] at hlast
  exact (hmoves ledger hmatches).trans hlast

/-- A change that is begun, before any stop. -/
theorem voices_of_begun {change : ProfileChange} {frame : Bytes} (hquiet : adapter.stopSent = false)
    (hcanonical : change.Canonical) (hbegins : adapter.conversation.beginProfileChange change = some (frame, after.conversation))
    (hcommands : after.commands = adapter.commands ++ [.profileChange change]) : Voices adapter after := by
  refine ⟨[.profileChange change], hcommands, fun ledger h => ?_⟩
  obtain ⟨-, -, -, houtcome⟩ := SupervisorHelperConversation.beginProfileChange_eq_some_iff.mp hbegins
  obtain ⟨hframe, -⟩ := Prod.mk.inj houtcome
  have hbytes : commandBytes [.profileChange change] = frame := by
    rw [hframe]
    exact List.append_nil _
  have hstop : after.stopSent = ledger.link.stopSent := by
    rw [h.stopSent, stopSent, stopSent, hcommands, List.any_append]
    exact Bool.or_false _
  have hmove := LedgerMove.changes (h.stopSent.trans hquiet) hcanonical (h.conversation ▸ hbegins)
  rw [spoken, hbytes, hstop]
  exact .single hmove

/-- A stop may go out at any time. -/
theorem voices_of_stop {command : HelperRuntimeCommand} (hstop : command.isStop = true)
    (hconversation : after.conversation = adapter.conversation)
    (hcommands : after.commands = adapter.commands ++ [command]) : Voices adapter after := by
  refine ⟨[command], hcommands, fun ledger h => ?_⟩
  have hsent : after.stopSent = true := by
    rw [stopSent, hcommands, List.any_append, List.any_cons, hstop]
    simp
  have hbytes : commandBytes [command] = helperRuntimeCommandMessage command := List.append_nil _
  have hmove : LedgerMove ledger _ := .stops hstop
  rw [spoken, hbytes, hsent, hconversation, ← h.conversation]
  exact .single hmove

end Voices

/-! ### Steps that keep the control plane -/

section Progress

variable [DecimalText] {adapter middle after : SessionAdapter} {plane next : ControllerControlPlane}
  {event : ControlPlaneEvent}

/-- What a step does when it sends changes at most, and creates no control plane. -/
structure Progresses (adapter after : SessionAdapter) : Prop where
  voices : Obedient adapter → Voices adapter after
  obedient : Obedient adapter → Obedient after
  silenced : adapter.Silenced → after.Silenced
  planned : after.controlPlane.isSome = adapter.controlPlane.isSome
  state : after.conversation.state = adapter.conversation.state
  events : ∃ events, after.pendingEvents = adapter.pendingEvents ++ events ∧
    (∀ event ∈ events, event.isTrigger = true → after.controlPlane.isSome = true → after.Silenced) ∧
    ∀ workloadPid, LifecycleEvent.activated workloadPid ∉ events
  sends : adapter.sends.helper = [] → after.sends.helper = []

theorem Progresses.refl (adapter : SessionAdapter) : Progresses adapter adapter where
  voices := fun _ => voices_of_same rfl rfl
  obedient := id
  silenced := id
  planned := rfl
  state := rfl
  events := ⟨[], (List.append_nil _).symm, (fun _ hmem => by cases hmem), fun _ hmem => by cases hmem⟩
  sends := id

theorem Progresses.trans (h : Progresses adapter middle) (hmore : Progresses middle after) : Progresses adapter after where
  voices := fun hobedient => (h.voices hobedient).trans (hmore.voices (h.obedient hobedient))
  obedient := fun hobedient => hmore.obedient (h.obedient hobedient)
  silenced := fun hsilenced => hmore.silenced (h.silenced hsilenced)
  planned := hmore.planned.trans h.planned
  state := hmore.state.trans h.state
  events := by
    obtain ⟨events, hevents, htriggers, hplanned⟩ := h.events
    obtain ⟨more, hmoreEvents, hmoreTriggers, hmorePlanned⟩ := hmore.events
    refine ⟨events ++ more, by rw [hmoreEvents, hevents, List.append_assoc], fun event hevent htrigger hsome => ?_,
      fun workloadPid hactivated => ?_⟩
    · rcases List.mem_append.mp hevent with hbefore | hlast
      · exact hmore.silenced (htriggers event hbefore htrigger (hmore.planned ▸ hsome))
      · exact hmoreTriggers event hlast htrigger hsome
    · rcases List.mem_append.mp hactivated with hbefore | hlast
      · exact hplanned workloadPid hbefore
      · exact hmorePlanned workloadPid hlast
  sends := fun hsends => hmore.sends (h.sends hsends)

/-- Events are only added with their backing. -/
theorem Backed.progress (h : Backed adapter) (hprogress : Progresses adapter after) : Backed after := by
  obtain ⟨events, hevents, htriggers, hplanned⟩ := hprogress.events
  refine ⟨fun event hevent htrigger hsome => ?_, fun workloadPid hactivated => ?_⟩
  · rw [hevents, List.mem_append] at hevent
    rcases hevent with hbefore | hadded
    · exact hprogress.silenced (h.triggers event hbefore htrigger (hprogress.planned ▸ hsome))
    · exact htriggers event hadded htrigger hsome
  · rw [hevents, List.mem_append] at hactivated
    rw [hprogress.planned]
    exact h.planned workloadPid (hactivated.resolve_right (hplanned workloadPid))

/-- An event that is held back, where only what is held back changes. -/
theorem progresses_push (adapter : SessionAdapter) {event : LifecycleEvent} (hactivated : ∀ value, event ≠ .activated value)
    (htrigger : event.isTrigger = true → adapter.controlPlane.isSome = true → adapter.Silenced) :
    Progresses adapter (adapter.push event) where
  voices := fun _ => voices_of_same rfl rfl
  obedient := fun h => ⟨h.silenced, h.ordered⟩
  silenced := id
  planned := rfl
  state := rfl
  events := by
    refine ⟨[event], rfl, fun other hother => ?_, fun workloadPid hother => ?_⟩
    · rw [List.mem_singleton.mp hother]
      exact htrigger
    · exact hactivated workloadPid (List.mem_singleton.mp hother).symm
  sends := id

omit [DecimalText] in
theorem Silenced.followed (h : adapter.Silenced) (hplane : adapter.controlPlane = some plane)
    (hfollowed : plane.Followed event next) (hnext : after.controlPlane = some next) : after.Silenced := by
  obtain ⟨current, hcurrent, hmark⟩ := h
  obtain rfl := Option.some.inj (hcurrent.symm.trans hplane)
  exact ⟨next, hnext, hmark.imp hfollowed.stillStopping hfollowed.stillFailed⟩

/-- A control plane that dispatches has sent no stop. -/
theorem Obedient.quiet (h : Obedient adapter) (hplane : adapter.controlPlane = some plane)
    (hhandled : Handled adapter plane event after next)
    (hgoing : next.stopping = false ∧ next.profileStateFailed = false) : adapter.stopSent = false := by
  rw [Bool.eq_false_iff]
  intro hsent
  obtain ⟨current, hcurrent, hmark⟩ := (h.silenced hsent).followed hplane hhandled.toFollowed hhandled.controlPlane
  obtain rfl := Option.some.inj (hcurrent.symm.trans hhandled.controlPlane)
  rcases hmark with hstopping | hfailed
  · rw [hgoing.1] at hstopping
    cases hstopping
  · rw [hgoing.2] at hfailed
    cases hfailed

omit [DecimalText] in
theorem Obedient.of_same (h : Obedient adapter) (hsilenced : adapter.Silenced → after.Silenced)
    (hcommands : after.commands = adapter.commands) : Obedient after := by
  refine ⟨fun hsent => hsilenced (h.silenced ?_), hcommands.symm ▸ h.ordered⟩
  rwa [stopSent, hcommands] at hsent

omit [DecimalText] in
theorem Obedient.of_change {change : ProfileChange} (h : Obedient adapter) (hquiet : adapter.stopSent = false)
    (hcommands : after.commands = adapter.commands ++ [.profileChange change]) : Obedient after := by
  have hstill : after.stopSent = false := by
    rw [stopSent, hcommands, List.any_append]
    exact (Bool.or_false _).trans hquiet
  refine ⟨fun hsent => ?_, ?_⟩
  · rw [hstill] at hsent
    cases hsent
  · rw [hcommands, List.pairwise_append]
    refine ⟨h.ordered, List.pairwise_singleton _ _, fun earlier hearlier later hlater hstop => ?_⟩
    have hsent : adapter.stopSent = true := List.any_eq_true.mpr ⟨earlier, hearlier, hstop⟩
    rw [hquiet] at hsent
    cases hsent

/-- An event of the control plane, with whatever it dispatches. -/
theorem progresses_handled (hplane : adapter.controlPlane = some plane) (hsends : adapter.sends.helper = [])
    (h : Handled adapter plane event after next) : Progresses adapter after where
  voices := fun hobedient => by
    cases h.dispatch with
    | nothing conversation commands inFlight => exact voices_of_same conversation commands
    | refused change free inFlight canonical going refuses conversation commands lost =>
        exact voices_of_same conversation commands
    | begun change frame free inFlight canonical going begins commands =>
        have hquiet := hobedient.quiet hplane h ⟨going.1, going.2.2⟩
        exact voices_of_begun hquiet canonical begins (commands.resolve_right fun hunsent => hunsent.2 hsends)
  obedient := fun hobedient => by
    have hsilenced : adapter.Silenced → after.Silenced := fun hbefore => hbefore.followed hplane h.toFollowed h.controlPlane
    cases h.dispatch with
    | nothing conversation commands inFlight => exact hobedient.of_same hsilenced commands
    | refused change free inFlight canonical going refuses conversation commands lost =>
        exact hobedient.of_same hsilenced commands
    | begun change frame free inFlight canonical going begins commands =>
        have hquiet := hobedient.quiet hplane h ⟨going.1, going.2.2⟩
        exact hobedient.of_change hquiet (commands.resolve_right fun hunsent => hunsent.2 hsends)
  silenced := fun hbefore => hbefore.followed hplane h.toFollowed h.controlPlane
  planned := by rw [h.controlPlane, hplane]; rfl
  state := by
    rcases h.dispatch.conversation_cases with hsame | ⟨hactive, hstill, -⟩
    · rw [hsame]
    · exact hstill.trans hactive.symm
  events := by
    obtain ⟨events, hevents, hbatch⟩ := h.events
    refine ⟨events, hevents, fun lifecycle hlifecycle htrigger _ => ?_, fun workloadPid hactivated => ?_⟩
    · rcases hbatch lifecycle hlifecycle with ⟨-, hstopping⟩ | ⟨-, hfailed⟩ | rfl
      · exact ⟨next, h.controlPlane, Or.inl hstopping⟩
      · exact ⟨next, h.controlPlane, Or.inr hfailed⟩
      · cases htrigger
    · rcases hbatch _ hactivated with ⟨hother, -⟩ | ⟨hother, -⟩ | hother <;> cases hother
  sends := h.helperSends

omit [DecimalText] in
theorem confirmedProfile_of_some (hplane : adapter.controlPlane = some plane) :
    adapter.confirmedProfile = plane.confirmedProfile := by
  rw [confirmedProfile, hplane]
  rfl

/-- Nothing changes but what no one is told of. -/
theorem progresses_of_same (hconversation : after.conversation = adapter.conversation)
    (hcommands : after.commands = adapter.commands) (hplane : after.controlPlane = adapter.controlPlane)
    (hpending : after.pendingEvents = adapter.pendingEvents) (hsends : after.sends.helper = adapter.sends.helper) :
    Progresses adapter after := by
  have hsilenced : adapter.Silenced → after.Silenced := by
    rintro ⟨plane, hsome, hmark⟩
    exact ⟨plane, hplane.trans hsome, hmark⟩
  exact {
    voices := fun _ => voices_of_same hconversation hcommands
    obedient := fun h => h.of_same hsilenced hcommands
    silenced := hsilenced
    planned := congrArg Option.isSome hplane
    state := congrArg SupervisorHelperConversation.state hconversation
    events := ⟨[], hpending.trans (List.append_nil _).symm, (fun _ hmem => by cases hmem), fun _ hmem => by cases hmem⟩
    sends := hsends.trans }

/-- An event that the control plane is told of, if there is one. -/
theorem progresses_handle (hcore : adapter.Core) (hsends : adapter.sends.helper = [])
    (hwrite : event ≠ .controllerWriteFailed) (hevent : ∀ plane : ControllerControlPlane,
      plane.attachedAfter event = plane.controllerAttached ∧ event ≠ .controllerAttached) :
    Progresses adapter (adapter.handleControlEvent event) ∧
      (adapter.handleControlEvent event).confirmedProfile = ((adapter.controlPlane.map (·.confirmedAfter event)).getD {}) ∧
      ((adapter.handleControlEvent event).controlPlane.isSome = true → ∃ next,
        (adapter.handleControlEvent event).controlPlane = some next ∧ next.Marked event) := by
  cases hplane : adapter.controlPlane with
  | none =>
      rw [handleControlEvent_none hplane, confirmedProfile, hplane]
      exact ⟨.refl adapter, rfl, fun hsome => by cases hsome⟩
  | some plane =>
      obtain ⟨next, hnext⟩ := (hcore.handle hwrite hevent).2 plane hplane
      refine ⟨progresses_handled hplane hsends hnext, ?_, fun _ => ⟨next, hnext.controlPlane, hnext.marked⟩⟩
      exact (confirmedProfile_of_some hnext.controlPlane).trans hnext.confirmed

/-- What a step of a turn does, apart from the read from the helper. -/
def Proceeds (adapter after : SessionAdapter) : Prop :=
  Progresses adapter after ∧ after.confirmedProfile = adapter.confirmedProfile

theorem Proceeds.trans (h : Proceeds adapter middle) (hmore : Proceeds middle after) : Proceeds adapter after :=
  ⟨h.1.trans hmore.1, hmore.2.trans h.2⟩

/-- Events that confirm nothing. -/
theorem proceeds_handle (hcore : adapter.Core) (hsends : adapter.sends.helper = [])
    (hwrite : event ≠ .controllerWriteFailed) (hevent : ∀ plane : ControllerControlPlane,
      plane.attachedAfter event = plane.controllerAttached ∧ event ≠ .controllerAttached)
    (hconfirmed : ∀ plane : ControllerControlPlane, plane.confirmedAfter event = plane.confirmedProfile) :
    Proceeds adapter (adapter.handleControlEvent event) := by
  obtain ⟨hprogress, hprofile, -⟩ := progresses_handle hcore hsends hwrite hevent
  refine ⟨hprogress, hprofile.trans ?_⟩
  exact congrArg (fun confirmed => (adapter.controlPlane.map confirmed).getD {}) (funext hconfirmed)

theorem proceeds_interrupt (hcore : adapter.Core) (hsends : adapter.sends.helper = []) :
    Proceeds adapter adapter.interrupt := by
  have hwrite : ControlPlaneEvent.sessionStopping ≠ .controllerWriteFailed := by decide
  have hevent : ∀ plane : ControllerControlPlane, plane.attachedAfter .sessionStopping = plane.controllerAttached ∧
      ControlPlaneEvent.sessionStopping ≠ .controllerAttached := fun plane => ⟨rfl, by decide⟩
  have hhandle := proceeds_handle hcore hsends hwrite hevent fun _ => rfl
  obtain ⟨-, -, hmarked⟩ := progresses_handle hcore hsends hwrite hevent
  refine ⟨hhandle.1.trans (progresses_push _ (fun value hvalue => by cases hvalue) fun _ hsome => ?_), hhandle.2⟩
  obtain ⟨next, hnext, hstopping⟩ := hmarked hsome
  exact ⟨next, hnext, Or.inl hstopping⟩

theorem proceeds_accept (hinv : adapter.Inv) (hsends : adapter.sends.helper = []) (hactivated : adapter.activated = true)
    (accepts : Bool) : Proceeds adapter (adapter.acceptController accepts) := by
  unfold acceptController
  split
  · exact ⟨progresses_push _ (fun value hvalue => by cases hvalue) (fun htrigger => by cases htrigger), rfl⟩
  · split
    · exact ⟨progresses_of_same rfl rfl rfl rfl rfl, rfl⟩
    · rename_i hclient
      rw [Option.not_isSome_iff_eq_none] at hclient
      have hconnect : Proceeds adapter adapter.connect := ⟨progresses_of_same rfl rfl rfl rfl rfl, rfl⟩
      refine hconnect.trans ?_
      cases hplane : adapter.controlPlane with
      | none =>
          rw [(hinv.noPlane hplane).2] at hactivated
          cases hactivated
      | some plane =>
          have hsome : adapter.connect.controlPlane = some plane := hplane
          obtain ⟨hplaneInv, hattached⟩ := hinv.plane plane hplane
          rw [hclient] at hattached
          have hwrite : ControlPlaneEvent.controllerAttached ≠ .controllerWriteFailed := by decide
          obtain ⟨next, hnext⟩ := handled hsome hplaneInv hwrite (fun _ => hattached) rfl
          refine ⟨progresses_handled hsome hsends hnext, ?_⟩
          rw [confirmedProfile_of_some hnext.controlPlane, confirmedProfile_of_some hsome]
          exact hnext.confirmed

theorem handle_controllerDisconnected (plane : ControllerControlPlane) :
    (plane.handle .controllerDisconnected).1.confirmedProfile = plane.confirmedProfile ∧
      (plane.handle .controllerDisconnected).1.stopping = plane.stopping ∧
      (plane.handle .controllerDisconnected).1.profileStateFailed = plane.profileStateFailed := ⟨rfl, rfl, rfl⟩

theorem proceeds_loseController (adapter : SessionAdapter) : Proceeds adapter adapter.loseController := by
  have hplane : adapter.loseController.controlPlane =
      adapter.controlPlane.map fun plane => (plane.handle .controllerDisconnected).1 := rfl
  have hsilenced : adapter.Silenced → adapter.loseController.Silenced := by
    rintro ⟨plane, hsome, hmark⟩
    refine ⟨(plane.handle .controllerDisconnected).1, by rw [hplane, hsome]; rfl, ?_⟩
    rw [(handle_controllerDisconnected plane).2.1, (handle_controllerDisconnected plane).2.2]
    exact hmark
  refine ⟨{
    voices := fun _ => voices_of_same rfl rfl
    obedient := fun h => h.of_same hsilenced rfl
    silenced := hsilenced
    planned := by rw [hplane, Option.isSome_map]
    state := rfl
    events := ?_
    sends := id }, ?_⟩
  · refine ⟨[.controllerLost], rfl, fun event hevent htrigger => ?_, fun workloadPid hactivated => ?_⟩
    · rw [List.mem_singleton.mp hevent] at htrigger
      cases htrigger
    · cases List.mem_singleton.mp hactivated
  · rw [confirmedProfile, confirmedProfile, hplane, Option.map_map]
    rfl

theorem proceeds_step (hinv : adapter.Inv) (hsends : adapter.sends.helper = []) (hstep : CycleStep adapter after) :
    Proceeds adapter after := by
  cases hstep with
  | lose => exact ⟨progresses_push _ (fun value hvalue => by cases hvalue) (fun htrigger => by cases htrigger), rfl⟩
  | sends results => exact ⟨progresses_of_same rfl rfl rfl rfl rfl, rfl⟩
  | interrupt => exact proceeds_interrupt hinv.toCore hsends
  | accept accepts activated => exact proceeds_accept hinv hsends activated accepts
  | receive bytes connected =>
      exact proceeds_handle hinv.toCore hsends (by simp) (fun plane => ⟨rfl, by simp⟩) fun _ => rfl
  | hangUp connected => exact proceeds_loseController adapter

theorem proceeds_steps (hinv : adapter.Inv) (hsends : adapter.sends.helper = [])
    (hsteps : ReflTransGen CycleStep adapter after) : Proceeds adapter after := by
  have hboth : Proceeds adapter after ∧ after.Inv := by
    induction hsteps with
    | refl => exact ⟨⟨.refl adapter, rfl⟩, hinv⟩
    | tail _ hstep ih => exact ⟨ih.1.trans (proceeds_step ih.2 (ih.1.1.sends hsends) hstep), ih.2.step hstep⟩
  exact hboth.1

/-! ### The read from the helper -/

theorem proceeds_late (hcore : adapter.Core) (hsends : adapter.sends.helper = []) (listens : Bool)
    {event : HelperConversationEvent} (hlate : event.isLate = true) :
    Proceeds adapter (adapter.deliverHelperEvent listens event) := by
  have hterminal : Proceeds adapter (adapter.handleControlEvent .workloadTerminal) :=
    proceeds_handle hcore hsends (by decide) (fun plane => ⟨rfl, by decide⟩) fun _ => rfl
  have hpush : ∀ (current : SessionAdapter) (lifecycle : LifecycleEvent), lifecycle.isTrigger = false →
      (∀ value, lifecycle ≠ .activated value) → Proceeds current (current.push lifecycle) := by
    refine fun current lifecycle htrigger hactivated => ⟨progresses_push current hactivated fun hother => ?_, rfl⟩
    rw [htrigger] at hother
    cases hother
  have hfinish : Proceeds (adapter.handleControlEvent .workloadTerminal)
      (adapter.handleControlEvent .workloadTerminal).finishWorkload := ⟨progresses_of_same rfl rfl rfl rfl rfl, rfl⟩
  have hfinished : ∀ lifecycle : LifecycleEvent, lifecycle.isTrigger = false → (∀ value, lifecycle ≠ .activated value) →
      Proceeds adapter ((adapter.handleControlEvent .workloadTerminal).finishWorkload.push lifecycle) :=
    fun lifecycle htrigger hactivated => (hterminal.trans hfinish).trans (hpush _ lifecycle htrigger hactivated)
  cases event with
  | workloadExited result => exact hfinished _ rfl fun value hvalue => by cases hvalue
  | workloadSignaled signal => exact hfinished _ rfl fun value hvalue => by cases hvalue
  | cleanupSucceeded => exact hpush _ _ rfl fun value hvalue => by cases hvalue
  | cleanupFailed => exact hpush _ _ rfl fun value hvalue => by cases hvalue
  | conversationLost => exact hpush _ _ rfl fun value hvalue => by cases hvalue
  | _ => cases hlate

theorem proceeds_lates (listens : Bool) (events : List HelperConversationEvent) :
    ∀ {adapter : SessionAdapter}, adapter.Core → adapter.sends.helper = [] → (∀ event ∈ events, event.isLate = true) →
      Proceeds adapter (events.foldl (deliverHelperEvent listens) adapter) := by
  induction events with
  | nil => exact fun _ _ _ => ⟨.refl _, rfl⟩
  | cons event events ih =>
      intro adapter hcore hsends hlate
      rw [List.forall_mem_cons] at hlate
      have hfirst := proceeds_late hcore hsends listens hlate.1
      exact hfirst.trans (ih (hcore.deliver_late listens hlate.1) (hfirst.1.sends hsends) hlate.2)

/-- The result of the pending change, with the change that is dispatched behind it. -/
theorem progresses_result (hcore : adapter.Core) (hsends : adapter.sends.helper = []) {change : ProfileChange}
    (hplane : adapter.controlPlane = some plane) (hinFlight : plane.inFlightChange = some change)
    (hcanonical : change.Canonical) (result : ProfileChangeResult) :
    Progresses adapter (adapter.handleControlEvent (.helperProfileChangeResult (controlPlaneResult result) change)) ∧
      (adapter.handleControlEvent (.helperProfileChangeResult (controlPlaneResult result) change)).confirmedProfile =
        (HelperConversationEvent.profileChangeResult result change).credit adapter.confirmedProfile := by
  obtain ⟨hprogress, hprofile, -⟩ := progresses_handle hcore hsends
    (show ControlPlaneEvent.helperProfileChangeResult (controlPlaneResult result) change ≠ .controllerWriteFailed by simp)
    (fun plane => ⟨rfl, by simp⟩)
  refine ⟨hprogress, ?_⟩
  rw [hprofile, hplane, confirmedProfile_of_some hplane]
  have hany : plane.inFlightChange.any (fun current => current.same change) = true := by
    rw [hinFlight]
    exact ProfileChange.same_self hcanonical.legal
  have happly := applyProfileChange_of_legal (hcore.plane plane hplane).1.valid hcanonical.legal
  cases result with
  | applied =>
      change plane.confirmedAfter (.helperProfileChangeResult .applied change) = _
      rw [confirmedAfter, if_pos hany, happly]
      rfl
  | restoredAfterFailure => rfl

end Progress

end SessionAdapter

end NetLagLab
