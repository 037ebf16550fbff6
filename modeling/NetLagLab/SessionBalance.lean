import NetLagLab.ProfileBalance

/-! A whole Session of the helper with the settings on both sides of the link. Away from the supervision nothing is
shaped and no change can be begun, so that the two sides stay as they are. -/

namespace NetLagLab.HelperSession

open ByteLines CallPrograms CallPrograms.Program NetworkEnvironment

section Balance

variable [DecimalText] {ledger after : Ledger} {state next : SupervisorState} {first : Option Bool} {text : Bytes}

/-! ### Away from the supervision -/

omit [DecimalText] in
/-- While nothing is pending, what is sent confirms nothing. -/
theorem settledProfile_sent (hnone : ledger.link.settled.pendingProfileChange = none)
    (hheard : (ledger.link.carrying text).settled.state ≠ .failed) :
    ({ ledger with link := ledger.link.carrying text } : Ledger).settledProfile = ledger.settledProfile := by
  have hevents : (ledger.link.supervisor.receiveBytes (ledger.link.toSupervisor ++ text)).2 =
      (ledger.link.supervisor.receiveBytes ledger.link.toSupervisor).2 ++ (ledger.link.settled.receiveBytes text).2 :=
    SupervisorHelperConversation.receiveBytes_append_events hheard
  calc credited ledger.confirmed (ledger.link.supervisor.receiveBytes (ledger.link.toSupervisor ++ text)).2
      = credited ledger.settledProfile (ledger.link.settled.receiveBytes text).2 := by
        rw [hevents, credited, List.foldl_append]
        rfl
    _ = ledger.settledProfile := (SupervisorHelperConversation.receiveBytes_quiet hnone text _).2

theorem Idling.sends (h : Idling ledger state) (hidle : Idle state) (hnext : Idle next)
    (htext : text.head? ≠ helperErrorPrefix.head?)
    (hlink : Safe linkEnvironment Heard (fun _ later => later.settled = { state := next }) (ask (.send text)) ledger.link) :
    Safe ledgerEnvironment Obeys (fun _ after => Idling after next) (ask (.send text)) ledger := by
  intro sent after hstep
  obtain ⟨-, hsettled⟩ := hlink sent after.link (refines_linkEnvironment _ _ _ _ trivial hstep).1
  obtain ⟨middle, link, hmoves, ⟨rfl, rfl⟩, rfl⟩ := exists_answer (fun _ => rfl) hstep
  have hmiddle := h.moves hidle hmoves
  have hafter : Idling { middle with link := middle.link.carrying text } next := by
    refine ⟨hsettled, ?_⟩
    have hgoing : (middle.link.carrying text).settled.state ≠ .failed := by
      change (middle.link.carrying text).settled = { state := next } at hsettled
      rw [hsettled]
      exact hnext.2
    rw [settledProfile_sent (by rw [hmiddle.settled]) hgoing]
    exact hmiddle.balanced.imp (List.mem_append_left _)
  exact ⟨obeys_of_send (Or.inl htext) (.idling hnext hafter), hafter⟩

/-- What the helper asks for before the launch and behind the end of the Workload, apart from its frames. -/
def Aside : HelperCall → Prop
  | .prepare => True
  | .launch _ _ _ _ => True
  | .cleanup _ => True
  | .retry _ => True
  | .report _ => True
  | _ => False

omit [DecimalText] in
theorem Aside.silent {request : HelperCall} (h : Aside request) : Silent request := by
  cases request <;> trivial

omit [DecimalText] in
/-- Nothing is sent. -/
theorem Aside.unsent {request : HelperCall} (h : Aside request) {answer : HelperAnswer request} {link later : Link}
    (hanswer : link.Answers request answer later) :
    later.toSupervisor = link.toSupervisor ∧ later.sent = link.sent := by
  cases request with
  | prepare => cases answer <;> obtain rfl := hanswer <;> exact ⟨rfl, rfl⟩
  | launch context identity standardDescriptors environment =>
      obtain ⟨-, rfl⟩ := hanswer
      exact ⟨rfl, rfl⟩
  | cleanup environment =>
      obtain rfl := hanswer
      exact ⟨rfl, rfl⟩
  | retry residual =>
      obtain rfl := hanswer
      exact ⟨rfl, rfl⟩
  | report text =>
      obtain rfl := hanswer
      exact ⟨rfl, rfl⟩
  | _ => exact h.elim

theorem Idling.aside {request : HelperCall} {answer : HelperAnswer request} (h : Idling ledger state) (hidle : Idle state)
    (hrequest : Aside request) (hstep : ledgerEnvironment ledger request answer after) :
    Obeys ⟨ledger, request, answer, after⟩ ∧ Idling after state := by
  have hplain : ∀ before : Ledger, before.recorded request answer = before.inForce := by
    intro before
    cases request <;> first | rfl | exact hrequest.elim
  obtain ⟨middle, link, hmoves, hanswer, rfl⟩ := exists_answer hplain hstep
  have hmiddle := h.moves hidle hmoves
  have hsame : link.supervisor.receiveBytes link.toSupervisor =
      middle.link.supervisor.receiveBytes middle.link.toSupervisor := by
    rw [supervisor_of_answers hanswer, (hrequest.unsent hanswer).1]
  have hafter : Idling { middle with link := link } state := by
    refine ⟨(congrArg Prod.fst hsame).trans hmiddle.settled, ?_⟩
    have hprofile : ({ middle with link := link } : Ledger).settledProfile = middle.settledProfile :=
      congrArg (credited middle.confirmed) (congrArg Prod.snd hsame)
    rw [hprofile, Ledger.Told, (hrequest.unsent hanswer).2]
    exact hmiddle.balanced
  exact ⟨obeys_of_silent hrequest.silent (.idling hidle hafter), hafter⟩

theorem Idling.confined {α : Type} {program : HelperProgram α} {post : α → Prop} (h : Idling ledger state)
    (hidle : Idle state) (hprogram : Confined Aside post program) :
    Safe ledgerEnvironment Obeys (fun _ after => Idling after state) program ledger :=
  (hprogram.safe (fun _ _ _ _ hrequest (hbefore : Idling _ state) => hbefore.aside hidle hrequest) h).imp
    fun _ _ hafter => hafter.2

/-- What is safe on the link is so on the ledger. -/
theorem safe_ledger {α : Type} {program : HelperProgram α} {post : α → Link → Prop} {post' : α → Ledger → Prop}
    (hlink : Safe linkEnvironment Heard post program ledger.link)
    (h : Safe ledgerEnvironment Obeys post' program ledger) :
    Safe ledgerEnvironment Obeys (fun result after => post result after.link ∧ post' result after) program ledger :=
  ((refines_linkEnvironment.safe hlink trivial).and h).mono (fun _ _ _ _ hstep => hstep) (fun _ _ hboth => hboth.2)
    fun _ _ hboth => ⟨hboth.1.1, hboth.2⟩

omit [DecimalText] in
theorem confined_aside {α : Type} {program : HelperProgram α} {post : α → Prop} (h : Confined AfterPass post program) :
    Confined Aside (fun _ => True) program := by
  refine h.mono ?_ fun _ _ => trivial
  intro request hrequest
  cases request <;> trivial

omit [DecimalText] in
theorem confined_cleanupPrepared (environment : OwnerState) :
    Confined Aside (fun _ => True) (cleanupPrepared environment) := by
  refine ⟨trivial, fun (result : CleanupResult) => ?_⟩
  have hsucceeded : result.residual = none →
      (result.failures.isEmpty && result.residual.isNone) = result.failures.isEmpty := by
    intro hnone
    rw [hnone]
    exact Bool.and_true _
  exact confined_aside (confined_afterPass _ _ _ result.failures result.residual hsucceeded)

/-! ### The parts of the Session -/

theorem safe_report {clean : Bool} (h : Stands ledger.link .waitingForCleanup (some clean))
    (hidling : Idling ledger .waitingForCleanup) :
    Safe ledgerEnvironment Obeys (fun _ _ => True) (reportCleanup clean) ledger := by
  have hlink : Safe linkEnvironment Heard (fun _ later => later.settled = { state := .finished }) (reportCleanup clean)
      ledger.link := (safe_reportCleanup h).imp fun _ _ hended => hended.2.settled
  have htext : (helperConversationEventMessage (if clean then .cleanupSucceeded else .cleanupFailed)).head? ≠
      helperErrorPrefix.head? := by
    cases clean <;> decide
  exact (hidling.sends ⟨by decide, by decide⟩ ⟨by decide, by decide⟩ htext hlink).imp fun _ _ _ => trivial

/-- The cleanup and its report, whatever is made of them. -/
theorem safe_cleaned {β : Type} (h : Stands ledger.link .waitingForCleanup none)
    (hidling : Idling ledger .waitingForCleanup) (environment : OwnerState) (next : Bool → Bool → β) :
    Safe ledgerEnvironment Obeys (fun _ _ => True)
      (cleanupPrepared environment >>= fun clean => reportCleanup clean >>= fun reported => .done (next clean reported))
      ledger := by
  have hidle : Idle .waitingForCleanup := ⟨by decide, by decide⟩
  have hcleanup := safe_ledger (safe_cleanupPrepared h hidle environment)
    (hidling.confined hidle (confined_cleanupPrepared environment))
  refine safe_bind (hcleanup.imp ?_)
  rintro clean middle ⟨hstands, hmiddle⟩
  exact safe_bind ((safe_report hstands hmiddle).imp fun _ _ _ => trivial)

/-- The frame of a preparation or a launch that failed. -/
theorem safe_startFailed (h : Stands ledger.link .waitingForActivation first)
    (hidling : Idling ledger .waitingForActivation) {result : Int} (hleast : 125 ≤ result) (hmost : result ≤ 127) :
    Safe ledgerEnvironment Obeys
      (fun _ after => Stands after.link .waitingForCleanup first ∧ Idling after .waitingForCleanup)
      (sendEvent (.activationFailed result)) ledger := by
  have hlink := safe_activationFailed h hleast hmost
  have hsends := hidling.sends ⟨by decide, by decide⟩ ⟨by decide, by decide⟩ (fun hhead => by cases hhead)
    (hlink.imp fun _ _ hafter => hafter.2.settled)
  exact (safe_ledger hlink hsends).imp fun _ _ hafter => ⟨hafter.1.2, hafter.2⟩

/-- Before the launch nothing is in force and nothing is confirmed. -/
structure Beginning (ledger : Ledger) : Prop where
  starting : Starting ledger.link
  profile : ledger.settledProfile = {}
  balanced : ledger.Balanced {} ledger.Told

theorem Beginning.idling (h : Beginning ledger) : Idling ledger .waitingForActivation :=
  ⟨h.starting.stands.settled, h.profile.symm ▸ h.balanced⟩

theorem Beginning.moves (h : Beginning ledger) (hmoves : LedgerMoves ledger after) : Beginning after := by
  induction hmoves with
  | refl => exact h
  | @tail middle after _ hmove ih =>
      have hgoing : middle.link.settled.state ≠ .failed := by
        rw [ih.idling.settled]
        decide
      exact ⟨ih.starting.move hmove.link, (settledProfile_move hgoing hmove).trans ih.profile,
        (ih.balanced.move hmove).imp fun htold => htold.move hmove⟩

/-- The Workload was launched. -/
theorem Beginning.activated (h : Beginning ledger) {pid : Int} (hleast : 1 ≤ pid) (hmost : pid ≤ 2 ^ 22) :
    Safe ledgerEnvironment Obeys (fun sent after => sent = true ∧ Kept after {} [] {} 0) (sendEvent (.activated pid))
      ledger := by
  intro sent after hstep
  obtain ⟨-, hsent, hsupervising⟩ := safe_activated h.starting hleast hmost sent after.link
    (refines_linkEnvironment _ _ _ _ trivial hstep).1
  obtain ⟨middle, link, hmoves, ⟨rfl, rfl⟩, rfl⟩ := exists_answer (fun _ => rfl) hstep
  have hmiddle := h.moves hmoves
  have hgoing := hsupervising.agrees.settled_going
  have hnone : middle.link.settled.pendingProfileChange = none := by rw [hmiddle.idling.settled]
  have hkept : Kept { middle with link := middle.link.carrying (helperConversationEventMessage (.activated pid)) }
      {} [] {} 0 := by
    refine ⟨hsupervising, NetworkProfile.regular_default,
      hmiddle.balanced.imp (List.mem_append_left _),
      (settledProfile_sent hnone hgoing).trans hmiddle.profile, fun change hpending => ?_⟩
    have hquiet := (SupervisorHelperConversation.receiveBytes_quiet hnone
      (helperConversationEventMessage (.activated pid)) {}).1
    have hsettled : (middle.link.carrying (helperConversationEventMessage (.activated pid))).settled =
        (middle.link.settled.receiveBytes (helperConversationEventMessage (.activated pid))).1 :=
      SupervisorHelperConversation.receiveBytes_append _ _
    rw [hsettled, hquiet] at hpending
    cases hpending
  exact ⟨obeys_of_send (Or.inl fun hhead => by cases hhead) (.kept hkept), hsent, hkept⟩

/-! ### The whole Session -/

/-- The preparation failed. -/
theorem obeys_preparationFailed (failure : PreparationFailure)
    (h : Stands ledger.link .waitingForActivation (some (cleanPass failure.rollbackFailures failure.residual)))
    (hidling : Idling ledger .waitingForActivation) :
    Safe ledgerEnvironment Obeys (fun _ _ => True) (do
      let cleanupSucceeded ← cleanupFailedPreparation failure
      let failureReported ← sendEvent (.activationFailed 125)
      let cleanupReported ← reportCleanup cleanupSucceeded
      return some (if failureReported && cleanupReported && cleanupSucceeded then (0 : Int) else 125)) ledger := by
  have hidle : Idle .waitingForActivation := ⟨by decide, by decide⟩
  have hconfined := confined_cleanupFailedPreparation failure
  have hcleanup := safe_ledger (h.confined hidle (Option.some_ne_none _) hconfined)
    (hidling.confined hidle (confined_aside hconfined))
  refine safe_bind (hcleanup.imp ?_)
  rintro clean middle ⟨⟨rfl, hstands⟩, hmiddle⟩
  refine safe_bind ((safe_startFailed hstands hmiddle (by decide) (by decide)).imp ?_)
  rintro reported later ⟨hstands, hlater⟩
  exact safe_bind ((safe_report hstands hlater).imp fun _ _ _ => trivial)

/-- The launch failed. -/
theorem obeys_launchFailed (environment : OwnerState) {result : Int} (hleast : 125 ≤ result) (hmost : result ≤ 127)
    (h : Stands ledger.link .waitingForActivation none) (hidling : Idling ledger .waitingForActivation) :
    Safe ledgerEnvironment Obeys (fun _ _ => True) (do
      let failureReported ← sendEvent (.activationFailed result)
      let cleanupSucceeded ← cleanupPrepared environment
      let cleanupReported ← reportCleanup cleanupSucceeded
      return some (if failureReported && cleanupReported && cleanupSucceeded then (0 : Int) else 125)) ledger := by
  refine safe_bind ((safe_startFailed h hidling hleast hmost).imp ?_)
  rintro reported middle ⟨hstands, hmiddle⟩
  exact safe_cleaned hstands hmiddle environment _

/-- The Workload was launched. -/
theorem obeys_launched (turns : Nat) (environment : OwnerState) (h : Kept ledger {} [] {} 0) :
    Safe ledgerEnvironment Obeys (fun _ _ => True) (do
      match ← superviseWorkload turns with
      | none => return none
      | some status => finishSession environment status) ledger := by
  have hsupervised := safe_ledger (safe_superviseWorkload turns h.supervising) (h.superviseWorkload turns)
  refine safe_bind (hsupervised.imp ?_)
  rintro (_ | status) middle ⟨hlink, hmiddle⟩
  · trivial
  · obtain ⟨hnone, -⟩ | ⟨-, hstands⟩ := hlink
    · cases hnone
    · exact safe_cleaned hstands (hmiddle status rfl) environment _

theorem obeys_runHelperSession (turns : Nat) (context : WorkloadContext) (identity : WorkloadIdentity)
    (standardDescriptors : List Int) (h : Beginning ledger) :
    Safe ledgerEnvironment Obeys (fun _ _ => True) (runHelperSession turns context identity standardDescriptors)
      ledger := by
  have hidle : Idle .waitingForActivation := ⟨by decide, by decide⟩
  have hprepare : Aside .prepare := trivial
  intro prepared after hstep
  obtain ⟨hobeys, hidling⟩ := h.idling.aside hidle hprepare hstep
  obtain ⟨middle, link, hmoves, hanswer, rfl⟩ := exists_answer (fun _ => rfl) hstep
  have hmiddle := h.moves hmoves
  refine ⟨hobeys, ?_⟩
  cases prepared with
  | failed failure =>
      obtain rfl := hanswer
      exact obeys_preparationFailed failure (hmiddle.starting.stands.passed _ _) hidling
  | prepared environment =>
      obtain rfl := hanswer
      have hlaunch : Aside (.launch context identity standardDescriptors environment) := trivial
      intro launch after hstep
      obtain ⟨hobeys, hidling⟩ := hmiddle.idling.aside hidle hlaunch hstep
      obtain ⟨between, link, hmoves, ⟨hpossible, rfl⟩, rfl⟩ := exists_answer (fun _ => rfl) hstep
      have hlaunched := hmiddle.moves hmoves
      refine ⟨hobeys, ?_⟩
      obtain ⟨process, failureExitCode, failure⟩ := launch
      cases process with
      | none =>
          change Safe _ _ _ (if failure ≠ [] then _ else _) _
          split
          · have hreport : Aside (.report (ascii "NetLagLab helper: " ++ failure ++ [newline])) := trivial
            intro reported after hstep
            obtain ⟨hobeys, hidling⟩ := hlaunched.idling.aside hidle hreport hstep
            obtain ⟨last, link, hmoves, rfl, rfl⟩ := exists_answer (fun _ => rfl) hstep
            have hlast := (hlaunched.moves hmoves).starting.stands
            exact ⟨hobeys, obeys_launchFailed environment hpossible.1 hpossible.2 hlast hidling⟩
          · exact obeys_launchFailed environment hpossible.1 hpossible.2 hlaunched.starting.stands hidling
      | some pid =>
          refine safe_bind ((hlaunched.activated hpossible.1 hpossible.2).imp ?_)
          rintro sent last ⟨rfl, hlast⟩
          exact obeys_launched turns environment hlast

/-- The conversation of the Supervisor asks for changes only while the Workload runs. -/
def Ledger.Asks (ledger : Ledger) : Prop := ledger.link.supervisor.Asking

theorem Ledger.Asks.moves (h : ledger.Asks) (hmoves : LedgerMoves ledger after) : after.Asks := by
  induction hmoves with
  | refl => exact h
  | tail _ hmove ih => exact hmove.asking ih

theorem Ledger.Asks.step {request : HelperCall} {answer : HelperAnswer request} (h : ledger.Asks)
    (hstep : ledgerEnvironment ledger request answer after) : after.Asks := by
  obtain ⟨middle, hmoves, hanswer, -⟩ := hstep
  rw [Ledger.Asks, supervisor_of_answers hanswer]
  exact h.moves hmoves

section Paths

variable {turns : Nat} {context : WorkloadContext} {identity : WorkloadIdentity} {standardDescriptors : List Int}
  {trace : List (Step HelperCall HelperAnswer Ledger)} {last : HelperProgram (Option Int)} {start final later : Ledger}

/-- What holds at the end of a path and behind each of its calls. -/
theorem path_runHelperSession (hstart : Beginning start) (hasks : start.Asks)
    (h : Path ledgerEnvironment (runHelperSession turns context identity standardDescriptors) start trace last final) :
    (∀ step ∈ trace, Obeys step) ∧ Tallied final ∧ final.Asks := by
  have hsafe := (obeys_runHelperSession turns context identity standardDescriptors hstart).invariant
    (fun step hstep _ (hbefore : step.before.Asks) => hbefore.step hstep) hasks
  obtain ⟨hsteps, -⟩ := hsafe.path h
  have htallied : Tallied final := h.last_of_steps (.idling ⟨by decide, by decide⟩ hstart.idling)
    fun step hstep => (hsteps step hstep).1.tallied
  have hlast : final.Asks := h.last_of_steps hasks fun step hstep => (hsteps step hstep).2
  exact ⟨fun step hstep => (hsteps step hstep).1, htallied, hlast⟩

/-- The helper has just said that it is ready, and nothing is shaped. -/
def Ledger.ready : Ledger := { link := .ready }

omit [DecimalText] in
theorem asks_ready : Ledger.ready.Asks := fun hsome => by cases hsome

theorem beginning_ready : Beginning .ready where
  starting := starting_ready
  profile := (SupervisorHelperConversation.receiveBytes_quiet rfl _ _).2
  balanced := fun direction => Or.inl (by cases direction <;> rfl)

/-- Whatever the preparation, the launch, the Workload and the cleanup come to, and whatever the Supervisor does in
between, at every moment what is in force is what the Supervisor has confirmed or that with the one change that it waits
for, the conversation is not lost, the helper answers with no other error than that a state is unknown, and signals the
Workload only after it was told to stop it. -/
theorem runHelperSession_balanced
    (h : Path ledgerEnvironment (runHelperSession turns context identity standardDescriptors) .ready trace last final)
    (hmoves : LedgerMoves final later) :
    Differ later ∧ later.link.supervisor.state ≠ .failed ∧ ∀ step ∈ trace,
      (∀ safeMessage, step.request = .send (helperErrorMessage safeMessage) →
        safeMessage = ascii "PROFILE_STATE_UNKNOWN") ∧
      ∀ signal, step.request = .sendSignal signal → step.after.link.stopSent = true := by
  obtain ⟨hsteps, htallied, hasks⟩ := path_runHelperSession beginning_ready asks_ready h
  exact ⟨(htallied.moves hmoves).differ (hasks.moves hmoves), (htallied.moves hmoves).heard,
    fun step hstep => ⟨(hsteps step hstep).accepts, (hsteps step hstep).stopped⟩⟩

end Paths

end Balance

section Sample

attribute [local instance] bitPatternText

/-- The Workload has been launched. -/
def Ledger.launched : Ledger := { link := Link.ready.carrying (helperConversationEventMessage (.activated 7)) }

/-- The Supervisor has heard of it and begins a change. -/
def Ledger.asked : Ledger :=
  { link := { Ledger.launched.link with
      supervisor := { state := .active, pendingProfileChange := some (.setDelay .outbound 5) }
      toSupervisor := []
      toHelper := serializeProfileChange (.setDelay .outbound 5) } }

theorem path_launched : ∃ trace last,
    Path ledgerEnvironment (runHelperSession 2 {} ⟨0, 0, []⟩ []) .ready trace last .launched := by
  have hprepared : ledgerEnvironment .ready .prepare (.prepared {}) .ready := ⟨_, .refl, rfl, rfl, rfl⟩
  have hpossible : WorkloadLaunchResult.Possible { process := some 7 } := (by decide : (1 : Int) ≤ 7 ∧ (7 : Int) ≤ 2 ^ 22)
  have hlaunched : ledgerEnvironment .ready (.launch {} ⟨0, 0, []⟩ [] {}) { process := some 7 } .ready :=
    ⟨_, .refl, ⟨hpossible, rfl⟩, rfl, rfl⟩
  have hsent : ledgerEnvironment .ready (.send (helperConversationEventMessage (.activated 7))) true .launched :=
    ⟨_, .refl, ⟨rfl, rfl⟩, rfl, rfl⟩
  exact ⟨_, _, .step hprepared (.step hlaunched (.step hsent (.refl _ _)))⟩

theorem moves_asked : LedgerMoves .launched .asked := by
  have hheard : LedgerMove .launched { Ledger.launched with
      link := { Ledger.launched.link with supervisor := { state := .active }, toSupervisor := [] } } := by
    have hhears : LedgerMove .launched _ := .hears (List.append_nil _).symm
    have hread : Ledger.launched.link.supervisor.receiveBytes Ledger.launched.link.toSupervisor =
        ({ state := .active }, [.ready, .activated 7]) := by decide
    rw [hread] at hhears
    exact hhears
  have hcanonical : (ProfileChange.setDelay .outbound 5).Canonical :=
    (by decide : (ProfileChange.setDelay .outbound 5).Legal)
  exact (Relation.ReflTransGen.single hheard).tail (.changes rfl hcanonical rfl)

theorem runHelperSession_balanced_asked :
    Differ .asked ∧ Ledger.asked.link.supervisor.pendingProfileChange = some (.setDelay .outbound 5) := by
  obtain ⟨trace, last, hpath⟩ := path_launched
  obtain ⟨hdiffer, -⟩ := runHelperSession_balanced hpath moves_asked
  exact ⟨hdiffer, rfl⟩

end Sample

end NetLagLab.HelperSession
