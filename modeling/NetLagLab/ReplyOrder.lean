import NetLagLab.ReplyOwnership

/-! The answers of one connection, in the order of its commands. -/

namespace NetLagLab

open ByteLines ControllerControlPlane

/-- The answers among the texts of an event. -/
def repliesAmong (event : ControlPlaneEvent) (texts : List Bytes) : List (ControlPlaneEvent × Bytes) :=
  (texts.filter isCommandReply).map (event, ·)

/-- What answers a command: a Profile Change the result of the helper for it, or that the Session stops; any
command that has to wait, that the queue is full. -/
inductive ReplyTo [DecimalText] (workloadPid : Int) (childArguments : List Bytes) :
    ControllerCommand → ControlPlaneEvent × Bytes → Prop
  | help (event : ControlPlaneEvent) : ReplyTo workloadPid childArguments .help (event, helpResponse)
  | status (event : ControlPlaneEvent) (profile : NetworkProfile) (stopping shaping : Bool) :
      ReplyTo workloadPid childArguments .status
        (event, buildStatus workloadPid childArguments profile stopping shaping)
  | detach (event : ControlPlaneEvent) : ReplyTo workloadPid childArguments .detach (event, detachedText)
  | refused (event : ControlPlaneEvent) (change : ProfileChange) :
      ReplyTo workloadPid childArguments (.profileChange change) (event, sessionIsStoppingText)
  | overflow (event : ControlPlaneEvent) {command : ControllerCommand} (ordinary : command ≠ .stop) :
      ReplyTo workloadPid childArguments command (event, tooManyQueuedCommandsText)
  | landed (result : ControlPlaneProfileChangeResult) {change carried : ProfileChange}
      (same : change.same carried = true) :
      ReplyTo workloadPid childArguments (.profileChange change)
        (.helperProfileChangeResult result carried, resultText result)

theorem repliesAmong_append (event : ControlPlaneEvent) (texts more : List Bytes) :
    repliesAmong event (texts ++ more) = repliesAmong event texts ++ repliesAmong event more := by
  rw [repliesAmong, List.filter_append, List.map_append]
  rfl

theorem repliesAmong_cons {event : ControlPlaneEvent} {text : Bytes} (h : isCommandReply text = true)
    (texts : List Bytes) : repliesAmong event (text :: texts) = (event, text) :: repliesAmong event texts := by
  rw [repliesAmong, List.filter_cons_of_pos h]
  rfl

theorem repliesAmong_silent {event : ControlPlaneEvent} {text : Bytes} (h : isCommandReply text = false) :
    repliesAmong event [text] = [] := by
  rw [repliesAmong, List.filter_cons_of_neg (by rw [h]; decide)]
  rfl

namespace ControllerControlPlane

/-- The commands that wait for their answer: that of the change in flight, then those of the queue. -/
def waiting (plane : ControllerControlPlane) : List ControllerCommand :=
  (plane.inFlightProfileChange.toList.filter (·.replyGeneration.isSome)).map (.profileChange ·.change) ++
    plane.commandQueue.map (·.command)

/-- Between two lines commands wait only behind a change in flight, and none in a Session that stops. -/
structure Lined (plane : ControllerControlPlane) : Prop where
  stopped : plane.stopping = true → plane.waiting = []
  behind : plane.commandQueue ≠ [] → plane.inFlightProfileChange.isSome = true

section Waiting

variable {plane : ControllerControlPlane}

theorem waiting_of_withoutReply {inFlight : Option InFlightProfileChange} (hqueue : plane.commandQueue = [])
    (h : plane.inFlightProfileChange = inFlight.map .withoutReply) : plane.waiting = [] := by
  rw [waiting, hqueue, h]
  cases inFlight <;> rfl

theorem waiting_of_none (h : plane.inFlightProfileChange = none) :
    plane.waiting = plane.commandQueue.map (·.command) := by
  rw [waiting, h]
  rfl

theorem Lined.waiting_of_free (h : Lined plane) (hfree : ¬ plane.Waiting) : plane.waiting = [] := by
  by_cases hstopping : plane.stopping = true
  · exact h.stopped hstopping
  · have hnone : plane.inFlightProfileChange = none := by
      by_contra hsome
      exact hfree ⟨Option.ne_none_iff_isSome.mp hsome, Bool.eq_false_iff.mpr hstopping⟩
    have hqueue : plane.commandQueue = [] := by
      by_contra hne
      have hsome := h.behind hne
      rw [hnone] at hsome
      exact nomatch hsome
    rw [waiting_of_none hnone, hqueue]
    rfl

theorem waiting_dequeue {queued : QueuedCommand} {rest : List QueuedCommand}
    (hqueue : plane.commandQueue = queued :: rest) : (plane.dequeue rest).waiting.Sublist plane.waiting := by
  rw [waiting, waiting, hqueue, List.map_cons]
  exact List.Sublist.append_left (List.sublist_cons_self _ _) _

theorem waiting_of_head {queued : QueuedCommand} {rest : List QueuedCommand}
    (hnone : plane.inFlightProfileChange = none) (hqueue : plane.commandQueue = queued :: rest) :
    plane.waiting = queued.command :: (plane.dequeue rest).waiting := by
  have hdequeued : (plane.dequeue rest).inFlightProfileChange = none := hnone
  rw [waiting_of_none hnone, waiting_of_none hdequeued, hqueue]
  rfl

end Waiting

section Commands

variable [DecimalText] {workloadPid : Int} {childArguments : List Bytes} {event : ControlPlaneEvent}
  {plane next : ControllerControlPlane} {batch after : ActionBatch} {command : ControllerCommand}

/-- What a command adds to the batch, the commands that are answered with it, and what waits then. -/
def Answers (workloadPid : Int) (childArguments : List Bytes) (event : ControlPlaneEvent) (batch after : ActionBatch)
    (given : List ControllerCommand) : Prop :=
  ∃ said, after.texts = batch.texts ++ said ∧
    List.Forall₂ (ReplyTo workloadPid childArguments) given (repliesAmong event said)

theorem answers_say {text : Bytes} (h : isCommandReply text = true)
    (hreply : ReplyTo workloadPid childArguments command (event, text)) :
    Answers workloadPid childArguments event batch (batch.say text) [command] := by
  refine ⟨[text], rfl, ?_⟩
  rw [repliesAmong_cons h]
  exact .cons hreply .nil

theorem answers_silent {text : Bytes} (h : isCommandReply text = false) (htexts : after.texts = batch.texts ++ [text]) :
    Answers workloadPid childArguments event batch after [] := by
  refine ⟨[text], htexts, ?_⟩
  rw [repliesAmong_silent h]
  exact .nil

theorem answers_nothing (htexts : after.texts = batch.texts) :
    Answers workloadPid childArguments event batch after [] :=
  ⟨[], by rw [htexts, List.append_nil], .nil⟩

theorem Answers.trans {last : ActionBatch} {given more : List ControllerCommand}
    (h : Answers workloadPid childArguments event batch after given)
    (hmore : Answers workloadPid childArguments event after last more) :
    Answers workloadPid childArguments event batch last (given ++ more) := by
  obtain ⟨said, htexts, hgiven⟩ := h
  obtain ⟨later, hlast, hlater⟩ := hmore
  refine ⟨said ++ later, by rw [hlast, htexts, List.append_assoc], ?_⟩
  rw [repliesAmong_append]
  exact List.rel_append hgiven hlater

/-- A command is answered at once, or waits behind the others, or everything that waited is dropped. -/
theorem CommandStep.answers (h : CommandStep plane batch command next after)
    (hworkload : plane.workloadPid = workloadPid ∧ plane.childArguments = childArguments) :
    ∃ given, Answers workloadPid childArguments event batch after given ∧
      (given.Sublist [command] ∧ next.waiting = [] ∨
        ¬ plane.Waiting ∧ (given ++ next.waiting).Sublist (command :: plane.waiting) ∨
        plane.Waiting ∧ given = [] ∧ next.waiting = plane.waiting ++ [command]) := by
  cases h with
  | stop =>
      exact ⟨[], answers_silent (by decide +kernel) rfl, .inl ⟨List.nil_sublist _, waiting_of_withoutReply rfl rfl⟩⟩
  | refused change stopping =>
      refine ⟨[.profileChange change], answers_say (by decide +kernel) (.refused event change), .inr (.inl ⟨?_, ?_⟩)⟩
      · exact fun hwaiting => absurd (hwaiting.2.symm.trans stopping) (by decide)
      · exact List.Sublist.refl _
  | overflow ordinary =>
      exact ⟨[command], answers_say (by decide +kernel) (.overflow event ordinary),
        .inl ⟨List.Sublist.refl _, waiting_of_withoutReply rfl rfl⟩⟩
  | queued ordinary waiting room =>
      refine ⟨[], answers_nothing rfl, .inr (.inr ⟨waiting, rfl, ?_⟩)⟩
      rw [ControllerControlPlane.waiting, enqueue, List.map_append, ← List.append_assoc]
      rfl
  | help free => exact ⟨[.help], answers_say (by decide +kernel) (.help event), .inr (.inl ⟨free, List.Sublist.refl _⟩)⟩
  | status free =>
      refine ⟨[.status], answers_say (isCommandReply_status _ _ _ _ _) ?_, .inr (.inl ⟨free, List.Sublist.refl _⟩)⟩
      rw [statusText, hworkload.1, hworkload.2]
      exact .status event _ _ _
  | dispatched change free going =>
      refine ⟨[], answers_nothing rfl, .inr (.inl ⟨?_, ?_⟩)⟩
      · intro hwaiting
        rw [Waiting, free] at hwaiting
        cases hwaiting.1
      · rw [waiting_of_none free]
        exact List.Sublist.refl _
  | detached free =>
      refine ⟨[.detach], answers_say (by decide +kernel) (.detach event), .inr (.inl ⟨free, ?_⟩)⟩
      have hnone : plane.disconnectController.waiting = [] := waiting_of_withoutReply rfl rfl
      rw [hnone]
      exact List.cons_sublist_cons.mpr (List.nil_sublist _)

omit [DecimalText] in
theorem lined_of_dropped (hqueue : plane.commandQueue = []) (hwaiting : plane.waiting = []) : plane.Lined where
  stopped := fun _ => hwaiting
  behind := fun hne => absurd hqueue hne

theorem CommandStep.lined (h : CommandStep plane batch command next after) (hlined : plane.Lined) : next.Lined := by
  cases h with
  | stop => exact lined_of_dropped rfl (waiting_of_withoutReply rfl rfl)
  | overflow => exact lined_of_dropped rfl (waiting_of_withoutReply rfl rfl)
  | detached => exact lined_of_dropped rfl (waiting_of_withoutReply rfl rfl)
  | queued ordinary waiting room => exact {
      stopped := fun hstopping => absurd (waiting.2.symm.trans hstopping) (by decide)
      behind := fun _ => waiting.1 }
  | dispatched change free going => exact {
      stopped := fun hstopping => absurd (going.symm.trans hstopping) (by decide)
      behind := fun _ => rfl }
  | _ => exact hlined

end Commands

section Services

variable [DecimalText] {workloadPid : Int} {childArguments : List Bytes} {event : ControlPlaneEvent}
  {start plane : ControllerControlPlane} {first batch : ActionBatch} {received : List ControllerCommand}

/-- The lines of a read: their commands are answered, or wait behind those that waited before. -/
theorem Services.answers_lines (h : Services false start first received plane batch) (hstop : first.stop = false)
    (hworkload : start.workloadPid = workloadPid ∧ start.childArguments = childArguments) (hlined : start.Lined) :
    plane.Lined ∧ ∃ given, Answers workloadPid childArguments event first batch given ∧
      (given ++ plane.waiting).Sublist (start.waiting ++ received) := by
  induction h with
  | refl => exact ⟨hlined, [], answers_nothing rfl, by simp⟩
  | @tail received commands plane next batch after services step ih =>
      obtain ⟨hplane, given, hgiven, hsublist⟩ := ih
      have hserved := services.served hstop
      have hthen : given.Sublist (start.waiting ++ received) := (List.sublist_append_left _ _).trans hsublist
      cases step with
      | @command line command next after attached parsed step =>
          refine ⟨step.lined hplane, ?_⟩
          obtain ⟨more, hmore, hcases⟩ := step.answers
            ⟨hserved.workloadPid.trans hworkload.1, hserved.childArguments.trans hworkload.2⟩
          refine ⟨given ++ more, hgiven.trans hmore, ?_⟩
          rw [← List.append_assoc]
          rcases hcases with ⟨honly, hnone⟩ | ⟨hfree, hmore⟩ | ⟨-, rfl, hwaiting⟩
          · rw [hnone, List.append_nil]
            exact hthen.append honly
          · rw [hplane.waiting_of_free hfree] at hmore
            rw [List.append_assoc]
            exact hthen.append hmore
          · rw [hwaiting, List.append_nil, ← List.append_assoc]
            exact hsublist.append_right _
      | error error =>
          refine ⟨hplane, given ++ [], hgiven.trans (answers_silent (isCommandReply_error error) rfl), ?_⟩
          rwa [List.append_nil, List.append_nil]
      | tooLong =>
          have hnone : plane.disconnectController.waiting = [] := waiting_of_withoutReply rfl rfl
          refine ⟨lined_of_dropped rfl hnone, given ++ [],
            hgiven.trans (answers_silent (isCommandReply_error _) rfl), ?_⟩
          rw [hnone, List.append_nil, List.append_nil, List.append_nil]
          exact hthen

/-- The queue: its commands are answered in turn, as long as none has to wait. -/
theorem Services.answers_queue (h : Services true start first received plane batch) (hstop : first.stop = false)
    (hworkload : start.workloadPid = workloadPid ∧ start.childArguments = childArguments) :
    received = [] ∧ ∃ given, Answers workloadPid childArguments event first batch given ∧
      (given ++ plane.waiting).Sublist start.waiting := by
  induction h with
  | refl => exact ⟨rfl, [], answers_nothing rfl, by simp⟩
  | @tail received commands plane next batch after services step ih =>
      obtain ⟨rfl, given, hgiven, hsublist⟩ := ih
      have hserved := services.served hstop
      cases step with
      | stale attached queue old =>
          exact ⟨rfl, given, hgiven, ((waiting_dequeue queue).append_left given).trans hsublist⟩
      | @queued queued rest next after attached free queue step =>
          obtain ⟨more, hmore, hcases⟩ := step.answers
            ⟨hserved.workloadPid.trans hworkload.1, hserved.childArguments.trans hworkload.2⟩
          refine ⟨rfl, given ++ more, hgiven.trans hmore, ?_⟩
          rw [waiting_of_head free queue] at hsublist
          rcases hcases with ⟨honly, hnone⟩ | ⟨-, hmore⟩ | ⟨hwaiting, -, -⟩
          · rw [hnone, List.append_nil]
            have hhead := honly.trans (List.cons_sublist_cons.mpr (List.nil_sublist (plane.dequeue rest).waiting))
            exact (hhead.append_left given).trans hsublist
          · rw [List.append_assoc]
            exact (hmore.append_left given).trans hsublist
          · exact absurd (show plane.inFlightProfileChange.isSome = true from hwaiting.1) (by rw [free]; decide)

end Services

section Events

variable [DecimalText] {workloadPid : Int} {childArguments : List Bytes} {event : ControlPlaneEvent}
  {plane next : ControllerControlPlane} {batch : ActionBatch} {received : List ControllerCommand}

omit [DecimalText] in
theorem waiting_landed {inFlight : InFlightProfileChange} (hcurrent : plane.inFlightProfileChange = some inFlight)
    (result : ControlPlaneProfileChangeResult) (profile : NetworkProfile) :
    plane.waiting = (if inFlight.replyGeneration.isSome then [.profileChange inFlight.change] else []) ++
      (plane.landed result profile).waiting := by
  have hnone : (plane.landed result profile).inFlightProfileChange = none := rfl
  rw [waiting_of_none hnone, waiting, hcurrent, Option.toList_some, List.filter_singleton]
  cases inFlight.replyGeneration <;> rfl

/-- What an event answers, and what waits after it. -/
theorem EventStep.answers (h : EventStep plane event received next batch)
    (hworkload : plane.workloadPid = workloadPid ∧ plane.childArguments = childArguments) (hlined : plane.Lined)
    (hattach : event ≠ .controllerAttached) :
    ∃ given, List.Forall₂ (ReplyTo workloadPid childArguments) given (repliesAmong event batch.texts) ∧
      (given ++ next.waiting).Sublist (plane.waiting ++ received) := by
  have hdropped : ∀ {next : ControllerControlPlane} {fail : Bool}, next.waiting = [] →
      ∃ given, List.Forall₂ (ReplyTo workloadPid childArguments) given
        (repliesAmong event ({ fail := fail } : ActionBatch).texts) ∧
        (given ++ next.waiting).Sublist (plane.waiting ++ []) := fun hnone =>
    ⟨[], .nil, by rw [hnone]; exact List.nil_sublist _⟩
  cases h with
  | attached => exact absurd rfl hattach
  | ignored => exact ⟨[], .nil, by simp⟩
  | received bytes buffer listening services =>
      have hstart : (plane.withBuffer []).Lined := ⟨hlined.stopped, hlined.behind⟩
      obtain ⟨-, given, ⟨said, htexts, hgiven⟩, hsublist⟩ := services.answers_lines rfl hworkload hstart
      rw [htexts, List.nil_append]
      exact ⟨given, hgiven, hsublist⟩
  | disconnected => exact hdropped (waiting_of_withoutReply rfl rfl)
  | writeFailed => exact hdropped (waiting_of_withoutReply rfl rfl)
  | rejected =>
      refine ⟨[], .nil, ?_⟩
      rw [List.nil_append, List.append_nil]
      exact List.Sublist.append_left (List.nil_sublist _) _
  | dropped => exact ⟨[], .nil, by simp⟩
  | invalid => exact hdropped rfl
  | @landed result change inFlight profile next batch current same applies services =>
      obtain ⟨-, given, ⟨said, htexts, hgiven⟩, hsublist⟩ := services.answers_queue rfl hworkload
      rw [List.append_nil, waiting_landed current result profile, htexts]
      by_cases hreplies : plane.replies inFlight = true
      · have howned : inFlight.replyGeneration.isSome = true := by
          simp only [replies, Bool.and_eq_true, decide_eq_true_eq] at hreplies
          rw [hreplies.2]
          rfl
        have hresult : isCommandReply (resultText result) = true := by cases result <;> decide +kernel
        rw [if_pos hreplies, if_pos howned, List.singleton_append, List.singleton_append, repliesAmong_cons hresult]
        exact ⟨.profileChange inFlight.change :: given, .cons (.landed result same) hgiven,
          List.cons_sublist_cons.mpr hsublist⟩
      · rw [if_neg hreplies, List.nil_append]
        exact ⟨given, hgiven, hsublist.trans (List.sublist_append_right _ _)⟩
  | unknown => exact hdropped (waiting_of_withoutReply rfl rfl)
  | unknownAgain => exact ⟨[], .nil, by simp⟩
  | stopping => exact hdropped (waiting_of_withoutReply rfl rfl)
  | terminal => exact hdropped (waiting_of_withoutReply rfl rfl)

/-! ### Reading -/

/-- The bytes of the Controller that an event brings. -/
def eventBytes : ControlPlaneEvent → Bytes
  | .controllerBytesReceived bytes => bytes
  | _ => []

/-- The commands that complete lines of a text ask for. -/
def textCommands (text : Bytes) : List ControllerCommand := lineCommands (splitLines text).1

theorem lineCommands_append (lines more : List Bytes) :
    lineCommands (lines ++ more) = lineCommands lines ++ lineCommands more :=
  List.filterMap_append

theorem textCommands_append (text more : Bytes) :
    textCommands (text ++ more) = textCommands text ++ textCommands ((splitLines text).2 ++ more) := by
  have hsplit : splitLines (text ++ more) = _ := splitAtMark_append newline text more
  rw [textCommands, hsplit, lineCommands_append]
  rfl

/-- Of a text the commands are taken in, all of them while the Controller is listened to. -/
structure Reads (plane : ControllerControlPlane) (text : Bytes) (taken : List ControllerCommand) : Prop where
  commands : taken <+: textCommands text
  listening : plane.closed = false → taken = textCommands text ∧ plane.readBuffer = (splitLines text).2

/-- An event that brings no bytes. -/
theorem Reads.quiet {text : Bytes} {taken : List ControllerCommand} (h : Reads plane text taken)
    (hopen : next.closed = false → plane.closed = false ∧ next.readBuffer = plane.readBuffer) :
    Reads next (text ++ []) (taken ++ []) := by
  rw [List.append_nil, List.append_nil]
  refine ⟨h.commands, fun hnext => ?_⟩
  obtain ⟨hplane, hbuffer⟩ := hopen hnext
  exact ⟨(h.listening hplane).1, hbuffer.trans (h.listening hplane).2⟩

theorem EventStep.reads (h : EventStep plane event received next batch) (hattach : event ≠ .controllerAttached)
    {text : Bytes} {taken : List ControllerCommand} (hreads : Reads plane text taken) :
    Reads next (text ++ eventBytes event) (taken ++ received) := by
  have hdetached : ∀ {next : ControllerControlPlane}, next.closed = true →
      next.closed = false → plane.closed = false ∧ next.readBuffer = plane.readBuffer := fun hclosed hopen =>
    absurd (hclosed.symm.trans hopen) (by decide)
  cases h with
  | attached => exact absurd rfl hattach
  | ignored bytes closed =>
      refine ⟨?_, fun hopen => absurd (closed.symm.trans hopen) (by decide)⟩
      rw [List.append_nil, textCommands_append]
      exact hreads.commands.trans (List.prefix_append _ _)
  | @received bytes received next batch buffer listening services commands complete =>
      obtain ⟨htaken, hbuffer⟩ := hreads.listening listening
      rw [hbuffer] at commands complete
      constructor
      · rw [htaken, eventBytes, textCommands_append]
        exact (List.prefix_append_right_inj _).mpr commands
      · intro hopen
        obtain ⟨hall, hrest⟩ := complete (closed_eq_false_iff.mp hopen).1
        rw [htaken, eventBytes, textCommands_append, hall]
        have hsplit : splitLines (text ++ bytes) = _ := splitAtMark_append newline text bytes
        exact ⟨rfl, hrest.trans (congrArg Prod.snd hsplit).symm⟩
  | disconnected => exact hreads.quiet (hdetached rfl)
  | writeFailed => exact hreads.quiet (hdetached rfl)
  | rejected => exact hreads.quiet (hdetached (by simp [closed, failProfileState]))
  | invalid => exact hreads.quiet (hdetached (by simp [closed]))
  | landed result change current same applies services =>
      have hserved := services.served rfl
      refine hreads.quiet fun hopen => ?_
      obtain ⟨hattached, hterminal, hfailed⟩ := closed_eq_false_iff.mp hopen
      obtain ⟨hbefore, hbuffer⟩ := hserved.attached hattached
      exact ⟨closed_eq_false_iff.mpr ⟨hbefore, hserved.terminal.symm.trans hterminal,
        hserved.failed.symm.trans hfailed⟩, hbuffer⟩
  | unknown => exact hreads.quiet (hdetached (by simp [closed]))
  | terminal => exact hreads.quiet (hdetached (by simp [closed]))
  | _ => exact hreads.quiet fun hopen => ⟨hopen, rfl⟩

end Events

end ControllerControlPlane

/-! ### Connections -/

/-- The bytes that steps have received. -/
def connectionBytes (during : List ControlStep) : Bytes := during.flatMap fun step => eventBytes step.event

/-- The answers that steps have given, each with the event it was given at. -/
def commandReplies (during : List ControlStep) : List (ControlPlaneEvent × Bytes) :=
  during.flatMap fun step => repliesAmong step.event (controllerTexts step.actions)

namespace ControlHistory

variable [DecimalText] {workloadPid : Int} {childArguments : List Bytes} {history : List ControlStep}
  {plane : ControllerControlPlane} {step : ControlStep} {received : List ControllerCommand} {batch : ActionBatch}

omit [DecimalText] in
theorem waiting_of_detached (hinv : Inv plane) (howns : plane.Owns) (hdetached : plane.controllerAttached = false) :
    plane.waiting = [] := by
  have hqueue : plane.commandQueue = [] := by
    by_contra hne
    exact absurd ((hinv.waits hne).1.symm.trans hdetached) (by decide)
  rw [waiting, hqueue, List.map_nil, List.append_nil, List.map_eq_nil_iff, List.filter_eq_nil_iff]
  intro inFlight hmem hreply
  exact absurd ((howns inFlight (Option.mem_toList.mp hmem)
    (Option.ne_none_iff_isSome.mpr hreply)).1.symm.trans hdetached) (by decide)

omit [DecimalText] in
theorem lined (hinv : Inv plane) (howns : plane.Owns) : plane.Lined where
  behind := hinv.behind
  stopped := fun hstopping => by
    have hqueue : plane.commandQueue = [] := by
      by_contra hne
      exact absurd ((hinv.waits hne).2.1.symm.trans hstopping) (by decide)
    rw [waiting, hqueue, List.map_nil, List.append_nil, List.map_eq_nil_iff, List.filter_eq_nil_iff]
    intro inFlight hmem hreply
    exact absurd ((howns inFlight (Option.mem_toList.mp hmem)
      (Option.ne_none_iff_isSome.mpr hreply)).2.1.symm.trans hstopping) (by decide)

omit [DecimalText] in
theorem waiting_settled : plane.settled.waiting = plane.waiting := by
  rw [waiting, waiting, settled]
  rcases plane.inFlightProfileChange with _ | ⟨change, reply, pending⟩
  · rfl
  · cases reply <;> rfl

omit [DecimalText] in
theorem lined_source (h : step.before.Lined) : step.source.Lined := by
  unfold ControlStep.source
  split
  · exact h
  · refine ⟨fun hstopping => waiting_settled.trans (h.stopped hstopping), fun hqueue => ?_⟩
    rw [settled, Option.isSome_map]
    exact h.behind hqueue

omit [DecimalText] in
theorem waiting_source : step.source.waiting = step.before.waiting := by
  unfold ControlStep.source
  split
  · rfl
  · exact waiting_settled

omit [DecimalText] in
theorem workload_source (h : step.before.workloadPid = workloadPid ∧ step.before.childArguments = childArguments) :
    step.source.workloadPid = workloadPid ∧ step.source.childArguments = childArguments := by
  unfold ControlStep.source
  split <;> exact h

theorem reads_source {text : Bytes} {taken : List ControllerCommand} (h : Reads step.before text taken) : Reads step.source text taken := by
  unfold ControlStep.source
  split
  · exact h
  · exact ⟨h.commands, h.listening⟩

/-- Since a Controller attached: the commands taken in are those of its bytes, and the answered ones come in
their order before those that wait. -/
theorem conversation (h : ControlHistory workloadPid childArguments history plane) :
    ∀ {before during : List ControlStep} {attach : ControlStep}, history = before ++ attach :: during →
      attach.event = .controllerAttached → (∀ step ∈ during, step.event ≠ .controllerAttached) →
      ∃ taken answered, Reads plane (connectionBytes during) taken ∧
        List.Forall₂ (ReplyTo workloadPid childArguments) answered (commandReplies during) ∧
        (answered ++ plane.waiting).Sublist taken := by
  induction h with
  | start => exact fun hsplit => absurd hsplit (by simp)
  | @step history plane earlier event free ih =>
      intro before during attach hsplit hattach honly
      obtain ⟨received, batch, htaken⟩ := taken_handle earlier.inv event free
      rcases List.eq_nil_or_concat during with rfl | ⟨initial, last, rfl⟩
      · -- the Controller attaches: nothing is left of an earlier connection
        obtain ⟨rfl, hlast⟩ := List.append_inj' hsplit rfl
        obtain rfl := (List.cons.inj hlast).1
        obtain rfl : event = .controllerAttached := hattach
        have hwaiting := waiting_of_detached earlier.inv earlier.owns_issued.1 (free rfl)
        refine ⟨[], [], ⟨List.nil_prefix, fun _ => ⟨rfl, rfl⟩⟩, .nil, ?_⟩
        change ([] ++ plane.settled.attach.waiting).Sublist []
        rw [show plane.settled.attach.waiting = plane.settled.waiting from rfl, waiting_settled, hwaiting]
        exact List.Sublist.refl _
      · rw [List.concat_eq_append, ← List.cons_append, ← List.append_assoc] at hsplit
        obtain ⟨hearlier, hlast⟩ := List.append_inj' hsplit rfl
        obtain rfl := (List.cons.inj hlast).1
        rw [List.concat_eq_append, List.forall_mem_append, List.forall_mem_singleton] at honly
        obtain ⟨taken, answered, hreads, hanswered, hsublist⟩ := ih hearlier hattach honly.1
        obtain ⟨given, hgiven, hwaiting⟩ := htaken.event.answers (workload_source earlier.eventHistory.workload_eq)
          (lined_source (lined earlier.inv earlier.owns_issued.1)) honly.2
        have hactions : (plane.handle event).2 = batch.actions := htaken.actions
        have htexts : controllerTexts (plane.handle event).2 = batch.texts := by
          rw [hactions, ActionBatch.controllerTexts_actions]
        refine ⟨taken ++ received, answered ++ given, ?_, ?_, ?_⟩
        · rw [List.concat_eq_append, connectionBytes, List.flatMap_append, List.flatMap_singleton]
          exact htaken.event.reads honly.2 (reads_source hreads)
        · rw [List.concat_eq_append, commandReplies, List.flatMap_append, List.flatMap_singleton, htexts]
          exact List.rel_append hanswered hgiven
        · rw [waiting_source] at hwaiting
          rw [List.append_assoc]
          calc (answered ++ (given ++ (plane.handle event).1.waiting)).Sublist
                (answered ++ (plane.waiting ++ received)) := hwaiting.append_left answered
            List.Sublist _ (taken ++ received) := by
              rw [← List.append_assoc]
              exact hsublist.append_right received

/-- The end of a change is told once, and to the connection it was dispatched for. -/
theorem Taken.profileReply {text : Bytes} (h : ControlHistory workloadPid childArguments history step.before)
    (htaken : Taken step received batch) (htext : text ∈ batch.texts) (hreply : isProfileReply text = true) :
    ∃ result carried change, step.event = .helperProfileChangeResult result carried ∧
      change.same carried = true ∧ text = resultText result ∧ batch.texts.countP isProfileReply = 1 ∧
      step.before.controllerAttached = true ∧ Issued history step.before.connectionGeneration change ∧
      step.before.stopping = false ∧ step.before.workloadTerminal = false := by
  have hsaid : ∀ text, step.after.Said text → isProfileReply text = false := fun _ hsaid => hsaid.not_profileReply
  rcases htaken.event.texts with ⟨inFlight, result, carried, said, hevent, hcurrent, hsame, hreplies, htexts, hothers⟩ |
    hothers
  · have hsource : step.source = step.before.settled := if_neg (by rw [hevent]; exact fun hwrite => nomatch hwrite)
    rw [hsource] at hcurrent hreplies
    obtain ⟨previous, hprevious, rfl⟩ := Option.map_eq_some_iff.mp hcurrent
    simp only [replies, Bool.and_eq_true, Bool.not_eq_true', decide_eq_true_eq] at hreplies
    obtain ⟨⟨⟨hterminal, hstopping⟩, hattached⟩, howner⟩ := hreplies
    have hissued := h.owns_issued.2 previous hprevious (by rw [howner]; exact Option.some_ne_none _)
    have hnone : said.countP isProfileReply = 0 :=
      List.countP_eq_zero.mpr fun other hother => by rw [hsaid other (hothers other hother)]; decide
    refine ⟨result, carried, previous.change, hevent, hsame, ?_, ?_, hattached, hissued, hstopping, hterminal⟩
    · rw [htexts] at htext
      rcases List.mem_cons.mp htext with heq | hmem
      · exact heq
      · exact absurd ((hsaid text (hothers text hmem)).symm.trans hreply) (by decide)
    · rw [htexts, List.countP_cons_of_pos (isProfileReply_resultText result), hnone]
  · rcases hothers text htext with rfl | hmem
    · exact absurd hreply (by decide)
    · exact absurd ((hsaid text hmem).symm.trans hreply) (by decide)

end ControlHistory

theorem ControllerControlPlane.EventStep.terminal_texts [DecimalText] {plane next : ControllerControlPlane}
    {event : ControlPlaneEvent} {batch : ActionBatch} {received : List ControllerCommand} {text : Bytes}
    (h : EventStep plane event received next batch) (hterminal : plane.workloadTerminal = true)
    (htext : text ∈ batch.texts) : text = attachedText := by
  cases h with
  | attached => exact List.mem_singleton.mp htext
  | received bytes buffer listening services =>
      exact absurd ((closed_eq_false_iff.mp listening).2.1.symm.trans hterminal) (by decide)
  | landed result change current same applies services ended =>
      rw [(ended (.inl hterminal)).2, if_neg (by simp [replies, hterminal])] at htext
      exact absurd htext List.not_mem_nil
  | _ => exact absurd htext List.not_mem_nil

/-- The end of a change is told at most once, in the step of its result, to the connection that it was
dispatched for, and in a Session that goes on; a connection gets the answers to its commands in their order; and
after the end of the Workload nothing but the greeting is said. -/
theorem handle_replies [DecimalText] {workloadPid : Int} {childArguments : List Bytes}
    {history : List ControlStep} {plane : ControllerControlPlane}
    (h : ControlHistory workloadPid childArguments history plane) :
    (∀ before step later text, history = before ++ step :: later → text ∈ controllerTexts step.actions →
      isProfileReply text = true →
      ∃ result carried change, step.event = .helperProfileChangeResult result carried ∧
        change.same carried = true ∧ text = resultText result ∧
        (controllerTexts step.actions).countP isProfileReply = 1 ∧ step.before.controllerAttached = true ∧
        Issued before step.before.connectionGeneration change ∧
        ∀ other ∈ before, ¬ other.Stops ∧ other.event ≠ .workloadTerminal) ∧
    (∀ before attach during later, history = before ++ attach :: (during ++ later) →
      attach.event = .controllerAttached → (∀ step ∈ during, step.event ≠ .controllerAttached) →
      ∃ answered, answered.Sublist (textCommands (connectionBytes during)) ∧
        List.Forall₂ (ReplyTo workloadPid childArguments) answered (commandReplies during)) ∧
    (∀ before step later text, history = before ++ step :: later →
      (∃ other ∈ before, other.event = .workloadTerminal) → text ∈ controllerTexts step.actions →
      text = attachedText) := by
  refine ⟨?_, ?_, ?_⟩
  · intro before step later text hsplit htext hreply
    obtain ⟨hbefore, hafter, received, batch, htaken⟩ := h.split hsplit
    rw [htaken.actions, ActionBatch.controllerTexts_actions] at htext ⊢
    obtain ⟨result, carried, change, hevent, hsame, hresult, honce, hattached, hissued, hstopping, hterminal⟩ :=
      htaken.profileReply hbefore htext hreply
    refine ⟨result, carried, change, hevent, hsame, hresult, honce, hattached, hissued, fun other hother => ⟨?_, ?_⟩⟩
    · intro hstops
      exact Bool.eq_false_iff.mp hstopping (hbefore.marks.stopping.mpr ⟨other, hother, hstops⟩)
    · intro hend
      exact Bool.eq_false_iff.mp hterminal (hbefore.marks.terminal.mpr ⟨other, hother, hend⟩)
  · intro before attach during later hsplit hattach honly
    obtain ⟨last, hhistory⟩ : ∃ last, ControlHistory workloadPid childArguments (before ++ attach :: during) last := by
      rcases later with _ | ⟨step, later⟩
      · exact ⟨plane, by rwa [hsplit, List.append_nil] at h⟩
      · rw [← List.cons_append, ← List.append_assoc] at hsplit
        exact ⟨step.before, (h.split hsplit).1⟩
    obtain ⟨taken, answered, hreads, hanswered, hsublist⟩ := hhistory.conversation rfl hattach honly
    exact ⟨answered, ((List.sublist_append_left _ _).trans hsublist).trans hreads.commands.sublist, hanswered⟩
  · intro before step later text hsplit ⟨other, hother, hend⟩ htext
    obtain ⟨hbefore, hafter, received, batch, htaken⟩ := h.split hsplit
    rw [htaken.actions, ActionBatch.controllerTexts_actions] at htext
    have hterminal : step.before.workloadTerminal = true := hbefore.marks.terminal.mpr ⟨other, hother, hend⟩
    have hsource : step.source.workloadTerminal = true := by
      unfold ControlStep.source
      split <;> exact hterminal
    exact htaken.event.terminal_texts hsource htext

section Sample

attribute [local instance] bitPatternText

/-- Two changes, of which the helper applies the first and undoes the second. -/
def changingEvents : List ControlPlaneEvent :=
  [.controllerAttached, .controllerBytesReceived (ascii "set outbound delay 5\nset inbound jitter 9\nstatus\n"),
    .helperProfileChangeResult .applied (.setDelay .outbound 5),
    .helperProfileChangeResult .restoredAfterFailure (.setJitter .inbound 9)]

/-- The two changes and the status that the Controller asked for in one read are answered in this order. -/
theorem handle_replies_changing :
    (commandReplies (workloadSteps changingEvents).tail).map Prod.snd =
      [profileChangedText, profileNotChangedText,
        buildStatus 41 [] { outbound := { delay := 5 } } false true] ∧
    ∃ answered, answered.Sublist (textCommands (connectionBytes (workloadSteps changingEvents).tail)) ∧
      List.Forall₂ (ReplyTo 41 []) answered (commandReplies (workloadSteps changingEvents).tail) :=
  have hhistory := controlHistory_steps (.start : ControlHistory 41 [] _ _) changingEvents (by decide)
  ⟨by decide +kernel,
    (handle_replies hhistory).2.1 [] ((workloadSteps changingEvents).head (by decide)) (workloadSteps changingEvents).tail
      [] (by rw [List.append_nil, List.nil_append, List.nil_append, List.cons_head_tail]; rfl) rfl
      (by decide)⟩

end Sample

end NetLagLab
