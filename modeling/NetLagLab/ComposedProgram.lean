import NetLagLab.ComposedSession

/-! The supervision of the helper's program on the composed machine: behind every call of it the machine has come to where
the two sides are. -/

namespace NetLagLab

open ByteLines CallPrograms CallPrograms.Program HelperRuntimeConversation HelperSession NetworkEnvironment Relation

variable [DecimalText]

namespace SupervisedSession

/-- The helper leaves the link like this. -/
def leaving (session : SupervisedSession) (link : HelperSession.Link) : SupervisedSession :=
  { session with
    toSupervisor := link.toSupervisor
    toHelper := link.toHelper
    sent := link.sent
    passes := link.passes
    running := link.running }

/-- A call that brings nothing into force changes the link at most, behind what the Supervisor does. -/
theorem exists_leaving {session after : SupervisedSession} {request : HelperCall}
    {answer : HelperAnswer request} (hrequest : ∀ before : Ledger, before.recorded request answer = before.inForce)
    (h : interleaved Moves Answered session request answer after) : ∃ middle link, ReflTransGen Moves session middle ∧
      middle.ledger.link.Answers request answer link ∧ after = middle.leaving link := by
  obtain ⟨middle, hmoves, hsame, hlink, -, hinForce⟩ := h
  refine ⟨middle, after.ledger.link, hmoves, hlink, ?_⟩
  obtain ⟨supervisor, toSupervisor, toHelper, sent, passes, running, inForce⟩ := after
  obtain rfl : supervisor = middle.supervisor := hsame
  obtain rfl : inForce = middle.inForce := hinForce.trans (hrequest middle.ledger)
  rfl

end SupervisedSession

namespace ComposedSession

variable {childArguments : List Bytes} {session : SupervisedSession} {state : Supervision}

/-- Behind a call the machine has come to where the two sides are. -/
def Followed (childArguments : List Bytes) (step : CallPrograms.Step HelperCall HelperAnswer SupervisedSession) : Prop :=
  ∃ composed, Reached childArguments composed ∧ composed.session = step.after

omit [DecimalText] in
theorem brief_applyChange (confirmed : NetworkProfile) (change : ProfileChange) : Brief (applyChange confirmed change) := by
  unfold applyChange
  split
  · trivial
  · split
    · trivial
    · dsimp only
      split
      · trivial
      · split
        · trivial
        · intro answer
          cases answer <;> exact ⟨_, rfl⟩

theorem followed_applyChange {change : ProfileChange} {behind : List HelperRuntimeCommand}
    (h : Reached childArguments ⟨session, state, .carrying (.profileChange change :: behind)⟩) :
    Safe (interleaved SupervisedSession.Moves SupervisedSession.Answered) (Followed childArguments)
      (fun applied after => Reached childArguments
        ⟨after, { state with confirmed := applied.2 }, .replying applied.1 behind⟩)
      (applyChange state.confirmed change) session := by
  refine (brief_applyChange state.confirmed change).safe (fun trace applied after hpath => ?_) fun step applied hpost =>
    ⟨_, hpost, rfl⟩
  exact h.tail (.applies rfl hpath)

theorem followed_carryOut (turns : Nat) (commands : List HelperRuntimeCommand) (state : Supervision)
    (h : Reached childArguments ⟨session, state, .carrying commands⟩) :
    Safe (interleaved SupervisedSession.Moves SupervisedSession.Answered) (Followed childArguments)
      (fun result after => ∃ next, result = .inl next ∧ Reached childArguments ⟨after, next, .carrying []⟩)
      (carryOut turns commands state) session := by
  induction commands generalizing session state with
  | nil => exact ⟨state, rfl, h⟩
  | cons command commands ih =>
      have hstop : command.isStop = true → ∀ signal,
          Safe (interleaved SupervisedSession.Moves SupervisedSession.Answered) (Followed childArguments)
            (fun result after => ∃ next, result = .inl next ∧ Reached childArguments ⟨after, next, .carrying []⟩) (do
              if ← ask (.sendSignal signal) then carryOut turns commands state
              else
                let _ ← ask (.send (helperErrorMessage (ascii "Failed to stop Workload.")))
                abandon turns) session := by
        intro hstop signal delivered after hstep
        obtain ⟨middle, link, hmoves, ⟨rfl, rfl⟩, rfl⟩ := SupervisedSession.exists_leaving (fun _ => rfl) hstep
        have hmiddle := h.moves hmoves
        exact ⟨⟨_, hmiddle, rfl⟩, ih state (hmiddle.tail (.stops rfl hstop))⟩
      cases command with
      | profileChange change =>
          refine safe_bind ((followed_applyChange h).imp fun applied middle hmiddle => ?_)
          obtain ⟨sent, running, hcarried⟩ := hmiddle.inv.tallies
          have hresponse := (hcarried.supervising.agrees.reply applied.1).1
          dsimp only at hresponse ⊢
          rw [hresponse]
          intro sent after hstep
          obtain ⟨between, link, hmoves, ⟨rfl, rfl⟩, rfl⟩ := SupervisedSession.exists_leaving (fun _ => rfl) hstep
          have hreplied := (hmiddle.moves hmoves).tail (.replies rfl)
          rw [replied_of_some hresponse] at hreplied
          exact ⟨⟨_, hreplied, rfl⟩, ih ⟨_, applied.2⟩ hreplied⟩
      | stopTerminate => exact hstop rfl _
      | stopKill => exact hstop rfl _
      | compatibilityShutdown => exact hstop rfl _

theorem followed_superviseTurn (turns : Nat) (state : Supervision)
    (h : Reached childArguments ⟨session, state, .carrying []⟩) :
    Safe (interleaved SupervisedSession.Moves SupervisedSession.Answered) (Followed childArguments)
      (fun result after => result.elim (fun next => Reached childArguments ⟨after, next, .carrying []⟩)
        fun status => status = some 0 ∧ ∃ last, Reached childArguments ⟨after, last, .ended⟩)
      (superviseTurn turns state) session := by
  intro polled after hstep
  obtain ⟨middle, link, hmoves, hanswer, rfl⟩ := SupervisedSession.exists_leaving (fun _ => rfl) hstep
  have hmiddle := h.moves hmoves
  cases polled with
  | error => exact hanswer.elim
  | finished status =>
      obtain ⟨hpossible, rfl⟩ := hanswer
      refine ⟨⟨_, hmiddle, rfl⟩, ?_⟩
      intro sent after hstep
      obtain ⟨between, link, hmoves, ⟨rfl, rfl⟩, rfl⟩ := SupervisedSession.exists_leaving (fun _ => rfl) hstep
      have hended := (hmiddle.moves hmoves).tail (.finishes rfl hpossible)
      exact ⟨⟨_, hended, rfl⟩, rfl, _, hended⟩
  | running =>
      obtain rfl := hanswer
      have hlooks := hmiddle.tail (.looks rfl)
      refine ⟨⟨_, hlooks, rfl⟩, ?_⟩
      intro ready after hstep
      obtain ⟨between, link, hmoves, hanswer, rfl⟩ := SupervisedSession.exists_leaving (fun _ => rfl) hstep
      have hbetween := Reached.moves hlooks hmoves
      cases ready with
      | failed => exact hanswer.elim
      | timedOut =>
          obtain rfl := hanswer
          exact ⟨⟨_, hbetween, rfl⟩, hbetween⟩
      | readable =>
          obtain ⟨-, rfl⟩ := hanswer
          refine ⟨⟨_, hbetween, rfl⟩, ?_⟩
          intro read after hstep
          obtain ⟨last, link, hmoves, hanswer, rfl⟩ := SupervisedSession.exists_leaving (fun _ => rfl) hstep
          have hlast := hbetween.moves hmoves
          cases read with
          | data bytes =>
              obtain ⟨-, -, rest, hway, rfl⟩ := hanswer
              have hvalid := hlast.inv.valid rfl hway
              have hreads := hlast.tail (.reads rfl hway)
              rw [reading_of_valid hvalid] at hreads
              refine ⟨⟨_, hreads, rfl⟩, ?_⟩
              change Safe _ _ _ (receive turns state bytes) _
              rw [receive, if_pos hvalid]
              refine (followed_carryOut turns _ _ hreads).imp ?_
              rintro _ _ ⟨next, rfl, hnext⟩
              exact hnext
          | peerClosed => exact hanswer.elim
          | failed => exact hanswer.elim

/-- The program of the helper follows the machine: from the frame that tells of the launch on, behind every call the
machine has come to where the two sides are. -/
theorem superviseWorkload_follows {turns : Nat} {pid : Int}
    {trace : List (CallPrograms.Step HelperCall HelperAnswer SupervisedSession)} {last : HelperProgram (Option Int)}
    {final : SupervisedSession} (hleast : 1 ≤ pid) (hmost : pid ≤ 2 ^ 22)
    (h : Path (interleaved SupervisedSession.Moves SupervisedSession.Answered)
      (sendEvent (.activated pid) >>= fun _ => superviseWorkload turns) (.begun childArguments) trace last final) :
    ∀ step ∈ trace, Followed childArguments step := by
  have hturn : ∀ (round : Nat) (state : Supervision) (host : SupervisedSession),
      Reached childArguments ⟨host, state, .carrying []⟩ →
      Safe (interleaved SupervisedSession.Moves SupervisedSession.Answered) (Followed childArguments)
        (fun result after => result.elim (fun next => Reached childArguments ⟨after, next, .carrying []⟩)
          fun status => status = some 0 ∧ ∃ last, Reached childArguments ⟨after, last, .ended⟩)
        (superviseTurn turns state) host := fun _ state _ hstate => followed_superviseTurn turns state hstate
  have hbegun : Reached childArguments ⟨.begun childArguments, {}, .starting⟩ := .refl
  have hsafe : Safe (interleaved SupervisedSession.Moves SupervisedSession.Answered) (Followed childArguments)
      (fun _ _ => True) (sendEvent (.activated pid) >>= fun _ => superviseWorkload turns) (.begun childArguments) := by
    intro sent after hstep
    obtain ⟨middle, link, hmoves, ⟨rfl, rfl⟩, rfl⟩ := SupervisedSession.exists_leaving (fun _ => rfl) hstep
    have hactivated := (hbegun.moves hmoves).tail (.activates rfl hleast hmost)
    refine ⟨⟨_, hactivated, rfl⟩, ?_⟩
    change Safe _ _ _ (superviseWorkload turns) _
    exact safe_bind ((safe_loop_counted hturn 0 hactivated).imp fun _ _ _ => trivial)
  exact (hsafe.path h).1

end ComposedSession

end NetLagLab
