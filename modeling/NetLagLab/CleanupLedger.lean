import Mathlib.Data.List.Pairwise
import NetLagLab.EnvironmentTransaction

/-! The ledger of a cleanup. Every pass takes its removals one after the other, and each of them either
leaves its root alone, finds the time of the pass used up, or records what the adapter reports. What
holds of a whole pass, and of any number of passes, is put together from these three cases. -/

namespace NetLagLab.NetworkEnvironment

open ByteLines CallPrograms CallPrograms.Program

inductive RootName where
  | connectivityRoot
  | vethRoot
  | namespaceRoot
  deriving DecidableEq

inductive RootStatus where
  | absent
  | proven
  | identityUnconfirmed
  deriving DecidableEq

def Root.status {Proof : Type} : Root Proof → RootStatus
  | .absent => .absent
  | .proven _ => .proven
  | .identityUnconfirmed => .identityUnconfirmed

def OwnerState.status (state : OwnerState) : RootName → RootStatus
  | .connectivityRoot => state.connectivityRoot.status
  | .vethRoot => state.vethRoot.status
  | .namespaceRoot => state.namespaceRoot.status

/-- The root that a call removes, and what its answer says of it. -/
def removalOf : EnvironmentEvent → Option (RootName × RootStatus)
  | ⟨.removeConnectivity _ _, removal⟩ => some (.connectivityRoot, removal.state.status)
  | ⟨.removeVeth _ _ _, removal⟩ => some (.vethRoot, removal.state.status)
  | ⟨.removeNamespace _ _, removal⟩ => some (.namespaceRoot, removal.state.status)
  | _ => none

def removals (trace : List EnvironmentEvent) : List (RootName × RootStatus) := trace.filterMap removalOf

/-- The ledger after the answer to a removal. -/
def OwnerState.record (state : OwnerState) : EnvironmentEvent → OwnerState
  | ⟨.removeConnectivity _ _, removal⟩ => { state with connectivityRoot := removal.state }
  | ⟨.removeVeth _ _ _, removal⟩ => { state with vethRoot := removal.state }
  | ⟨.removeNamespace _ _, removal⟩ => { state with namespaceRoot := removal.state }
  | _ => state

/-- A call of a cleanup: the clock, or a removal. -/
def IsCleanupCall (event : EnvironmentEvent) : Prop :=
  event.request = .now ∨ (removalOf event).isSome = true

def clockRead (time : TimePoint) : EnvironmentEvent := ⟨.now, time⟩

/-! ### One pass -/

/-- One turn of cleanup or retry on an owner. -/
structure CleanupPass where
  before : OwnerState
  trace : List EnvironmentEvent
  result : CleanupResult

/-- The roots that the pass leaves to later ones. -/
def CleanupPass.after (pass : CleanupPass) : OwnerState := pass.result.residual.getD {}

/-- A removal follows a check of the clock that found time left, and the read for its deadline. -/
def StartedInTime (transactionDeadline : TimePoint) (trace : List EnvironmentEvent) : Prop :=
  ∀ earlier event later, trace = earlier ++ event :: later → (removalOf event).isSome = true →
    ∃ before checked read, earlier = before ++ [clockRead checked, clockRead read] ∧
      checked < transactionDeadline

/-- A removal is given the proof that the ledger holds for its root, which is proven there. -/
def OwnerState.Gives (state : OwnerState) : EnvironmentCall → Prop
  | .removeConnectivity proof _ => state.connectivityRoot = .proven proof
  | .removeVeth proof namespaceProof _ =>
      state.vethRoot = .proven proof ∧ namespaceProof = state.namespaceProof
  | .removeNamespace proof _ => state.namespaceRoot = .proven proof
  | _ => True

/-- Every removal takes its root from the ledger as the answers before it have left it. -/
def TakenFromLedger (state : OwnerState) (trace : List EnvironmentEvent) : Prop :=
  ∀ earlier event later, trace = earlier ++ event :: later →
    (earlier.foldl OwnerState.record state).Gives event.request

/-- What a pass does with the ledger. -/
structure CleanupPass.Ledger (pass : CleanupPass) : Prop where
  calls : ∀ event ∈ pass.trace, IsCleanupCall event
  taken : TakenFromLedger pass.before pass.trace
  /-- A root leaves the ledger when its removal reported that it is absent. -/
  leaves : ∀ name, pass.before.status name ≠ .absent → pass.after.status name = .absent →
    (name, .absent) ∈ removals pass.trace
  unconfirmed : ∀ name, pass.before.status name = .identityUnconfirmed →
    name ∉ (removals pass.trace).map Prod.fst ∧ pass.after.status name = .identityUnconfirmed
  untouched : ∀ name, pass.before.status name = .absent →
    name ∉ (removals pass.trace).map Prod.fst ∧ pass.after.status name = .absent
  /-- A second removal of the veth pair comes last, after the namespace was removed. -/
  order : ∃ first recheck, (removals pass.trace).map Prod.fst = first ++ recheck ∧
    first.Sublist [.connectivityRoot, .vethRoot, .namespaceRoot] ∧
    (recheck = [] ∨ recheck = [.vethRoot] ∧ .namespaceRoot ∈ first ∧
      (.namespaceRoot, .absent) ∈ removals pass.trace)
  inTime : ∃ start rest, pass.trace = clockRead start :: rest ∧
    StartedInTime (start + transactionLimit) pass.trace
  residual : pass.result.residual =
    (if hasResidual (pass.trace.foldl OwnerState.record pass.before) then
      some (pass.trace.foldl OwnerState.record pass.before) else none)
  reported : pass.result.residual.isSome = true → pass.result.failures ≠ []

/-- Any number of passes, each on what the one before has left. -/
inductive CleanupPasses : Option OwnerState → List CleanupPass → Prop
  | stop (owner : Option OwnerState) : CleanupPasses owner []
  | pass {state : OwnerState} {trace : List EnvironmentEvent} {result : CleanupResult}
      {passes : List CleanupPass} (run : Run (cleanup (some state)) trace result)
      (rest : CleanupPasses result.residual passes) :
      CleanupPasses (some state) (⟨state, trace, result⟩ :: passes)

/-! ### One removal -/

variable {deadline : TimePoint} {name : RootName} {before after : OwnerState}
  {trace : List EnvironmentEvent} {failures : List Failure}

/-- What becomes of one root in its turn. -/
inductive Removing (deadline : TimePoint) (name : RootName) (before : OwnerState) :
    List EnvironmentEvent → OwnerState → List Failure → Prop
  | skipped (unproven : before.status name ≠ .proven) : Removing deadline name before [] before []
  | expired (checked : TimePoint) (proven : before.status name = .proven) (late : deadline ≤ checked) :
      Removing deadline name before [clockRead checked] before [⟨.cleanup, .timeout⟩]
  | removed (checked read : TimePoint) (event : EnvironmentEvent) (failures : List Failure)
      (proven : before.status name = .proven) (early : checked < deadline)
      (taken : before.Gives event.request)
      (removal : removalOf event = some (name, (before.record event).status name))
      (others : ∀ other, other ≠ name → (before.record event).status other = before.status other)
      (reports : (before.record event).status name ≠ .absent → failures ≠ []) :
      Removing deadline name before [clockRead checked, clockRead read, event] (before.record event)
        failures

theorem removalFailures_ne_nil {Proof : Type} {removal : RemovalResult Proof}
    (h : removal.state.status ≠ .absent) : removalFailures removal ≠ [] := by
  rw [removalFailures, if_neg]
  · exact List.cons_ne_nil _ _
  · intro habsent
    cases hstate : removal.state with
    | absent => exact h (by rw [hstate]; rfl)
    | _ =>
        rw [hstate] at habsent
        cases habsent

/-- The runs of a removal: its time is used up, or it is made. -/
theorem run_removeRoot {Proof : Type} {root : Root Proof}
    {remove : TimePoint → EnvironmentProgram (RemovalResult Proof)} {result : Root Proof × List Failure}
    (h : Run (removeRoot deadline root remove) trace result) :
    (∃ checked, deadline ≤ checked ∧ trace = [clockRead checked] ∧
        result = (root, [⟨.cleanup, .timeout⟩])) ∨
      ∃ checked read calls removal, checked < deadline ∧
        Run (remove (operationDeadline read deadline)) calls removal ∧
        trace = clockRead checked :: clockRead read :: calls ∧
        result = (removal.state, removalFailures removal) := by
  rw [removeRoot, bind_perform, run_call] at h
  obtain ⟨checked, rest, rfl, h⟩ := h
  by_cases hlate : deadline ≤ checked
  · rw [if_pos hlate] at h
    obtain ⟨rfl, rfl⟩ := run_done.mp h
    exact Or.inl ⟨checked, hlate, rfl, rfl⟩
  · rw [if_neg hlate] at h
    simp only [pure_eq, bind_perform, run_call] at h
    obtain ⟨read, calls, rfl, h⟩ := h
    obtain ⟨first, removal, last, rfl, hcalls, hlast⟩ := run_bind.mp h
    obtain ⟨rfl, rfl⟩ := run_done.mp hlast
    rw [List.append_nil]
    exact Or.inr ⟨checked, read, first, removal, lt_of_not_ge hlate, hcalls, rfl, rfl⟩

theorem run_ask {request : EnvironmentCall} {answer : EnvironmentAnswer request} :
    Run (ask request) trace answer ↔ trace = [⟨request, answer⟩] := by
  rw [ask, perform, run_call]
  constructor
  · rintro ⟨given, rest, rfl, h⟩
    obtain ⟨rfl, rfl⟩ := run_done.mp h
    rfl
  · rintro rfl
    exact ⟨answer, [], rfl, .done answer⟩

/-- The removal of one root, for a setter of that root. -/
theorem removing_of_run {Proof : Type} (root : Root Proof) (set : Root Proof → OwnerState)
    {remove : TimePoint → EnvironmentProgram (RemovalResult Proof)} {result : OwnerState × List Failure}
    (hproven : before.status name = .proven) (hsame : set root = before)
    (hstatus : ∀ root, (set root).status name = root.status)
    (hothers : ∀ root other, other ≠ name → (set root).status other = before.status other)
    (hcall : ∀ time calls removal, Run (remove time) calls removal → ∃ event, calls = [event] ∧
      before.Gives event.request ∧ removalOf event = some (name, removal.state.status) ∧
      before.record event = set removal.state)
    (h : Run (removeRoot deadline root remove >>= fun removed => .done (set removed.1, removed.2)) trace
      result) : Removing deadline name before trace result.1 result.2 := by
  obtain ⟨first, removed, last, rfl, hremove, hlast⟩ := run_bind.mp h
  obtain ⟨rfl, rfl⟩ := run_done.mp hlast
  rw [List.append_nil]
  rcases run_removeRoot hremove with ⟨checked, hlate, rfl, rfl⟩ |
    ⟨checked, read, calls, removal, hearly, hcalls, rfl, rfl⟩
  · rw [hsame]
    exact .expired checked hproven hlate
  · obtain ⟨event, rfl, htaken, hremoval, hrecord⟩ := hcall _ _ _ hcalls
    rw [← hstatus, ← hrecord] at hremoval
    rw [← hrecord]
    refine .removed checked read event _ hproven hearly htaken hremoval (fun other hother => ?_) fun habsent => ?_
    · rw [hrecord]
      exact hothers _ other hother
    · rw [hrecord, hstatus] at habsent
      exact removalFailures_ne_nil habsent

theorem run_removeConnectivityRoot {result : OwnerState × List Failure}
    (h : Run (removeConnectivityRoot deadline before) trace result) :
    Removing deadline .connectivityRoot before trace result.1 result.2 := by
  unfold removeConnectivityRoot at h
  cases hroot : before.connectivityRoot with
  | proven proof =>
      rw [hroot] at h
      refine removing_of_run (.proven proof) (fun root => { before with connectivityRoot := root })
        (by rw [OwnerState.status, hroot]; rfl) (by rw [← hroot]) (fun _ => rfl)
        (fun _ other hother => ?_) (fun time calls removal hcalls => ?_) h
      · cases other with
        | connectivityRoot => exact absurd rfl hother
        | _ => rfl
      · exact ⟨_, run_ask.mp hcalls, hroot, rfl, rfl⟩
  | _ =>
      rw [hroot] at h
      obtain ⟨rfl, rfl⟩ := run_done.mp h
      exact .skipped (by rw [OwnerState.status, hroot]; decide)

theorem run_removeVethRoot {result : OwnerState × List Failure}
    (h : Run (removeVethRoot deadline before) trace result) :
    Removing deadline .vethRoot before trace result.1 result.2 := by
  unfold removeVethRoot at h
  cases hroot : before.vethRoot with
  | proven proof =>
      rw [hroot] at h
      refine removing_of_run (.proven proof) (fun root => { before with vethRoot := root })
        (by rw [OwnerState.status, hroot]; rfl) (by rw [← hroot]) (fun _ => rfl)
        (fun _ other hother => ?_) (fun time calls removal hcalls => ?_) h
      · cases other with
        | vethRoot => exact absurd rfl hother
        | _ => rfl
      · exact ⟨_, run_ask.mp hcalls, ⟨hroot, rfl⟩, rfl, rfl⟩
  | _ =>
      rw [hroot] at h
      obtain ⟨rfl, rfl⟩ := run_done.mp h
      exact .skipped (by rw [OwnerState.status, hroot]; decide)

theorem run_removeNamespaceRoot {result : OwnerState × List Failure}
    (h : Run (removeNamespaceRoot deadline before) trace result) :
    Removing deadline .namespaceRoot before trace result.1 result.2 := by
  unfold removeNamespaceRoot at h
  cases hroot : before.namespaceRoot with
  | proven proof =>
      rw [hroot] at h
      refine removing_of_run (.proven proof) (fun root => { before with namespaceRoot := root })
        (by rw [OwnerState.status, hroot]; rfl) (by rw [← hroot]) (fun _ => rfl)
        (fun _ other hother => ?_) (fun time calls removal hcalls => ?_) h
      · cases other with
        | namespaceRoot => exact absurd rfl hother
        | _ => rfl
      · exact ⟨_, run_ask.mp hcalls, hroot, rfl, rfl⟩
  | _ =>
      rw [hroot] at h
      obtain ⟨rfl, rfl⟩ := run_done.mp h
      exact .skipped (by rw [OwnerState.status, hroot]; decide)

/-! ### Removals one after the other -/

/-- The turns of some roots in a given order. -/
inductive RemovingAll (deadline : TimePoint) : List RootName → OwnerState → List EnvironmentEvent →
    OwnerState → List Failure → Prop
  | nil (state : OwnerState) : RemovingAll deadline [] state [] state []
  | cons {name : RootName} {names : List RootName} {before middle after : OwnerState}
      {trace rest : List EnvironmentEvent} {failures more : List Failure}
      (first : Removing deadline name before trace middle failures)
      (others : RemovingAll deadline names middle rest after more) :
      RemovingAll deadline (name :: names) before (trace ++ rest) after (failures ++ more)

theorem Removing.foldl_record (h : Removing deadline name before trace after failures) :
    trace.foldl OwnerState.record before = after := by
  cases h with
  | skipped unproven => rfl
  | expired checked proven late => rfl
  | removed checked read event failures proven early taken removal others reports => rfl

theorem removals_append (trace rest : List EnvironmentEvent) :
    removals (trace ++ rest) = removals trace ++ removals rest := List.filterMap_append

theorem Removing.removals (h : Removing deadline name before trace after failures) :
    removals trace = [] ∧ after = before ∨
      before.status name = .proven ∧ removals trace = [(name, after.status name)] := by
  cases h with
  | skipped unproven => exact Or.inl ⟨rfl, rfl⟩
  | expired checked proven late => exact Or.inl ⟨rfl, rfl⟩
  | removed checked read event failures proven early taken removal others reports =>
      refine Or.inr ⟨proven, ?_⟩
      rw [NetworkEnvironment.removals, List.filterMap_cons_none rfl, List.filterMap_cons_none rfl,
        List.filterMap_cons_some removal]
      rfl

theorem Removing.others (h : Removing deadline name before trace after failures) {other : RootName}
    (hother : other ≠ name) : after.status other = before.status other := by
  cases h with
  | skipped unproven => rfl
  | expired checked proven late => rfl
  | removed checked read event failures proven early taken removal others reports => exact others other hother

theorem Removing.reports (h : Removing deadline name before trace after failures)
    (hproven : before.status name = .proven) (hleft : after.status name ≠ .absent) : failures ≠ [] := by
  cases h with
  | skipped unproven => exact absurd hproven unproven
  | expired checked proven late => exact List.cons_ne_nil _ _
  | removed checked read event failures proven early taken removal others reports => exact reports hleft

/-- A root that is not proven stays as it is. -/
theorem Removing.unproven (h : Removing deadline name before trace after failures) {other : RootName}
    (hunproven : before.status other ≠ .proven) :
    after.status other = before.status other ∧ other ∉ (NetworkEnvironment.removals trace).map Prod.fst := by
  rcases h.removals with ⟨hnone, rfl⟩ | ⟨hproven, hremovals⟩
  · rw [hnone]
    exact ⟨rfl, List.not_mem_nil⟩
  · have hother : other ≠ name := by
      rintro rfl
      exact hunproven hproven
    rw [hremovals]
    exact ⟨h.others hother, by simpa using hother⟩

theorem startedInTime_append {rest : List EnvironmentEvent} (h : StartedInTime deadline trace)
    (hrest : StartedInTime deadline rest) : StartedInTime deadline (trace ++ rest) := by
  intro earlier event later hsplit hremoval
  rcases List.append_eq_append_iff.mp hsplit with ⟨gap, rfl, hlater⟩ | ⟨gap, rfl, hlater⟩
  · obtain ⟨before, checked, read, rfl, hearly⟩ := hrest gap event later hlater hremoval
    exact ⟨trace ++ before, checked, read, (List.append_assoc _ _ _).symm, hearly⟩
  · cases gap with
    | nil =>
        obtain ⟨before, checked, read, hempty, -⟩ := hrest [] event later hlater.symm hremoval
        cases before <;> cases hempty
    | cons head gap =>
        rw [List.cons_append, List.cons.injEq] at hlater
        obtain ⟨rfl, rfl⟩ := hlater
        exact h earlier event gap rfl hremoval

theorem Removing.startedInTime (h : Removing deadline name before trace after failures) :
    StartedInTime deadline trace := by
  intro earlier event later hsplit hremoval
  cases h with
  | skipped unproven => cases earlier <;> cases hsplit
  | expired checked proven late =>
      rcases earlier with _ | ⟨first, earlier⟩
      · cases hsplit
        cases hremoval
      · cases earlier <;> cases hsplit
  | removed checked read removed failures proven early taken removal others reports =>
      rcases earlier with _ | ⟨first, _ | ⟨second, _ | ⟨third, earlier⟩⟩⟩
      · cases hsplit
        cases hremoval
      · cases hsplit
        cases hremoval
      · cases hsplit
        exact ⟨[], checked, read, rfl, early⟩
      · cases earlier <;> cases hsplit

theorem takenFromLedger_nil (state : OwnerState) : TakenFromLedger state [] :=
  fun earlier event later hsplit => by cases earlier <;> cases hsplit

theorem takenFromLedger_cons {event : EnvironmentEvent} (h : before.Gives event.request)
    (hrest : TakenFromLedger (before.record event) trace) : TakenFromLedger before (event :: trace) := by
  intro earlier other later hsplit
  cases earlier with
  | nil =>
      cases hsplit
      exact h
  | cons head earlier =>
      cases hsplit
      exact hrest earlier other later rfl

theorem takenFromLedger_append {rest : List EnvironmentEvent} (h : TakenFromLedger before trace)
    (hrest : TakenFromLedger (trace.foldl OwnerState.record before) rest) :
    TakenFromLedger before (trace ++ rest) := by
  induction trace generalizing before with
  | nil => exact hrest
  | cons event trace ih =>
      refine takenFromLedger_cons (h [] event trace rfl) (ih (fun earlier other later hsplit => ?_) hrest)
      subst hsplit
      exact h (event :: earlier) other later rfl

theorem Removing.taken (h : Removing deadline name before trace after failures) :
    TakenFromLedger before trace := by
  cases h with
  | skipped unproven => exact takenFromLedger_nil before
  | expired checked proven late => exact takenFromLedger_cons trivial (takenFromLedger_nil before)
  | removed checked read event failures proven early taken removal others reports =>
      exact takenFromLedger_cons trivial (takenFromLedger_cons trivial
        (takenFromLedger_cons taken (takenFromLedger_nil _)))

theorem Removing.calls (h : Removing deadline name before trace after failures) :
    ∀ event ∈ trace, IsCleanupCall event := by
  cases h with
  | skipped unproven => exact List.forall_mem_nil _
  | expired checked proven late => exact List.forall_mem_singleton.mpr (Or.inl rfl)
  | removed checked read event failures proven early taken removal others reports =>
      refine List.forall_mem_cons.mpr ⟨Or.inl rfl, List.forall_mem_cons.mpr ⟨Or.inl rfl, ?_⟩⟩
      refine List.forall_mem_singleton.mpr (Or.inr ?_)
      rw [removal]
      rfl

variable {names : List RootName}

theorem RemovingAll.calls (h : RemovingAll deadline names before trace after failures) :
    ∀ event ∈ trace, IsCleanupCall event := by
  induction h with
  | nil state => exact List.forall_mem_nil _
  | cons first others ih => exact List.forall_mem_append.mpr ⟨first.calls, ih⟩

theorem RemovingAll.foldl_record (h : RemovingAll deadline names before trace after failures) :
    trace.foldl OwnerState.record before = after := by
  induction h with
  | nil state => rfl
  | cons first others ih => rw [List.foldl_append, first.foldl_record, ih]

/-- A later turn takes its root from what the earlier ones recorded. -/
theorem RemovingAll.taken (h : RemovingAll deadline names before trace after failures) :
    TakenFromLedger before trace := by
  induction h with
  | nil state => exact takenFromLedger_nil state
  | cons first others ih => exact takenFromLedger_append first.taken (first.foldl_record.symm ▸ ih)

theorem RemovingAll.startedInTime (h : RemovingAll deadline names before trace after failures) :
    StartedInTime deadline trace := by
  induction h with
  | nil state => exact fun earlier event later hsplit _ => by cases earlier <;> cases hsplit
  | cons first others ih => exact startedInTime_append first.startedInTime ih

theorem RemovingAll.sublist (h : RemovingAll deadline names before trace after failures) :
    ((removals trace).map Prod.fst).Sublist names := by
  induction h with
  | nil state => exact List.Sublist.slnil
  | cons first others ih =>
      rw [removals_append, List.map_append]
      rcases first.removals with ⟨hnone, -⟩ | ⟨-, hremovals⟩
      · rw [hnone]
        exact ih.cons _
      · rw [hremovals]
        exact ih.cons_cons _

theorem RemovingAll.unproven (h : RemovingAll deadline names before trace after failures)
    (hunproven : before.status name ≠ .proven) :
    after.status name = before.status name ∧ name ∉ (removals trace).map Prod.fst := by
  induction h with
  | nil state => exact ⟨rfl, List.not_mem_nil⟩
  | cons first others ih =>
      obtain ⟨hstatus, hname⟩ := first.unproven hunproven
      obtain ⟨hstatus', hname'⟩ := ih (by rw [hstatus]; exact hunproven)
      rw [removals_append, List.map_append, List.mem_append, not_or]
      exact ⟨hstatus'.trans hstatus, hname, hname'⟩

/-- A root leaves the ledger only when its removal reports that it is absent. -/
theorem RemovingAll.leaves (h : RemovingAll deadline names before trace after failures)
    (hthere : before.status name ≠ .absent) (hgone : after.status name = .absent) :
    (name, .absent) ∈ removals trace := by
  induction h with
  | nil state => exact absurd hgone hthere
  | @cons current names before middle after trace rest failures more first others ih =>
      rw [removals_append, List.mem_append]
      by_cases hmiddle : middle.status name = .absent
      · left
        rcases first.removals with ⟨-, rfl⟩ | ⟨-, hremovals⟩
        · exact absurd hmiddle hthere
        · have hname : name = current := by
            by_contra hother
            exact hthere ((first.others hother).symm.trans hmiddle)
          rw [hremovals, ← hname, hmiddle]
          exact List.mem_singleton.mpr rfl
      · exact Or.inr (ih hmiddle hgone)

/-- A proven root that does not leave the ledger in its turn is reported. -/
theorem RemovingAll.reports (h : RemovingAll deadline names before trace after failures)
    (hname : name ∈ names) (hproven : before.status name = .proven)
    (hleft : after.status name ≠ .absent) : failures ≠ [] := by
  induction h with
  | nil state => cases hname
  | @cons current names before middle after trace rest failures more first others ih =>
      have hmiddle : middle.status name ≠ .absent := by
        intro habsent
        have hunproven : middle.status name ≠ .proven := by
          rw [habsent]
          decide
        exact hleft ((others.unproven hunproven).1.trans habsent)
      by_cases hcurrent : name = current
      · subst hcurrent
        exact List.append_ne_nil_of_left_ne_nil (first.reports hproven hmiddle) more
      · have hstill : middle.status name = .proven := (first.others hcurrent).trans hproven
        have hmem := (List.mem_cons.mp hname).resolve_left hcurrent
        exact List.append_ne_nil_of_right_ne_nil failures (ih hmem hstill hleft)

theorem RemovingAll.append {middle : OwnerState} {rest : List EnvironmentEvent} {more : List Failure}
    {others : List RootName} (h : RemovingAll deadline names before trace middle failures)
    (hrest : RemovingAll deadline others middle rest after more) :
    RemovingAll deadline (names ++ others) before (trace ++ rest) after (failures ++ more) := by
  induction h with
  | nil state => exact hrest
  | cons first turns ih =>
      rw [List.append_assoc, List.append_assoc]
      exact .cons first (ih hrest)

/-! ### A whole pass -/

theorem Root.isAbsent_iff {Proof : Type} {root : Root Proof} :
    root.isAbsent = true ↔ root.status = .absent := by
  cases root <;> simp [Root.isAbsent, Root.status]

theorem Root.isUnconfirmed_iff {Proof : Type} {root : Root Proof} :
    root.isUnconfirmed = true ↔ root.status = .identityUnconfirmed := by
  cases root <;> simp [Root.isUnconfirmed, Root.status]

theorem hasResidual_iff {state : OwnerState} :
    hasResidual state = true ↔ ∃ name, state.status name ≠ .absent := by
  rw [hasResidual, Bool.or_eq_true, Bool.or_eq_true, Bool.not_eq_true', Bool.not_eq_true',
    Bool.not_eq_true', ← Bool.not_eq_true, ← Bool.not_eq_true, ← Bool.not_eq_true, Root.isAbsent_iff,
    Root.isAbsent_iff, Root.isAbsent_iff]
  constructor
  · rintro ((hleft | hleft) | hleft)
    · exact ⟨.namespaceRoot, hleft⟩
    · exact ⟨.vethRoot, hleft⟩
    · exact ⟨.connectivityRoot, hleft⟩
  · rintro ⟨name, hleft⟩
    cases name with
    | connectivityRoot => exact Or.inr hleft
    | vethRoot => exact Or.inl (Or.inr hleft)
    | namespaceRoot => exact Or.inl (Or.inl hleft)

theorem beganWithUnconfirmed_of_status {state : OwnerState}
    (h : state.status name = .identityUnconfirmed) : beganWithUnconfirmed state = true := by
  rw [beganWithUnconfirmed, Bool.or_eq_true, Bool.or_eq_true, Root.isUnconfirmed_iff,
    Root.isUnconfirmed_iff, Root.isUnconfirmed_iff]
  cases name with
  | connectivityRoot => exact Or.inr h
  | vethRoot => exact Or.inl (Or.inr h)
  | namespaceRoot => exact Or.inl (Or.inl h)

/-- The removals of a pass: each root once, and the veth pair again when the namespace is gone. -/
theorem run_removeRoots {result : OwnerState × List Failure}
    (h : Run (removeRoots deadline before) trace result) :
    ∃ first middle failures, RemovingAll deadline [.connectivityRoot, .vethRoot, .namespaceRoot] before first
        middle failures ∧
      (trace = first ∧ result = (middle, failures) ∨
        (.namespaceRoot, .absent) ∈ removals first ∧ ∃ recheck more, trace = first ++ recheck ∧
          RemovingAll deadline [.vethRoot] middle recheck result.1 more ∧
          result.2 = failures ++ more) := by
  obtain ⟨trace₁, ⟨disconnected, failures₁⟩, rest₁, rfl, h₁, h⟩ := run_bind.mp h
  obtain ⟨trace₂, ⟨unlinked, failures₂⟩, rest₂, rfl, h₂, h⟩ := run_bind.mp h
  obtain ⟨trace₃, ⟨closed, failures₃⟩, rest₃, rfl, h₃, h⟩ := run_bind.mp h
  have hclosed := run_removeNamespaceRoot h₃
  have hall : RemovingAll deadline [.connectivityRoot, .vethRoot, .namespaceRoot] before
      (trace₁ ++ (trace₂ ++ (trace₃ ++ []))) closed (failures₁ ++ (failures₂ ++ (failures₃ ++ []))) :=
    .cons (run_removeConnectivityRoot h₁) (.cons (run_removeVethRoot h₂) (.cons hclosed (.nil _)))
  rw [List.append_nil, List.append_nil] at hall
  refine ⟨_, closed, _, hall, ?_⟩
  dsimp only at h
  split at h
  · rename_i hremoved
    rw [Bool.and_eq_true, Bool.not_eq_true'] at hremoved
    obtain ⟨trace₄, ⟨rechecked, failures₄⟩, rest₄, rfl, h₄, hlast⟩ := run_bind.mp h
    obtain ⟨rfl, rfl⟩ := run_done.mp hlast
    right
    refine ⟨?_, trace₄, failures₄, ?_, ?_, ?_⟩
    · have hthere : unlinked.status .namespaceRoot ≠ .absent := by
        intro habsent
        rw [Root.isAbsent_iff.mpr habsent] at hremoved
        cases hremoved.1
      have hgone : closed.status .namespaceRoot = .absent := Root.isAbsent_iff.mp hremoved.2
      have hlast := (RemovingAll.cons hclosed (.nil closed)).leaves hthere hgone
      rw [List.append_nil] at hlast
      rw [removals_append, removals_append]
      exact List.mem_append_right _ (List.mem_append_right _ hlast)
    · simp
    · have hrecheck := RemovingAll.cons (run_removeVethRoot h₄) (.nil rechecked)
      rw [List.append_nil, List.append_nil] at hrecheck
      exact hrecheck
    · simp
  · obtain ⟨rfl, rfl⟩ := run_done.mp h
    left
    simp

/-- What a pass leaves behind, whether or not it returns an owner for it. -/
theorem status_after {remaining : OwnerState} (name : RootName) :
    ((if hasResidual remaining then some remaining else none).getD {} : OwnerState).status name =
      remaining.status name := by
  split
  · rfl
  · rename_i hnone
    have habsent : remaining.status name = .absent := by
      by_contra hleft
      exact hnone (hasResidual_iff.mpr ⟨name, hleft⟩)
    rw [habsent]
    cases name <;> rfl

theorem ledger_of_run {state : OwnerState} {result : CleanupResult}
    (h : Run (cleanup (some state)) trace result) : (CleanupPass.mk state trace result).Ledger := by
  rw [cleanup, cleanupState, bind_perform, run_call] at h
  obtain ⟨start, rest, rfl, h⟩ := h
  obtain ⟨first, ⟨remaining, failures⟩, last, rfl, hroots, hlast⟩ := run_bind.mp h
  obtain ⟨rfl, rfl⟩ := run_done.mp hlast
  rw [List.append_nil]
  obtain ⟨turns, middle, reported, hturns, hend⟩ := run_removeRoots hroots
  -- both kinds of pass are turns of all roots
  obtain ⟨names, hall, hnames⟩ : ∃ names, RemovingAll (start + transactionLimit) names state first
      remaining failures ∧ ∀ name, name ∈ names := by
    rcases hend with ⟨rfl, hresult⟩ | ⟨-, recheck, more, rfl, hrecheck, hresult⟩
    · cases hresult
      exact ⟨_, hturns, fun name => by cases name <;> decide⟩
    · dsimp only at hresult
      subst hresult
      exact ⟨_, hturns.append hrecheck, fun name => by cases name <;> decide⟩
  exact {
    calls := List.forall_mem_cons.mpr ⟨Or.inl rfl, hall.calls⟩
    taken := takenFromLedger_cons trivial hall.taken
    leaves := fun name hthere hgone => hall.leaves hthere ((status_after name).symm.trans hgone)
    unconfirmed := fun name hname => by
      obtain ⟨hstatus, hremoved⟩ := hall.unproven (hname.trans_ne (by decide))
      exact ⟨hremoved, (status_after name).trans (hstatus.trans hname)⟩
    untouched := fun name hname => by
      obtain ⟨hstatus, hremoved⟩ := hall.unproven (hname.trans_ne (by decide))
      exact ⟨hremoved, (status_after name).trans (hstatus.trans hname)⟩
    order := by
      rcases hend with ⟨rfl, -⟩ | ⟨hnamespace, recheck, more, rfl, hrecheck, -⟩
      · exact ⟨_, [], (List.append_nil _).symm, hturns.sublist, Or.inl rfl⟩
      · refine ⟨(removals turns).map Prod.fst, (removals recheck).map Prod.fst, ?_, hturns.sublist, ?_⟩
        · rw [← List.map_append, ← removals_append]
          rfl
        · rcases List.sublist_singleton.mp hrecheck.sublist with hnone | hagain
          · exact Or.inl hnone
          · refine Or.inr ⟨hagain, List.mem_map_of_mem (f := Prod.fst) hnamespace, ?_⟩
            exact (removals_append turns recheck).symm ▸ List.mem_append_left _ hnamespace
    inTime := by
      have hstart : StartedInTime (start + transactionLimit) [clockRead start] := by
        intro earlier event later hsplit hremoval
        rcases earlier with _ | ⟨head, earlier⟩
        · cases hsplit
          cases hremoval
        · cases earlier <;> cases hsplit
      exact ⟨start, first, rfl, startedInTime_append hstart hall.startedInTime⟩
    residual := by
      have hrecord : (clockRead start :: first).foldl OwnerState.record state = remaining :=
        hall.foldl_record
      change _ = if hasResidual ((clockRead start :: first).foldl OwnerState.record state) then
        some ((clockRead start :: first).foldl OwnerState.record state) else none
      rw [hrecord]
      rfl
    reported := fun hsome => by
      have hresidual : hasResidual remaining = true := by
        by_contra hnone
        rw [Bool.not_eq_true] at hnone
        simp [hnone] at hsome
      obtain ⟨name, hleft⟩ := hasResidual_iff.mp hresidual
      cases hname : state.status name with
      | absent => exact absurd ((hall.unproven (hname.trans_ne (by decide))).1.trans hname) hleft
      | proven => exact List.append_ne_nil_of_left_ne_nil (hall.reports (hnames name) hname hleft) _
      | identityUnconfirmed =>
          refine List.append_ne_nil_of_right_ne_nil _ ?_
          rw [beganWithUnconfirmed_of_status hname]
          exact List.cons_ne_nil _ _ }

/-! ### Any number of passes -/

/-- Every pass keeps the ledger, and what a pass leaves unconfirmed or absent stays so in all later
ones. -/
theorem cleanupPasses_ledger {owner : Option OwnerState} {passes : List CleanupPass}
    (h : CleanupPasses owner passes) :
    (∀ pass ∈ passes, pass.Ledger) ∧
      (∀ name state, owner = some state → state.status name = .identityUnconfirmed →
        ∀ pass ∈ passes, pass.after.status name = .identityUnconfirmed) ∧
      passes.Pairwise fun earlier later => ∀ name, earlier.after.status name ≠ .proven →
        later.after.status name = earlier.after.status name := by
  have hall : ∀ {owner passes}, CleanupPasses owner passes →
      (∀ pass ∈ passes, pass.Ledger) ∧ ∀ name, (owner.getD {}).status name ≠ .proven →
        ∀ pass ∈ passes, pass.after.status name = (owner.getD {}).status name := by
    intro owner passes h
    induction h with
    | stop owner => exact ⟨List.forall_mem_nil _, fun _ _ => List.forall_mem_nil _⟩
    | @pass state trace result passes run rest ih =>
        have hledger := ledger_of_run run
        refine ⟨List.forall_mem_cons.mpr ⟨hledger, ih.1⟩, fun name hunproven => ?_⟩
        have hafter : (result.residual.getD {}).status name = state.status name := by
          cases hname : state.status name with
          | proven => exact absurd hname hunproven
          | absent => exact (hledger.untouched name hname).2
          | identityUnconfirmed => exact (hledger.unconfirmed name hname).2
        refine List.forall_mem_cons.mpr ⟨hafter, fun pass hpass => ?_⟩
        rw [ih.2 name (by rw [hafter]; exact hunproven) pass hpass]
        exact hafter
  refine ⟨(hall h).1, ?_, ?_⟩
  · rintro name state rfl hname pass hpass
    exact ((hall h).2 name (hname.trans_ne (by decide)) pass hpass).trans hname
  · induction h with
    | stop owner => exact .nil
    | @pass state trace result passes run rest ih =>
        exact .cons (fun later hlater name hunproven => (hall rest).2 name hunproven later hlater) ih

def unconfirmedVeth : OwnerState where
  vethRoot := .identityUnconfirmed

/-- An nftables table that a pass removes while the veth pair is unconfirmed. -/
def connectedOwner : OwnerState where
  vethRoot := .identityUnconfirmed
  connectivityRoot := .proven ⟨{ recoveryRecord := ⟨.nftables, .applied, []⟩, table := [] }⟩

theorem cleanupPasses_ledger_connected :
    let passes : List CleanupPass := [
      ⟨connectedOwner, [clockRead 0, clockRead 1, clockRead 2,
        ⟨.removeConnectivity ⟨{ recoveryRecord := ⟨.nftables, .applied, []⟩, table := [] }⟩ 5000000002,
          ⟨.timeout, .absent⟩⟩],
        ⟨[⟨.cleanup, .incompleteCleanup⟩], some unconfirmedVeth⟩⟩,
      ⟨unconfirmedVeth, [clockRead 3], ⟨[⟨.cleanup, .incompleteCleanup⟩], some unconfirmedVeth⟩⟩]
    (∀ pass ∈ passes, pass.Ledger) ∧
      (∀ name state, some connectedOwner = some state → state.status name = .identityUnconfirmed →
        ∀ pass ∈ passes, pass.after.status name = .identityUnconfirmed) ∧
      passes.Pairwise fun earlier later => ∀ name, earlier.after.status name ≠ .proven →
        later.after.status name = earlier.after.status name :=
  cleanupPasses_ledger (.pass (.call 0 (.call 1 (.call 2 (.call _ (.done _))))) (.pass (.call 3 (.done _))
    (.stop _)))

end NetLagLab.NetworkEnvironment
