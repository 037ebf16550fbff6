import NetLagLab.CleanupLedger

/-! The preparation as a transaction. The eleven operations of the setup run in their order, each after
a check of the clock; the ledger records what each of them reports. The first that is not started, fails
or gives no proof ends the setup, and the ledger is cleaned up. -/

namespace NetLagLab.NetworkEnvironment

open CallPrograms CallPrograms.Program

inductive SetupOperation where
  | preflight
  | createNamespace
  | createVeth
  | movePeer
  | assignHostAddress
  | bringHostLinkUp
  | bringLoopbackUp
  | assignNamespaceAddress
  | bringNamespaceLinkUp
  | addDefaultRoute
  | configureConnectivity
  deriving DecidableEq

namespace SetupOperation

def all : List SetupOperation :=
  [.preflight, .createNamespace, .createVeth, .movePeer, .assignHostAddress, .bringHostLinkUp,
    .bringLoopbackUp, .assignNamespaceAddress, .bringNamespaceLinkUp, .addDefaultRoute,
    .configureConnectivity]

def stage : SetupOperation → Stage
  | .preflight => .preflight
  | .createNamespace => .namespaceCreation
  | .createVeth => .vethCreation
  | .movePeer => .vethCreation
  | .assignHostAddress => .hostConfiguration
  | .bringHostLinkUp => .hostConfiguration
  | .bringLoopbackUp => .namespaceConfiguration
  | .assignNamespaceAddress => .namespaceConfiguration
  | .bringNamespaceLinkUp => .namespaceConfiguration
  | .addDefaultRoute => .routeConfiguration
  | .configureConnectivity => .internetConnectivity

/-- The call of an operation, for the proofs that the ledger holds. -/
def call (operation : SetupOperation) (state : OwnerState) (deadline : TimePoint) :
    Option EnvironmentCall :=
  match operation with
  | .preflight => some (.preflight deadline)
  | .createNamespace => some (.createNamespace deadline)
  | .createVeth => some (.createVeth deadline)
  | .movePeer => do
      return .movePeer (← state.namespaceRoot.proof?) (← hostVeth? state.vethRoot) deadline
  | .assignHostAddress => do return .assignHostAddress (← placedVeth? state.vethRoot) deadline
  | .bringHostLinkUp => do return .bringHostLinkUp (← placedVeth? state.vethRoot) deadline
  | .bringLoopbackUp => do return .bringLoopbackUp (← state.namespaceRoot.proof?) deadline
  | .assignNamespaceAddress => do
      return .assignNamespaceAddress (← state.namespaceRoot.proof?) (← placedVeth? state.vethRoot) deadline
  | .bringNamespaceLinkUp => do
      return .bringNamespaceLinkUp (← state.namespaceRoot.proof?) (← placedVeth? state.vethRoot) deadline
  | .addDefaultRoute => do
      return .addDefaultRoute (← state.namespaceRoot.proof?) (← placedVeth? state.vethRoot) deadline
  | .configureConnectivity => some (.configureConnectivity deadline)

end SetupOperation

/-- The ledger after the answer to an operation of the setup. -/
def OwnerState.acquire (state : OwnerState) : EnvironmentEvent → OwnerState
  | ⟨.createNamespace _, result⟩ => { state with namespaceRoot := result.state }
  | ⟨.createVeth _, result⟩ => { state with vethRoot := result.state }
  | ⟨.movePeer _ _ _, result⟩ => { state with vethRoot := result.state }
  | ⟨.configureConnectivity _, result⟩ => { state with connectivityRoot := result.state }
  | _ => state

/-- The cause for which a result ends the setup: its own, or that it succeeded without a proof. -/
def mutationFailure {Proof Required : Type} (required : Root Proof → Option Required)
    (result : MutationResult Proof) : Option Cause :=
  if !result.succeeded then some result.cause
  else if (required result.state).isNone then some .identityUnavailable
  else none

def operationFailure (result : OperationResult) : Option Cause :=
  if !result.succeeded then some result.cause else none

/-- The cause for which the answer to an operation ends the setup. -/
def setupFailure : EnvironmentEvent → Option Cause
  | ⟨.preflight _, result⟩ => operationFailure result
  | ⟨.createNamespace _, result⟩ => mutationFailure Root.proof? result
  | ⟨.createVeth _, result⟩ => mutationFailure hostVeth? result
  | ⟨.movePeer _ _ _, result⟩ => mutationFailure placedVeth? result
  | ⟨.assignHostAddress _ _, result⟩ => operationFailure result
  | ⟨.bringHostLinkUp _ _, result⟩ => operationFailure result
  | ⟨.bringLoopbackUp _ _, result⟩ => operationFailure result
  | ⟨.assignNamespaceAddress _ _ _, result⟩ => operationFailure result
  | ⟨.bringNamespaceLinkUp _ _ _, result⟩ => operationFailure result
  | ⟨.addDefaultRoute _ _ _, result⟩ => operationFailure result
  | ⟨.configureConnectivity _, result⟩ => mutationFailure Root.proof? result
  | _ => none

/-- Operations that run one after the other, each started in time and none of them ending the setup;
every call gets the deadline of its own clock read. -/
inductive Setup (setupDeadline : TimePoint) :
    List SetupOperation → OwnerState → List EnvironmentEvent → OwnerState → Prop
  | nil (state : OwnerState) : Setup setupDeadline [] state [] state
  | cons {operation : SetupOperation} {operations : List SetupOperation} {state after : OwnerState}
      {trace : List EnvironmentEvent} (checked read : TimePoint) (event : EnvironmentEvent)
      (early : checked < setupDeadline)
      (call : operation.call state (operationDeadline read setupDeadline) = some event.request)
      (passes : setupFailure event = none)
      (rest : Setup setupDeadline operations (state.acquire event) trace after) :
      Setup setupDeadline (operation :: operations) state
        (clockRead checked :: clockRead read :: event :: trace) after

/-- The operation that ends the setup: it is not started, or its answer ends it. -/
inductive EndsSetup (setupDeadline : TimePoint) (operation : SetupOperation) (state : OwnerState) :
    List EnvironmentEvent → Failure → OwnerState → Prop
  | notStarted (checked : TimePoint) (late : setupDeadline ≤ checked) :
      EndsSetup setupDeadline operation state [clockRead checked] ⟨operation.stage, .timeout⟩ state
  | failed (checked read : TimePoint) (event : EnvironmentEvent) (cause : Cause)
      (early : checked < setupDeadline)
      (call : operation.call state (operationDeadline read setupDeadline) = some event.request)
      (fails : setupFailure event = some cause) :
      EndsSetup setupDeadline operation state [clockRead checked, clockRead read, event]
        ⟨operation.stage, cause⟩ (state.acquire event)

/-- A setup that was ended: the cleanup gets the ledger as it was recorded by then. -/
inductive RolledBack (setupDeadline : TimePoint) (state : OwnerState) :
    List SetupOperation → List EnvironmentEvent → PreparationFailure → Prop
  | ended {done rest : List SetupOperation} {operation : SetupOperation} {before recorded : OwnerState}
      {setupTrace last rollback : List EnvironmentEvent} {primary : Failure} {result : CleanupResult}
      (setup : Setup setupDeadline done state setupTrace before)
      (ends : EndsSetup setupDeadline operation before last primary recorded)
      (cleans : Run (cleanup (some recorded)) rollback result)
      (ledger : (CleanupPass.mk recorded rollback result).Ledger) :
      RolledBack setupDeadline state (done ++ operation :: rest) (setupTrace ++ (last ++ rollback))
        ⟨primary, result.failures, result.residual⟩

/-! ### One operation -/

/-- How the operations that are left end. -/
inductive SetupOutcome (setupDeadline : TimePoint) (operations : List SetupOperation)
    (state : OwnerState) (trace : List EnvironmentEvent) : PreparationResult → Prop
  | prepared {after : OwnerState} (setup : Setup setupDeadline operations state trace after) :
      SetupOutcome setupDeadline operations state trace (.prepared after)
  | failed {failure : PreparationFailure}
      (rolledBack : RolledBack setupDeadline state operations trace failure) :
      SetupOutcome setupDeadline operations state trace (.failed failure)

variable {setupDeadline : TimePoint} {operation : SetupOperation} {operations : List SetupOperation}
  {state : OwnerState} {trace : List EnvironmentEvent} {result : PreparationResult}

theorem SetupOutcome.cons {checked read : TimePoint} {event : EnvironmentEvent}
    (early : checked < setupDeadline)
    (call : operation.call state (operationDeadline read setupDeadline) = some event.request)
    (passes : setupFailure event = none)
    (h : SetupOutcome setupDeadline operations (state.acquire event) trace result) :
    SetupOutcome setupDeadline (operation :: operations) state
      (clockRead checked :: clockRead read :: event :: trace) result := by
  cases h with
  | prepared setup => exact .prepared (.cons checked read event early call passes setup)
  | failed rolledBack =>
      cases rolledBack with
      | ended setup ends cleans ledger =>
          exact .failed (.ended (.cons checked read event early call passes setup) ends cleans ledger)

/-- The setup ends here, and what is recorded is cleaned up. -/
theorem SetupOutcome.ends {last rollback : List EnvironmentEvent} {recorded : OwnerState} {stage : Stage}
    {cause : Cause} (h : EndsSetup setupDeadline operation state last ⟨stage, cause⟩ recorded)
    (hrollback : Run (preparationFailure recorded stage cause) rollback result) :
    SetupOutcome setupDeadline (operation :: operations) state (last ++ rollback) result := by
  obtain ⟨first, cleaned, rest, rfl, hcleans, hrest⟩ := run_bind.mp hrollback
  obtain ⟨rfl, rfl⟩ := run_done.mp hrest
  rw [List.append_nil]
  exact show SetupOutcome setupDeadline ([] ++ operation :: operations) state ([] ++ (last ++ first)) _ from
    .failed (.ended (.nil state) h hcleans (ledger_of_run hcleans))

theorem run_setupOperation {α : Type} {stage : Stage} {run : TimePoint → EnvironmentProgram α}
    {next : α → EnvironmentProgram PreparationResult}
    (h : Run (setupOperation setupDeadline state stage run next) trace result) :
    (∃ checked rollback, setupDeadline ≤ checked ∧ trace = [clockRead checked] ++ rollback ∧
        Run (preparationFailure state stage .timeout) rollback result) ∨
      ∃ checked read calls answer rest, checked < setupDeadline ∧
        trace = clockRead checked :: clockRead read :: (calls ++ rest) ∧
        Run (run (operationDeadline read setupDeadline)) calls answer ∧ Run (next answer) rest result := by
  rw [setupOperation, bind_perform, run_call] at h
  obtain ⟨checked, rest, rfl, h⟩ := h
  by_cases hlate : setupDeadline ≤ checked
  · rw [if_pos hlate] at h
    exact Or.inl ⟨checked, rest, hlate, rfl, h⟩
  · rw [if_neg hlate, bind_perform, run_call] at h
    obtain ⟨read, more, rfl, h⟩ := h
    obtain ⟨calls, answer, rest, rfl, hcalls, hrest⟩ := run_bind.mp h
    exact Or.inr ⟨checked, read, calls, answer, rest, lt_of_not_ge hlate, rfl, hcalls, hrest⟩

/-- An operation of the setup and what comes after it. `recorded` is the ledger that its answer leads
to, and `fails` the cause for which the answer ends the setup. -/
theorem outcome_of_setupOperation {α : Type} {run : TimePoint → EnvironmentProgram α}
    {next : α → EnvironmentProgram PreparationResult} (recorded : α → OwnerState) (fails : α → Option Cause)
    (hcall : ∀ deadline calls answer, Run (run deadline) calls answer → ∃ event, calls = [event] ∧
      operation.call state deadline = some event.request ∧ state.acquire event = recorded answer ∧
      setupFailure event = fails answer)
    (hfails : ∀ answer cause trace result, fails answer = some cause → Run (next answer) trace result →
      Run (preparationFailure (recorded answer) operation.stage cause) trace result)
    (hpasses : ∀ answer trace result, fails answer = none → Run (next answer) trace result →
      SetupOutcome setupDeadline operations (recorded answer) trace result)
    (h : Run (setupOperation setupDeadline state operation.stage run next) trace result) :
    SetupOutcome setupDeadline (operation :: operations) state trace result := by
  rcases run_setupOperation h with ⟨checked, rollback, hlate, rfl, hrollback⟩ |
    ⟨checked, read, calls, answer, rest, hearly, rfl, hcalls, hrest⟩
  · exact .ends (.notStarted checked hlate) hrollback
  · obtain ⟨event, rfl, hevent, hrecorded, hfailure⟩ := hcall _ _ _ hcalls
    cases hfail : fails answer with
    | none =>
        refine .cons hearly hevent (hfailure.trans hfail) ?_
        rw [hrecorded]
        exact hpasses answer rest result hfail hrest
    | some cause =>
        have hends := EndsSetup.failed checked read event cause hearly hevent (hfailure.trans hfail)
        rw [hrecorded] at hends
        exact .ends hends (hfails answer cause rest result hfail hrest)

theorem outcome_of_runConfiguration (operation : SetupOperation)
    {run : TimePoint → EnvironmentProgram OperationResult}
    {next : EnvironmentProgram PreparationResult}
    (hcall : ∀ deadline calls answer, Run (run deadline) calls answer → ∃ event, calls = [event] ∧
      operation.call state deadline = some event.request ∧ state.acquire event = state ∧
      setupFailure event = operationFailure answer)
    (hnext : ∀ trace result, Run next trace result →
      SetupOutcome setupDeadline operations state trace result)
    (h : Run (runConfiguration setupDeadline state operation.stage run next) trace result) :
    SetupOutcome setupDeadline (operation :: operations) state trace result := by
  refine outcome_of_setupOperation (fun _ => state) operationFailure hcall ?_ ?_ h
  · intro answer cause trace result hfail hrest
    cases hsucceeded : answer.succeeded with
    | true => simp [operationFailure, hsucceeded] at hfail
    | false =>
        simp [operationFailure, hsucceeded] at hfail
        rw [hsucceeded, hfail] at hrest
        exact hrest
  · intro answer trace result hfail hrest
    cases hsucceeded : answer.succeeded with
    | true =>
        rw [hsucceeded] at hrest
        exact hnext trace result hrest
    | false => simp [operationFailure, hsucceeded] at hfail

theorem outcome_of_acquireRoot (operation : SetupOperation) {Proof Required : Type}
    {record : Root Proof → OwnerState}
    {required : Root Proof → Option Required}
    {run : TimePoint → EnvironmentProgram (MutationResult Proof)}
    {next : Required → OwnerState → EnvironmentProgram PreparationResult}
    (hcall : ∀ deadline calls answer, Run (run deadline) calls answer → ∃ event, calls = [event] ∧
      operation.call state deadline = some event.request ∧ state.acquire event = record answer.state ∧
      setupFailure event = mutationFailure required answer)
    (hnext : ∀ root proof trace result, required root = some proof →
      Run (next proof (record root)) trace result →
      SetupOutcome setupDeadline operations (record root) trace result)
    (h : Run (acquireRoot setupDeadline state operation.stage record required run next) trace result) :
    SetupOutcome setupDeadline (operation :: operations) state trace result := by
  refine outcome_of_setupOperation (fun answer => record answer.state) (mutationFailure required) hcall
    ?_ ?_ h
  · intro answer cause trace result hfail hrest
    cases hsucceeded : answer.succeeded with
    | false =>
        simp [mutationFailure, hsucceeded] at hfail
        rw [hsucceeded, hfail] at hrest
        exact hrest
    | true =>
        cases hproof : required answer.state with
        | some proof => simp [mutationFailure, hsucceeded, hproof] at hfail
        | none =>
            simp [mutationFailure, hsucceeded, hproof] at hfail
            rw [hsucceeded, hproof] at hrest
            rw [← hfail]
            exact hrest
  · intro answer trace result hfail hrest
    cases hsucceeded : answer.succeeded with
    | false => simp [mutationFailure, hsucceeded] at hfail
    | true =>
        cases hproof : required answer.state with
        | none => simp [mutationFailure, hsucceeded, hproof] at hfail
        | some proof =>
            rw [hsucceeded, hproof] at hrest
            exact hnext answer.state proof trace result hproof hrest

/-! ### The eleven operations -/

theorem outcome_of_prepareConnectivity (h : Run (prepareConnectivity setupDeadline state) trace result) :
    SetupOutcome setupDeadline [.configureConnectivity] state trace result := by
  refine outcome_of_acquireRoot .configureConnectivity
    (fun deadline calls answer hcalls => ⟨_, run_ask.mp hcalls, rfl, rfl, rfl⟩)
    (fun root proof rest last _ hrest => ?_) h
  obtain ⟨rfl, rfl⟩ := run_done.mp hrest
  exact .prepared (.nil _)

theorem outcome_of_prepareConfiguration {namespaceProof : NamespaceProof} {placedVeth : PlacedVethProof}
    (hnamespace : state.namespaceRoot = .proven namespaceProof)
    (hveth : state.vethRoot = .proven (.placed placedVeth))
    (h : Run (prepareConfiguration setupDeadline namespaceProof placedVeth state) trace result) :
    SetupOutcome setupDeadline
      [.assignHostAddress, .bringHostLinkUp, .bringLoopbackUp, .assignNamespaceAddress,
        .bringNamespaceLinkUp, .addDefaultRoute, .configureConnectivity] state trace result := by
  have hproof : state.namespaceRoot.proof? = some namespaceProof := by rw [hnamespace]; rfl
  have hplaced : placedVeth? state.vethRoot = some placedVeth := by rw [hveth]; rfl
  refine outcome_of_runConfiguration .assignHostAddress
    (fun deadline calls answer hcalls => ⟨_, run_ask.mp hcalls, ?_, rfl, rfl⟩) (fun _ _ h => ?_) h
  · simp [SetupOperation.call, hplaced]
  refine outcome_of_runConfiguration .bringHostLinkUp
    (fun deadline calls answer hcalls => ⟨_, run_ask.mp hcalls, ?_, rfl, rfl⟩) (fun _ _ h => ?_) h
  · simp [SetupOperation.call, hplaced]
  refine outcome_of_runConfiguration .bringLoopbackUp
    (fun deadline calls answer hcalls => ⟨_, run_ask.mp hcalls, ?_, rfl, rfl⟩) (fun _ _ h => ?_) h
  · simp [SetupOperation.call, hproof]
  refine outcome_of_runConfiguration .assignNamespaceAddress
    (fun deadline calls answer hcalls => ⟨_, run_ask.mp hcalls, ?_, rfl, rfl⟩) (fun _ _ h => ?_) h
  · simp [SetupOperation.call, hproof, hplaced]
  refine outcome_of_runConfiguration .bringNamespaceLinkUp
    (fun deadline calls answer hcalls => ⟨_, run_ask.mp hcalls, ?_, rfl, rfl⟩) (fun _ _ h => ?_) h
  · simp [SetupOperation.call, hproof, hplaced]
  refine outcome_of_runConfiguration .addDefaultRoute
    (fun deadline calls answer hcalls => ⟨_, run_ask.mp hcalls, ?_, rfl, rfl⟩) (fun _ _ h => ?_) h
  · simp [SetupOperation.call, hproof, hplaced]
  exact outcome_of_prepareConnectivity h

theorem outcome_of_prepareVeth {namespaceProof : NamespaceProof}
    (hnamespace : state.namespaceRoot = .proven namespaceProof)
    (h : Run (prepareVeth setupDeadline namespaceProof state) trace result) :
    SetupOutcome setupDeadline
      [.createVeth, .movePeer, .assignHostAddress, .bringHostLinkUp, .bringLoopbackUp,
        .assignNamespaceAddress, .bringNamespaceLinkUp, .addDefaultRoute, .configureConnectivity] state
      trace result := by
  have hproof : state.namespaceRoot.proof? = some namespaceProof := by rw [hnamespace]; rfl
  refine outcome_of_acquireRoot .createVeth
    (fun deadline calls answer hcalls => ⟨_, run_ask.mp hcalls, rfl, rfl, rfl⟩)
    (fun root hostVeth _ _ hhost h => ?_) h
  refine outcome_of_acquireRoot .movePeer
    (fun deadline calls answer hcalls => ⟨_, run_ask.mp hcalls, ?_, rfl, rfl⟩)
    (fun root placedVeth _ _ hplaced h => ?_) h
  · simp [SetupOperation.call, hproof, hhost]
  · have hveth : root = .proven (.placed placedVeth) := by
      unfold placedVeth? at hplaced
      split at hplaced
      · cases hplaced
        rfl
      · cases hplaced
    exact outcome_of_prepareConfiguration hnamespace hveth h

/-- A preparation either runs all operations or is rolled back. -/
theorem outcome_of_prepareNetworkEnvironment (h : Run prepareNetworkEnvironment trace result) :
    ∃ start rest, trace = clockRead start :: rest ∧
      SetupOutcome (start + transactionLimit) SetupOperation.all {} rest result := by
  rw [prepareNetworkEnvironment, bind_perform, run_call] at h
  obtain ⟨start, rest, rfl, h⟩ := h
  refine ⟨start, rest, rfl, ?_⟩
  refine outcome_of_runConfiguration .preflight
    (fun deadline calls answer hcalls => ⟨_, run_ask.mp hcalls, rfl, rfl, rfl⟩) (fun _ _ h => ?_) h
  refine outcome_of_acquireRoot .createNamespace
    (fun deadline calls answer hcalls => ⟨_, run_ask.mp hcalls, rfl, rfl, rfl⟩)
    (fun root namespaceProof _ _ hproof h => ?_) h
  have hnamespace : root = .proven namespaceProof := by
    cases root <;> cases hproof
    rfl
  exact outcome_of_prepareVeth hnamespace h

/-! ### The transaction -/

theorem clockRead_inj {time other : TimePoint} : clockRead time = clockRead other ↔ time = other := by
  simp [clockRead]

theorem Setup.cons_inv {after : OwnerState}
    (h : Setup setupDeadline (operation :: operations) state trace after) :
    ∃ checked read event rest, trace = clockRead checked :: clockRead read :: event :: rest ∧
      checked < setupDeadline ∧ setupFailure event = none ∧
      Setup setupDeadline operations (state.acquire event) rest after := by
  cases h with
  | cons checked read event early call passes rest =>
      exact ⟨checked, read, event, _, rfl, early, passes, rest⟩

/-- The operation that ends the setup does not pass. -/
theorem EndsSetup.not_setup {last rollback : List EnvironmentEvent} {primary : Failure}
    {recorded after : OwnerState} (h : EndsSetup setupDeadline operation state last primary recorded) :
    ¬Setup setupDeadline (operation :: operations) state (last ++ rollback) after := by
  intro hsetup
  obtain ⟨checked, read, event, rest, htrace, hearly, hpasses, -⟩ := hsetup.cons_inv
  cases h with
  | notStarted other late =>
      rw [List.singleton_append, List.cons.injEq, clockRead_inj] at htrace
      exact absurd hearly (not_lt_of_ge (htrace.1 ▸ late))
  | failed other otherRead otherEvent cause early call fails =>
      simp only [List.cons_append, List.cons.injEq] at htrace
      rw [htrace.2.2.1, hpasses] at fails
      cases fails

theorem RolledBack.not_setup {failure : PreparationFailure} {after : OwnerState}
    (h : RolledBack setupDeadline state operations trace failure) :
    ¬Setup setupDeadline operations state trace after := by
  cases h with
  | ended setup ends cleans ledger =>
      clear cleans ledger
      induction setup with
      | nil state => exact ends.not_setup
      | cons checked read event early call passes rest ih =>
          intro hsetup
          obtain ⟨_, _, _, _, htrace, -, -, hrest⟩ := hsetup.cons_inv
          simp only [List.cons_append, List.cons.injEq] at htrace
          obtain ⟨-, -, rfl, rfl⟩ := htrace
          exact ih ends hrest

/-- A preparation gives an environment exactly when all its operations ran in their order, each started
in time, succeeding and giving its proof. Else the first that did not ends it, and what is recorded by
then is cleaned up. -/
theorem prepareNetworkEnvironment_transaction (h : Run prepareNetworkEnvironment trace result) :
    ∃ start rest, trace = clockRead start :: rest ∧
      ((∃ prepared, result = .prepared prepared) ↔
        ∃ after, Setup (start + transactionLimit) SetupOperation.all {} rest after) ∧
      (∀ prepared, result = .prepared prepared →
        Setup (start + transactionLimit) SetupOperation.all {} rest prepared) ∧
      ∀ failure, result = .failed failure →
        RolledBack (start + transactionLimit) {} SetupOperation.all rest failure := by
  obtain ⟨start, rest, htrace, houtcome⟩ := outcome_of_prepareNetworkEnvironment h
  refine ⟨start, rest, htrace, ?_⟩
  cases houtcome with
  | @prepared after setup =>
      refine ⟨⟨fun _ => ⟨after, setup⟩, fun _ => ⟨after, rfl⟩⟩, fun other hother => ?_, fun failure hfailure => ?_⟩
      · cases hother
        exact setup
      · cases hfailure
  | @failed failure rolledBack =>
      refine ⟨⟨?_, ?_⟩, fun other hother => ?_, fun other hother => ?_⟩
      · rintro ⟨prepared, hprepared⟩
        cases hprepared
      · rintro ⟨after, setup⟩
        exact absurd setup rolledBack.not_setup
      · cases hother
      · cases hother
        exact rolledBack

/-- The namespace is made although its creation fails, and the rollback removes it. -/
theorem prepareNetworkEnvironment_transaction_rollback :
    ∃ start rest, [clockRead 0, clockRead 1, clockRead 2, ⟨.preflight 5000000002, ⟨true, .timeout⟩⟩,
        clockRead 3, clockRead 4,
        ⟨.createNamespace 5000000004, ⟨false, .commandExit, .proven ⟨⟨1, 2⟩⟩⟩⟩,
        clockRead 5, clockRead 6, clockRead 7,
        ⟨.removeNamespace ⟨⟨1, 2⟩⟩ 5000000007, ⟨.timeout, .absent⟩⟩] = clockRead start :: rest ∧
      ((∃ prepared, PreparationResult.failed ⟨⟨.namespaceCreation, .commandExit⟩, [], none⟩ =
          .prepared prepared) ↔
        ∃ after, Setup (start + transactionLimit) SetupOperation.all {} rest after) ∧
      (∀ prepared, PreparationResult.failed ⟨⟨.namespaceCreation, .commandExit⟩, [], none⟩ =
          .prepared prepared →
        Setup (start + transactionLimit) SetupOperation.all {} rest prepared) ∧
      ∀ failure, PreparationResult.failed ⟨⟨.namespaceCreation, .commandExit⟩, [], none⟩ =
          .failed failure →
        RolledBack (start + transactionLimit) {} SetupOperation.all rest failure :=
  prepareNetworkEnvironment_transaction (.call 0 (.call 1 (.call 2 (.call _ (.call 3 (.call 4 (.call _
    (.call 5 (.call 6 (.call 7 (.call _ (.done _))))))))))))

end NetLagLab.NetworkEnvironment
