import Mathlib.Data.List.Perm.Subperm
import NetLagLab.SessionLifecycle
import NetLagLab.SupervisorConversation

/-! The outcome of a Session on its way to the Controller: the block of lines that the Supervisor writes,
which outcomes it refuses to write, and the parser that reads a block back as it arrives. -/

namespace NetLagLab

open ByteLines

def maximumControllerSessionOutcomeSize : Nat := 1024

inductive ControllerSessionOutcomeProtocolError where
  | invalidStructure
  | invalidValue
  | impossibleOutcome
  | messageTooLarge
  | incompleteInput
  | trailingData
  deriving DecidableEq

abbrev ControllerSessionOutcomeSerialization := Except ControllerSessionOutcomeProtocolError Bytes

inductive ControllerSessionOutcomeParseResult where
  | incomplete
  | outcome (outcome : SessionOutcome)
  | error (error : ControllerSessionOutcomeProtocolError)
  deriving DecidableEq

namespace ControllerSessionOutcome

def beginMarker : Bytes := ascii "SESSION_OUTCOME_BEGIN"

def endMarker : Bytes := ascii "SESSION_OUTCOME_END"

def workloadExitPrefix : Bytes := ascii "WORKLOAD EXIT "

def workloadSignalPrefix : Bytes := ascii "WORKLOAD SIGNAL "

def workloadUnknown : Bytes := ascii "WORKLOAD UNKNOWN"

def infrastructureOk : Bytes := ascii "INFRASTRUCTURE OK"

def infrastructureFailed : Bytes := ascii "INFRASTRUCTURE FAILED"

def failurePrefix : Bytes := ascii "FAILURE "

structure FailureWireMapping where
  failure : InfrastructureFailure
  code : Bytes
  deriving DecidableEq

def failureWireMappings : List FailureWireMapping :=
  [⟨.start, ascii "STARTUP"⟩, ⟨.conversation, ascii "HELPER_CONVERSATION"⟩,
    ⟨.profileState, ascii "PROFILE_STATE"⟩, ⟨.stopRequest, ascii "STOP_REQUEST"⟩,
    ⟨.cleanup, ascii "PRIVILEGED_CLEANUP"⟩, ⟨.launcherReaping, ascii "LAUNCHER_REAPING"⟩,
    ⟨.supervisorCleanup, ascii "SUPERVISOR_CLEANUP"⟩, ⟨.invalidEvent, ascii "INVALID_LIFECYCLE_EVENT"⟩]

def parseFailureCode (code : Bytes) : Option InfrastructureFailure :=
  (failureWireMappings.find? fun mapping => mapping.code = code).map FailureWireMapping.failure

def failureMapping (failure : InfrastructureFailure) : Option FailureWireMapping :=
  failureWireMappings.find? fun mapping => mapping.failure = failure

/-! ### Parsing -/

/-- The number of a Workload's result, read as the numbers of the helper are. -/
def parseBoundedDecimal (token : Bytes) (minimum maximum : Int) : Option Int := parseBoundedInteger token minimum maximum

def parseWorkloadLine (line : Bytes) : Except ControllerSessionOutcomeProtocolError (Option WorkloadResult) :=
  if line = workloadUnknown then .ok none
  else if workloadExitPrefix.isPrefixOf line then
    match parseBoundedDecimal (line.drop workloadExitPrefix.length) 0 255 with
    | none => .error .invalidValue
    | some value => .ok (some ⟨.exited, value⟩)
  else if workloadSignalPrefix.isPrefixOf line then
    match parseBoundedDecimal (line.drop workloadSignalPrefix.length) 1 127 with
    | none => .error .invalidValue
    | some value => .ok (some ⟨.signaled, value⟩)
  else .error .invalidStructure

/-- The lines of the failures and the end of the block. The flags of the mappings seen so far are those of the
failures collected so far. -/
def parseFailures (succeeded : Bool) (workload : Option WorkloadResult) (unfinished : Bytes) :
    List InfrastructureFailure → List Bytes → ControllerSessionOutcomeParseResult
  | _, [] => .incomplete
  | failures, line :: lines =>
      if line = endMarker then
        if lines ≠ [] ∨ unfinished ≠ [] then .error .trailingData
        else if succeeded = true ∧ failures ≠ [] then .error .impossibleOutcome
        else if succeeded = false ∧ failures = [] then .error .impossibleOutcome
        else .outcome ⟨workload, failures⟩
      else if succeeded = true ∨ failurePrefix.isPrefixOf line = false then .error .invalidStructure
      else
        match parseFailureCode (line.drop failurePrefix.length) with
        | none => .error .invalidStructure
        | some failure =>
            if failureMapping failure = none then .error .invalidStructure
            else if failure ∈ failures then .error .invalidStructure
            else parseFailures succeeded workload unfinished (failures ++ [failure]) lines

/-- The complete lines of the input, and what follows the last of them. -/
def parseLines (lines : List Bytes) (unfinished : Bytes) : ControllerSessionOutcomeParseResult :=
  match lines with
  | [] => .incomplete
  | begin :: lines =>
      if begin ≠ beginMarker then .error .invalidStructure
      else
        match lines with
        | [] => .incomplete
        | workloadLine :: lines =>
            match parseWorkloadLine workloadLine with
            | .error error => .error error
            | .ok workload =>
                match lines with
                | [] => .incomplete
                | infrastructureLine :: lines =>
                    let succeeded := decide (infrastructureLine = infrastructureOk)
                    if succeeded = false ∧ infrastructureLine ≠ infrastructureFailed then
                      .error .invalidStructure
                    else if succeeded = true ∧ workload = none then .error .impossibleOutcome
                    else parseFailures succeeded workload unfinished [] lines

def parseBlock (input : Bytes) : ControllerSessionOutcomeParseResult :=
  parseLines (splitLines input).1 (splitLines input).2

/-! ### Serialization -/

def validWorkloadForWire : Option WorkloadResult → Bool
  | none => true
  | some ⟨.exited, value⟩ => decide (0 ≤ value ∧ value ≤ 255)
  | some ⟨.signaled, value⟩ => decide (1 ≤ value ∧ value ≤ 127)
  | some ⟨.startFailure, _⟩ => false

/-- Every failure has a mapping, and none is seen twice. -/
def distinctFailures : List InfrastructureFailure → List InfrastructureFailure → Bool
  | _, [] => true
  | seen, failure :: failures =>
      if failureMapping failure = none then false
      else if failure ∈ seen then false
      else distinctFailures (failure :: seen) failures

def workloadLine : Option WorkloadResult → Bytes
  | none => workloadUnknown
  | some ⟨.exited, value⟩ => workloadExitPrefix ++ decimalTextInt value
  | some ⟨_, value⟩ => workloadSignalPrefix ++ decimalTextInt value

def infrastructureLine (outcome : SessionOutcome) : Bytes :=
  if outcome.infrastructureSucceeded = true then infrastructureOk else infrastructureFailed

def failureLine (failure : InfrastructureFailure) : Option Bytes :=
  (failureMapping failure).map fun mapping => failurePrefix ++ mapping.code

end ControllerSessionOutcome

open ControllerSessionOutcome

def serializeControllerSessionOutcome (outcome : SessionOutcome) : ControllerSessionOutcomeSerialization :=
  if validWorkloadForWire outcome.workload = false ∨
      outcome.infrastructureSucceeded = true ∧ outcome.workload = none then .error .impossibleOutcome
  else if distinctFailures [] outcome.infrastructureFailures = false then .error .impossibleOutcome
  else
    match outcome.infrastructureFailures.mapM failureLine with
    | none => .error .impossibleOutcome
    | some failures =>
        let block := encodeLines (beginMarker :: workloadLine outcome.workload :: infrastructureLine outcome ::
          failures ++ [endMarker])
        if maximumControllerSessionOutcomeSize < block.length then .error .messageTooLarge else .ok block

structure ControllerSessionOutcomeParser where
  buffer : Bytes := []
  completed : Bool := false
  deriving DecidableEq

namespace ControllerSessionOutcomeParser

def receive (parser : ControllerSessionOutcomeParser) (bytes : Bytes) :
    ControllerSessionOutcomeParser × ControllerSessionOutcomeParseResult :=
  if parser.completed = true then (parser, .error .trailingData)
  else if maximumControllerSessionOutcomeSize < parser.buffer.length + bytes.length then
    (parser, .error .messageTooLarge)
  else
    let buffer := parser.buffer ++ bytes
    match parseBlock buffer with
    | .outcome outcome => ({ buffer := buffer, completed := true }, .outcome outcome)
    | result => ({ parser with buffer := buffer }, result)

/-- The results of reads in turn. -/
def receiveAll : ControllerSessionOutcomeParser → List Bytes → List ControllerSessionOutcomeParseResult
  | _, [] => []
  | parser, bytes :: reads => (parser.receive bytes).2 :: (parser.receive bytes).1.receiveAll reads

end ControllerSessionOutcomeParser

/-! ### Which outcomes are written -/

/-- An outcome that a Controller can be told. -/
structure SessionOutcome.Deliverable (outcome : SessionOutcome) : Prop where
  workload : validWorkloadForWire outcome.workload = true
  known : outcome.infrastructureSucceeded = true → outcome.workload ≠ none
  once : outcome.infrastructureFailures.Nodup

namespace ControllerSessionOutcome

/-- Every failure has its own code. -/
theorem exists_failureMapping (failure : InfrastructureFailure) :
    ∃ mapping, failureMapping failure = some mapping ∧ parseFailureCode mapping.code = some failure ∧
      mapping.code.length ≤ 23 ∧ newline ∉ mapping.code ∧ mapping.failure = failure ∧
      mapping ∈ failureWireMappings := by
  cases failure <;> exact ⟨_, rfl, by decide⟩

/-- The line of a failure. -/
def lineOf (failure : InfrastructureFailure) : Bytes := (failureLine failure).getD []

theorem failureLine_eq (failure : InfrastructureFailure) : failureLine failure = some (lineOf failure) := by
  obtain ⟨mapping, hmapping, -⟩ := exists_failureMapping failure
  rw [lineOf, failureLine, hmapping]
  rfl

theorem mapM_failureLine (failures : List InfrastructureFailure) :
    failures.mapM failureLine = some (failures.map lineOf) := by
  induction failures with
  | nil => rfl
  | cons failure failures ih =>
      rw [List.mapM_cons, failureLine_eq, ih]
      rfl

theorem distinctFailures_iff {seen failures : List InfrastructureFailure} :
    distinctFailures seen failures = true ↔ failures.Nodup ∧ ∀ failure ∈ failures, failure ∉ seen := by
  induction failures generalizing seen with
  | nil => exact ⟨fun _ => ⟨List.nodup_nil, fun _ hmem => nomatch hmem⟩, fun _ => rfl⟩
  | cons failure failures ih =>
      obtain ⟨mapping, hmapping, -⟩ := exists_failureMapping failure
      rw [distinctFailures, if_neg (by rw [hmapping]; exact Option.some_ne_none mapping)]
      by_cases hseen : failure ∈ seen
      · rw [if_pos hseen]
        exact ⟨(fun h => nomatch h), fun h => absurd hseen (h.2 failure List.mem_cons_self)⟩
      · rw [if_neg hseen, ih, List.nodup_cons, List.forall_mem_cons]
        constructor
        · rintro ⟨hnodup, hnew⟩
          refine ⟨⟨fun hmem => hnew failure hmem List.mem_cons_self, hnodup⟩, hseen, fun other hother hmem => ?_⟩
          exact hnew other hother (List.mem_cons_of_mem _ hmem)
        · rintro ⟨⟨hnot, hnodup⟩, -, hnew⟩
          refine ⟨hnodup, fun other hother hmem => ?_⟩
          rcases List.mem_cons.mp hmem with rfl | hmem
          · exact hnot hother
          · exact hnew other hother hmem

/-- The lines of the block of an outcome. -/
def outcomeLines (outcome : SessionOutcome) : List Bytes :=
  beginMarker :: workloadLine outcome.workload :: infrastructureLine outcome ::
    outcome.infrastructureFailures.map lineOf ++ [endMarker]

section Lines

variable {outcome : SessionOutcome}

theorem workloadLine_spec {workload : Option WorkloadResult} (h : validWorkloadForWire workload = true) :
    parseWorkloadLine (workloadLine workload) = .ok workload ∧ newline ∉ workloadLine workload ∧
      (workloadLine workload).length ≤ 31 := by
  have hvalue : ∀ value : Int, 0 ≤ value → value ≤ 255 →
      newline ∉ decimalTextInt value ∧ (decimalTextInt value).length ≤ 3 := by
    intro value hnonneg hmaximum
    rw [show decimalTextInt value = decimalText value.toNat from if_neg (by omega)]
    exact ⟨newline_notMem_decimalText _, length_decimalText (by decide) (by omega)⟩
  -- the tenth byte tells the kinds apart
  have hother : ∀ {line other : Bytes}, (line.drop 9).head? ≠ (other.drop 9).head? → line ≠ other := by
    rintro line other hhead rfl
    exact hhead rfl
  rcases workload with _ | ⟨kind, value⟩
  · exact ⟨by decide, by decide, by decide⟩
  · cases kind with
    | startFailure => exact nomatch h
    | exited =>
        obtain ⟨hminimum, hmaximum⟩ := of_decide_eq_true h
        obtain ⟨hnewline, hlength⟩ := hvalue value hminimum hmaximum
        have hline : workloadLine (some ⟨.exited, value⟩) = workloadExitPrefix ++ decimalTextInt value := rfl
        have hparse := SupervisorHelperConversation.parseBoundedInteger_decimalTextInt hminimum hminimum hmaximum
          (by omega)
        have hstart : workloadExitPrefix.isPrefixOf (workloadExitPrefix ++ decimalTextInt value) = true :=
          List.isPrefixOf_iff_prefix.mpr (List.prefix_append _ _)
        have hunknown : workloadExitPrefix ++ decimalTextInt value ≠ workloadUnknown :=
          hother (show some _ ≠ some _ by decide)
        rw [hline]
        refine ⟨?_, fun hmem => (List.mem_append.mp hmem).elim (by decide) hnewline, ?_⟩
        · rw [parseWorkloadLine, if_neg hunknown, if_pos hstart, List.drop_left, parseBoundedDecimal,
            hparse]
        · rw [List.length_append, show workloadExitPrefix.length = 14 from rfl]
          omega
    | signaled =>
        obtain ⟨hminimum, hmaximum⟩ := of_decide_eq_true h
        obtain ⟨hnewline, hlength⟩ := hvalue value (by omega) (by omega)
        have hline : workloadLine (some ⟨.signaled, value⟩) = workloadSignalPrefix ++ decimalTextInt value := rfl
        have hparse := SupervisorHelperConversation.parseBoundedInteger_decimalTextInt
          (show 0 ≤ value by omega) hminimum hmaximum (by omega)
        have hstart : workloadSignalPrefix.isPrefixOf (workloadSignalPrefix ++ decimalTextInt value) = true :=
          List.isPrefixOf_iff_prefix.mpr (List.prefix_append _ _)
        have hexit : workloadExitPrefix.isPrefixOf (workloadSignalPrefix ++ decimalTextInt value) = false := rfl
        have hunknown : workloadSignalPrefix ++ decimalTextInt value ≠ workloadUnknown :=
          hother (show some _ ≠ some _ by decide)
        rw [hline]
        refine ⟨?_, fun hmem => (List.mem_append.mp hmem).elim (by decide) hnewline, ?_⟩
        · rw [parseWorkloadLine, if_neg hunknown, if_neg (Bool.eq_false_iff.mp hexit), if_pos hstart, List.drop_left,
            parseBoundedDecimal, hparse]
        · rw [List.length_append, show workloadSignalPrefix.length = 16 from rfl]
          omega

theorem lineOf_spec (failure : InfrastructureFailure) :
    lineOf failure ≠ endMarker ∧ failurePrefix.isPrefixOf (lineOf failure) = true ∧
      parseFailureCode ((lineOf failure).drop failurePrefix.length) = some failure ∧
      newline ∉ lineOf failure ∧ (lineOf failure).length ≤ 31 := by
  obtain ⟨mapping, hmapping, hparse, hlength, hnewline, -⟩ := exists_failureMapping failure
  have hline : lineOf failure = failurePrefix ++ mapping.code := by
    rw [lineOf, failureLine, hmapping]
    rfl
  have hend : failurePrefix ++ mapping.code ≠ endMarker := by
    intro heq
    exact absurd (congrArg List.head? heq) (show some _ ≠ some _ by decide)
  rw [hline, List.drop_left]
  refine ⟨hend, List.isPrefixOf_iff_prefix.mpr (List.prefix_append _ _), hparse,
    fun hmem => (List.mem_append.mp hmem).elim (by decide) hnewline, ?_⟩
  rw [List.length_append, show failurePrefix.length = 8 from rfl]
  omega

/-- The lines hold no newline, and the longest has 31 bytes. -/
theorem outcomeLines_spec (h : outcome.Deliverable) :
    ∀ line ∈ outcomeLines outcome, newline ∉ line ∧ line.length ≤ 31 := by
  obtain ⟨-, hworkload⟩ := workloadLine_spec h.workload
  have hinfrastructure : newline ∉ infrastructureLine outcome ∧ (infrastructureLine outcome).length ≤ 31 := by
    unfold infrastructureLine
    split <;> decide
  have hfailures : ∀ line ∈ outcome.infrastructureFailures.map lineOf, newline ∉ line ∧ line.length ≤ 31 := by
    intro line hline
    obtain ⟨failure, -, rfl⟩ := List.mem_map.mp hline
    exact (lineOf_spec failure).2.2.2
  rw [outcomeLines, List.forall_mem_append, List.forall_mem_cons, List.forall_mem_cons, List.forall_mem_cons,
    List.forall_mem_singleton]
  exact ⟨⟨by decide, hworkload, hinfrastructure, hfailures⟩, by decide⟩

theorem length_failures_le (h : outcome.infrastructureFailures.Nodup) :
    outcome.infrastructureFailures.length ≤ 8 := by
  have hsubset : outcome.infrastructureFailures ⊆ failureWireMappings.map FailureWireMapping.failure := by
    intro failure _
    obtain ⟨mapping, -, -, -, -, rfl, hmem⟩ := exists_failureMapping failure
    exact List.mem_map_of_mem hmem
  exact (h.subperm hsubset).length_le

theorem length_block_le (h : outcome.Deliverable) :
    (encodeLines (outcomeLines outcome)).length ≤ maximumControllerSessionOutcomeSize := by
  have hlines : (outcomeLines outcome).length = outcome.infrastructureFailures.length + 4 := by
    simp [outcomeLines]
  calc (encodeLines (outcomeLines outcome)).length
      ≤ (outcomeLines outcome).length * (31 + 1) :=
        length_encodeMarked_le fun line hline => (outcomeLines_spec h line hline).2
    _ ≤ (8 + 4) * (31 + 1) := by
        rw [hlines]
        exact Nat.mul_le_mul_right _ (Nat.add_le_add_right (length_failures_le h.once) 4)
    _ ≤ maximumControllerSessionOutcomeSize := by decide

end Lines

/-! ### Reading a block back -/

section Parse

variable {outcome : SessionOutcome}

/-- The lines of failures that differ from those before are collected. -/
theorem parseFailures_append {workload : Option WorkloadResult} {unfinished : Bytes}
    {seen failures : List InfrastructureFailure} (h : (seen ++ failures).Nodup) (rest : List Bytes) :
    parseFailures false workload unfinished seen (failures.map lineOf ++ rest) =
      parseFailures false workload unfinished (seen ++ failures) rest := by
  induction failures generalizing seen with
  | nil => rw [List.map_nil, List.nil_append, List.append_nil]
  | cons failure failures ih =>
      obtain ⟨hend, hstart, hcode, -⟩ := lineOf_spec failure
      obtain ⟨mapping, hmapping, -⟩ := exists_failureMapping failure
      have hnew : failure ∉ seen := fun hmem =>
        (List.disjoint_of_nodup_append h) hmem List.mem_cons_self
      have hrest : ((seen ++ [failure]) ++ failures).Nodup := by
        rwa [List.append_assoc, List.singleton_append]
      rw [List.map_cons, List.cons_append, parseFailures, if_neg hend, if_neg (by rw [hstart]; simp), hcode]
      dsimp only
      rw [if_neg (by rw [hmapping]; exact Option.some_ne_none mapping), if_neg hnew, ih hrest, List.append_assoc,
        List.singleton_append]

/-- The first three lines of a block are read back. -/
theorem parseLines_outcome (h : outcome.Deliverable) (lines : List Bytes) (unfinished : Bytes) :
    parseLines (beginMarker :: workloadLine outcome.workload :: infrastructureLine outcome :: lines) unfinished =
      parseFailures outcome.infrastructureSucceeded outcome.workload unfinished [] lines := by
  have hsucceeded : decide (infrastructureLine outcome = infrastructureOk) = outcome.infrastructureSucceeded := by
    unfold infrastructureLine
    cases outcome.infrastructureSucceeded <;> rfl
  have hknown : ¬ (outcome.infrastructureSucceeded = false ∧ infrastructureLine outcome ≠ infrastructureFailed) := by
    rintro ⟨hfailed, hline⟩
    rw [infrastructureLine, hfailed] at hline
    exact hline rfl
  have hpossible : ¬ (outcome.infrastructureSucceeded = true ∧ outcome.workload = none) :=
    fun hnone => h.known hnone.1 hnone.2
  unfold parseLines
  dsimp only
  rw [if_neg (not_not_intro rfl), (workloadLine_spec h.workload).1]
  dsimp only
  rw [hsucceeded, if_neg hknown, if_neg hpossible]

/-- A whole block is read back. -/
theorem parseBlock_block (h : outcome.Deliverable) :
    parseBlock (encodeLines (outcomeLines outcome)) = .outcome outcome := by
  have hsplit := splitAtMark_encodeMarked_append (fun line hline => (outcomeLines_spec h line hline).1) []
  rw [List.append_nil, splitAtMark_nil, List.append_nil] at hsplit
  rw [parseBlock, show splitLines _ = _ from hsplit, outcomeLines, List.cons_append, List.cons_append, List.cons_append, parseLines_outcome h]
  have hend : ∀ succeeded failures, (succeeded = true ↔ failures = []) →
      parseFailures succeeded outcome.workload [] failures [endMarker] = .outcome ⟨outcome.workload, failures⟩ := by
    intro succeeded failures hiff
    rw [parseFailures, if_pos rfl, if_neg (by simp), if_neg (by rw [hiff]; exact fun hboth => hboth.2 hboth.1),
      if_neg]
    rintro ⟨rfl, hnone⟩
    cases hiff.mpr hnone
  cases hsucceeded : outcome.infrastructureSucceeded with
  | true =>
      have hnone : outcome.infrastructureFailures = [] := List.isEmpty_iff.mp hsucceeded
      rw [hnone, List.map_nil, List.nil_append, hend true [] (by simp), ← hnone]
  | false =>
      have hsome : outcome.infrastructureFailures ≠ [] := fun hnone => by
        rw [SessionOutcome.infrastructureSucceeded, hnone] at hsucceeded
        cases hsucceeded
      rw [parseFailures_append (by simpa using h.once), List.nil_append, hend _ _ (by simpa using hsome)]

/-- A block that is not all there is incomplete. -/
theorem parseBlock_part (h : outcome.Deliverable) {part more : Bytes} (hmore : more ≠ [])
    (hblock : part ++ more = encodeLines (outcomeLines outcome)) : parseBlock part = .incomplete := by
  obtain ⟨rest, hlines, hrest⟩ :=
    splitAtMark_of_append_eq (fun line hline => (outcomeLines_spec h line hline).1) hblock
  rw [parseBlock]
  generalize (splitLines part).2 = unfinished at hrest
  generalize hfirst : (splitLines part).1 = first at hlines
  rcases List.eq_nil_or_concat rest with rfl | ⟨front, last, rfl⟩
  · rw [encodeMarked_nil, List.append_eq_nil_iff] at hrest
    exact absurd hrest.2 hmore
  · -- at least the end of the block is missing
    rw [outcomeLines, List.concat_eq_append, ← List.append_assoc] at hlines
    have hfront := (List.append_inj' hlines rfl).1
    clear hlines hfirst
    rcases first with _ | ⟨begin, _ | ⟨workload, _ | ⟨infrastructure, failures⟩⟩⟩
    · rfl
    · simp only [List.cons_append, List.cons.injEq] at hfront
      obtain ⟨rfl, -⟩ := hfront
      rfl
    · simp only [List.cons_append, List.cons.injEq] at hfront
      obtain ⟨rfl, rfl, -⟩ := hfront
      rw [parseLines, if_neg (not_not_intro rfl)]
      dsimp only
      rw [(workloadLine_spec h.workload).1]
    · simp only [List.cons_append, List.cons.injEq] at hfront
      obtain ⟨rfl, rfl, rfl, hcollected⟩ := hfront
      obtain ⟨seen, later, hfailures, rfl, -⟩ := List.map_eq_append_iff.mp hcollected
      rw [parseLines_outcome h]
      cases hsucceeded : outcome.infrastructureSucceeded with
      | true =>
          rw [List.isEmpty_iff.mp hsucceeded] at hfailures
          rw [(List.append_eq_nil_iff.mp hfailures.symm).1]
          rfl
      | false =>
          have hnodup : seen.Nodup := (hfailures ▸ h.once).of_append_left
          rw [← List.append_nil (seen.map lineOf), parseFailures_append (by simpa using hnodup)]
          rfl

end Parse

end ControllerSessionOutcome

section Delivery

variable {outcome : SessionOutcome}

/-- The outcomes that are written are the deliverable ones, and the block is that of the outcome. -/
theorem serializeControllerSessionOutcome_eq_ok_iff {block : Bytes} :
    serializeControllerSessionOutcome outcome = .ok block ↔
      outcome.Deliverable ∧ block = encodeLines (outcomeLines outcome) := by
  unfold serializeControllerSessionOutcome
  by_cases himpossible : validWorkloadForWire outcome.workload = false ∨
      outcome.infrastructureSucceeded = true ∧ outcome.workload = none
  · rw [if_pos himpossible]
    refine ⟨(fun h => nomatch h), fun h => ?_⟩
    rcases himpossible with hinvalid | ⟨hsucceeded, hnone⟩
    · exact nomatch hinvalid.symm.trans h.1.workload
    · exact absurd hnone (h.1.known hsucceeded)
  · rw [if_neg himpossible]
    rw [not_or, Bool.not_eq_false, not_and] at himpossible
    by_cases hrepeated : distinctFailures [] outcome.infrastructureFailures = false
    · rw [if_pos hrepeated]
      refine ⟨(fun h => nomatch h), fun h => ?_⟩
      have hdistinct := distinctFailures_iff.mpr ⟨h.1.once, fun _ _ => List.not_mem_nil⟩
      exact nomatch hrepeated.symm.trans hdistinct
    · rw [if_neg hrepeated, mapM_failureLine]
      rw [Bool.not_eq_false] at hrepeated
      have hdeliverable : outcome.Deliverable :=
        ⟨himpossible.1, himpossible.2, (distinctFailures_iff.mp hrepeated).1⟩
      change (if _ < (encodeLines (outcomeLines outcome)).length then _ else Except.ok _) = _ ↔ _
      rw [if_neg (Nat.not_lt.mpr (length_block_le hdeliverable)), Except.ok.injEq, eq_comm]
      exact ⟨fun h => ⟨hdeliverable, h⟩, fun h => h.2⟩

/-- A block read back in parts is incomplete up to its last byte and then the outcome it was written from. -/
theorem receiveAll_block (h : outcome.Deliverable) {reads : List Bytes} {last : Bytes} (hlast : last ≠ [])
    (hblock : reads.flatten ++ last = encodeLines (outcomeLines outcome)) :
    ControllerSessionOutcomeParser.receiveAll {} (reads ++ [last]) =
      List.replicate reads.length .incomplete ++ [.outcome outcome] := by
  have hfrom : ∀ {reads : List Bytes} {buffer : Bytes},
      buffer ++ (reads.flatten ++ last) = encodeLines (outcomeLines outcome) →
      ControllerSessionOutcomeParser.receiveAll { buffer := buffer } (reads ++ [last]) =
        List.replicate reads.length .incomplete ++ [.outcome outcome] := by
    have hbound := length_block_le h
    intro reads
    induction reads with
    | nil =>
        intro buffer hbuffer
        rw [List.flatten_nil, List.nil_append] at hbuffer
        rw [← hbuffer, List.length_append] at hbound
        have hparse : parseBlock (buffer ++ last) = .outcome outcome := by
          rw [hbuffer]
          exact parseBlock_block h
        rw [List.nil_append, ControllerSessionOutcomeParser.receiveAll, ControllerSessionOutcomeParser.receive,
          if_neg (by simp), if_neg (Nat.not_lt.mpr hbound)]
        dsimp only
        rw [hparse]
        rfl
    | cons bytes reads ih =>
        intro buffer hbuffer
        have hnext : buffer ++ bytes ++ (reads.flatten ++ last) = encodeLines (outcomeLines outcome) := by
          rw [← hbuffer, List.flatten_cons, List.append_assoc, List.append_assoc]
        have hmore : reads.flatten ++ last ≠ [] := fun hnil => hlast (List.append_eq_nil_iff.mp hnil).2
        have hpart := parseBlock_part h hmore hnext
        rw [← hnext, List.length_append, List.length_append] at hbound
        rw [List.cons_append, ControllerSessionOutcomeParser.receiveAll, ControllerSessionOutcomeParser.receive,
          if_neg (by simp), if_neg (by dsimp only; omega)]
        dsimp only
        rw [hpart]
        exact congrArg (List.cons _) (ih hnext)
  exact hfrom hblock

end Delivery

end NetLagLab
