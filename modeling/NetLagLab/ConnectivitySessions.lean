import NetLagLab.ConnectivityOwnership

/-! Runs of the connectivity code on a host whose tools may do anything. Planning only looks; between two
writes of the journal only the tools of the record are run. So a Session can die after any call of its
connectivity's life, and what it leaves is recoverable by the record in the journal. -/

namespace NetLagLab.NetworkEnvironment

open ByteLines CallPrograms CallPrograms.Program

/-! ### What the programs call -/

section Calls

variable {α : Type} {allowed : HostCall → Prop} {post : α → Prop}

@[simp] theorem confined_runTool {path : Bytes} {command : ToolCommand} {deadline : TimePoint}
    {next : CommandResult → HostProgram α} :
    Confined allowed post (runTool path command deadline >>= next) ↔
      allowed (.runTool path command deadline maximumToolOutput) ∧
        ∀ result, Confined allowed post (next result) := Iff.rfl

@[simp] theorem confined_callHost {request : HostCall} {next : HostAnswer request → HostProgram α} :
    Confined allowed post (callHost request >>= next) ↔
      allowed request ∧ ∀ answer, Confined allowed post (next answer) := Iff.rfl

@[simp] theorem confined_queryTool {path : Bytes} {next : ToolQuery → HostProgram α} :
    Confined allowed post (queryTool path >>= next) ↔
      allowed (.queryTool path) ∧ ∀ query, Confined allowed post (next query) := Iff.rfl

/-- A path that is found is one of the trusted ones. -/
theorem findTrustedPath_confined (h : ∀ path, allowed (.queryTool path)) (paths : List Bytes) :
    Confined allowed (fun lookup => ∀ path, lookup.path = some path → path ∈ paths) (findTrustedPath paths) := by
  induction paths with
  | nil => exact fun path hpath => absurd hpath (by simp)
  | cons first paths ih =>
      rw [findTrustedPath, confined_queryTool]
      refine ⟨h first, fun query => ?_⟩
      split
      · exact fun path hpath => absurd hpath (by simp)
      · split
        · intro path hpath
          rw [Option.some.injEq] at hpath
          exact hpath ▸ List.mem_cons_self
        · exact ih.imp fun lookup hlookup path hpath => List.mem_cons_of_mem first (hlookup path hpath)

theorem path_ne_nil {tool : Tool} {path : Bytes} (h : path ∈ tool.paths) : path ≠ [] := by
  rintro rfl
  cases tool with
  | _ => exact absurd h (by decide)

theorem findTrustedTool_confined (h : ∀ path, allowed (.queryTool path)) (tool : Tool) :
    Confined allowed (fun lookup => ∀ path, lookup.path = some path → path ≠ []) (findTrustedTool tool) :=
  (findTrustedPath_confined h tool.paths).imp fun _ hlookup path hpath => path_ne_nil (hlookup path hpath)

theorem toolPath_confined (h : ∀ path, allowed (.queryTool path)) (tool : Tool) :
    Confined allowed (fun found => ∀ path, found = some path → path ≠ []) (toolPath tool) := by
  refine confined_bind ((findTrustedTool_confined h tool).imp fun lookup hlookup path hpath => ?_)
  split at hpath
  · exact hlookup path hpath
  · exact absurd hpath (by simp)

theorem inspectFirewalld_confined {path : Bytes} {deadline : TimePoint}
    (h : allowed (.runTool path .firewalldState deadline maximumToolOutput)) :
    Confined allowed (fun _ => True) (inspectFirewalld path deadline) := by
  rw [inspectFirewalld, confined_runTool]
  refine ⟨h, fun result => ?_⟩
  split
  · trivial
  · split <;> trivial

theorem ufwRulePresent_confined {path token : Bytes} {deadline : TimePoint}
    (h : allowed (.runTool path .ufwStatusNumbered deadline maximumToolOutput)) :
    Confined allowed (fun _ => True) (ufwRulePresent path deadline token) := by
  rw [ufwRulePresent, confined_runTool]
  refine ⟨h, fun result => ?_⟩
  split <;> trivial

end Calls

/-! ### Removal -/

/-- A handle of the record: its backend, its token and its table. -/
structure HandleOf (record : RecoveryRecord) (handle : ConnectivityHandle) : Prop where
  backend : handle.recoveryRecord.backend = record.backend
  token : handle.recoveryRecord.token = record.token
  table : handle.table = tableName record.token

section Removal

variable {record : RecoveryRecord} {zone : Bytes} {opened : Prop} {handle : ConnectivityHandle}
  {deadline : TimePoint}

theorem toolCall_query {path : Bytes} {command : ToolCommand} {limit : Nat} (h : command.isMutation = false) :
    ToolCall record zone opened (.runTool path command deadline limit) :=
  ToolCommand.own_of_query h

theorem removeUfwRule_confined (hhandle : HandleOf record handle) (hbackend : record.backend = .ufw)
    (hopened : opened) : Confined (ToolCall record zone opened) (fun _ => True) (removeUfwRule handle deadline) := by
  refine confined_bind ((ufwRulePresent_confined (toolCall_query rfl)).imp fun present _ => ?_)
  rcases present with _ | _ | _
  · trivial
  · trivial
  · refine confined_runTool.mpr ⟨?_, fun deletion => ?_⟩
    · have hcomment : marker handle.recoveryRecord.token = marker record.token := by rw [hhandle.token]
      exact ⟨⟨hbackend, hcomment⟩, fun _ => hopened, (fun _ h => nomatch h), fun _ _ h => nomatch h⟩
    · split
      · trivial
      · refine confined_bind ((ufwRulePresent_confined (toolCall_query rfl)).imp fun remains _ => ?_)
        split <;> trivial

theorem removeFirewalldPolicy_confined (hhandle : HandleOf record handle)
    (hbackend : record.backend = .firewalld) (hopened : opened) :
    Confined (ToolCall record zone opened) (fun _ => True) (removeFirewalldPolicy handle deadline) := by
  refine confined_runTool.mpr ⟨toolCall_query rfl, fun current => ?_⟩
  split
  · refine confined_bind ((inspectFirewalld_confined (toolCall_query rfl)).imp fun active _ => ?_)
    split
    · trivial
    · split <;> trivial
  · split
    · trivial
    · refine confined_runTool.mpr ⟨?_, fun deletion => ?_⟩
      · have hpolicy : marker handle.recoveryRecord.token = marker record.token := by rw [hhandle.token]
        exact ⟨⟨hbackend, hpolicy⟩, fun _ => hopened, (fun _ h => nomatch h), fun _ _ h => nomatch h⟩
      · split
        · trivial
        · refine confined_runTool.mpr ⟨toolCall_query rfl, fun afterDeletion => ?_⟩
          split
          · trivial
          · split
            · trivial
            · refine confined_bind ((inspectFirewalld_confined (toolCall_query rfl)).imp fun active _ => ?_)
              split <;> trivial

theorem removeFirewall_confined (hhandle : HandleOf record handle) (hopened : opened) :
    Confined (ToolCall record zone opened) (fun _ => True) (removeFirewall handle deadline) := by
  rw [removeFirewall]
  split
  · rename_i hbackend
    exact removeUfwRule_confined hhandle (hhandle.backend.symm.trans hbackend) hopened
  · rename_i hbackend
    exact removeFirewalldPolicy_confined hhandle (hhandle.backend.symm.trans hbackend) hopened
  · trivial

/-- The failures of a removal: it keeps the proof, or the identity is not confirmed. -/
def KeepsProof (handle : ConnectivityHandle) (removed : Except ConnectivityRemovalResult Unit) : Prop :=
  ∀ failure, removed = .error failure →
    failure.state = .identityUnconfirmed ∨ failure.state = .proven ⟨handle⟩

theorem keepsProof_ok : KeepsProof handle (.ok ()) := fun _ h => nomatch h

theorem keepsProof_stillOwned (cause : Cause) : KeepsProof handle (.error (stillOwned handle cause)) := by
  intro failure h
  rw [Except.error.injEq] at h
  exact Or.inr (h ▸ rfl)

theorem removeTable_confined (hhandle : HandleOf record handle) (nftPath : Bytes) :
    Confined (ToolCall record zone opened) (KeepsProof handle) (removeTable handle deadline nftPath) := by
  refine confined_runTool.mpr ⟨toolCall_query rfl, fun tableQuery => ?_⟩
  split
  · split
    · intro failure h
      rw [Except.error.injEq] at h
      exact Or.inl (h ▸ rfl)
    · refine confined_runTool.mpr ⟨?_, fun deletion => ?_⟩
      · exact ⟨hhandle.table, (fun h => nomatch (show false = true from h)), (fun _ h => nomatch h),
          fun _ _ h => nomatch h⟩
      · split
        · exact keepsProof_stillOwned _
        · refine confined_runTool.mpr ⟨toolCall_query rfl, fun afterDeletion => ?_⟩
          split
          · exact keepsProof_stillOwned _
          · exact keepsProof_ok
  · split
    · exact keepsProof_stillOwned _
    · exact keepsProof_ok

theorem knownNftPath_confined :
    Confined (ToolCall record zone opened) (fun _ => True) (knownNftPath handle) := by
  rw [knownNftPath]
  split
  · exact (toolPath_confined (fun _ => trivial) .nft).imp fun _ _ => trivial
  · trivial

theorem removeRecordedTable_confined (hhandle : HandleOf record handle) :
    Confined (ToolCall record zone opened) (KeepsProof handle) (removeRecordedTable handle deadline) := by
  refine confined_bind (knownNftPath_confined.imp fun nftPath _ => ?_)
  cases nftPath with
  | none => exact keepsProof_stillOwned _
  | some nftPath => exact removeTable_confined hhandle nftPath

/-- A removal runs the tools of its record only, those of the firewall only when the handle has it open. -/
theorem removeRecorded_confined (hhandle : HandleOf record handle) :
    Confined (ToolCall record zone (handle.firewallPath ≠ [])) (KeepsProof handle)
      (removeRecorded handle deadline) := by
  rw [removeRecorded]
  split
  · exact removeRecordedTable_confined hhandle
  · rename_i hopened
    refine confined_bind ((removeFirewall_confined hhandle hopened).imp fun firewallCleanup _ => ?_)
    split
    · exact keepsProof_stillOwned _
    · exact removeRecordedTable_confined hhandle

end Removal

/-! ### Planning -/

/-- What a plan needs for its handle to be able to undo it. -/
structure PlanOf (token : Bytes) (plan : ConnectivityPlan) : Prop where
  token : plan.record.token = token
  firewallPath : plan.record.backend = .nftables ∨ plan.firewallPath ≠ []
  zone : plan.record.backend = .firewalld → ValidZone plan.firewallZone

section Planning

variable {deadline : TimePoint}

theorem inspection_query {path : Bytes} {command : ToolCommand} {limit : Nat} (h : command.isMutation = false) :
    Inspection (.runTool path command deadline limit) := h

theorem inspectUfw_confined (path : Bytes) : Confined Inspection (fun _ => True) (inspectUfw path deadline) := by
  refine confined_runTool.mpr ⟨inspection_query rfl, fun result => ?_⟩
  split
  · trivial
  · split
    · trivial
    · split <;> trivial

theorem inspectIpv4PolicyRouting_confined (path : Bytes) :
    Confined Inspection (fun _ => True) (inspectIpv4PolicyRouting path deadline) := by
  refine confined_runTool.mpr ⟨inspection_query rfl, fun result => ?_⟩
  split <;> trivial

theorem inspectDevices_confined (path : Bytes) (devices : List Bytes) :
    Confined Inspection (fun _ => True) (inspectDevices path deadline devices) := by
  induction devices with
  | nil => trivial
  | cons device devices ih =>
      refine confined_runTool.mpr ⟨inspection_query rfl, fun link => ?_⟩
      split
      · trivial
      · split
        · trivial
        · exact ih

theorem inspectIpv4DefaultRouteInterfaces_confined (path : Bytes) :
    Confined Inspection (fun _ => True) (inspectIpv4DefaultRouteInterfaces path deadline) := by
  refine confined_runTool.mpr ⟨inspection_query rfl, fun routes => ?_⟩
  split
  · trivial
  · split
    · exact inspectDevices_confined path _
    · trivial

theorem inspectRouting_confined (ipPath : Bytes) :
    Confined Inspection (fun _ => True) (inspectRouting ipPath deadline) := by
  refine confined_bind ((inspectIpv4PolicyRouting_confined ipPath).imp fun policyRouting _ => ?_)
  rcases policyRouting with _ | _ | _
  · trivial
  · trivial
  · refine confined_bind ((inspectIpv4DefaultRouteInterfaces_confined ipPath).imp fun interfaces _ => ?_)
    rcases interfaces with _ | _ | _ <;> trivial

theorem inspectInstalled_confined {path : Option Bytes} {inspect : Bytes → HostProgram (Option Bool)}
    (h : ∀ path, Confined Inspection (fun _ => True) (inspect path)) :
    Confined Inspection (fun active => active = some true → path.isSome = true)
      (inspectInstalled path inspect) := by
  cases path with
  | none => exact fun h => nomatch h
  | some path => exact (h path).imp fun _ _ _ => rfl

theorem inspectRuleset_confined (nftPath : Bytes) (legacyRules firewallActive : Bool) :
    Confined Inspection (fun _ => True) (inspectRuleset nftPath legacyRules firewallActive deadline) := by
  rw [inspectRuleset, runToolWithin, confined_callHost]
  refine ⟨inspection_query rfl, fun ruleset => ?_⟩
  split
  · trivial
  · split
    · trivial
    · split <;> trivial

theorem getD_ne_nil {path : Option Bytes} (hsome : path.isSome = true)
    (h : ∀ found, path = some found → found ≠ []) : path.getD [] ≠ [] := by
  obtain ⟨found, rfl⟩ := Option.isSome_iff_exists.mp hsome
  exact h found rfl

/-- A firewall that is selected has the path of its tool. -/
theorem selectFirewall_confined (legacyRules : Bool) :
    Confined Inspection (fun selected => ∀ selection, selected = .ok selection →
      selection.backend = .nftables ∨ selection.firewallPath ≠ []) (selectFirewall legacyRules deadline) := by
  have herror (cause : Cause) (selection : FirewallSelection)
      (h : (.error cause : Except Cause FirewallSelection) = .ok selection) :
      selection.backend = .nftables ∨ selection.firewallPath ≠ [] := nomatch h
  refine confined_bind ((findTrustedTool_confined (fun _ => trivial) .nft).imp fun nft _ => ?_)
  split
  · refine confined_bind ((findTrustedTool_confined (fun _ => trivial) .ufw).imp fun ufw hufw => ?_)
    refine confined_bind ((findTrustedTool_confined (fun _ => trivial) .firewallCmd).imp
      fun firewalld hfirewalld => ?_)
    split
    · exact herror _
    · refine confined_bind ((inspectInstalled_confined inspectUfw_confined).imp fun ufwStatus hufwStatus => ?_)
      refine confined_bind ((inspectInstalled_confined fun _ =>
        inspectFirewalld_confined (inspection_query rfl)).imp fun firewalldStatus hfirewalldStatus => ?_)
      split
      · rename_i ufwActive firewalldActive
        split
        · exact herror _
        · refine confined_bind ((inspectRuleset_confined _ _ _).imp fun ruleset _ => ?_)
          split
          · exact herror _
          · split
            · rename_i hactive
              rintro selection ⟨⟩
              exact Or.inr (getD_ne_nil (hufwStatus (by rw [hactive])) hufw)
            · split
              · rename_i hactive
                rintro selection ⟨⟩
                exact Or.inr (getD_ne_nil (hfirewalldStatus (by rw [hactive])) hfirewalld)
              · rintro selection ⟨⟩
                exact Or.inl rfl
      · exact herror _
  · exact herror _

theorem requestConsent_confined (description : Bytes) :
    Confined Inspection (fun _ => True) (requestConsent description deadline) := by
  rw [requestConsent, confined_callHost]
  refine ⟨trivial, fun consentStarted => ?_⟩
  split
  · trivial
  · refine confined_callHost.mpr ⟨trivial, fun consent => ?_⟩
    cases consent with
    | granted => exact ⟨trivial, fun _ => trivial⟩
    | _ => trivial

theorem firewalldIngressZone_confined (path : Bytes) :
    Confined Inspection (fun found => ∀ zone, found = some zone → ValidZone zone)
      (firewalldIngressZone path deadline) := by
  rw [firewalldIngressZone, confined_runTool]
  refine ⟨inspection_query rfl, fun result => ?_⟩
  split
  · exact fun zone h => nomatch h
  · dsimp only
    split
    · exact fun zone h => nomatch h
    · rename_i hzone
      rintro zone ⟨⟩
      rw [not_or, not_or, Bool.not_eq_false] at hzone
      exact ⟨hzone.1, hzone.2.2⟩

/-- The plan once the token is made. -/
theorem planSelected_confined {token : Bytes} {selection : FirewallSelection}
    (hselection : selection.backend = .nftables ∨ selection.firewallPath ≠ []) :
    Confined Inspection (fun planned => ∀ plan, planned = .ok plan → PlanOf token plan)
      (planSelected selection token deadline) := by
  have herror (cause : Cause) (plan : ConnectivityPlan)
      (h : (.error cause : Except Cause ConnectivityPlan) = .ok plan) : PlanOf token plan := nomatch h
  rw [planSelected]
  split
  · rename_i hbackend
    rintro plan ⟨⟩
    exact ⟨rfl, Or.inl hbackend, fun h => nomatch hbackend.symm.trans h⟩
  · rename_i hbackend
    refine confined_bind ((requestConsent_confined _).imp fun consented _ => ?_)
    split
    · exact herror _
    · rintro plan ⟨⟩
      refine ⟨rfl, hselection, fun h => nomatch hbackend.symm.trans h⟩
  · rename_i hbackend
    refine confined_bind ((firewalldIngressZone_confined _).imp fun found hzone => ?_)
    split
    · exact herror _
    · refine confined_bind ((requestConsent_confined _).imp fun consented _ => ?_)
      split
      · exact herror _
      · rintro plan ⟨⟩
        exact ⟨rfl, hselection, fun _ => hzone _ rfl⟩

variable {defaults : NewPolicySettings} {token : Bytes} {journal : Option RecoveryRecord} {host : Host}

/-- Programs that only look leave a host without the token as it is. -/
theorem safe_of_inspection {α : Type} {post : α → Prop} {program : HostProgram α}
    (h : Confined Inspection post program) (habsent : host.firewall.Absent token)
    (hjournal : host.journal = journal) :
    Safe (sessionHost defaults token) (LooksOnly token journal)
      (fun result after => post result ∧ after.firewall.Absent token ∧ after.journal = journal) program host :=
  h.safe (fun _ _ _ _ hcall hbefore hstep => inspection_step hcall hbefore.1 hbefore.2 hstep) ⟨habsent, hjournal⟩

/-- One call that only looks. -/
theorem safe_inspection {α : Type} {post : α → Host → Prop} {request : HostCall}
    {next : HostAnswer request → HostProgram α} (hcall : Inspection request)
    (habsent : host.firewall.Absent token) (hjournal : host.journal = journal)
    (h : ∀ answer after, sessionHost defaults token host request answer after →
      after.firewall.Absent token → after.journal = journal →
      Safe (sessionHost defaults token) (LooksOnly token journal) post (next answer) after) :
    Safe (sessionHost defaults token) (LooksOnly token journal) post (callHost request >>= next) host := by
  intro answer after hstep
  obtain ⟨hlooks, habsent', hjournal'⟩ := inspection_step hcall habsent hjournal hstep
  exact ⟨hlooks, h answer after hstep habsent' hjournal'⟩

/-- The plan is for the token of the Session, and the host is as it was. -/
def Planned (token : Bytes) (journal : Option RecoveryRecord) (planned : Except Cause ConnectivityPlan)
    (after : Host) : Prop :=
  (∀ plan, planned = .ok plan → PlanOf token plan) ∧ after.firewall.Absent token ∧ after.journal = journal

theorem planned_error {cause : Cause} (habsent : host.firewall.Absent token) (hjournal : host.journal = journal) :
    Planned token journal (.error cause) host :=
  ⟨(fun _ h => nomatch h), habsent, hjournal⟩

theorem planBackend_session {selection : FirewallSelection}
    (hselection : selection.backend = .nftables ∨ selection.firewallPath ≠ [])
    (habsent : host.firewall.Absent token) (hjournal : host.journal = journal) :
    Safe (sessionHost defaults token) (LooksOnly token journal) (Planned token journal)
      (planBackend selection deadline) host := by
  refine safe_inspection trivial habsent hjournal fun created after hstep habsent' hjournal' => ?_
  have htoken : created = none ∨ created = some token := hstep.2.2
  rcases htoken with rfl | rfl
  · exact planned_error habsent' hjournal'
  · exact safe_of_inspection (planSelected_confined hselection) habsent' hjournal'

theorem planConnectivity_session (ipPath : Bytes) (habsent : host.firewall.Absent token)
    (hjournal : host.journal = journal) :
    Safe (sessionHost defaults token) (LooksOnly token journal) (Planned token journal)
      (planConnectivity ipPath deadline) host := by
  refine safe_inspection trivial habsent hjournal fun forwarding first _ hfirst hjournal₁ => ?_
  refine safe_inspection trivial hfirst hjournal₁ fun legacyRules second _ hsecond hjournal₂ => ?_
  split
  · split
    · exact planned_error hsecond hjournal₂
    · refine safe_bind ((safe_of_inspection (inspectRouting_confined ipPath) hsecond hjournal₂).imp ?_)
      rintro routing third ⟨-, hthird, hjournal₃⟩
      split
      · exact planned_error hthird hjournal₃
      · refine safe_bind ((safe_of_inspection (selectFirewall_confined _) hthird hjournal₃).imp ?_)
        rintro selected fourth ⟨hselected, hfourth, hjournal₄⟩
        split
        · exact planned_error hfourth hjournal₄
        · exact planBackend_session (hselected _ rfl) hfourth hjournal₄
  · exact planned_error hsecond hjournal₂

end Planning

/-! ### Configuration -/

/-- A handle with which a Session can undo what it did: it knows the record and, once it has touched the
firewall, the tool and the ingress zone. -/
structure Holds (defaults : NewPolicySettings) (record : RecoveryRecord) (zone : Bytes)
    (handle : ConnectivityHandle) (host : Host) : Prop where
  handleOf : HandleOf record handle
  ingressZone : record.backend = .firewalld → handle.firewallPath ≠ [] → handle.firewallZone = zone
  host : Recoverable defaults record zone (handle.firewallPath ≠ []) host

section Configuration

variable {defaults : NewPolicySettings} {plan : ConnectivityPlan} {record : RecoveryRecord} {zone : Bytes}
  {opened : Prop} {host : Host} {deadline : TimePoint}

/-- Programs that run only the tools of the record, while the journal holds it. -/
theorem safe_of_toolCalls {α : Type} {post : α → Prop} {program : HostProgram α} {current : RecoveryRecord}
    (h : Confined (ToolCall record zone opened) post program)
    (howned : Owned defaults record zone opened host.firewall) (hjournal : host.journal = some current)
    (hcurrent : current.backend = record.backend ∧ current.token = record.token) :
    Safe (sessionHost defaults record.token) (SessionStep defaults record.token)
      (fun result after => post result ∧ Owned defaults record zone opened after.firewall ∧
        after.journal = some current) program host :=
  h.safe (fun _ _ _ _ hcall hbefore hstep => toolCall_step hcall hbefore.1 hbefore.2 hcurrent hstep)
    ⟨howned, hjournal⟩

/-- One tool is run while the journal holds the record. -/
theorem safe_toolCall {α : Type} {post : α → Host → Prop} {path : Bytes} {command : ToolCommand}
    {limit : TimePoint} {next : CommandResult → HostProgram α} {current : RecoveryRecord}
    (hcommand : command.Own record zone opened) (howned : Owned defaults record zone opened host.firewall)
    (hjournal : host.journal = some current)
    (hcurrent : current.backend = record.backend ∧ current.token = record.token)
    (h : ∀ result after, Owned defaults record zone opened after.firewall → after.journal = some current →
      Safe (sessionHost defaults record.token) (SessionStep defaults record.token) post (next result) after) :
    Safe (sessionHost defaults record.token) (SessionStep defaults record.token) post
      (runTool path command limit >>= next) host := by
  intro result after hstep
  have hcall : ToolCall record zone opened (.runTool path command limit maximumToolOutput) := hcommand
  obtain ⟨hsession, hafter, hafterJournal⟩ := toolCall_step hcall howned hjournal hcurrent hstep
  exact ⟨hsession, h result after hafter hafterJournal⟩

theorem runToolSequence_confined {path : Bytes} {commands : List ToolCommand}
    (h : ∀ command ∈ commands, command.Own record zone opened) :
    Confined (ToolCall record zone opened) (fun _ => True) (runToolSequence path deadline commands) := by
  induction commands with
  | nil => trivial
  | cons command commands ih =>
      rw [List.forall_mem_cons] at h
      refine confined_runTool.mpr ⟨h.1, fun result => ?_⟩
      split
      · trivial
      · exact ih h.2

/-- A command about the Session's table. -/
theorem own_of_table {command : ToolCommand} (hnames : command.Names record)
    (htable : command.opensFirewall = false) : command.Own record zone opened := by
  refine ⟨hnames, fun h => absurd h (by simp [htable]), ?_, ?_⟩
  · rintro policy rfl
    exact nomatch (show true = false from htable)
  · rintro policy ingress rfl
    exact nomatch (show true = false from htable)

theorem addFirewalldPolicy_confined {handle : ConnectivityHandle} (hhandle : HandleOf record handle)
    (hbackend : record.backend = .firewalld) (hzone : ValidZone zone) (hknown : handle.firewallZone = zone)
    (hopened : opened) :
    Confined (ToolCall record zone opened) (fun _ => True) (addFirewalldPolicy handle deadline) := by
  have hpolicy : marker handle.recoveryRecord.token = marker record.token := by rw [hhandle.token]
  refine confined_bind ((runToolSequence_confined ?_).imp fun added _ => ?_)
  · simp only [List.forall_mem_cons, List.not_mem_nil, false_implies, implies_true, and_true]
    refine ⟨⟨⟨hbackend, hpolicy⟩, fun _ => hopened, fun _ _ => hzone, fun _ _ h => nomatch h⟩,
      ⟨⟨hbackend, hpolicy⟩, fun _ => hopened, (fun _ h => nomatch h), fun _ _ h => ?_⟩,
      ⟨⟨hbackend, hpolicy⟩, fun _ => hopened, (fun _ h => nomatch h), fun _ _ h => nomatch h⟩,
      ⟨⟨hbackend, hpolicy⟩, fun _ => hopened, (fun _ h => nomatch h), fun _ _ h => nomatch h⟩⟩
    rw [ToolCommand.firewalldAddIngressZone.injEq] at h
    exact h.2.symm.trans hknown
  · split
    · trivial
    · refine confined_runTool.mpr ⟨toolCall_query rfl, fun inspection => ?_⟩
      split <;> trivial

/-- The handle that a step of the configuration goes on with or fails with. -/
def HandsOver (result : Except ConnectivityMutationResult ConnectivityHandle) (handle : ConnectivityHandle) :
    Prop :=
  result = .ok handle ∨ ∃ cause, result = .error (ownedFailure handle cause)

theorem openUfw_confined {handle : ConnectivityHandle} (hbackend : plan.record.backend = .ufw) :
    Confined (ToolCall plan.record plan.firewallZone True)
      (fun result => HandsOver result { handle with firewallPath := plan.firewallPath }) (openUfw plan handle) := by
  have hallow : (ToolCommand.ufwRouteAllow (marker plan.record.token)).Own plan.record plan.firewallZone True :=
    ⟨⟨hbackend, rfl⟩, fun _ => trivial, (fun _ h => nomatch h), fun _ _ h => nomatch h⟩
  refine confined_runTool.mpr ⟨hallow, fun result => ?_⟩
  refine confined_bind ((ufwRulePresent_confined (toolCall_query rfl)).imp fun present _ => ?_)
  split
  · exact Or.inr ⟨_, rfl⟩
  · exact Or.inl rfl

theorem openFirewalld_confined {handle : ConnectivityHandle} (hhandle : HandleOf plan.record handle)
    (hbackend : plan.record.backend = .firewalld) (hzone : ValidZone plan.firewallZone) :
    Confined (ToolCall plan.record plan.firewallZone True)
      (fun result => HandsOver result
        { handle with firewallPath := plan.firewallPath, firewallZone := plan.firewallZone })
      (openFirewalld plan handle) := by
  have hopened : HandleOf plan.record
      { handle with firewallPath := plan.firewallPath, firewallZone := plan.firewallZone } :=
    ⟨hhandle.backend, hhandle.token, hhandle.table⟩
  refine confined_bind ((addFirewalldPolicy_confined hopened hbackend hzone rfl trivial).imp fun result _ => ?_)
  split
  · exact Or.inr ⟨_, rfl⟩
  · exact Or.inl rfl

/-- What the configuration has made so far is held by the handle that it hands over. -/
def Applied (defaults : NewPolicySettings) (plan : ConnectivityPlan)
    (result : Except ConnectivityMutationResult ConnectivityHandle) (after : Host) : Prop :=
  ∃ handle, HandsOver result handle ∧ Holds defaults plan.record plan.firewallZone handle after

theorem openFirewall_session {handle : ConnectivityHandle} {token : Bytes} (hplan : PlanOf token plan)
    (hhandle : HandleOf plan.record handle) (hclosed : handle.firewallPath = [])
    (howned : Owned defaults plan.record plan.firewallZone False host.firewall)
    (hjournal : host.journal = some plan.record) :
    Safe (sessionHost defaults plan.record.token) (SessionStep defaults plan.record.token)
      (Applied defaults plan) (openFirewall plan handle) host := by
  have hopen : Owned defaults plan.record plan.firewallZone True host.firewall := howned.mono False.elim
  have hpath (hbackend : plan.record.backend ≠ .nftables) : plan.firewallPath ≠ [] :=
    hplan.firewallPath.resolve_left hbackend
  have hholds {last : Host} {opened : ConnectivityHandle} (hopened : HandleOf plan.record opened)
      (hzone : plan.record.backend = .firewalld → opened.firewallZone = plan.firewallZone)
      (hne : opened.firewallPath ≠ [])
      (hlast : Owned defaults plan.record plan.firewallZone True last.firewall ∧
        last.journal = some plan.record) : Holds defaults plan.record plan.firewallZone opened last :=
    ⟨hopened, fun hbackend _ => hzone hbackend, .of_owned (hlast.1.mono fun _ => hne) hlast.2 ⟨rfl, rfl⟩⟩
  rw [openFirewall]
  split
  · exact ⟨handle, Or.inl rfl, hhandle, fun _ h => absurd hclosed h,
      .of_owned (howned.mono False.elim) hjournal ⟨rfl, rfl⟩⟩
  · rename_i hbackend
    have hufw : plan.firewallPath ≠ [] := hpath (by simp [hbackend])
    refine (safe_of_toolCalls (openUfw_confined hbackend) hopen hjournal ⟨rfl, rfl⟩).imp ?_
    rintro result last ⟨hresult, hlast⟩
    exact ⟨_, hresult, hholds ⟨hhandle.backend, hhandle.token, hhandle.table⟩
      (fun h => nomatch hbackend.symm.trans h) hufw hlast⟩
  · rename_i hbackend
    have hfirewalld : plan.firewallPath ≠ [] := hpath (by simp [hbackend])
    refine (safe_of_toolCalls (openFirewalld_confined hhandle hbackend (hplan.zone hbackend)) hopen hjournal
      ⟨rfl, rfl⟩).imp ?_
    rintro result last ⟨hresult, hlast⟩
    exact ⟨_, hresult, hholds ⟨hhandle.backend, hhandle.token, hhandle.table⟩ (fun _ => rfl) hfirewalld hlast⟩

theorem applyConnectivity_session {token : Bytes} (hplan : PlanOf token plan)
    (howned : Owned defaults plan.record plan.firewallZone False host.firewall)
    (hjournal : host.journal = some plan.record) :
    Safe (sessionHost defaults plan.record.token) (SessionStep defaults plan.record.token)
      (Applied defaults plan) (applyConnectivity plan) host := by
  have hclosed {handle : ConnectivityHandle} {last : Host} (hhandle : HandleOf plan.record handle)
      (hpath : handle.firewallPath = []) (hlast : Owned defaults plan.record plan.firewallZone False last.firewall)
      (hlastJournal : last.journal = some plan.record) :
      Holds defaults plan.record plan.firewallZone handle last :=
    ⟨hhandle, fun _ h => absurd hpath h, .of_owned (hlast.mono False.elim) hlastJournal ⟨rfl, rfl⟩⟩
  have hadd : (ToolCommand.nftAddTable (tableName plan.record.token)).Own plan.record plan.firewallZone False :=
    own_of_table rfl rfl
  refine safe_toolCall hadd howned hjournal ⟨rfl, rfl⟩ fun added first hfirst hjournal₁ => ?_
  split
  · exact ⟨_, Or.inr ⟨_, rfl⟩, hclosed ⟨rfl, rfl, rfl⟩ rfl hfirst hjournal₁⟩
  · have hcommands : ∀ command ∈ [ToolCommand.nftAddChain (tableName plan.record.token),
        .nftAddRule (tableName plan.record.token) plan.record.token],
        command.Own plan.record plan.firewallZone False := by
      simp only [List.forall_mem_cons, List.not_mem_nil, false_implies, implies_true, and_true]
      exact ⟨own_of_table rfl rfl, own_of_table ⟨rfl, rfl⟩ rfl⟩
    refine safe_bind ((safe_of_toolCalls (runToolSequence_confined hcommands) hfirst hjournal₁ ⟨rfl, rfl⟩).imp ?_)
    rintro sequence second ⟨-, hsecond, hjournal₂⟩
    split
    · exact ⟨_, Or.inr ⟨_, rfl⟩, hclosed ⟨rfl, rfl, rfl⟩ rfl hsecond hjournal₂⟩
    · exact openFirewall_session hplan ⟨rfl, rfl, rfl⟩ rfl hsecond hjournal₂

/-- One call that reads or changes the journal. -/
theorem safe_journalCall {α : Type} {post : α → Host → Prop} {request : HostCall}
    {next : HostAnswer request → HostProgram α}
    (hcall : request = .readRecoveryRecord ∨ request = .clearRecoveryRecord ∨
      ∃ written, request = .writeRecoveryRecord written ∧ written.backend = record.backend ∧
        written.token = record.token)
    (hhost : Recoverable defaults record zone opened host)
    (h : ∀ answer after, sessionHost defaults record.token host request answer after →
      Recoverable defaults record zone opened after →
      Safe (sessionHost defaults record.token) (SessionStep defaults record.token) post (next answer) after) :
    Safe (sessionHost defaults record.token) (SessionStep defaults record.token) post
      (callHost request >>= next) host := by
  intro answer after hstep
  obtain ⟨hsession, hafter⟩ := journalCall_step hcall hhost hstep
  exact ⟨hsession, h answer after hstep hafter⟩

/-- The proof that a configuration returns, if any, is a handle that can undo what is on the host. -/
def Configured (defaults : NewPolicySettings) (token : Bytes) (result : ConnectivityMutationResult)
    (after : Host) : Prop :=
  match result.state with
  | .proven proof => ∃ record zone, record.token = token ∧ Holds defaults record zone proof.handle after
  | _ => result.state = .absent ∧ result.succeeded = false ∧ after.firewall.Absent token

theorem Holds.of_phase {handle : ConnectivityHandle} {phase : RecoveryPhase}
    (h : Holds defaults record zone handle host) :
    Holds defaults record zone { handle with recoveryRecord := { handle.recoveryRecord with phase } } host :=
  ⟨⟨h.handleOf.backend, h.handleOf.token, h.handleOf.table⟩, h.ingressZone, h.host⟩

theorem recordApplied_session {handle : ConnectivityHandle} (h : Holds defaults record zone handle host) :
    Safe (sessionHost defaults record.token) (SessionStep defaults record.token)
      (Configured defaults record.token) (recordApplied handle) host := by
  have hwrite : ∃ written, (HostCall.writeRecoveryRecord { handle.recoveryRecord with phase := .applied }) =
      .writeRecoveryRecord written ∧ written.backend = record.backend ∧ written.token = record.token :=
    ⟨_, rfl, h.handleOf.backend, h.handleOf.token⟩
  refine safe_journalCall (Or.inr (Or.inr hwrite)) h.host fun written after _ hafter => ?_
  have hholds : Holds defaults record zone handle after := ⟨h.handleOf, h.ingressZone, hafter⟩
  split
  · exact ⟨record, zone, rfl, hholds⟩
  · exact ⟨record, zone, rfl, hholds.of_phase⟩

/-- The intent is written before anything of the token is on the host. -/
theorem intent_step {written : Bool} {after : Host} (habsent : host.firewall.Absent record.token)
    (hjournal : host.journal = none)
    (hstep : sessionHost defaults record.token host (.writeRecoveryRecord record) written after) :
    SessionStep defaults record.token ⟨host, .writeRecoveryRecord record, written, after⟩ ∧
      after.firewall.Absent record.token ∧ (written = true → after.journal = some record) := by
  have hhost : Recoverable defaults record [] False host := .of_absent habsent hjournal
  have hsession := (journalCall_step (Or.inr (Or.inr ⟨record, rfl, rfl, rfl⟩)) hhost hstep).1
  obtain ⟨⟨present, helsewhere, hfirewall⟩, hwrite, -⟩ := hstep
  refine ⟨hsession, hfirewall ▸ habsent.elsewhere helsewhere, fun hwritten => ?_⟩
  exact hwrite.resolve_right fun h => by simp [hwritten] at h

/-- A configuration on a host without the token whose journal is empty. -/
theorem configureConnectivity_session {token : Bytes} (ipPath : Bytes) (habsent : host.firewall.Absent token)
    (hjournal : host.journal = none) :
    Safe (sessionHost defaults token) (SessionStep defaults token) (Configured defaults token)
      (configureConnectivity ipPath deadline) host := by
  have hlook {α : Type} {post : α → Host → Prop} {program : HostProgram α} {start : Host}
      (h : Safe (sessionHost defaults token) (LooksOnly token none) post program start) :
      Safe (sessionHost defaults token) (SessionStep defaults token) post program start :=
    h.mono (fun _ _ _ _ hstep => hstep) (fun _ _ hlooks => hlooks.sessionStep) fun _ _ hpost => hpost
  have hlook_call {α : Type} {post : α → Host → Prop} {request : HostCall} {start : Host}
      {next : HostAnswer request → HostProgram α} (hcall : Inspection request)
      (habsent : start.firewall.Absent token) (hjournal : start.journal = none)
      (h : ∀ answer after, sessionHost defaults token start request answer after →
        after.firewall.Absent token → after.journal = none →
        Safe (sessionHost defaults token) (SessionStep defaults token) post (next answer) after) :
      Safe (sessionHost defaults token) (SessionStep defaults token) post (callHost request >>= next) start := by
    intro answer after hstep
    obtain ⟨hlooks, habsent', hjournal'⟩ := inspection_step hcall habsent hjournal hstep
    exact ⟨hlooks.sessionStep, h answer after hstep habsent' hjournal'⟩
  have hfailed {last : Host} {cause : Cause} (hlast : last.firewall.Absent token) :
      Configured defaults token ⟨false, cause, .absent⟩ last := ⟨rfl, rfl, hlast⟩
  refine safe_bind ((hlook (planConnectivity_session ipPath habsent hjournal)).imp ?_)
  rintro planned first ⟨hplanned, hfirst, hjournal₁⟩
  split
  · exact hfailed hfirst
  · rename_i plan
    have hplan := hplanned plan rfl
    obtain rfl := hplan.token
    refine hlook_call trivial hfirst hjournal₁ fun opened second _ hsecond hjournal₂ => ?_
    split
    · exact hfailed hsecond
    · refine hlook_call trivial hsecond hjournal₂ fun existing third _ hthird hjournal₃ => ?_
      split
      · exact hfailed hthird
      · intro written fourth hstep
        obtain ⟨hsession, hfourth, hwritten⟩ := intent_step hthird hjournal₃ hstep
        refine ⟨hsession, ?_⟩
        cases written with
        | false => exact hfailed hfourth
        | true =>
            change Safe _ _ _ (applyConnectivity plan >>= _) fourth
            refine safe_bind ((applyConnectivity_session hplan (.of_absent hfourth) (hwritten rfl)).imp ?_)
            rintro applied fifth ⟨handle, hhands, hholds⟩
            rcases hhands with rfl | ⟨cause, rfl⟩
            · exact recordApplied_session hholds
            · exact ⟨plan.record, plan.firewallZone, rfl, hholds⟩

end Configuration

/-! ### Life -/

/-- Removals as long as the proof is kept: a cleanup and its retries. -/
def removeRepeatedly : List TimePoint → ConnectivityState → HostProgram Unit
  | deadline :: deadlines, .proven proof => do
      let removal ← removeConnectivity proof.handle deadline
      removeRepeatedly deadlines removal.state
  | _, _ => return ()

/-- All that a Session does with its connectivity. -/
def connectivityLife (ipPath : Bytes) (deadline : TimePoint) (removals : List TimePoint) : HostProgram Unit := do
  let configured ← configureConnectivity ipPath deadline
  removeRepeatedly removals configured.state

section Life

variable {defaults : NewPolicySettings} {record : RecoveryRecord} {zone : Bytes}
  {handle : ConnectivityHandle} {host : Host} {deadline : TimePoint}

/-- The record that a removal goes by has the backend and the token of the handle. -/
theorem recordToRemove_spec {current : RecoveryReadResult} {removing : RecoveryRecord}
    (h : recordToRemove handle current = some removing) :
    removing.backend = handle.recoveryRecord.backend ∧ removing.token = handle.recoveryRecord.token := by
  cases current with
  | valid found =>
      rw [recordToRemove] at h
      split at h
      · rename_i hsame
        rw [Option.some.injEq] at h
        exact h ▸ ⟨hsame.2, hsame.1⟩
      · exact nomatch h
  | empty =>
      rw [recordToRemove, Option.some.injEq] at h
      exact h ▸ ⟨rfl, rfl⟩
  | _ => exact nomatch h

end Life

end NetLagLab.NetworkEnvironment
