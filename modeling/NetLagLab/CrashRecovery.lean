import NetLagLab.ConnectivityRollback
import NetLagLab.HonestHost

/-! What a helper that dies leaves to the next one. The order of journal and firewall is kept by every step, the journal
is cleared only when nothing of the token is left, and so a record in the journal names whatever is there. Reconciling
goes by that record alone: it does not know the ingress zone of a policy of firewalld. -/

namespace NetLagLab.NetworkEnvironment

open ByteLines CallPrograms CallPrograms.Program

/-! ### The journal as evidence -/

/-- What carries the token is named by the record in the journal. -/
def Evident (token : Bytes) (host : Host) : Prop :=
  host.firewall.Absent token ∨ ∃ current, host.journal = some current ∧ current.token = token

/-- A step of a Session that clears the journal, if the tools are believed, only when nothing of the token is left. -/
structure Watched (believed : Prop) (defaults : NewPolicySettings) (token : Bytes)
    (step : Step HostCall HostAnswer Host) : Prop where
  session : SessionStep defaults token step
  clears : believed → step.request = .clearRecoveryRecord → step.before.firewall.Absent token

/-- What a Session with the token leaves behind at any time. -/
structure Left (defaults : NewPolicySettings) (token : Bytes) (host : Host) : Prop where
  recoverable : ∃ record zone, record.token = token ∧ Recoverable defaults record zone True host
  evident : Evident token host

section Steps

variable {believed : Prop} {defaults : NewPolicySettings} {token : Bytes} {record : RecoveryRecord} {zone : Bytes}
  {opened : Prop} {before after : Host} {request : HostCall} {answer : HostAnswer request}

/-- The firewall is not touched where nothing is there that a mutation would have to be recorded for. -/
theorem absent_step (hstep : sessionHost defaults token before request answer after)
    (hrecorded : MutationRecorded ⟨before, request, answer, after⟩) (habsent : before.firewall.Absent token)
    (hjournal : after.journal = none) : after.firewall.Absent token := by
  obtain ⟨⟨present, helsewhere, hfirewall⟩, hjournalStep, -⟩ := hstep
  have hpresent := habsent.elsewhere helsewhere
  cases request with
  | runTool path command deadline size =>
      have hquery : command.isMutation = false := by
        rw [Bool.eq_false_iff]
        intro hmutation
        obtain ⟨record, hrecord, -⟩ := hrecorded hmutation
        have hsame : after.journal = before.journal := hjournalStep
        simp [hsame, show before.journal = some record from hrecord] at hjournal
      exact hfirewall.elim id (effect_of_query hquery) ▸ hpresent
  | _ => exact hfirewall ▸ hpresent

/-- The record in the journal stays evidence of what is there. -/
theorem Watched.evident (h : Watched True defaults token ⟨before, request, answer, after⟩)
    (hstep : sessionHost defaults token before request answer after) (hbefore : Evident token before) :
    Evident token after := by
  obtain ⟨hrecorded, record, zone, htoken, hrecoverable⟩ := h.session
  cases hjournal : after.journal with
  | some current => exact Or.inr ⟨current, hjournal, (hrecoverable.journal current hjournal).2.trans htoken⟩
  | none =>
      rcases hbefore with habsent | ⟨current, hcurrent, -⟩
      · exact Or.inl (absent_step hstep hrecorded habsent hjournal)
      · have hcleared : request = .clearRecoveryRecord := by
          obtain ⟨-, hjournalStep, -⟩ := hstep
          cases request with
          | clearRecoveryRecord => rfl
          | writeRecoveryRecord written =>
              rcases hjournalStep with hnew | ⟨-, hsame⟩
              · simp [hnew] at hjournal
              · simp [hsame, hcurrent] at hjournal
          | readRecoveryRecord =>
              have hsame : after.journal = before.journal := hjournalStep.1
              simp [hsame, hcurrent] at hjournal
          | _ =>
              have hsame : after.journal = before.journal := hjournalStep
              simp [hsame, hcurrent] at hjournal
        exact Or.inl (absent_step hstep hrecorded (h.clears trivial hcleared) hjournal)

theorem Watched.left (h : Watched True defaults token ⟨before, request, answer, after⟩)
    (hstep : sessionHost defaults token before request answer after) (hbefore : Left defaults token before) :
    Left defaults token after :=
  ⟨h.session.2, h.evident hstep hbefore.evident⟩

/-- Looking at what a Session left. -/
theorem look_step (hcall : Inspection request) (h : Recoverable defaults record zone opened before)
    (hstep : sessionHost defaults record.token before request answer after) :
    Watched believed defaults record.token ⟨before, request, answer, after⟩ ∧
      Recoverable defaults record zone opened after := by
  obtain ⟨⟨present, helsewhere, hfirewall⟩, hjournalStep, -⟩ := hstep
  have hpresent := h.owned.elsewhere helsewhere
  have hafter : Owned defaults record zone opened after.firewall ∧ after.journal = before.journal ∧
      MutationRecorded ⟨before, request, answer, after⟩ ∧ request ≠ .clearRecoveryRecord := by
    cases request with
    | runTool path command deadline limit =>
        refine ⟨hfirewall.elim id (effect_of_query hcall) ▸ hpresent, hjournalStep, fun hmutation => ?_, by simp⟩
        exact absurd hmutation (by simp [show command.isMutation = false from hcall])
    | readRecoveryRecord => exact ⟨hfirewall ▸ hpresent, hjournalStep.1, trivial, by simp⟩
    | writeRecoveryRecord record => exact hcall.elim
    | clearRecoveryRecord => exact hcall.elim
    | _ => exact ⟨hfirewall ▸ hpresent, hjournalStep, trivial, by simp⟩
  obtain ⟨howned, hjournal, hrecorded, hclears⟩ := hafter
  have hrecoverable : Recoverable defaults record zone opened after := ⟨howned, hjournal ▸ h.journal⟩
  exact ⟨⟨⟨hrecorded, record, zone, rfl, hrecoverable.mono fun _ => trivial⟩, fun _ h => absurd h hclears⟩, hrecoverable⟩

end Steps

/-! ### Removal -/

section Removal

variable {believed : Prop} {defaults : NewPolicySettings} {record current : RecoveryRecord} {zone : Bytes}
  {opened : Prop} {handle : ConnectivityHandle} {host : Host} {deadline : TimePoint}

/-- Programs that run only the tools of the record, while the journal holds it. -/
theorem safe_watched (believed : Prop) {α : Type} {post : α → Prop} {program : HostProgram α}
    (h : Confined (ToolCall record zone opened) post program)
    (howned : Owned defaults record zone opened host.firewall) (hjournal : host.journal = some current)
    (hcurrent : current.backend = record.backend ∧ current.token = record.token) :
    Safe (believedHost believed defaults record.token) (Watched believed defaults record.token)
      (fun result after => post result ∧ Owned defaults record zone opened after.firewall ∧
        after.journal = some current) program host := by
  refine Safe.believed (h.safe (fun before request answer after hcall hbefore hstep => ?_) ⟨howned, hjournal⟩)
  obtain ⟨hsession, hafter⟩ := toolCall_step hcall hbefore.1 hbefore.2 hcurrent hstep
  refine ⟨⟨hsession, fun _ hclear => ?_⟩, hafter⟩
  obtain rfl : request = .clearRecoveryRecord := hclear
  exact hcall.elim

/-- One call that reads or changes the journal. -/
theorem safe_journal {α : Type} {post : α → Host → Prop} {request : HostCall}
    {next : HostAnswer request → HostProgram α}
    (hcall : request = .readRecoveryRecord ∨ request = .clearRecoveryRecord ∨
      ∃ written, request = .writeRecoveryRecord written ∧ written.backend = record.backend ∧
        written.token = record.token)
    (hhost : Recoverable defaults record zone opened host)
    (hclears : believed → request = .clearRecoveryRecord → host.firewall.Absent record.token)
    (h : ∀ answer after, sessionHost defaults record.token host request answer after →
      Recoverable defaults record zone opened after →
      Safe (believedHost believed defaults record.token) (Watched believed defaults record.token) post (next answer) after) :
    Safe (believedHost believed defaults record.token) (Watched believed defaults record.token) post (callHost request >>= next) host := by
  intro answer after hstep
  obtain ⟨hsession, hafter⟩ := journalCall_step hcall hhost hstep.1
  exact ⟨⟨hsession, hclears⟩, h answer after hstep.1 hafter⟩

/-- A firewall that has nothing of the Session has nothing that it would have opened. -/
theorem Owned.of_closed {firewall : HostFirewall} (hrules : firewall.markedRules record.token = [])
    (hpolicy : firewall.policy record.token = none) : Owned defaults record zone opened firewall where
  rules := Or.inl hrules
  policy := fun policy h => by simp [hpolicy] at h

theorem removeFirewall_watched (hhandle : HandleOf record handle) (hopened : handle.firewallPath ≠ [])
    (howned : Owned defaults record zone (handle.firewallPath ≠ []) host.firewall)
    (hjournal : host.journal = some handle.recoveryRecord) :
    Safe (believedHost believed defaults record.token) (Watched believed defaults record.token)
      (fun result after => Owned defaults record zone (handle.firewallPath ≠ []) after.firewall ∧
        after.journal = some handle.recoveryRecord ∧
        (believed → result.succeeded = true → Owned defaults record zone False after.firewall))
      (removeFirewall handle deadline) host := by
  have hconfined : Confined (ToolCall record zone (handle.firewallPath ≠ [])) (fun _ => True)
      (removeFirewall handle deadline) := removeFirewall_confined hhandle hopened
  have hwatched := safe_watched believed hconfined howned hjournal ⟨hhandle.backend, hhandle.token⟩
  have hclosed : Safe (showingHost defaults record.token) (fun _ => True)
      (fun result after => result.succeeded = true →
        Owned defaults record zone (handle.firewallPath ≠ []) after.firewall →
          Owned defaults record zone False after.firewall) (removeFirewall handle deadline) host := by
    rw [removeFirewall, hhandle.backend]
    cases hbackend : record.backend with
    | nftables =>
        intro _ h
        obtain ⟨hrules, hpolicy, -⟩ := h.closed (Or.inl hbackend)
        exact .of_closed hrules hpolicy
    | ufw =>
        refine (removeUfwRule_showing hhandle).imp fun result after hrules hsucceeded h => ?_
        refine .of_closed (hrules hsucceeded) (Option.eq_none_iff_forall_not_mem.mpr fun policy hpolicy => ?_)
        cases hbackend.symm.trans (h.policy policy hpolicy).1.1
    | firewalld =>
        refine (removeFirewalldPolicy_showing hhandle).imp fun result after hpolicy hsucceeded h => ?_
        refine .of_closed (h.rules.elim id fun hrule => ?_) (hpolicy hsucceeded)
        cases hbackend.symm.trans hrule.1.1
  have hgone := Safe.ifBelieved fun hbelieved : believed => Safe.showing hbelieved hclosed
  refine (hwatched.and hgone).mono (fun _ _ _ _ hstep => hstep) (fun _ _ hthis => hthis.1) ?_
  rintro result after ⟨⟨-, hafter, hafterJournal⟩, hgone⟩
  exact ⟨hafter, hafterJournal, fun hbelieved hsucceeded => hgone hbelieved hsucceeded hafter⟩

/-- What a removal of the recorded parts comes to. -/
def RemovedParts (believed : Prop) (defaults : NewPolicySettings) (record : RecoveryRecord) (zone : Bytes)
    (handle : ConnectivityHandle) (removed : Except ConnectivityRemovalResult Unit) (after : Host) : Prop :=
  KeepsProof handle removed ∧ Owned defaults record zone (handle.firewallPath ≠ []) after.firewall ∧
    after.journal = some handle.recoveryRecord ∧
    (believed → removed = .ok () → after.firewall.Absent record.token)

theorem removeRecordedTable_watched (hhandle : HandleOf record handle)
    (howned : Owned defaults record zone (handle.firewallPath ≠ []) host.firewall)
    (hclosed : believed → Owned defaults record zone False host.firewall)
    (hjournal : host.journal = some handle.recoveryRecord) :
    Safe (believedHost believed defaults record.token) (Watched believed defaults record.token)
      (RemovedParts believed defaults record zone handle) (removeRecordedTable handle deadline) host := by
  have hcurrent : handle.recoveryRecord.backend = record.backend ∧ handle.recoveryRecord.token = record.token :=
    ⟨hhandle.backend, hhandle.token⟩
  have hconfined (opened : Prop) : Confined (ToolCall record zone opened) (KeepsProof handle)
      (removeRecordedTable handle deadline) := removeRecordedTable_confined hhandle
  have htable : Safe (showingHost defaults record.token) (fun _ => True)
      (fun removed after => removed = .ok () → after.firewall.nftTables (tableName record.token) = false)
      (removeRecordedTable handle deadline) host := removeRecordedTable_showing hhandle
  have hwatched := safe_watched believed (hconfined (handle.firewallPath ≠ [])) howned hjournal hcurrent
  have hstays := Safe.ifBelieved fun hbelieved : believed =>
    safe_watched believed (hconfined False) (hclosed hbelieved) hjournal hcurrent
  have hgone := Safe.ifBelieved fun hbelieved : believed => Safe.showing hbelieved htable
  refine ((hwatched.and hstays).and hgone).mono (fun _ _ _ _ hstep => hstep) (fun _ _ hthis => hthis.1.1) ?_
  rintro removed after ⟨⟨⟨hkeeps, hafter, hafterJournal⟩, hstays⟩, htable⟩
  refine ⟨hkeeps, hafter, hafterJournal, fun hbelieved hok => ?_⟩
  obtain ⟨hrules, hpolicy, -⟩ := (hstays hbelieved).2.1.closed (Or.inr id)
  exact ⟨htable hbelieved hok, hrules, hpolicy⟩

theorem removeRecorded_watched (hhandle : HandleOf record handle)
    (howned : Owned defaults record zone (handle.firewallPath ≠ []) host.firewall)
    (hjournal : host.journal = some handle.recoveryRecord) :
    Safe (believedHost believed defaults record.token) (Watched believed defaults record.token)
      (RemovedParts believed defaults record zone handle) (removeRecorded handle deadline) host := by
  rw [removeRecorded]
  split
  · rename_i hpath
    exact removeRecordedTable_watched hhandle howned (fun _ => howned.mono fun h => h hpath) hjournal
  · rename_i hopened
    refine safe_bind ((removeFirewall_watched hhandle hopened howned hjournal).imp ?_)
    rintro result after ⟨hafter, hafterJournal, hclosed⟩
    split
    · exact ⟨keepsProof_stillOwned _, hafter, hafterJournal, fun _ h => by cases h⟩
    · rename_i hsucceeded
      exact removeRecordedTable_watched hhandle hafter
        (fun hbelieved => hclosed hbelieved (by simpa using hsucceeded)) hafterJournal

/-- A removal that says that nothing is left has emptied the journal and, if the tools are believed, left nothing. -/
def AbsentIfSaid (believed : Prop) (token : Bytes) (removal : ConnectivityRemovalResult) (after : Host) : Prop :=
  removal.state = .absent → (believed → after.firewall.Absent token) ∧ after.journal = none

theorem removeAndClear_watched (hhandle : HandleOf record handle)
    (h : Recoverable defaults record zone (handle.firewallPath ≠ []) host)
    (hjournal : host.journal = some handle.recoveryRecord) :
    Safe (believedHost believed defaults record.token) (Watched believed defaults record.token)
      (fun removal after => Recoverable defaults record zone (handle.firewallPath ≠ []) after ∧
        (∀ proof, removal.state = .proven proof → proof.handle = handle) ∧
        AbsentIfSaid believed record.token removal after)
      (removeAndClear handle deadline) host := by
  refine safe_bind ((removeRecorded_watched hhandle h.owned hjournal).imp ?_)
  rintro removed first ⟨hkeeps, hfirst, hjournal₁, habsent⟩
  have hrecoverable : Recoverable defaults record zone (handle.firewallPath ≠ []) first :=
    .of_owned hfirst hjournal₁ ⟨hhandle.backend, hhandle.token⟩
  split
  · rename_i failure
    rcases hkeeps failure rfl with hstate | hstate
    · exact ⟨hrecoverable, (fun proof hproof => by cases hstate.symm.trans hproof),
        fun hno => by cases hstate.symm.trans hno⟩
    · refine ⟨hrecoverable, fun proof hproof => ?_, fun hno => by cases hstate.symm.trans hno⟩
      cases hstate.symm.trans hproof
      rfl
  · refine safe_journal (Or.inr (Or.inl rfl)) hrecoverable (fun hbelieved _ => habsent hbelieved rfl)
      fun cleared last hstep hlast => ?_
    split
    · refine ⟨hlast, fun proof hproof => ?_, fun hno => by cases hno⟩
      cases hproof
      rfl
    · rename_i hcleared
      obtain ⟨⟨present, helsewhere, hfirewall⟩, hjournalStep, -⟩ := hstep
      refine ⟨hlast, (fun proof hproof => by cases hproof), fun _ => ⟨?_, ?_⟩⟩
      · exact fun hbelieved => hfirewall ▸ (habsent hbelieved rfl).elsewhere helsewhere
      · exact hjournalStep.resolve_right fun hnot => hcleared (by simp [hnot.1])

theorem removeConnectivity_watched (hhandle : HandleOf record handle)
    (h : Recoverable defaults record zone (handle.firewallPath ≠ []) host) :
    Safe (believedHost believed defaults record.token) (Watched believed defaults record.token)
      (fun removal after => Recoverable defaults record zone (handle.firewallPath ≠ []) after ∧
        (∀ proof, removal.state = .proven proof →
          HandleOf record proof.handle ∧ proof.handle.firewallPath = handle.firewallPath) ∧
        AbsentIfSaid believed record.token removal after)
      (removeConnectivity handle deadline) host := by
  refine safe_journal (Or.inl rfl) h (fun _ hclear => by cases hclear) fun found first _ hfirst => ?_
  split
  · exact ⟨hfirst, (fun proof hproof => by cases hproof), fun hno => by cases hno⟩
  · rename_i removing hremoving
    obtain ⟨hbackend, htoken⟩ := recordToRemove_spec hremoving
    have hbackend : removing.backend = record.backend := hbackend.trans hhandle.backend
    have htoken : removing.token = record.token := htoken.trans hhandle.token
    refine safe_journal (Or.inr (Or.inr ⟨_, rfl, hbackend, htoken⟩)) hfirst (fun _ hclear => by cases hclear)
      fun written second hstep hsecond => ?_
    cases written with
    | false =>
        refine ⟨hsecond, fun proof hproof => ?_, fun hno => by cases hno⟩
        cases hproof
        exact ⟨hhandle, rfl⟩
    | true =>
        have hjournal : second.journal = some { removing with phase := .removing } :=
          hstep.2.1.resolve_right fun hnot => by simp at hnot
        have hremoved : HandleOf record { handle with recoveryRecord := { removing with phase := .removing } } :=
          ⟨hbackend, htoken, hhandle.table⟩
        refine (removeAndClear_watched hremoved hsecond hjournal).imp ?_
        rintro removal last ⟨hlast, hproven, habsent⟩
        refine ⟨hlast, fun proof hproof => ?_, habsent⟩
        rw [hproven proof hproof]
        exact ⟨hremoved, rfl⟩

theorem removeRepeatedly_watched {removals : List TimePoint} {state : ConnectivityState}
    (h : ∀ proof, state = .proven proof → HandleOf record proof.handle ∧
      Recoverable defaults record zone (proof.handle.firewallPath ≠ []) host) :
    Safe (believedHost believed defaults record.token) (Watched believed defaults record.token) (fun _ _ => True)
      (removeRepeatedly removals state) host := by
  induction removals generalizing state host with
  | nil => exact trivial
  | cons deadline removals ih =>
      cases state with
      | proven proof =>
          obtain ⟨hhandle, hhost⟩ := h proof rfl
          refine safe_bind ((removeConnectivity_watched hhandle hhost).imp ?_)
          rintro removal after ⟨hafter, hproven, -⟩
          refine ih fun other hother => ?_
          obtain ⟨hother, hpath⟩ := hproven other hother
          exact ⟨hother, hafter.mono fun hopened => hpath ▸ hopened⟩
      | _ => exact trivial

end Removal

/-! ### Configuration -/

section Configuration

variable {believed : Prop} {defaults : NewPolicySettings} {token : Bytes} {host : Host} {deadline : TimePoint}

/-- A call that leaves the journal alone. -/
abbrev KeepsRecord (request : HostCall) : Prop := request ≠ .clearRecoveryRecord

theorem Inspection.keepsRecord {request : HostCall} (h : Inspection request) : KeepsRecord request := by
  rintro rfl
  exact h

theorem ufwRulePresent_keepsRecord {path : Bytes} :
    Confined KeepsRecord (fun _ => True) (ufwRulePresent path deadline token) :=
  ufwRulePresent_confined (by simp)

theorem runToolSequence_keepsRecord {path : Bytes} (commands : List ToolCommand) :
    Confined KeepsRecord (fun _ => True) (runToolSequence path deadline commands) := by
  induction commands with
  | nil => trivial
  | cons command commands ih =>
      refine confined_runTool.mpr ⟨by simp, fun result => ?_⟩
      split
      · trivial
      · exact ih

theorem addFirewalldPolicy_keepsRecord (handle : ConnectivityHandle) :
    Confined KeepsRecord (fun _ => True) (addFirewalldPolicy handle deadline) := by
  refine confined_bind ((runToolSequence_keepsRecord _).imp fun sequence _ => ?_)
  split
  · trivial
  · refine confined_runTool.mpr ⟨by simp, fun inspection => ?_⟩
    split <;> trivial

theorem openFirewall_keepsRecord (plan : ConnectivityPlan) (handle : ConnectivityHandle) :
    Confined KeepsRecord (fun _ => True) (openFirewall plan handle) := by
  rw [openFirewall]
  split
  · trivial
  · refine confined_runTool.mpr ⟨by simp, fun result => ?_⟩
    refine confined_bind (ufwRulePresent_keepsRecord.imp fun present _ => ?_)
    split <;> trivial
  · refine confined_bind ((addFirewalldPolicy_keepsRecord _).imp fun result _ => ?_)
    split <;> trivial

theorem applyConnectivity_keepsRecord (plan : ConnectivityPlan) :
    Confined KeepsRecord (fun _ => True) (applyConnectivity plan) := by
  refine confined_runTool.mpr ⟨by simp, fun added => ?_⟩
  split
  · trivial
  · refine confined_bind ((runToolSequence_keepsRecord _).imp fun sequence _ => ?_)
    split
    · trivial
    · exact openFirewall_keepsRecord plan _

theorem recordApplied_keepsRecord (handle : ConnectivityHandle) :
    Confined KeepsRecord (fun _ => True) (recordApplied handle) := by
  refine confined_callHost.mpr ⟨by simp, fun recorded => ?_⟩
  split <;> trivial

theorem configureConnectivity_keepsRecord (ipPath : Bytes) :
    Confined KeepsRecord (fun _ => True) (configureConnectivity ipPath deadline) := by
  refine confined_bind (((planConnectivity_confined ipPath).mono (fun _ => Inspection.keepsRecord)
    fun _ _ => trivial).imp fun planned _ => ?_)
  split
  · trivial
  · refine confined_callHost.mpr ⟨by simp, fun opened => ?_⟩
    split
    · trivial
    · refine confined_callHost.mpr ⟨by simp, fun existing => ?_⟩
      split
      · trivial
      · refine confined_callHost.mpr ⟨by simp, fun written => ?_⟩
        split
        · trivial
        · refine confined_bind ((applyConnectivity_keepsRecord _).imp fun applied _ => ?_)
          split
          · trivial
          · exact recordApplied_keepsRecord _

/-- All that a Session does with its connectivity, with an eye on the journal. -/
theorem connectivityLife_watched (ipPath : Bytes) (removals : List TimePoint) (habsent : host.firewall.Absent token)
    (hjournal : host.journal = none) :
    Safe (believedHost believed defaults token) (Watched believed defaults token) (fun _ _ => True)
      (connectivityLife ipPath deadline removals) host := by
  have hkeeps : Safe (sessionHost defaults token) (fun step => KeepsRecord step.request) (fun _ _ => True)
      (configureConnectivity ipPath deadline) host :=
    ((configureConnectivity_keepsRecord ipPath).safe (fun _ _ _ _ hcall _ _ => ⟨hcall, trivial⟩) trivial).imp
      fun _ _ _ => trivial
  have hwatched : Safe (believedHost believed defaults token) (Watched believed defaults token) (Configured defaults token)
      (configureConnectivity ipPath deadline) host :=
    Safe.believed (((configureConnectivity_session ipPath habsent hjournal).and hkeeps).mono
      (fun _ _ _ _ hstep => hstep) (fun _ _ hthis => ⟨hthis.1, fun _ hclear => absurd hclear hthis.2⟩)
      fun _ _ hpost => hpost.1)
  refine safe_bind (hwatched.imp fun configured after hconfigured => ?_)
  cases hstate : configured.state with
  | proven proof =>
      rw [Configured, hstate] at hconfigured
      obtain ⟨record, zone, rfl, hholds⟩ := hconfigured
      apply removeRepeatedly_watched
      rintro other ⟨⟩
      exact ⟨hholds.handleOf, hholds.host⟩
  | absent => cases removals <;> exact trivial
  | identityUnconfirmed => cases removals <;> exact trivial

end Configuration

/-! ### Reconciliation -/

section Reconciliation

variable {believed : Prop} {defaults : NewPolicySettings} {record : RecoveryRecord} {zone : Bytes} {opened : Prop}
  {host : Host} {deadline : TimePoint}

/-- Programs that only look leave what is there as it is. -/
theorem safe_looking {α : Type} {post : α → Prop} {program : HostProgram α} (h : Confined Inspection post program)
    (hhost : Recoverable defaults record zone opened host) :
    Safe (believedHost believed defaults record.token) (Watched believed defaults record.token)
      (fun result after => post result ∧ Recoverable defaults record zone opened after) program host :=
  Safe.believed (h.safe (fun _ _ _ _ hcall hbefore hstep => look_step hcall hbefore hstep) hhost)

theorem safe_look {α : Type} {post : α → Host → Prop} {request : HostCall} {next : HostAnswer request → HostProgram α}
    (hcall : Inspection request) (hhost : Recoverable defaults record zone opened host)
    (h : ∀ answer after, sessionHost defaults record.token host request answer after →
      Recoverable defaults record zone opened after →
      Safe (believedHost believed defaults record.token) (Watched believed defaults record.token) post (next answer) after) :
    Safe (believedHost believed defaults record.token) (Watched believed defaults record.token) post (callHost request >>= next) host := by
  intro answer after hstep
  obtain ⟨hwatched, hafter⟩ := look_step hcall hhost hstep.1
  exact ⟨hwatched, h answer after hstep.1 hafter⟩

/-- The handle that is made anew of the record. -/
def reconciliationHandle (record : RecoveryRecord) (nftPath firewallPath : Bytes) : ConnectivityHandle :=
  { recoveryRecord := record, table := tableName record.token, nftPath, firewallPath }

theorem findBackendPath_confined (backend : RecoveryBackend) :
    Confined Inspection (fun found => ∀ path, found = some path → backend = .nftables ∨ path ≠ [])
      (findBackendPath backend) := by
  have htool (tool : Tool) : Confined Inspection (fun found => ∀ path, found = some path →
      backend = .nftables ∨ path ≠ []) (toolPath tool) :=
    (toolPath_confined (fun _ => trivial) tool).imp fun _ hfound path hpath => Or.inr (hfound path hpath)
  cases backend with
  | nftables => exact fun path _ => Or.inl rfl
  | ufw => exact htool .ufw
  | firewalld => exact htool .firewallCmd

/-- The firewall was not opened by a Session that has no other than nftables. -/
theorem Recoverable.of_backend {firewallPath : Bytes} (h : Recoverable defaults record zone True host)
    (hpath : record.backend = .nftables ∨ firewallPath ≠ []) :
    Recoverable defaults record zone (firewallPath ≠ []) host := by
  rcases hpath with hbackend | hopened
  · obtain ⟨hrules, hpolicy, -⟩ := h.owned.closed (Or.inl hbackend)
    exact ⟨.of_closed hrules hpolicy, h.journal⟩
  · exact h.mono fun _ => hopened

/-- Reconciling, wherever it ends, keeps to the order of journal and firewall, and where it succeeds the journal is
empty. -/
theorem reconcilePendingState_watched (h : Recoverable defaults record zone True host) :
    Safe (believedHost believed defaults record.token) (Watched believed defaults record.token)
      (fun result after => result.succeeded = true → after.journal = none) (reconcilePendingState deadline) host := by
  have hfailed {cause : Cause} {after : Host} :
      (⟨false, cause⟩ : OperationResult).succeeded = true → after.journal = none := fun h => by cases h
  refine safe_look trivial h fun directory first _ hfirst => ?_
  split
  · exact hfailed
  · refine safe_look trivial hfirst fun found second hread hsecond => ?_
    obtain ⟨hsame, hfound⟩ : second.journal = first.journal ∧ _ := hread.2.1
    cases found with
    | empty => exact fun _ => hsame.trans hfound
    | valid current =>
        obtain ⟨hbackend, htoken⟩ := hsecond.journal current (hsame.trans hfound)
        refine safe_bind ((safe_looking (toolPath_confined (fun _ => trivial) .nft) hsecond).imp ?_)
        rintro nft third ⟨-, hthird⟩
        cases nft with
        | none => exact hfailed
        | some nftPath =>
            refine safe_bind ((safe_looking (findBackendPath_confined _) hthird).imp ?_)
            rintro backend fourth ⟨hbackendPath, hfourth⟩
            cases backend with
            | none => exact hfailed
            | some firewallPath =>
                have hhandle : HandleOf record (reconciliationHandle current nftPath firewallPath) :=
                  ⟨hbackend, htoken, congrArg tableName htoken⟩
                have hpath := (hbackendPath firewallPath rfl).imp_left fun hnft => hbackend.symm.trans hnft
                refine safe_bind ((removeConnectivity_watched hhandle (hfourth.of_backend hpath)).imp ?_)
                rintro removal last ⟨-, -, habsent⟩
                split
                · rename_i hisAbsent
                  refine fun _ => (habsent ?_).2
                  cases hstate : removal.state with
                  | absent => rfl
                  | _ => rw [hstate] at hisAbsent; cases hisAbsent
                · exact hfailed
    | corrupt => exact hfailed
    | failure => exact hfailed

end Reconciliation

/-! ### A host that works again -/

section Recovery

variable {defaults : NewPolicySettings} {installed : Bytes → Bool} {record : RecoveryRecord} {token zone : Bytes}
  {opened : Prop} {handle : ConnectivityHandle} {host : Host} {deadline : TimePoint}

/-- The policy of the Session has an ingress zone. -/
def ZoneAssigned (token : Bytes) (firewall : HostFirewall) : Prop :=
  ∃ policy, firewall.policy token = some policy ∧ policy.ingressZones ≠ []

/-- A handle that is made of a record has no zone, so it knows none. -/
theorem zoneUnknown_iff (h : Owned defaults record zone opened host.firewall) (hzone : handle.firewallZone = []) :
    ZoneUnknown record zone handle host.firewall ↔ ZoneAssigned record.token host.firewall := by
  constructor
  · rintro ⟨policy, hpolicy, hassigned, -⟩
    exact ⟨policy, hpolicy, hassigned⟩
  · rintro ⟨policy, hpolicy, hassigned⟩
    exact ⟨policy, hpolicy, hassigned, by rw [hzone]; exact (h.policy policy hpolicy).2.1.1⟩

/-- A policy that is not recognised is left alone. -/
theorem removeFirewalldPolicy_untouched (hhandle : HandleOf record handle)
    (h : Owned defaults record zone opened host.firewall)
    (hunknown : ZoneUnknown record zone handle host.firewall) :
    Recovers defaults installed (fun result after => result.succeeded = false ∧ host = after)
      (removeFirewalldPolicy handle deadline) host := by
  obtain ⟨policy, hpolicy, hassigned, hne⟩ := hunknown
  obtain ⟨-, hzone, hshape⟩ := h.policy policy hpolicy
  rw [removeFirewalldPolicy, Recovers]
  simp only [hhandle.token]
  rw [safe_runTool]
  rintro current after ⟨⟨hfirewall, hcurrent⟩, hjournal⟩
  obtain rfl : host = after := (Host.ext hfirewall hjournal).symm
  refine ⟨trivial, ?_⟩
  cases hpolicies : host.firewall.firewalldPolicies with
  | none =>
      rw [HostFirewall.policy, hpolicies] at hpolicy
      cases hpolicy
  | some policies =>
      rw [policy_eq_some record.token hpolicies] at hpolicy
      rw [hpolicies] at hcurrent
      simp only [hpolicy] at hcurrent
      obtain ⟨hkind, report, hreport, houtput⟩ := hcurrent
      rw [if_neg (not_not.mpr hkind), houtput, firewalldPolicyMatches_own hzone hshape hreport,
        decide_eq_false (not_or.mpr ⟨hassigned, hne⟩)]
      exact ⟨rfl, rfl⟩

/-- A removal that does not know the ingress zone changes nothing but the phase of the record. -/
theorem removeConnectivity_untouched (hhandle : HandleOf record handle)
    (h : Recoverable defaults record zone (handle.firewallPath ≠ []) host)
    (hunknown : ZoneUnknown record zone handle host.firewall) :
    Recovers defaults installed
      (fun removal after => removal.state ≠ .absent ∧ after.firewall = host.firewall ∧
        ∃ current, after.journal = some current ∧ current.token = record.token)
      (removeConnectivity handle deadline) host := by
  obtain ⟨policy, hpolicy, hassigned⟩ := id hunknown
  obtain ⟨hbackend, hpath⟩ := (h.owned.policy policy hpolicy).1
  refine recovers_removeConnectivity hhandle h fun removing hremoving => ?_
  have howned : Owned defaults record zone (handle.firewallPath ≠ [])
      ({ host with journal := some removing } : Host).firewall := h.owned
  refine safe_bind ?_
  rw [removeRecorded, if_neg hpath, removeFirewall, hremoving.backend, hbackend]
  refine safe_bind ((removeFirewalldPolicy_untouched hremoving howned hunknown).imp ?_)
  rintro result after ⟨hfailed, rfl⟩
  rw [hfailed]
  exact ⟨(fun h => by cases h), rfl, removing, rfl, hremoving.token⟩

/-- The tool of a record's backend is installed. -/
def ProvidesBackend (installed : Bytes → Bool) (host : Host) : Prop :=
  ∀ current tool, host.journal = some current → backendTool current.backend = some tool → Provides installed tool

theorem findBackendPath_recovered {backend : RecoveryBackend}
    (h : ∀ tool, backendTool backend = some tool → Provides installed tool) :
    Recovers defaults installed
      (fun found after => (∃ path, found = some path ∧ (backend = .nftables ∨ path ≠ [])) ∧ host = after)
      (findBackendPath backend) host := by
  have htool (tool : Tool) (hprovides : Provides installed tool) : Recovers defaults installed
      (fun found after => (∃ path, found = some path ∧ (backend = .nftables ∨ path ≠ [])) ∧ host = after)
      (toolPath tool) host := by
    refine (toolPath_recovered hprovides).imp ?_
    rintro found after ⟨⟨path, hfound, hpath⟩, hsame⟩
    exact ⟨⟨path, hfound, Or.inr hpath⟩, hsame⟩
  cases backend with
  | nftables => exact ⟨⟨[], rfl, Or.inl rfl⟩, rfl⟩
  | ufw => exact htool .ufw (h .ufw rfl)
  | firewalld => exact htool .firewallCmd (h .firewallCmd rfl)

/-- The calls that find the record and the tools to remove what it names. -/
def FindsRecord (request : HostCall) : Prop :=
  match request with
  | .openRecoveryDirectory | .readRecoveryRecord | .queryTool _ => True
  | _ => False

theorem toolPath_findsRecord (tool : Tool) : Confined FindsRecord (fun _ => True) (toolPath tool) :=
  (toolPath_confined (fun _ => trivial) tool).imp fun _ _ => trivial

theorem findBackendPath_findsRecord (backend : RecoveryBackend) :
    Confined FindsRecord (fun _ => True) (findBackendPath backend) := by
  cases backend with
  | nftables => trivial
  | ufw => exact toolPath_findsRecord .ufw
  | firewalld => exact toolPath_findsRecord .firewallCmd

/-- Reconciling comes to a removal with a handle made of the record, where there is one. -/
theorem safe_reconcilePendingState {environment : Environment HostCall HostAnswer Host}
    {post : OperationResult → Host → Prop}
    (hanswers : ∀ before request answer after, FindsRecord request → environment before request answer after →
      recoveredHost defaults installed before request answer after)
    (hnft : Provides installed .nft) (hbackend : ProvidesBackend installed host)
    (h : Recoverable defaults record zone True host)
    (hempty : host.journal = none → post ⟨true, .systemFailure⟩ host)
    (hremoval : ∀ current handle, host.journal = some current → HandleOf record handle → handle.firewallZone = [] →
      Recoverable defaults record zone (handle.firewallPath ≠ []) host →
      Safe environment (fun _ => True) (fun removal after =>
        post (if removal.state.isAbsent then ⟨true, .systemFailure⟩ else ⟨false, removal.cause⟩) after)
        (removeConnectivity handle deadline) host) :
    Safe environment (fun _ => True) post (reconcilePendingState deadline) host := by
  intro directory first hstep
  obtain ⟨hopened, hfirst⟩ := hanswers _ .openRecoveryDirectory _ _ trivial hstep
  obtain rfl : directory = true := hopened
  obtain rfl : first = host := hfirst
  refine ⟨trivial, ?_⟩
  intro found second hstep
  obtain ⟨hfound, hsecond⟩ := hanswers _ .readRecoveryRecord _ _ trivial hstep
  obtain rfl : first = second := hsecond.symm
  refine ⟨trivial, ?_⟩
  cases hjournal : first.journal with
  | none =>
      obtain rfl : found = .empty := by rw [show found = first.journal.elim .empty .valid from hfound, hjournal]; rfl
      exact hempty hjournal
  | some current =>
      obtain rfl : found = .valid current := by
        rw [show found = first.journal.elim .empty .valid from hfound, hjournal]
        rfl
      obtain ⟨hcurrent, htoken⟩ := h.journal current hjournal
      change Safe _ _ _ (toolPath .nft >>= _) first
      refine safe_bind (((toolPath_findsRecord .nft).transfer hanswers (toolPath_recovered hnft)).imp ?_)
      rintro nft _ ⟨⟨nftPath, rfl, -⟩, rfl⟩
      refine safe_bind (((findBackendPath_findsRecord _).transfer hanswers
        (findBackendPath_recovered fun tool => hbackend current tool hjournal)).imp ?_)
      rintro backend _ ⟨⟨firewallPath, rfl, hpath⟩, rfl⟩
      have hhandle : HandleOf record (reconciliationHandle current nftPath firewallPath) :=
        ⟨hcurrent, htoken, congrArg tableName htoken⟩
      refine safe_bind ((hremoval current _ hjournal hhandle rfl
        (h.of_backend (hpath.imp_left fun hnone => hcurrent.symm.trans hnone))).imp ?_)
      exact fun _ _ hpost => hpost

/-- Without an assigned ingress zone everything is removed. -/
theorem reconcilePendingState_recovered (hnft : Provides installed .nft) (hbackend : ProvidesBackend installed host)
    (h : Left defaults token host) (hunassigned : ¬ ZoneAssigned token host.firewall) :
    Recovers defaults installed
      (fun result after => result.succeeded = true ∧ after.firewall.Absent token ∧ after.journal = none)
      (reconcilePendingState deadline) host := by
  obtain ⟨record, zone, rfl, hrecoverable⟩ := h.recoverable
  refine safe_reconcilePendingState (fun _ _ _ _ _ hstep => hstep) hnft hbackend hrecoverable (fun hjournal => ⟨rfl, ?_, hjournal⟩) ?_
  · refine h.evident.resolve_right ?_
    rintro ⟨current, hcurrent, -⟩
    simp [hjournal] at hcurrent
  · intro current handle _ hhandle hzone hhost
    have hknown : ¬ ZoneUnknown record zone handle host.firewall :=
      (zoneUnknown_iff hhost.owned hzone).not.mpr hunassigned
    refine (removeConnectivity_recovered hnft hhandle hhost hknown).imp ?_
    rintro removal after ⟨hstate, habsent, hjournal⟩
    rw [hstate]
    exact ⟨rfl, habsent, hjournal⟩

/-- With one the firewall is left as it is, and the record stays. -/
theorem reconcilePendingState_refused (hnft : Provides installed .nft) (hbackend : ProvidesBackend installed host)
    (h : Left defaults token host) (hassigned : ZoneAssigned token host.firewall) :
    Recovers defaults installed
      (fun result after => result.succeeded = false ∧ after.firewall = host.firewall ∧
        ∃ current, after.journal = some current ∧ current.token = token)
      (reconcilePendingState deadline) host := by
  obtain ⟨record, zone, rfl, hrecoverable⟩ := h.recoverable
  refine safe_reconcilePendingState (fun _ _ _ _ _ hstep => hstep) hnft hbackend hrecoverable (fun hjournal => ?_) ?_
  · obtain ⟨policy, hpolicy, -⟩ := hassigned
    rcases h.evident with habsent | ⟨current, hcurrent, -⟩
    · simp [habsent.policy] at hpolicy
    · simp [hjournal] at hcurrent
  · intro current handle _ hhandle hzone hhost
    have hunknown : ZoneUnknown record zone handle host.firewall := (zoneUnknown_iff hhost.owned hzone).mpr hassigned
    refine (removeConnectivity_untouched hhandle hhost hunknown).imp ?_
    rintro removal after ⟨hstate, hkept⟩
    cases hremoval : removal.state with
    | absent => exact absurd hremoval hstate
    | _ => exact ⟨rfl, hkept⟩

end Recovery

/-! ### After a crash -/

/-- The life of a Session's connectivity, then attempts to reconcile what it left; each of them is cut off anywhere. -/
inductive Aftermath (environment : Environment HostCall HostAnswer Host) (ipPath : Bytes) (start : Host) :
    List (Step HostCall HostAnswer Host) → Host → Prop
  | life {deadline : TimePoint} {removals : List TimePoint} {trace : List (Step HostCall HostAnswer Host)}
      {rest : HostProgram Unit} {final : Host}
      (h : Path environment (connectivityLife ipPath deadline removals) start trace rest final) :
      Aftermath environment ipPath start trace final
  | reconciliation {deadline : TimePoint} {trace more : List (Step HostCall HostAnswer Host)}
      {rest : HostProgram OperationResult} {middle final : Host}
      (before : Aftermath environment ipPath start trace middle)
      (h : Path environment (reconcilePendingState deadline) middle more rest final) :
      Aftermath environment ipPath start (trace ++ more) final

section Crash

variable {defaults : NewPolicySettings} {installed : Bytes → Bool} {token ipPath : Bytes} {start crashed last : Host}
  {trace more : List (Step HostCall HostAnswer Host)} {deadline : TimePoint} {result : OperationResult}

/-- A watched program leaves what a Session leaves, wherever it is cut off. -/
theorem left_of_path {α : Type} {post : α → Host → Prop} {program rest : HostProgram α}
    (h : Safe (believedHost True defaults token) (Watched True defaults token) post program start)
    (hstart : Left defaults token start)
    (hpath : Path (honestHost defaults token) program start trace rest last)
    (hshown : ∀ step ∈ trace, ¬ HidesRule token step) :
    (∀ step ∈ trace, Watched True defaults token step ∧ Left defaults token step.after) ∧ Left defaults token last := by
  have hrestricted : Path (showingHost defaults token) program start trace rest last := hpath.restrict hshown
  have hkept : ∀ step : Step HostCall HostAnswer Host,
      showingHost defaults token step.before step.request step.answer step.after → Watched True defaults token step →
        Left defaults token step.before → Left defaults token step.after :=
    fun step hstep hwatched hbefore => hwatched.left hstep.1.1 hbefore
  have hsteps := (((Safe.showingOnly h).invariant hkept hstart).path hrestricted).1
  exact ⟨hsteps, hrestricted.last_of_steps hstart fun step hstep => (hsteps step hstep).2⟩

/-- A host without the token has nothing to recover. -/
theorem Left.of_absent (habsent : start.firewall.Absent token) (hjournal : start.journal = none) :
    Left defaults token start :=
  ⟨⟨⟨.nftables, .intent, token⟩, [], rfl, .of_absent habsent hjournal⟩, Or.inl habsent⟩

theorem Aftermath.left (h : Aftermath (honestHost defaults token) ipPath start trace crashed)
    (habsent : start.firewall.Absent token) (hjournal : start.journal = none)
    (hshown : ∀ step ∈ trace, ¬ HidesRule token step) :
    (∀ step ∈ trace, Watched True defaults token step ∧ Left defaults token step.after) ∧ Left defaults token crashed := by
  induction h with
  | life h =>
      exact left_of_path (connectivityLife_watched ipPath _ habsent hjournal) (.of_absent habsent hjournal) h hshown
  | reconciliation before h ih =>
      rw [List.forall_mem_append] at hshown
      obtain ⟨hsteps, hmiddle⟩ := ih hshown.1
      obtain ⟨record, zone, rfl, hrecoverable⟩ := id hmiddle.recoverable
      obtain ⟨hmore, hlast⟩ := left_of_path (reconcilePendingState_watched hrecoverable) hmiddle h hshown.2
      exact ⟨List.forall_mem_append.mpr ⟨hsteps, hmore⟩, hlast⟩

/-- The journal is evidence: every mutation is recorded before it is made, the journal is cleared only when nothing of
the token is left, at any time whatever is left is named by the record, and an attempt that succeeds has left nothing. -/
theorem aftermath_evidence (h : Aftermath (honestHost defaults token) ipPath start trace crashed)
    (habsent : start.firewall.Absent token) (hjournal : start.journal = none)
    (hfits : ∀ step ∈ trace, ListingFits step) :
    (∀ step ∈ trace, MutationRecorded step ∧
      (step.request = .clearRecoveryRecord → step.before.firewall.Absent token) ∧ Evident token step.after) ∧
    ∀ deadline more result last,
      Path (honestHost defaults token) (reconcilePendingState deadline) crashed more (.done result) last →
      (∀ step ∈ more, ListingFits step) → result.succeeded = true → last.firewall.Absent token ∧ last.journal = none := by
  obtain ⟨hsteps, hcrashed⟩ := h.left habsent hjournal fun step hstep => not_hidesRule_of_fits (hfits step hstep)
  refine ⟨fun step hstep => ?_, fun deadline more result last hpath hmore hsucceeded => ?_⟩
  · obtain ⟨hwatched, hleft⟩ := hsteps step hstep
    exact ⟨hwatched.session.1, hwatched.clears trivial, hleft.evident⟩
  · obtain ⟨record, zone, rfl, hrecoverable⟩ := id hcrashed.recoverable
    have hshown : ∀ step ∈ more, ¬ HidesRule record.token step := fun step hstep =>
      not_hidesRule_of_fits (hmore step hstep)
    obtain ⟨-, hlast⟩ := left_of_path (reconcilePendingState_watched hrecoverable) hcrashed hpath hshown
    have hempties : Safe (showingHost defaults record.token) (Watched True defaults record.token)
        (fun result after => result.succeeded = true → after.journal = none) (reconcilePendingState deadline) crashed :=
      Safe.showingOnly (reconcilePendingState_watched hrecoverable)
    have hnone : last.journal = none := hempties.result (hpath.restrict hshown) hsucceeded
    refine ⟨hlast.evident.resolve_right ?_, hnone⟩
    rintro ⟨current, hcurrent, -⟩
    simp [hnone] at hcurrent

/-- A workstation's helper that dies once the policy is made and before it has a zone. -/
def crashedWorkstation : List (Step HostCall HostAnswer Host) × HostProgram Unit × Host :=
  execute workstation.respond 25 (connectivityLife (ascii "/usr/sbin/ip") (5 : TimePoint) [6]) untouched

theorem aftermath_workstation :
    Aftermath (honestHost workstation.defaults workstation.token) (ascii "/usr/sbin/ip") untouched
      crashedWorkstation.1 crashedWorkstation.2.2 :=
  .life (Scenario.path_honest workstation 25 _ untouched (by decide +kernel))

theorem aftermath_evidence_workstation :
    (∀ step ∈ crashedWorkstation.1, MutationRecorded step ∧
      (step.request = .clearRecoveryRecord → step.before.firewall.Absent workstation.token) ∧
      Evident workstation.token step.after) ∧
    ∀ deadline more result last,
      Path (honestHost workstation.defaults workstation.token) (reconcilePendingState deadline) crashedWorkstation.2.2 more
        (.done result) last →
      (∀ step ∈ more, ListingFits step) → result.succeeded = true →
        last.firewall.Absent workstation.token ∧ last.journal = none :=
  aftermath_evidence aftermath_workstation ⟨rfl, rfl, rfl⟩ rfl (by decide +kernel)

/-- On a host that works again and captures the listing of ufw whole, a reconciliation comes to what it does on one that
prints it whole. -/
theorem result_of_recovers {post : OperationResult → Host → Prop}
    (h : Recovers defaults installed post (reconcilePendingState deadline) crashed)
    (hrun : Path (capturingHost defaults installed) (reconcilePendingState deadline) crashed more (.done result) last)
    (hmore : ∀ step ∈ more, ListingFits step) : post result last :=
  (h.mono (fun _ _ _ _ hstep => recovered_of_fitting hstep.1 hstep.2) (fun _ _ hthis => hthis)
    fun _ _ hpost => hpost).result (hrun.restrict hmore)

/-- After a crash anywhere, a reconciliation on a host that works again and captures the listing of ufw whole removes
everything, unless the Session had given its policy of firewalld an ingress zone: then it removes nothing and keeps the
record. -/
theorem reconcilePendingState_afterCrash (h : Aftermath (honestHost defaults token) ipPath start trace crashed)
    (habsent : start.firewall.Absent token) (hjournal : start.journal = none)
    (hfits : ∀ step ∈ trace, ListingFits step) (hnft : Provides installed .nft)
    (hbackend : ProvidesBackend installed crashed)
    (hrun : Path (capturingHost defaults installed) (reconcilePendingState deadline) crashed more (.done result) last)
    (hmore : ∀ step ∈ more, ListingFits step) :
    (result.succeeded = true ↔ ¬ ZoneAssigned token crashed.firewall) ∧
      (result.succeeded = true → last.firewall.Absent token ∧ last.journal = none) ∧
      (result.succeeded = false → last.firewall = crashed.firewall ∧
        ∃ current, last.journal = some current ∧ current.token = token) := by
  obtain ⟨-, hcrashed⟩ := h.left habsent hjournal fun step hstep => not_hidesRule_of_fits (hfits step hstep)
  by_cases hassigned : ZoneAssigned token crashed.firewall
  · obtain ⟨hfailed, hkept⟩ :=
      result_of_recovers (reconcilePendingState_refused hnft hbackend hcrashed hassigned) hrun hmore
    rw [hfailed]
    exact ⟨⟨(fun h => by cases h), fun hnot => absurd hassigned hnot⟩, (fun h => by cases h), fun _ => hkept⟩
  · obtain ⟨hsucceeded, hgone⟩ :=
      result_of_recovers (reconcilePendingState_recovered hnft hbackend hcrashed hassigned) hrun hmore
    rw [hsucceeded]
    exact ⟨⟨fun _ => hassigned, fun _ => rfl⟩, fun _ => hgone, fun h => by cases h⟩

/-- The workstation works again: it reconciles what a helper with the record left. -/
theorem workstation_provides {host : Host} (hjournal : host.journal = some ⟨.firewalld, .intent, workstation.token⟩) :
    Provides workstation.installed .nft ∧ ProvidesBackend workstation.installed host := by
  refine ⟨⟨ascii "/usr/sbin/nft", by decide, by decide⟩, ?_⟩
  intro current tool hcurrent htool
  rw [hjournal, Option.some.injEq] at hcurrent
  subst hcurrent
  obtain rfl : Tool.firewallCmd = tool := Option.some.inj htool
  exact ⟨ascii "/usr/bin/firewall-cmd", by decide, by decide⟩

theorem crashedWorkstation_journal :
    crashedWorkstation.2.2.journal = some ⟨.firewalld, .intent, workstation.token⟩ := by decide +kernel

theorem crashedWorkstation_reconciled : ∃ more last,
    Path (capturingHost workstation.defaults workstation.installed) (reconcilePendingState (9 : TimePoint))
        crashedWorkstation.2.2 more (.done ⟨true, .systemFailure⟩) last ∧
      ∀ step ∈ more, ListingFits step := by
  have hpath := Scenario.path_captured workstation 40 (reconcilePendingState (9 : TimePoint)) crashedWorkstation.2.2
    (by decide +kernel)
  have hended : (execute workstation.respond 40 (reconcilePendingState (9 : TimePoint))
      crashedWorkstation.2.2).2.1.ended = some ⟨true, .systemFailure⟩ := by decide +kernel
  rw [Program.eq_done_of_ended hended] at hpath
  exact ⟨_, _, hpath, by decide +kernel⟩

theorem reconcilePendingState_afterCrash_workstation : ∃ more result last,
    Path (capturingHost workstation.defaults workstation.installed) (reconcilePendingState (9 : TimePoint))
        crashedWorkstation.2.2 more (.done result) last ∧
      last.firewall.Absent workstation.token ∧ last.journal = none := by
  obtain ⟨more, last, hpath, hmore⟩ := crashedWorkstation_reconciled
  obtain ⟨hnft, hbackend⟩ := workstation_provides crashedWorkstation_journal
  obtain ⟨-, hgone, -⟩ := reconcilePendingState_afterCrash aftermath_workstation ⟨rfl, rfl, rfl⟩ rfl (by decide +kernel)
    hnft hbackend hpath hmore
  exact ⟨more, _, last, hpath, hgone rfl⟩

end Crash

end NetLagLab.NetworkEnvironment
