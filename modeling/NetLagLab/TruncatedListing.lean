import NetLagLab.CrashRecovery

/-! A host that works again, and whose listing of ufw is longer than what is captured of it. Nothing tells a listing
that was cut from a whole one, so a rule that is listed behind the captured part is taken to be absent. -/

namespace NetLagLab.NetworkEnvironment

open ByteLines CallPrograms CallPrograms.Program

section Calls

variable {handle : ConnectivityHandle} {deadline : TimePoint}

theorem removeTable_listsNoRules (nftPath : Bytes) :
    Confined ListsNoRules (fun _ => True) (removeTable handle deadline nftPath) := by
  refine confined_runTool.mpr ⟨trivial, fun tableQuery => ?_⟩
  split
  · split
    · trivial
    · refine confined_runTool.mpr ⟨trivial, fun deletion => ?_⟩
      split
      · trivial
      · refine confined_runTool.mpr ⟨trivial, fun afterDeletion => ?_⟩
        split <;> trivial
  · split <;> trivial

theorem removeRecordedTable_listsNoRules :
    Confined ListsNoRules (fun _ => True) (removeRecordedTable handle deadline) := by
  have hknown : Confined ListsNoRules (fun _ => True) (knownNftPath handle) := by
    rw [knownNftPath]
    split
    · exact (toolPath_confined (fun _ => trivial) .nft).imp fun _ _ => trivial
    · trivial
  refine confined_bind (hknown.imp fun found _ => ?_)
  cases found with
  | none => trivial
  | some nftPath => exact removeTable_listsNoRules nftPath

end Calls

theorem removeFirewalldPolicy_listsNoRules {handle : ConnectivityHandle} {deadline : TimePoint} :
    Confined ListsNoRules (fun _ => True) (removeFirewalldPolicy handle deadline) := by
  refine confined_runTool.mpr ⟨trivial, fun current => ?_⟩
  have hinspect : Confined ListsNoRules (fun _ => True) (inspectFirewalld handle.firewallPath deadline) :=
    inspectFirewalld_confined trivial
  split
  · refine confined_bind (hinspect.imp fun active _ => ?_)
    split
    · trivial
    · split <;> trivial
  · split
    · trivial
    · refine confined_runTool.mpr ⟨trivial, fun deletion => ?_⟩
      split
      · trivial
      · refine confined_runTool.mpr ⟨trivial, fun afterDeletion => ?_⟩
        split
        · trivial
        · split
          · trivial
          · refine confined_bind (hinspect.imp fun active _ => ?_)
            split <;> trivial

section Removal

variable {defaults : NewPolicySettings} {installed : Bytes → Bool} {record : RecoveryRecord} {token zone : Bytes}
  {handle : ConnectivityHandle} {host : Host} {deadline : TimePoint}

/-- No line that is captured of the listing carries the token's marker. -/
def Hidden (token : Bytes) (firewall : HostFirewall) : Prop :=
  ∀ line ∈ outputLines ((ufwListing firewall.ufwRules).take maximumToolOutput), contains (marker token) line = false

theorem ufwRulePresent_captured {path : Bytes} :
    Safe (capturingHost defaults installed) (fun _ => True)
      (fun present after => (present = some false ↔ Hidden token host.firewall) ∧ host = after)
      (ufwRulePresent path deadline token) host := by
  rw [ufwRulePresent, safe_runTool]
  rintro result after ⟨hkind, houtput, hsame⟩
  obtain rfl : host = after := hsame.symm
  refine ⟨trivial, ?_⟩
  rw [if_neg (not_not.mpr hkind), houtput]
  refine ⟨ufwRuleAmong_eq_some_false.trans ?_, rfl⟩
  simp only [true_and]
  rfl

/-- What is left of the Session's rule and policy once its firewall is closed. -/
def RuleLeft (token : Bytes) (host after : Host) : Prop :=
  after.firewall.policy token = none ∧
    ((Hidden token host.firewall ∧ after.firewall.markedRules token = host.firewall.markedRules token) ∨
      (¬ Hidden token host.firewall ∨ host.firewall.markedRules token = []) ∧
        after.firewall.markedRules token = [])

theorem removeUfwRule_captured (hhandle : HandleOf record handle) (hbackend : record.backend = .ufw)
    (h : Owned defaults record zone (handle.firewallPath ≠ []) host.firewall) :
    Safe (capturingHost defaults installed) (fun _ => True)
      (fun result after => result.succeeded = true → RuleLeft record.token host after)
      (removeUfwRule handle deadline) host := by
  have hpolicy : host.firewall.policy record.token = none := by
    refine Option.eq_none_iff_forall_not_mem.mpr fun policy hpolicy => ?_
    cases hbackend.symm.trans (h.policy policy hpolicy).1.1
  rw [removeUfwRule]
  simp only [hhandle.token]
  refine safe_bind (ufwRulePresent_captured.imp ?_)
  rintro present _ ⟨hhidden, rfl⟩
  rcases present with _ | _ | _
  · exact fun hsucceeded => by cases hsucceeded
  · exact fun _ => ⟨hpolicy, Or.inl ⟨hhidden.mp rfl, rfl⟩⟩
  · have hseen : ¬ Hidden record.token host.firewall := fun hhidden' => by cases hhidden.mpr hhidden'
    rintro deletion after ⟨⟨hkind, heffect⟩, -⟩
    have heffect : after.firewall = host.firewall.withoutRoute (marker record.token) := heffect
    have hgone : after.firewall.markedRules record.token = [] := by
      rw [heffect, markedRules_withoutRoute]
      rcases h.rules with hnone | ⟨-, rule, hone, hroute⟩
      · simp [hnone]
      · simp [hone, hroute]
    have hleft : RuleLeft record.token host after :=
      ⟨by rw [heffect]; exact hpolicy, Or.inr ⟨Or.inl hseen, hgone⟩⟩
    refine ⟨trivial, ?_⟩
    change Safe _ _ _ (if deletion.kind ≠ .success then _ else _) after
    rw [if_neg (not_not.mpr hkind)]
    refine safe_bind (ufwRulePresent_captured.imp ?_)
    rintro remains last ⟨-, rfl⟩
    split
    · exact fun _ => hleft
    · exact fun hsucceeded => by cases hsucceeded

theorem removeFirewall_captured (hhandle : HandleOf record handle)
    (h : Owned defaults record zone (handle.firewallPath ≠ []) host.firewall) :
    Safe (capturingHost defaults installed) (fun _ => True)
      (fun result after => result.succeeded = true → RuleLeft record.token host after)
      (removeFirewall handle deadline) host := by
  rw [removeFirewall, hhandle.backend]
  cases hbackend : record.backend with
  | nftables =>
      obtain ⟨hrules, hpolicy, -⟩ := h.closed (Or.inl hbackend)
      exact fun _ => ⟨hpolicy, Or.inr ⟨Or.inr hrules, hrules⟩⟩
  | ufw => exact removeUfwRule_captured hhandle hbackend h
  | firewalld =>
      have hrules : host.firewall.markedRules record.token = [] :=
        h.rules.elim id fun hrule => by cases hbackend.symm.trans hrule.1.1
      refine removeFirewalldPolicy_listsNoRules.transfer (fun _ _ _ _ => recovered_of_capturing) ?_
      by_cases hunknown : ZoneUnknown record zone handle host.firewall
      · refine (removeFirewalldPolicy_refused hhandle h hunknown).imp fun result after hfailed hsucceeded => ?_
        simp [hfailed] at hsucceeded
      · refine (removeFirewalldPolicy_recovered hhandle hbackend h hunknown).imp ?_
        rintro result after ⟨-, hclosed⟩ -
        exact ⟨hclosed.policy, Or.inr ⟨Or.inr hrules, hclosed.rules⟩⟩

/-- What is left of the Session once its table is gone as well. -/
def Leftover (token : Bytes) (host after : Host) : Prop :=
  after.firewall.nftTables (tableName token) = false ∧ RuleLeft token host after

theorem removeRecordedTable_captured (hnft : Provides installed .nft) (hhandle : HandleOf record handle)
    {start : Host} (hleft : RuleLeft record.token start host) :
    Safe (capturingHost defaults installed) (fun _ => True) (fun _ after => Leftover record.token start after)
      (removeRecordedTable handle deadline) host := by
  have hknown : Recovers defaults installed (fun found after => found.isSome = true ∧ host = after)
      (knownNftPath handle) host := by
    rw [knownNftPath]
    split
    · refine (toolPath_recovered hnft).imp ?_
      rintro found after ⟨⟨path, rfl, -⟩, hsame⟩
      exact ⟨rfl, hsame⟩
    · exact ⟨rfl, rfl⟩
  refine removeRecordedTable_listsNoRules.transfer (fun _ _ _ _ => recovered_of_capturing) ?_
  refine safe_bind (hknown.imp ?_)
  rintro found after ⟨hsome, rfl⟩
  obtain ⟨nftPath, rfl⟩ := Option.isSome_iff_exists.mp hsome
  refine (removeTable_recovered hhandle nftPath).imp ?_
  rintro removed last ⟨-, htable, hrules, hpolicy, -⟩
  rw [Leftover, RuleLeft, hrules, hpolicy]
  exact ⟨htable, hleft⟩

theorem removeRecorded_captured (hnft : Provides installed .nft) (hhandle : HandleOf record handle)
    (h : Owned defaults record zone (handle.firewallPath ≠ []) host.firewall) :
    Safe (capturingHost defaults installed) (fun _ => True)
      (fun removed after => removed = .ok () → Leftover record.token host after)
      (removeRecorded handle deadline) host := by
  rw [removeRecorded]
  split
  · rename_i hpath
    obtain ⟨hrules, hpolicy, -⟩ := h.closed (Or.inr (not_not.mpr hpath))
    exact (removeRecordedTable_captured hnft hhandle ⟨hpolicy, Or.inr ⟨Or.inr hrules, hrules⟩⟩).imp
      fun _ _ hleft _ => hleft
  · refine safe_bind ((removeFirewall_captured hhandle h).imp fun result after hleft => ?_)
    split
    · exact fun hok => by cases hok
    · rename_i hsucceeded
      exact (removeRecordedTable_captured hnft hhandle (hleft (by simpa using hsucceeded))).imp fun _ _ hleft _ => hleft

/-- A removal that says that nothing is left. -/
def CapturedRemoval (token : Bytes) (host : Host) (removal : ConnectivityRemovalResult) (after : Host) : Prop :=
  removal.state = .absent → Leftover token host after ∧ after.journal = none

theorem removeAndClear_captured (hnft : Provides installed .nft) (hhandle : HandleOf record handle)
    (h : Owned defaults record zone (handle.firewallPath ≠ []) host.firewall) :
    Safe (capturingHost defaults installed) (fun _ => True) (CapturedRemoval record.token host)
      (removeAndClear handle deadline) host := by
  have hconfined : Confined (ToolCall record zone (handle.firewallPath ≠ [])) (KeepsProof handle)
      (removeRecorded handle deadline) := removeRecorded_confined hhandle
  have hkeeps : Safe (capturingHost defaults installed) (fun _ => True) (fun removed _ => KeepsProof handle removed)
      (removeRecorded handle deadline) host := hconfined.results host
  refine safe_bind (((removeRecorded_captured hnft hhandle h).and hkeeps).mono (fun _ _ _ _ hstep => hstep)
    (fun _ _ _ => trivial) ?_)
  rintro removed after ⟨hleft, hkept⟩
  split
  · rename_i failure
    rcases hkept failure rfl with hstate | hstate <;> exact fun hno => by cases hstate.symm.trans hno
  · rintro cleared last ⟨hcleared, rfl⟩
    obtain rfl : cleared = true := hcleared
    exact ⟨trivial, fun _ => ⟨hleft rfl, rfl⟩⟩

theorem removeConnectivity_captured (hnft : Provides installed .nft) (hhandle : HandleOf record handle)
    (h : Recoverable defaults record zone (handle.firewallPath ≠ []) host) :
    Safe (capturingHost defaults installed) (fun _ => True) (CapturedRemoval record.token host)
      (removeConnectivity handle deadline) host := by
  rintro current after ⟨-, hsame⟩
  obtain rfl : host = after := hsame.symm
  refine ⟨trivial, ?_⟩
  beta_reduce
  rw [Program.bind]
  split
  · exact fun hstate => by cases hstate
  · rename_i removing hremoving
    obtain ⟨hbackend, htoken⟩ := recordToRemove_spec hremoving
    rintro written _ ⟨hwritten, rfl⟩
    obtain rfl : written = true := hwritten
    have hhandle' : HandleOf record { handle with recoveryRecord := { removing with phase := .removing } } :=
      ⟨hbackend.trans hhandle.backend, htoken.trans hhandle.token, hhandle.table⟩
    have howned : Owned defaults record zone (handle.firewallPath ≠ [])
        ({ host with journal := some { removing with phase := .removing } } : Host).firewall := h.owned
    exact ⟨trivial, removeAndClear_captured hnft hhandle' howned⟩

/-- On a host whose listings are cut, a reconciliation that succeeds clears the journal, and it has left nothing of the
Session except a rule of ufw that no captured line shows. -/
theorem reconcilePendingState_captured {trace : List (Step HostCall HostAnswer Host)} {result : OperationResult}
    {last : Host} (h : Left defaults token host) (hnft : Provides installed .nft)
    (hbackend : ProvidesBackend installed host)
    (hrun : Path (capturingHost defaults installed) (reconcilePendingState deadline) host trace (.done result) last)
    (hsucceeded : result.succeeded = true) :
    last.journal = none ∧
      (last.firewall.Absent token ↔ host.firewall.markedRules token = [] ∨ ¬ Hidden token host.firewall) := by
  obtain ⟨record, zone, rfl, hrecoverable⟩ := h.recoverable
  have hreconciled : Safe (capturingHost defaults installed) (fun _ => True)
      (fun result after => result.succeeded = true → after.journal = none ∧
        (after.firewall.Absent record.token ↔
          host.firewall.markedRules record.token = [] ∨ ¬ Hidden record.token host.firewall))
      (reconcilePendingState deadline) host := by
    refine safe_reconcilePendingState (fun _ request _ _ hfinds => recovered_of_capturing ?_) hnft hbackend
      hrecoverable (fun hjournal _ => ⟨hjournal, ?_⟩) fun current handle _ hhandle _ hhost => ?_
    · cases request with
      | runTool path command deadline size => exact hfinds.elim
      | _ => trivial
    · have habsent : host.firewall.Absent record.token := h.evident.resolve_right (by
        rintro ⟨current, hcurrent, -⟩
        simp [hjournal] at hcurrent)
      exact ⟨fun _ => Or.inl habsent.rules, fun _ => habsent⟩
    · refine (removeConnectivity_captured hnft hhandle hhost).imp fun removal after hleft => ?_
      cases hstate : removal.state with
      | absent =>
          obtain ⟨⟨htable, hpolicy, hrules⟩, hjournal⟩ := hleft hstate
          refine fun _ => ⟨hjournal, ?_⟩
          rcases hrules with ⟨hhidden, hsame⟩ | ⟨hseen, hgone⟩
          · constructor
            · exact fun habsent => Or.inl (hsame.symm.trans habsent.rules)
            · exact fun hnone => ⟨htable, hsame.trans (hnone.resolve_right (not_not.mpr hhidden)), hpolicy⟩
          · exact ⟨fun _ => hseen.symm, fun _ => ⟨htable, hgone, hpolicy⟩⟩
      | _ => exact fun hno => by cases hno
  exact hreconciled.result hrun hsucceeded

end Removal

/-! ### The record is cleared -/

/-- In the life of a Session's connectivity and in the reconciliations behind it, cut off anywhere, the record is cleared
only when nothing of the token is left, as long as no listing hides the token's rule. -/
theorem aftermath_clears {defaults : NewPolicySettings} {token ipPath : Bytes} {start last : Host}
    {trace : List (Step HostCall HostAnswer Host)}
    (h : Aftermath (honestHost defaults token) ipPath start trace last) (habsent : start.firewall.Absent token)
    (hjournal : start.journal = none) (hshown : ∀ step ∈ trace, ¬ HidesRule token step) :
    ∀ step ∈ trace, step.request = .clearRecoveryRecord → step.before.firewall.Absent token := by
  obtain ⟨hsteps, -⟩ := h.left habsent hjournal hshown
  exact fun step hstep => (hsteps step hstep).1.clears trivial

/-! ### A host with many rules -/

/-- A server on which ufw is in use. -/
def server : Scenario where
  defaults := newPolicySettings
  installed path := path == ascii "/usr/sbin/nft" || path == ascii "/usr/sbin/ufw"
  backend := .ufw
  token := ascii "0123456789abcdef0123456789abcdef"
  zone := []

/-- Its sixty other rules are listed before the one that a dead Session left. -/
def crowded : Host where
  firewall :=
    { nftTables := fun _ => false
      ufwRules := List.replicate 60 ⟨ascii "192.0.2.0/24 8080/tcp        ALLOW FWD   198.51.100.0/24 on eth0", by decide⟩
        ++ [routeRule (marker server.token)]
      firewalldPolicies := none }
  journal := some ⟨.ufw, .applied, server.token⟩

/-- The server before the Session. -/
def busy : Host where
  firewall := { crowded.firewall with ufwRules := crowded.firewall.ufwRules.take 60 }
  journal := none

/-- Connectivity is configured and removed. -/
def serverLife (start : Host) : List (Step HostCall HostAnswer Host) × HostProgram Unit × Host :=
  execute server.respond 60 (connectivityLife (ascii "/usr/sbin/ip") (5 : TimePoint) [6]) start

theorem aftermath_server {start : Host} (h : ∀ step ∈ (serverLife start).1, Scenario.OneLineComment step.request) :
    Aftermath (honestHost server.defaults server.token) (ascii "/usr/sbin/ip") start (serverLife start).1
      (serverLife start).2.2 :=
  .life (Scenario.path_honest server 60 (connectivityLife (ascii "/usr/sbin/ip") (5 : TimePoint) [6]) start h)

/-- The rule that the Session has put is not shown, so it stays and its record is cleared. -/
theorem aftermath_clears_busy :
    Aftermath (honestHost server.defaults server.token) (ascii "/usr/sbin/ip") busy (serverLife busy).1 (serverLife busy).2.2 ∧
      busy.firewall.Absent server.token ∧ busy.journal = none ∧
      ∃ step ∈ (serverLife busy).1, step.request = .clearRecoveryRecord ∧ ¬ step.before.firewall.Absent server.token := by
  refine ⟨aftermath_server (by decide +kernel), ⟨rfl, by decide +kernel, rfl⟩, rfl, ?_⟩
  have hcleared : ∃ step ∈ (serverLife busy).1, step.request = .clearRecoveryRecord ∧
      step.before.firewall.markedRules server.token ≠ [] := by decide +kernel
  obtain ⟨step, hstep, hclear, hmarked⟩ := hcleared
  exact ⟨step, hstep, hclear, fun habsent => hmarked habsent.rules⟩

/-- A server without other rules. -/
def quiet : Host := ⟨⟨fun _ => false, [], none⟩, none⟩

theorem aftermath_clears_quiet :
    ∃ step ∈ (serverLife quiet).1, step.request = .clearRecoveryRecord ∧ step.before.firewall.Absent server.token := by
  have hfits : ∀ step ∈ (serverLife quiet).1, ListingFits step := by decide +kernel
  have hcleared : ∃ step ∈ (serverLife quiet).1, step.request = .clearRecoveryRecord := by decide +kernel
  obtain ⟨step, hstep, hclear⟩ := hcleared
  exact ⟨step, hstep, hclear, aftermath_clears (aftermath_server (by decide +kernel)) ⟨rfl, rfl, rfl⟩ rfl
    (fun step hstep => not_hidesRule_of_fits (hfits step hstep)) step hstep hclear⟩

theorem crowded_left : Left server.defaults server.token crowded where
  recoverable := by
    refine ⟨⟨.ufw, .applied, server.token⟩, [], rfl, ⟨Or.inr ⟨⟨rfl, trivial⟩, ?_⟩, fun policy h => by cases h⟩, ?_⟩
    · exact ⟨routeRule (marker server.token), by decide +kernel, by decide +kernel⟩
    · rintro current ⟨⟩
      exact ⟨rfl, rfl⟩
  evident := Or.inr ⟨_, rfl, rfl⟩

theorem reconcilePendingState_captured_crowded : ∃ trace last,
    Path (capturingHost server.defaults server.installed) (reconcilePendingState (9 : TimePoint)) crowded trace
        (.done ⟨true, .systemFailure⟩) last ∧
      last.journal = none ∧ ¬ last.firewall.Absent server.token := by
  have hpath := Scenario.path_captured server 40 (reconcilePendingState (9 : TimePoint)) crowded (by decide +kernel)
  have hended : (execute server.respond 40 (reconcilePendingState (9 : TimePoint)) crowded).2.1.ended =
      some ⟨true, .systemFailure⟩ := by decide +kernel
  rw [Program.eq_done_of_ended hended] at hpath
  have hnft : Provides server.installed .nft := ⟨ascii "/usr/sbin/nft", by decide, by decide⟩
  have hbackend : ProvidesBackend server.installed crowded := by
    rintro current tool ⟨⟩ htool
    obtain rfl : Tool.ufw = tool := Option.some.inj htool
    exact ⟨ascii "/usr/sbin/ufw", by decide, by decide⟩
  obtain ⟨hjournal, habsent⟩ := reconcilePendingState_captured crowded_left hnft hbackend hpath rfl
  refine ⟨_, _, hpath, hjournal, habsent.not.mpr ?_⟩
  rw [not_or, not_not]
  exact ⟨by decide +kernel, by unfold Hidden; decide +kernel⟩

end NetLagLab.NetworkEnvironment
