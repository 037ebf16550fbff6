import NetLagLab.ConnectivitySessions

/-! Removal on a host whose tools and journal work again. The rule of ufw is found in the listing and is
gone afterwards, the policy of firewalld is recognised as the Session's own when its ingress zone is the
expected one or none, and the table is deleted; then the journal is empty and nothing carries the token. -/

namespace NetLagLab.NetworkEnvironment

open ByteLines CallPrograms CallPrograms.Program

/-! ### The listing of ufw -/

section Listing

variable {token : Bytes} {rules : List UfwRule} {found : Bool} {lines : List Bytes}

theorem newline_notMem_ruleNumber (index : Nat) : newline ∉ ruleNumber index := by
  have hdigits : newline ∉ decimalText index := fun h => absurd (isDigit_of_mem_decimalText h) (by decide)
  have hpadding : newline ∉ if index < 10 then [space] else [] := by split <;> decide
  rw [ruleNumber, List.mem_append, List.mem_append, List.mem_append, not_or, not_or, not_or]
  exact ⟨⟨⟨by decide, hpadding⟩, hdigits⟩, by decide⟩

/-- The first letter of the marker is in no rule's number. -/
theorem markerHead_notMem_ruleNumber (index : Nat) : (110 : UInt8) ∉ ruleNumber index := by
  have hdigits : (110 : UInt8) ∉ decimalText index :=
    fun h => absurd (isDigit_of_mem_decimalText h) (by decide)
  have hpadding : (110 : UInt8) ∉ if index < 10 then [space] else [] := by split <;> decide
  rw [ruleNumber, List.mem_append, List.mem_append, List.mem_append, not_or, not_or, not_or]
  exact ⟨⟨⟨by decide, hpadding⟩, hdigits⟩, by decide⟩

/-- A rule's number does not matter for the marker. -/
theorem contains_marker_numbered (index : Nat) (text : Bytes) :
    contains (marker token) (ruleNumber index ++ text) = contains (marker token) text := by
  rw [contains, contains, afterFirst_append]
  intro start behind hsplit hbehind hprefix
  obtain ⟨byte, behind, rfl⟩ := List.exists_cons_of_ne_nil hbehind
  have hbyte : byte = 110 := by
    obtain ⟨rest, hrest⟩ := hprefix
    exact (List.cons.inj hrest).1.symm
  apply markerHead_notMem_ruleNumber index
  rw [hsplit, hbyte]
  exact List.mem_append_right start List.mem_cons_self

theorem describesRoute_append (before : Bytes) {line : Bytes} (h : describesRoute line = true) :
    describesRoute (before ++ line) = true := by
  rw [describesRoute, Bool.and_eq_true, Bool.and_eq_true] at h ⊢
  exact ⟨⟨contains_append_left before h.1.1, contains_append_left before h.1.2⟩, contains_append_left before h.2⟩

theorem outputLines_ufwListing : outputLines (ufwListing rules) = ufwHeading ++ numberedRules 1 rules := by
  have hnumbered (index : Nat) (rules : List UfwRule) : ∀ line ∈ numberedRules index rules, newline ∉ line := by
    induction rules generalizing index with
    | nil => simp [numberedRules]
    | cons rule rules ih =>
        rw [numberedRules, List.forall_mem_cons, List.mem_append, not_or]
        exact ⟨⟨newline_notMem_ruleNumber index, rule.oneLine⟩, ih (index + 1)⟩
  have hheading : ∀ line ∈ ufwHeading, newline ∉ line := by decide
  apply outputLines_encodeLines
  intro line hline
  exact (List.mem_append.mp hline).elim (hheading line) (hnumbered 1 rules line)

theorem ufwRuleAmong_of_not_contains {pattern : Bytes} {more : List Bytes}
    (h : ∀ line ∈ lines, contains pattern line = false) :
    ufwRuleAmong pattern found (lines ++ more) = ufwRuleAmong pattern found more := by
  induction lines with
  | nil => rfl
  | cons line lines ih =>
      rw [List.forall_mem_cons] at h
      rw [List.cons_append, ufwRuleAmong, h.1]
      exact ih h.2

theorem not_contains_ufwHeading : ∀ line ∈ ufwHeading, contains (marker token) line = false := by
  intro line hline
  have hletter : (108 : UInt8) ∉ line := by
    revert line
    decide
  apply not_contains_of_mem _ hletter
  exact List.mem_append_left token (by decide)

/-- Rules without the marker are passed over. -/
theorem ufwRuleAmong_numbered_of_nil {index : Nat}
    (h : rules.filter (fun rule => contains (marker token) rule.text) = []) :
    ufwRuleAmong (marker token) found (numberedRules index rules) = some found := by
  induction rules generalizing index with
  | nil => rfl
  | cons rule rules ih =>
      rw [List.filter_eq_nil_iff, List.forall_mem_cons] at h
      rw [numberedRules, ufwRuleAmong, contains_marker_numbered, if_neg h.1]
      exact ih (List.filter_eq_nil_iff.mpr h.2)

/-- The one rule with the marker is found. -/
theorem ufwRuleAmong_numbered_of_singleton {index : Nat} {rule : UfwRule}
    (h : rules.filter (fun rule => contains (marker token) rule.text) = [rule])
    (hroute : describesRoute rule.text = true) :
    ufwRuleAmong (marker token) false (numberedRules index rules) = some true := by
  induction rules generalizing index with
  | nil => exact nomatch h
  | cons first rules ih =>
      rw [numberedRules, ufwRuleAmong, contains_marker_numbered]
      by_cases hmarked : contains (marker token) first.text = true
      · simp only [List.filter_cons, if_pos hmarked, List.cons.injEq] at h
        obtain ⟨rfl, hrest⟩ := h
        rw [if_pos hmarked, describesRoute_append _ hroute]
        exact ufwRuleAmong_numbered_of_nil hrest
      · simp only [List.filter_cons, if_neg hmarked] at h
        rw [if_neg hmarked]
        exact ih h

/-- What the listing says of the Session's rule. -/
theorem ufwRuleAmong_listing {firewall : HostFirewall}
    (h : firewall.markedRules token = [] ∨
      ∃ rule, firewall.markedRules token = [rule] ∧ describesRoute rule.text = true) :
    ufwRuleAmong (marker token) false (outputLines (ufwListing firewall.ufwRules)) =
      some (decide (firewall.markedRules token ≠ [])) := by
  rw [outputLines_ufwListing, ufwRuleAmong_of_not_contains not_contains_ufwHeading]
  rcases h with hnone | ⟨rule, hone, hroute⟩
  · rw [ufwRuleAmong_numbered_of_nil hnone, hnone]
    rfl
  · rw [ufwRuleAmong_numbered_of_singleton hone hroute, hone]
    rfl

end Listing

/-! ### Removal of the parts -/

section Removal

variable {defaults : NewPolicySettings} {installed : Bytes → Bool} {record : RecoveryRecord} {zone : Bytes}
  {opened : Prop} {handle : ConnectivityHandle} {host : Host} {deadline : TimePoint}

/-- A state without the Session's rule and policy, and otherwise as it was. -/
structure Closed (record : RecoveryRecord) (host after : Host) : Prop where
  rules : after.firewall.markedRules record.token = []
  policy : after.firewall.policy record.token = none
  journal : after.journal = host.journal

/-- One run of a tool. -/
theorem safe_runTool {α : Type} {environment : Environment HostCall HostAnswer Host} {post : α → Host → Prop}
    {guarantee : Step HostCall HostAnswer Host → Prop} {path : Bytes} {command : ToolCommand}
    {next : CommandResult → HostProgram α} :
    Safe environment guarantee post (runTool path command deadline >>= next) host ↔
      ∀ result after, environment host (.runTool path command deadline maximumToolOutput) result after →
        guarantee ⟨host, .runTool path command deadline maximumToolOutput, result, after⟩ ∧
          Safe environment guarantee post (next result) after := Iff.rfl

/-- Without a guarantee on the steps. -/
abbrev Recovers {α : Type} (defaults : NewPolicySettings) (installed : Bytes → Bool) (post : α → Host → Prop)
    (program : HostProgram α) (host : Host) : Prop :=
  Safe (recoveredHost defaults installed) (fun _ => True) post program host

theorem ufwRulePresent_recovered {path : Bytes} {token : Bytes}
    (h : host.firewall.markedRules token = [] ∨
      ∃ rule, host.firewall.markedRules token = [rule] ∧ describesRoute rule.text = true) :
    Recovers defaults installed
      (fun present after => present = some (decide (host.firewall.markedRules token ≠ [])) ∧ host = after)
      (ufwRulePresent path deadline token) host := by
  rw [ufwRulePresent, Recovers, safe_runTool]
  rintro result after ⟨⟨hfirewall, hkind, houtput⟩, hjournal⟩
  obtain rfl : host = after := (Host.ext hfirewall hjournal).symm
  refine ⟨trivial, ?_⟩
  rw [if_neg (not_not.mpr hkind), houtput]
  exact ⟨ufwRuleAmong_listing h, rfl⟩

theorem inspectFirewalld_recovered {path : Bytes} :
    Recovers defaults installed
      (fun active after => active = some host.firewall.firewalldPolicies.isSome ∧ host = after)
      (inspectFirewalld path deadline) host := by
  rw [inspectFirewalld, Recovers, safe_runTool]
  rintro result after ⟨⟨hfirewall, hresult⟩, hjournal⟩
  obtain rfl : host = after := (Host.ext hfirewall hjournal).symm
  refine ⟨trivial, ?_⟩
  split at hresult
  · rename_i hrunning
    rw [if_pos hresult]
    exact ⟨by rw [hrunning], rfl⟩
  · rename_i hstopped
    rw [Bool.not_eq_true] at hstopped
    rw [if_neg (fun h => by rw [hresult.1] at h; cases h.1), if_pos hresult]
    exact ⟨by rw [hstopped], rfl⟩

/-- The rule of a Session of ufw is removed. -/
theorem removeUfwRule_recovered (hhandle : HandleOf record handle) (hbackend : record.backend = .ufw)
    (h : Owned defaults record zone opened host.firewall) :
    Recovers defaults installed (fun result after => result.succeeded = true ∧ Closed record host after)
      (removeUfwRule handle deadline) host := by
  have hpolicy : host.firewall.policy record.token = none := by
    rw [Option.eq_none_iff_forall_not_mem]
    intro policy hpolicy
    exact nomatch hbackend.symm.trans (h.policy policy hpolicy).1.1
  have hrules := h.rules.imp_right fun hrule => hrule.2
  rw [removeUfwRule]
  simp only [hhandle.token]
  refine safe_bind ((ufwRulePresent_recovered hrules).imp ?_)
  rintro present _ ⟨rfl, rfl⟩
  rcases hrules with hnone | ⟨rule, hone, hroute⟩
  · rw [hnone]
    exact ⟨rfl, hnone, hpolicy, rfl⟩
  · rw [hone]
    rintro deletion after ⟨⟨hkind, heffect⟩, hjournal⟩
    have hgone : after.firewall.markedRules record.token = [] := by
      rw [show after.firewall = _ from heffect, markedRules_withoutRoute, hone]
      simp [hroute]
    have hpolicy' : after.firewall.policy record.token = none := by
      rw [show after.firewall = _ from heffect]
      exact hpolicy
    refine ⟨trivial, ?_⟩
    change Safe _ _ _ (if deletion.kind ≠ .success then _ else _) after
    rw [if_neg (not_not.mpr hkind)]
    refine safe_bind ((ufwRulePresent_recovered (Or.inl hgone)).imp ?_)
    rintro remains _ ⟨rfl, rfl⟩
    rw [hgone]
    exact ⟨rfl, hgone, hpolicy', hjournal⟩

/-- What follows once the policy is recognised. -/
theorem deletePolicy_recovered {policies : Bytes → Option FirewalldPolicy} {path : Bytes}
    (hpolicies : host.firewall.firewalldPolicies = some policies)
    (hrules : host.firewall.markedRules record.token = []) :
    Recovers defaults installed (fun result after => result.succeeded = true ∧ Closed record host after)
      (do
        let deletion ← runTool path (.firewalldDeletePolicy (marker record.token)) deadline
        if deletion.kind ≠ .success then
          return ⟨false, commandCause deletion⟩
        let afterDeletion ← runTool path (.firewalldInfoPolicy (marker record.token)) deadline
        if afterDeletion.kind = .success then
          return ⟨false, .identityMismatch⟩
        if contains (ascii "INVALID_POLICY") afterDeletion.standardError then
          return ⟨true, .systemFailure⟩
        if (← inspectFirewalld path deadline) = some false then
          return ⟨true, .systemFailure⟩
        return ⟨false, commandCause afterDeletion⟩ : HostProgram OperationResult) host := by
  rintro deletion after ⟨⟨hkind, heffect⟩, hjournal⟩
  have heffect : after.firewall = host.firewall.updatePolicy (marker record.token) fun _ => none := heffect
  have hgone : after.firewall.firewalldPolicies = some (Function.update policies (marker record.token) none) := by
    rw [heffect, HostFirewall.updatePolicy, hpolicies]
    rfl
  refine ⟨trivial, ?_⟩
  change Safe _ _ _ (if deletion.kind ≠ .success then _ else _) after
  rw [if_neg (not_not.mpr hkind), safe_runTool]
  rintro afterDeletion last ⟨⟨hfirewall, hresult⟩, hjournal'⟩
  obtain rfl : after = last := (Host.ext hfirewall hjournal').symm
  refine ⟨trivial, ?_⟩
  rw [hgone] at hresult
  simp only [Function.update_self] at hresult
  rw [if_neg (by rw [hresult.1]; decide), if_pos hresult.2]
  refine ⟨rfl, ?_, ?_, hjournal⟩
  · rw [heffect]
    exact hrules
  · rw [HostFirewall.policy, hgone, Option.bind_some, Function.update_self]

/-- The policy of the Session has an ingress zone that the handle does not know. -/
def ZoneUnknown (record : RecoveryRecord) (zone : Bytes) (handle : ConnectivityHandle)
    (firewall : HostFirewall) : Prop :=
  ∃ policy, firewall.policy record.token = some policy ∧ policy.ingressZones ≠ [] ∧ zone ≠ handle.firewallZone

theorem policy_eq_some {policies : Bytes → Option FirewalldPolicy} (token : Bytes)
    (hpolicies : host.firewall.firewalldPolicies = some policies) :
    host.firewall.policy token = policies (marker token) := by
  rw [HostFirewall.policy, hpolicies, Option.bind_some]

/-- The policy of a Session of firewalld is removed when its ingress zone is known. -/
theorem removeFirewalldPolicy_recovered (hhandle : HandleOf record handle)
    (hbackend : record.backend = .firewalld) (h : Owned defaults record zone opened host.firewall)
    (hknown : ¬ ZoneUnknown record zone handle host.firewall) :
    Recovers defaults installed (fun result after => result.succeeded = true ∧ Closed record host after)
      (removeFirewalldPolicy handle deadline) host := by
  have hrules : host.firewall.markedRules record.token = [] := by
    rcases h.rules with hnone | ⟨⟨hufw, -⟩, -⟩
    · exact hnone
    · exact nomatch hbackend.symm.trans hufw
  rw [removeFirewalldPolicy, Recovers]
  simp only [hhandle.token]
  rw [safe_runTool]
  rintro current after ⟨⟨hfirewall, hcurrent⟩, hjournal⟩
  obtain rfl : host = after := (Host.ext hfirewall hjournal).symm
  refine ⟨trivial, ?_⟩
  cases hpolicies : host.firewall.firewalldPolicies with
  | none =>
      have habsent : host.firewall.policy record.token = none := by rw [HostFirewall.policy, hpolicies]; rfl
      rw [hpolicies] at hcurrent
      rw [if_pos (by rw [hcurrent]; decide)]
      refine safe_bind (inspectFirewalld_recovered.imp ?_)
      rintro active after ⟨rfl, rfl⟩
      rw [hpolicies, Option.isSome_none, if_pos rfl]
      exact ⟨rfl, hrules, habsent, rfl⟩
  | some policies =>
      have hpolicy := policy_eq_some record.token hpolicies
      rw [hpolicies] at hcurrent
      cases hown : policies (marker record.token) with
      | none =>
          simp only [hown] at hcurrent
          rw [if_pos (by rw [hcurrent.1]; decide)]
          refine safe_bind (inspectFirewalld_recovered.imp ?_)
          rintro active after ⟨rfl, rfl⟩
          rw [hpolicies, Option.isSome_some, if_neg (by decide), if_pos hcurrent.2]
          exact ⟨rfl, hrules, hpolicy.trans hown, rfl⟩
      | some policy =>
          obtain ⟨-, hzone, hshape⟩ := h.policy policy (hpolicy.trans hown)
          simp only [hown] at hcurrent
          obtain ⟨hkind, report, hreport, houtput⟩ := hcurrent
          have hassigned : policy.ingressZones = [] ∨ zone = handle.firewallZone := by
            by_contra hnot
            rw [not_or] at hnot
            exact hknown ⟨policy, hpolicy.trans hown, hnot⟩
          rw [if_neg (not_not.mpr hkind), houtput, firewalldPolicyMatches_own hzone hshape hreport,
            decide_eq_true hassigned]
          exact deletePolicy_recovered hpolicies hrules

/-- It is refused when its ingress zone is not known. -/
theorem removeFirewalldPolicy_refused (hhandle : HandleOf record handle)
    (h : Owned defaults record zone opened host.firewall)
    (hunknown : ZoneUnknown record zone handle host.firewall) :
    Recovers defaults installed (fun result _ => result.succeeded = false)
      (removeFirewalldPolicy handle deadline) host := by
  obtain ⟨policy, hpolicy, hassigned, hne⟩ := hunknown
  obtain ⟨-, hzone, hshape⟩ := h.policy policy hpolicy
  rw [removeFirewalldPolicy, Recovers]
  simp only [hhandle.token]
  rw [safe_runTool]
  rintro current after ⟨⟨hfirewall, hcurrent⟩, hjournal⟩
  obtain rfl : host = after := (Host.ext hfirewall hjournal).symm
  refine ⟨trivial, ?_⟩
  cases hpolicies : host.firewall.firewalldPolicies with
  | none =>
      rw [HostFirewall.policy, hpolicies] at hpolicy
      cases hpolicy
  | some policies =>
      rw [policy_eq_some record.token hpolicies] at hpolicy
      rw [hpolicies] at hcurrent
      simp only [hpolicy] at hcurrent
      obtain ⟨hkind, report, hreport, houtput⟩ := hcurrent
      rw [if_neg (not_not.mpr hkind), houtput, firewalldPolicyMatches_own hzone hshape hreport,
        decide_eq_false (not_or.mpr ⟨hassigned, hne⟩)]
      exact rfl

/-- The table of a Session is removed. -/
theorem removeTable_recovered (hhandle : HandleOf record handle) (nftPath : Bytes) :
    Recovers defaults installed
      (fun removed after => removed = .ok () ∧ after.firewall.nftTables (tableName record.token) = false ∧
        after.firewall.markedRules record.token = host.firewall.markedRules record.token ∧
        after.firewall.policy record.token = host.firewall.policy record.token ∧
        after.journal = host.journal)
      (removeTable handle deadline nftPath) host := by
  rw [removeTable, Recovers]
  simp only [hhandle.table]
  rw [safe_runTool]
  rintro tableQuery after ⟨⟨hfirewall, hquery⟩, hjournal⟩
  obtain rfl : host = after := (Host.ext hfirewall hjournal).symm
  refine ⟨trivial, ?_⟩
  by_cases htable : host.firewall.nftTables (tableName record.token) = true
  · rw [if_pos htable] at hquery
    rw [if_pos hquery.1, hquery.2]
    rintro deletion after ⟨⟨hkind, heffect⟩, hjournal⟩
    have heffect : after.firewall = host.firewall.setTable (tableName record.token) false := heffect
    have hgone : after.firewall.nftTables (tableName record.token) = false := by
      rw [heffect]
      exact Function.update_self _ _ _
    refine ⟨trivial, ?_⟩
    change Safe _ _ _ (if deletion.kind ≠ .success then _ else _) after
    rw [if_neg (not_not.mpr hkind), safe_runTool]
    rintro afterDeletion last ⟨⟨hfirewall, hresult⟩, hjournal'⟩
    obtain rfl : after = last := (Host.ext hfirewall hjournal').symm
    rw [if_neg (by simp [hgone])] at hresult
    rw [hresult]
    exact ⟨trivial, rfl, hgone, by rw [heffect, markedRules_setTable], by rw [heffect, policy_setTable], hjournal⟩
  · rw [if_neg htable] at hquery
    have hkind : tableQuery.kind ≠ .success := by
      rw [knownNftTableAbsence, Bool.and_eq_true, decide_eq_true_eq] at hquery
      rw [hquery.1]
      decide
    rw [if_neg hkind, hquery]
    exact ⟨rfl, Bool.not_eq_true _ ▸ htable, rfl, rfl, rfl⟩

/-! ### Removal of the whole -/

/-- A tool is at one of its trusted paths. -/
def Provides (installed : Bytes → Bool) (tool : Tool) : Prop := ∃ path ∈ tool.paths, installed path = true

theorem findTrustedPath_recovered {paths : List Bytes} (h : ∃ path ∈ paths, installed path = true) :
    Recovers defaults installed
      (fun lookup after => lookup.querySucceeded = true ∧ (∃ path ∈ paths, lookup.path = some path) ∧ host = after)
      (findTrustedPath paths) host := by
  induction paths with
  | nil => simp at h
  | cons first paths ih =>
      rintro query after ⟨hquery, hsame⟩
      obtain rfl : host = after := hsame.symm
      have hquery : InstalledAt installed first query := hquery
      refine ⟨trivial, ?_⟩
      change Safe _ _ _ (if query.status = .failure then _ else _) host
      rw [InstalledAt] at hquery
      by_cases hfirst : installed first = true
      · rw [if_pos hfirst] at hquery
        rw [if_neg (by simp [hquery.1]), if_pos hquery]
        exact ⟨rfl, ⟨first, List.mem_cons_self, rfl⟩, rfl⟩
      · rw [if_neg hfirst] at hquery
        rw [if_neg (by simp [hquery]), if_neg (by simp [hquery])]
        refine (ih (by simpa [hfirst] using h)).imp ?_
        rintro lookup last ⟨hsucceeded, ⟨path, hpath, hlookup⟩, hlast⟩
        exact ⟨hsucceeded, ⟨path, List.mem_cons_of_mem first hpath, hlookup⟩, hlast⟩

theorem toolPath_recovered {tool : Tool} (h : Provides installed tool) :
    Recovers defaults installed (fun found after => (∃ path, found = some path ∧ path ≠ []) ∧ host = after)
      (toolPath tool) host := by
  refine safe_bind ((findTrustedPath_recovered h).imp ?_)
  rintro lookup after ⟨hsucceeded, ⟨path, hpath, hlookup⟩, rfl⟩
  rw [if_pos hsucceeded]
  exact ⟨⟨path, hlookup, path_ne_nil hpath⟩, rfl⟩

/-- What a Session that never opened a firewall left there. -/
theorem Owned.closed (h : Owned defaults record zone opened host.firewall)
    (hclosed : record.backend = .nftables ∨ ¬ opened) : Closed record host host where
  rules := by
    rcases h.rules with hnone | ⟨⟨hbackend, hopened⟩, -⟩
    · exact hnone
    · exact hclosed.elim (fun hnft => nomatch hnft.symm.trans hbackend) fun hnot => absurd hopened hnot
  policy := by
    rw [Option.eq_none_iff_forall_not_mem]
    intro policy hpolicy
    obtain ⟨⟨hbackend, hopened⟩, -⟩ := h.policy policy hpolicy
    exact hclosed.elim (fun hnft => nomatch hnft.symm.trans hbackend) fun hnot => hnot hopened
  journal := rfl

theorem removeFirewall_recovered (hhandle : HandleOf record handle)
    (h : Owned defaults record zone opened host.firewall)
    (hknown : ¬ ZoneUnknown record zone handle host.firewall) :
    Recovers defaults installed (fun result after => result.succeeded = true ∧ Closed record host after)
      (removeFirewall handle deadline) host := by
  rw [removeFirewall, hhandle.backend]
  cases hbackend : record.backend with
  | nftables => exact ⟨rfl, h.closed (Or.inl hbackend)⟩
  | ufw => exact removeUfwRule_recovered hhandle hbackend h
  | firewalld => exact removeFirewalldPolicy_recovered hhandle hbackend h hknown

/-- Nothing is left but the record in the journal. -/
def Removed (record : RecoveryRecord) (host after : Host) : Prop :=
  after.firewall.Absent record.token ∧ after.journal = host.journal

theorem removeRecordedTable_recovered (hnft : Provides installed .nft) (hhandle : HandleOf record handle)
    {start : Host} (hclosed : Closed record start host) :
    Recovers defaults installed (fun removed after => removed = .ok () ∧ Removed record start after)
      (removeRecordedTable handle deadline) host := by
  have hfound : Recovers defaults installed (fun found after => found.isSome = true ∧ host = after)
      (knownNftPath handle) host := by
    rw [knownNftPath]
    split
    · refine (toolPath_recovered hnft).imp ?_
      rintro found after ⟨⟨path, rfl, -⟩, hsame⟩
      exact ⟨rfl, hsame⟩
    · exact ⟨rfl, rfl⟩
  refine safe_bind (hfound.imp ?_)
  rintro found after ⟨hsome, rfl⟩
  obtain ⟨nftPath, rfl⟩ := Option.isSome_iff_exists.mp hsome
  refine (removeTable_recovered hhandle nftPath).imp ?_
  rintro removed after ⟨hremoved, htable, hrules, hpolicy, hjournal⟩
  exact ⟨hremoved, ⟨htable, hrules.trans hclosed.rules, hpolicy.trans hclosed.policy⟩,
    hjournal.trans hclosed.journal⟩

theorem removeRecorded_recovered (hnft : Provides installed .nft) (hhandle : HandleOf record handle)
    (h : Owned defaults record zone (handle.firewallPath ≠ []) host.firewall)
    (hknown : ¬ ZoneUnknown record zone handle host.firewall) :
    Recovers defaults installed (fun removed after => removed = .ok () ∧ Removed record host after)
      (removeRecorded handle deadline) host := by
  rw [removeRecorded, Recovers]
  by_cases hpath : handle.firewallPath = []
  · rw [if_pos hpath]
    exact removeRecordedTable_recovered hnft hhandle (h.closed (Or.inr (not_not.mpr hpath)))
  · rw [if_neg hpath]
    refine safe_bind ((removeFirewall_recovered hhandle h hknown).imp ?_)
    rintro result after ⟨hresult, hclosed⟩
    rw [hresult]
    exact removeRecordedTable_recovered hnft hhandle hclosed

/-- A removal reads the record of its handle and writes it back before anything else. -/
theorem recovers_removeConnectivity {post : ConnectivityRemovalResult → Host → Prop}
    (hhandle : HandleOf record handle) (h : Recoverable defaults record zone opened host)
    (hnext : ∀ removing, HandleOf record { handle with recoveryRecord := removing } →
      Recovers defaults installed post (removeAndClear { handle with recoveryRecord := removing } deadline)
        { host with journal := some removing }) :
    Recovers defaults installed post (removeConnectivity handle deadline) host := by
  rintro current after ⟨hcurrent, hsame⟩
  obtain rfl : host = after := hsame.symm
  have hrecord : ∃ removing, recordToRemove handle current = some removing := by
    rw [show current = host.journal.elim .empty .valid from hcurrent]
    cases hjournal : host.journal with
    | none => exact ⟨_, rfl⟩
    | some found =>
        obtain ⟨hbackend, htoken⟩ := h.journal found hjournal
        exact ⟨found, if_pos ⟨htoken.trans hhandle.token.symm, hbackend.trans hhandle.backend.symm⟩⟩
  obtain ⟨removing, hremoving⟩ := hrecord
  obtain ⟨hbackend, htoken⟩ := recordToRemove_spec hremoving
  refine ⟨trivial, ?_⟩
  beta_reduce
  rw [Program.bind, hremoving]
  rintro written after ⟨hwritten, rfl⟩
  obtain rfl : written = true := hwritten
  exact ⟨trivial, hnext _ ⟨hbackend.trans hhandle.backend, htoken.trans hhandle.token, hhandle.table⟩⟩

/-- A removal on a host that works ends with nothing of the token left and an empty journal. -/
theorem removeConnectivity_recovered (hnft : Provides installed .nft) (hhandle : HandleOf record handle)
    (h : Recoverable defaults record zone (handle.firewallPath ≠ []) host)
    (hknown : ¬ ZoneUnknown record zone handle host.firewall) :
    Recovers defaults installed
      (fun removal after => removal.state = .absent ∧ after.firewall.Absent record.token ∧ after.journal = none)
      (removeConnectivity handle deadline) host := by
  refine recovers_removeConnectivity hhandle h fun removing hremoving => ?_
  have howned : Owned defaults record zone (handle.firewallPath ≠ [])
      ({ host with journal := some removing } : Host).firewall := h.owned
  refine safe_bind ((removeRecorded_recovered hnft hremoving howned hknown).imp ?_)
  rintro removed after ⟨rfl, habsent, -⟩ cleared last ⟨hcleared, rfl⟩
  obtain rfl : cleared = true := hcleared
  exact ⟨trivial, rfl, habsent, rfl⟩

end Removal

end NetLagLab.NetworkEnvironment
