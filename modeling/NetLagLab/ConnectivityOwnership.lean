import NetLagLab.HostFirewall

/-! What a Session leaves on the host at any time. Every mutation names the record that is in the journal,
and what carries the token has the shape that the Session gives it: at most one rule of ufw, which shows
the route, or a policy with nothing but the Session's own zones and rule. -/

namespace NetLagLab.NetworkEnvironment

open ByteLines CallPrograms CallPrograms.Program

/-! ### Commands of a record -/

namespace ToolCommand

/-- The table, the rule or the policy that a mutation is about is that of the record. -/
def Names (record : RecoveryRecord) : ToolCommand → Prop
  | nftAddTable table | nftAddChain table | nftDeleteTable table => table = tableName record.token
  | nftAddRule table token => table = tableName record.token ∧ token = record.token
  | ufwRouteAllow comment | ufwRouteDelete comment => record.backend = .ufw ∧ comment = marker record.token
  | firewalldNewPolicy policy | firewalldAddIngressZone policy _ | firewalldAddEgressZone policy
  | firewalldAddRichRule policy | firewalldDeletePolicy policy =>
      record.backend = .firewalld ∧ policy = marker record.token
  | _ => True

/-- The mutations of ufw and firewalld. -/
def opensFirewall : ToolCommand → Bool
  | ufwRouteAllow _ | ufwRouteDelete _ | firewalldNewPolicy _ | firewalldAddIngressZone _ _
  | firewalldAddEgressZone _ | firewalldAddRichRule _ | firewalldDeletePolicy _ => true
  | _ => false

/-- A command of the Session with this record, ingress zone and way of opening the firewall. -/
structure Own (record : RecoveryRecord) (zone : Bytes) (opened : Prop) (command : ToolCommand) : Prop where
  names : command.Names record
  opened : command.opensFirewall = true → opened
  validZone : ∀ policy, command = firewalldNewPolicy policy → ValidZone zone
  ingress : ∀ policy ingress, command = firewalldAddIngressZone policy ingress → ingress = zone

/-- The phase of the record does not matter. -/
theorem Names.of_record {record current : RecoveryRecord} {command : ToolCommand}
    (h : command.Names record) (hbackend : current.backend = record.backend)
    (htoken : current.token = record.token) : command.Names current := by
  obtain ⟨backend, phase, token⟩ := record
  obtain ⟨currentBackend, currentPhase, currentToken⟩ := current
  obtain rfl : currentBackend = backend := hbackend
  obtain rfl : currentToken = token := htoken
  cases command with
  | _ => exact h

end ToolCommand

/-- What the Session with this record has on the host. -/
structure Owned (defaults : NewPolicySettings) (record : RecoveryRecord) (zone : Bytes) (opened : Prop)
    (firewall : HostFirewall) : Prop where
  rules : firewall.markedRules record.token = [] ∨ (record.backend = .ufw ∧ opened) ∧
    ∃ rule, firewall.markedRules record.token = [rule] ∧ describesRoute rule.text = true
  policy : ∀ policy, firewall.policy record.token = some policy →
    (record.backend = .firewalld ∧ opened) ∧ ValidZone zone ∧ OwnPolicy defaults zone policy

section Effects

variable {defaults : NewPolicySettings} {record : RecoveryRecord} {zone : Bytes} {opened : Prop}
  {before after firewall : HostFirewall} {token : Bytes}

@[simp] theorem markedRules_setTable (table : Bytes) (present : Bool) :
    (firewall.setTable table present).markedRules token = firewall.markedRules token := rfl

@[simp] theorem policy_setTable (table : Bytes) (present : Bool) :
    (firewall.setTable table present).policy token = firewall.policy token := rfl

@[simp] theorem markedRules_updatePolicy (name : Bytes)
    (change : Option FirewalldPolicy → Option FirewalldPolicy) :
    (firewall.updatePolicy name change).markedRules token = firewall.markedRules token := rfl

@[simp] theorem nftTables_updatePolicy (name : Bytes)
    (change : Option FirewalldPolicy → Option FirewalldPolicy) :
    (firewall.updatePolicy name change).nftTables = firewall.nftTables := rfl

/-- The Session's policy after a change of it. -/
theorem policy_updatePolicy (change : Option FirewalldPolicy → Option FirewalldPolicy) :
    (firewall.updatePolicy (marker token) change).policy token =
      if firewall.firewalldPolicies.isSome then change (firewall.policy token) else none := by
  cases hpolicies : firewall.firewalldPolicies with
  | none => simp [HostFirewall.updatePolicy, HostFirewall.policy, hpolicies]
  | some policies => simp [HostFirewall.updatePolicy, HostFirewall.policy, hpolicies]

theorem markedRules_withoutRoute :
    (firewall.withoutRoute (marker token)).markedRules token =
      (firewall.markedRules token).filter fun rule => !describesRoute rule.text := by
  simp only [HostFirewall.markedRules, HostFirewall.withoutRoute, HostFirewall.isRoute, List.filter_filter]
  apply List.filter_congr
  intro rule _
  cases contains (marker token) rule.text <;> simp

theorem Owned.of_absent (h : firewall.Absent record.token) : Owned defaults record zone opened firewall where
  rules := Or.inl h.rules
  policy policy hpolicy := by
    rw [h.policy] at hpolicy
    exact absurd hpolicy (by simp)

theorem Owned.mono {opened' : Prop} (h : Owned defaults record zone opened firewall)
    (hopened : opened → opened') : Owned defaults record zone opened' firewall where
  rules := h.rules.imp_right fun ⟨⟨hbackend, hthis⟩, hrule⟩ => ⟨⟨hbackend, hopened hthis⟩, hrule⟩
  policy policy hpolicy := by
    obtain ⟨⟨hbackend, hthis⟩, hown⟩ := h.policy policy hpolicy
    exact ⟨⟨hbackend, hopened hthis⟩, hown⟩

theorem Owned.elsewhere (h : Owned defaults record zone opened before)
    (helsewhere : Elsewhere record.token before after) : Owned defaults record zone opened after where
  rules := by
    rw [helsewhere.rules]
    exact h.rules
  policy policy hpolicy := by
    rcases helsewhere.policy with hsame | hgone
    · exact h.policy policy (hsame ▸ hpolicy)
    · rw [hgone] at hpolicy
      exact absurd hpolicy (by simp)

theorem addMember_own {member : Bytes} {members : List Bytes} (h : members = [] ∨ members = [member]) :
    addMember member members = [member] := by
  rcases h with rfl | rfl
  · simp [addMember]
  · simp [addMember]

/-- A change of the policy that keeps its shape. -/
theorem Owned.updatePolicy {change : Option FirewalldPolicy → Option FirewalldPolicy}
    (h : Owned defaults record zone opened before)
    (hchange : ∀ policy, change (before.policy record.token) = some policy →
      (record.backend = .firewalld ∧ opened) ∧ ValidZone zone ∧ OwnPolicy defaults zone policy) :
    Owned defaults record zone opened (before.updatePolicy (marker record.token) change) where
  rules := by
    rw [markedRules_updatePolicy]
    exact h.rules
  policy policy hpolicy := by
    rw [policy_updatePolicy] at hpolicy
    split at hpolicy
    · exact hchange policy hpolicy
    · exact absurd hpolicy (by simp)

/-- A change of a policy that is there. -/
theorem Owned.map {change : FirewalldPolicy → FirewalldPolicy} (h : Owned defaults record zone opened before)
    (hchange : ∀ policy, OwnPolicy defaults zone policy → OwnPolicy defaults zone (change policy)) :
    Owned defaults record zone opened (before.updatePolicy (marker record.token) (Option.map change)) := by
  apply h.updatePolicy
  intro policy hpolicy
  obtain ⟨old, hold, rfl⟩ := Option.map_eq_some_iff.mp hpolicy
  obtain ⟨hbackend, hzone, hown⟩ := h.policy old hold
  exact ⟨hbackend, hzone, hchange old hown⟩

/-- A rule with the marker is put where none is. -/
theorem markedRules_insert {first last : List UfwRule} {rule : UfwRule}
    (hrules : before.ufwRules = first ++ last) (hmarked : before.markedRules token = [])
    (hrule : HostFirewall.isRoute (marker token) rule = true) :
    ({ before with ufwRules := first ++ rule :: last } : HostFirewall).markedRules token = [rule] := by
  rw [HostFirewall.isRoute, Bool.and_eq_true] at hrule
  rw [HostFirewall.markedRules, hrules, List.filter_append, List.append_eq_nil_iff] at hmarked
  simp [HostFirewall.markedRules, hmarked.1, hmarked.2, hrule.1]

/-- No command of the Session changes the shape of what it owns. -/
theorem Owned.effect {command : ToolCommand} (h : Owned defaults record zone opened before)
    (hcommand : command.Own record zone opened) (heffect : Effect defaults command before after) :
    Owned defaults record zone opened after := by
  cases command with
  | nftAddTable table => exact heffect ▸ ⟨h.rules, h.policy⟩
  | nftDeleteTable table => exact heffect ▸ ⟨h.rules, h.policy⟩
  | ufwRouteAllow comment =>
      obtain ⟨hbackend, rfl⟩ := hcommand.names
      have hopened := hcommand.opened rfl
      rw [Effect, HostFirewall.AllowsRoute] at heffect
      split at heffect
      · exact heffect ▸ h
      · rename_i hnone
        obtain ⟨first, last, rule, hrules, hrule, rfl⟩ := heffect
        have hmarked : before.markedRules record.token = [] := by
          rw [HostFirewall.markedRules, List.filter_eq_nil_iff]
          intro other hother hcontains
          exact hnone (List.any_eq_true.mpr ⟨other, hother, hcontains⟩)
        refine ⟨Or.inr ⟨⟨hbackend, hopened⟩, rule, markedRules_insert hrules hmarked hrule, ?_⟩, h.policy⟩
        rw [HostFirewall.isRoute, Bool.and_eq_true] at hrule
        exact hrule.2
  | ufwRouteDelete comment =>
      obtain ⟨hbackend, rfl⟩ := hcommand.names
      refine heffect ▸ ⟨Or.inl ?_, h.policy⟩
      rw [markedRules_withoutRoute]
      rcases h.rules with hnone | ⟨-, rule, hone, hroute⟩
      · simp [hnone]
      · simp [hone, hroute]
  | firewalldNewPolicy name =>
      obtain ⟨hbackend, rfl⟩ := hcommand.names
      refine heffect ▸ h.updatePolicy fun policy hpolicy => ?_
      refine ⟨⟨hbackend, hcommand.opened rfl⟩, hcommand.validZone _ rfl, ?_⟩
      rw [Option.some.injEq] at hpolicy
      cases hold : before.policy record.token with
      | none =>
          rw [hold, Option.getD_none] at hpolicy
          exact hpolicy ▸ ⟨rfl, Or.inl rfl, Or.inl rfl, Or.inl rfl⟩
      | some old =>
          rw [hold, Option.getD_some] at hpolicy
          exact hpolicy ▸ (h.policy old hold).2.2
  | firewalldAddIngressZone name ingress =>
      obtain ⟨hbackend, rfl⟩ := hcommand.names
      obtain rfl := hcommand.ingress _ _ rfl
      refine heffect ▸ h.map fun policy hown => { hown with ingress := Or.inr ?_ }
      exact addMember_own hown.ingress
  | firewalldAddEgressZone name =>
      obtain ⟨hbackend, rfl⟩ := hcommand.names
      refine heffect ▸ h.map fun policy hown => { hown with egress := Or.inr ?_ }
      exact addMember_own hown.egress
  | firewalldAddRichRule name =>
      obtain ⟨hbackend, rfl⟩ := hcommand.names
      refine heffect ▸ h.map fun policy hown => { hown with rules := Or.inr ?_ }
      exact addMember_own hown.rules
  | firewalldDeletePolicy name =>
      obtain ⟨hbackend, rfl⟩ := hcommand.names
      refine heffect ▸ h.updatePolicy fun policy hpolicy => ?_
      exact absurd hpolicy (by simp)
  | _ => exact heffect ▸ h

end Effects

/-! ### Runs of the Session -/

/-- The steps that the documented order of journal and firewall promises: a mutation is made only while
the journal holds the record that it names. -/
def MutationRecorded (step : Step HostCall HostAnswer Host) : Prop :=
  match step.request with
  | .runTool _ command _ _ =>
      command.isMutation = true → ∃ record, step.before.journal = some record ∧ command.Names record
  | _ => True

/-- What a Session with the record leaves at any time. -/
structure Recoverable (defaults : NewPolicySettings) (record : RecoveryRecord) (zone : Bytes) (opened : Prop)
    (host : Host) : Prop where
  owned : Owned defaults record zone opened host.firewall
  journal : ∀ current, host.journal = some current →
    current.backend = record.backend ∧ current.token = record.token

/-- A step of the Session with the token: mutations are recorded, and what is there afterwards is
recoverable by the record. -/
def SessionStep (defaults : NewPolicySettings) (token : Bytes) (step : Step HostCall HostAnswer Host) : Prop :=
  MutationRecorded step ∧ ∃ record zone, record.token = token ∧ Recoverable defaults record zone True step.after

/-- The calls of the Session between two writes of the journal. -/
def ToolCall (record : RecoveryRecord) (zone : Bytes) (opened : Prop) (request : HostCall) : Prop :=
  match request with
  | .runTool _ command _ _ => command.Own record zone opened
  | .queryTool _ => True
  | _ => False

/-- The calls that only look. -/
def Inspection (request : HostCall) : Prop :=
  match request with
  | .runTool _ command _ _ => command.isMutation = false
  | .writeRecoveryRecord _ | .clearRecoveryRecord => False
  | _ => True

/-- A step before anything of the token is on the host. -/
structure LooksOnly (token : Bytes) (journal : Option RecoveryRecord) (step : Step HostCall HostAnswer Host) :
    Prop where
  recorded : MutationRecorded step
  absent : step.after.firewall.Absent token
  journal : step.after.journal = journal

section Steps

variable {defaults : NewPolicySettings} {record current : RecoveryRecord} {zone : Bytes} {opened : Prop}
  {before after : Host} {request : HostCall} {answer : HostAnswer request} {token : Bytes}

theorem ToolCommand.own_of_query {command : ToolCommand} (h : command.isMutation = false) :
    command.Own record zone opened := by
  cases command with
  | _ =>
      first
      | exact nomatch (show true = false from h)
      | exact ⟨trivial, (fun h => nomatch (show false = true from h)), (fun _ h => nomatch h), fun _ _ h => nomatch h⟩

theorem effect_of_query {command : ToolCommand} {before after : HostFirewall} (h : command.isMutation = false)
    (heffect : Effect defaults command before after) : after = before := by
  cases command with
  | _ => first | exact nomatch (show true = false from h) | exact heffect

theorem HostFirewall.Absent.elsewhere {before after : HostFirewall} (h : before.Absent token)
    (helsewhere : Elsewhere token before after) : after.Absent token where
  table := helsewhere.table.trans h.table
  rules := helsewhere.rules.trans h.rules
  policy := helsewhere.policy.elim (fun hsame => hsame.trans h.policy) id

theorem Recoverable.of_absent (habsent : before.firewall.Absent record.token) (hjournal : before.journal = none) :
    Recoverable defaults record zone opened before :=
  ⟨.of_absent habsent, fun current hcurrent => by simp [hjournal] at hcurrent⟩

theorem Recoverable.of_owned (h : Owned defaults record zone opened before.firewall)
    (hjournal : before.journal = some current)
    (hcurrent : current.backend = record.backend ∧ current.token = record.token) :
    Recoverable defaults record zone opened before := by
  refine ⟨h, fun other hother => ?_⟩
  rw [hjournal, Option.some.injEq] at hother
  exact hother ▸ hcurrent

theorem Recoverable.mono {opened' : Prop} (h : Recoverable defaults record zone opened before)
    (hopened : opened → opened') : Recoverable defaults record zone opened' before :=
  ⟨h.owned.mono hopened, h.journal⟩

/-- Looking at a host that has nothing of the token. -/
theorem inspection_step {journal : Option RecoveryRecord} (hcall : Inspection request)
    (habsent : before.firewall.Absent token) (hjournal : before.journal = journal)
    (hstep : sessionHost defaults token before request answer after) :
    LooksOnly token journal ⟨before, request, answer, after⟩ ∧
      after.firewall.Absent token ∧ after.journal = journal := by
  obtain ⟨⟨present, helsewhere, hfirewall⟩, hjournalStep, -⟩ := hstep
  have hpresent := habsent.elsewhere helsewhere
  have hafter : after.firewall.Absent token ∧ after.journal = journal ∧
      MutationRecorded ⟨before, request, answer, after⟩ := by
    cases request with
    | runTool path command deadline limit =>
        have hsame : after.firewall = present := hfirewall.elim id (effect_of_query hcall)
        refine ⟨hsame ▸ hpresent, hjournalStep.trans hjournal, fun hmutation => ?_⟩
        exact absurd hmutation (by simp [show command.isMutation = false from hcall])
    | readRecoveryRecord => exact ⟨hfirewall ▸ hpresent, hjournalStep.1.trans hjournal, trivial⟩
    | writeRecoveryRecord record => exact hcall.elim
    | clearRecoveryRecord => exact hcall.elim
    | _ => exact ⟨hfirewall ▸ hpresent, hjournalStep.trans hjournal, trivial⟩
  obtain ⟨hfirewall, hjournal, hrecorded⟩ := hafter
  exact ⟨⟨hrecorded, hfirewall, hjournal⟩, hfirewall, hjournal⟩

/-- Looking is a step of every Session whose journal is empty. -/
theorem LooksOnly.sessionStep {step : Step HostCall HostAnswer Host} (h : LooksOnly token none step) :
    SessionStep defaults token step :=
  ⟨h.recorded, ⟨.nftables, .intent, token⟩, [], rfl, .of_absent h.absent h.journal⟩

/-- A tool is run while the journal holds the record. -/
theorem toolCall_step (hcall : ToolCall record zone opened request)
    (howned : Owned defaults record zone opened before.firewall) (hjournal : before.journal = some current)
    (hcurrent : current.backend = record.backend ∧ current.token = record.token)
    (hstep : sessionHost defaults record.token before request answer after) :
    SessionStep defaults record.token ⟨before, request, answer, after⟩ ∧
      Owned defaults record zone opened after.firewall ∧ after.journal = some current := by
  obtain ⟨⟨present, helsewhere, hfirewall⟩, hjournalStep, -⟩ := hstep
  have hpresent := howned.elsewhere helsewhere
  have hafter : Owned defaults record zone opened after.firewall ∧ after.journal = some current ∧
      MutationRecorded ⟨before, request, answer, after⟩ := by
    cases request with
    | runTool path command deadline limit =>
        refine ⟨?_, hjournalStep.trans hjournal, fun _ => ⟨current, hjournal, ?_⟩⟩
        · rcases hfirewall with hsame | heffect
          · exact hsame ▸ hpresent
          · exact hpresent.effect hcall heffect
        · exact hcall.names.of_record hcurrent.1 hcurrent.2
    | queryTool path => exact ⟨hfirewall ▸ hpresent, hjournalStep.trans hjournal, trivial⟩
    | _ => exact hcall.elim
  obtain ⟨howned, hjournal, hrecorded⟩ := hafter
  exact ⟨⟨hrecorded, record, zone, rfl, .of_owned (howned.mono fun _ => trivial) hjournal hcurrent⟩,
    howned, hjournal⟩

/-- Reading and changing the journal. -/
theorem journalCall_step (hcall : request = .readRecoveryRecord ∨ request = .clearRecoveryRecord ∨
      ∃ written, request = .writeRecoveryRecord written ∧ written.backend = record.backend ∧
        written.token = record.token)
    (h : Recoverable defaults record zone opened before)
    (hstep : sessionHost defaults record.token before request answer after) :
    SessionStep defaults record.token ⟨before, request, answer, after⟩ ∧
      Recoverable defaults record zone opened after := by
  obtain ⟨⟨present, helsewhere, hfirewall⟩, hjournalStep, -⟩ := hstep
  have hpresent := h.owned.elsewhere helsewhere
  have hafter : Recoverable defaults record zone opened after ∧ MutationRecorded ⟨before, request, answer, after⟩ := by
    rcases hcall with rfl | rfl | ⟨written, rfl, hwritten⟩
    · refine ⟨⟨hfirewall ▸ hpresent, fun current hcurrent => h.journal current ?_⟩, trivial⟩
      exact hjournalStep.1 ▸ hcurrent
    · refine ⟨⟨hfirewall ▸ hpresent, fun current hcurrent => ?_⟩, trivial⟩
      rcases hjournalStep with hnone | ⟨-, hsame⟩
      · rw [hnone] at hcurrent
        exact absurd hcurrent (by simp)
      · exact h.journal current (hsame ▸ hcurrent)
    · refine ⟨⟨hfirewall ▸ hpresent, fun current hcurrent => ?_⟩, trivial⟩
      rcases hjournalStep with hnew | ⟨-, hsame⟩
      · rw [hnew, Option.some.injEq] at hcurrent
        exact hcurrent ▸ hwritten
      · exact h.journal current (hsame ▸ hcurrent)
  exact ⟨⟨hafter.2, record, zone, rfl, hafter.1.mono fun _ => trivial⟩, hafter.1⟩

end Steps

end NetLagLab.NetworkEnvironment
