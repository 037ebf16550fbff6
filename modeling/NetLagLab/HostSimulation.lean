import NetLagLab.HostFirewall

/-! A host that can be executed: every tool does its work at once and says so, its output is cut at the
size that is captured, and the firewall in use and the random token are given. Its answers are answers
of a session's host, and where nothing is cut off those of a host that has recovered. -/

namespace NetLagLab.NetworkEnvironment

open ByteLines CallPrograms CallPrograms.Program

/-- What is given of the simulated host. -/
structure Scenario where
  defaults : NewPolicySettings
  installed : Bytes → Bool
  backend : RecoveryBackend
  token : Bytes
  zone : Bytes

/-- What ufw prints for the rule of the Session. -/
def routeText (comment : Bytes) : Bytes :=
  ascii "10.200.0.2 on nll-host     ALLOW FWD   Anywhere                   # " ++ comment

def routeRule (comment : Bytes) : UfwRule where
  text := (routeText comment).filter fun byte => byte != newline
  oneLine := by simp

/-- What `--info-policy` prints. -/
def policyReport (name : Bytes) (policy : FirewalldPolicy) : PolicyReport :=
  ⟨[name], ascii "  ", policy.fields, policy.richRules⟩

namespace Scenario

variable (scenario : Scenario)

def runCommand (firewall : HostFirewall) : ToolCommand → CommandResult × HostFirewall
  | .ipRuleShow =>
      (⟨.success, [], ascii "0:\tfrom all lookup local\n32766:\tfrom all lookup main\n32767:\tfrom all lookup default\n"⟩,
        firewall)
  | .ipRouteShowDefault => (⟨.success, [], ascii "default via 192.0.2.1 dev eth0 \n"⟩, firewall)
  | .ipLinkShow _ => (⟨.success, [], ascii "    link/ether 02:00:00:00:00:01\n"⟩, firewall)
  | .nftListTable table =>
      if firewall.nftTables table then (⟨.success, [], ascii "table ip " ++ table ++ ascii " \x7b\n\x7d\n"⟩, firewall)
      else (⟨.nonzeroExit, ascii "Error: No such file or directory\n", []⟩, firewall)
  | .nftAddTable table => (⟨.success, [], []⟩, firewall.setTable table true)
  | .nftDeleteTable table => (⟨.success, [], []⟩, firewall.setTable table false)
  | .ufwStatus =>
      (⟨.success, [], if scenario.backend = .ufw then ascii "Status: active\n" else ascii "Status: inactive\n"⟩,
        firewall)
  | .ufwStatusNumbered => (⟨.success, [], ufwListing firewall.ufwRules⟩, firewall)
  | .ufwRouteAllow comment =>
      if firewall.ufwRules.any fun rule => contains comment rule.text then (⟨.success, [], []⟩, firewall)
      else (⟨.success, [], []⟩, { firewall with ufwRules := firewall.ufwRules ++ [routeRule comment] })
  | .ufwRouteDelete comment => (⟨.success, [], []⟩, firewall.withoutRoute comment)
  | .firewalldState =>
      if firewall.firewalldPolicies.isSome then (⟨.success, [], ascii "running\n"⟩, firewall)
      else (⟨.nonzeroExit, [], ascii "not running\n"⟩, firewall)
  | .firewalldZoneOfInterface => (⟨.success, [], scenario.zone ++ [newline]⟩, firewall)
  | .firewalldInfoPolicy name =>
      match firewall.firewalldPolicies with
      | none => (⟨.nonzeroExit, ascii "FirewallD is not running\n", []⟩, firewall)
      | some policies =>
          match policies name with
          | none => (⟨.nonzeroExit, ascii "Error: INVALID_POLICY\n", []⟩, firewall)
          | some policy => (⟨.success, [], (policyReport name policy).text⟩, firewall)
  | .firewalldNewPolicy name =>
      (⟨.success, [], []⟩, firewall.updatePolicy name fun policy =>
        some (policy.getD { settings := scenario.defaults.fields }))
  | .firewalldAddIngressZone name zone =>
      (⟨.success, [], []⟩, firewall.updatePolicy name (Option.map (FirewalldPolicy.addIngressZone zone)))
  | .firewalldAddEgressZone name =>
      (⟨.success, [], []⟩, firewall.updatePolicy name (Option.map (FirewalldPolicy.addEgressZone (ascii "ANY"))))
  | .firewalldAddRichRule name =>
      (⟨.success, [], []⟩, firewall.updatePolicy name (Option.map (FirewalldPolicy.addRichRule expectedRichRule)))
  | .firewalldDeletePolicy name => (⟨.success, [], []⟩, firewall.updatePolicy name fun _ => none)
  | _ => (⟨.success, [], []⟩, firewall)

/-- The answer of the host and the host afterwards. -/
def respond (host : Host) : (request : HostCall) → HostAnswer request × Host
  | .now => ((0 : TimePoint), host)
  | .ipv4ForwardingEnabled => (some true, host)
  | .legacyIptablesRulesPresent => (some false, host)
  | .queryTool path =>
      (if scenario.installed path then ⟨.present, ⟨true, 0, 0o755⟩⟩ else ⟨.absent, ⟨false, 0, 0⟩⟩, host)
  | .runTool _ command _ size =>
      let (result, firewall) := scenario.runCommand host.firewall command
      ({ result with standardOutput := result.standardOutput.take size }, { host with firewall })
  | .createRecoveryToken => (some scenario.token, host)
  | .requestFirewallConsent _ _ => (.granted, host)
  | .openRecoveryDirectory => (true, host)
  | .readRecoveryRecord => (host.journal.elim .empty .valid, host)
  | .writeRecoveryRecord record => (true, { host with journal := some record })
  | .clearRecoveryRecord => (true, { host with journal := none })

/-- The comment of a rule stands on one line. -/
def OneLineComment (request : HostCall) : Prop :=
  match request with
  | .runTool _ (.ufwRouteAllow comment) _ _ => newline ∉ comment
  | _ => True

instance (request : HostCall) : Decidable (OneLineComment request) := by
  unfold OneLineComment
  split <;> infer_instance

/-- The output is captured whole, and a policy that is reported has plain fields. -/
def CapturedWhole (host : Host) (request : HostCall) : Prop :=
  match request with
  | .runTool _ command _ size =>
      (scenario.runCommand host.firewall command).1.standardOutput.length ≤ size ∧
        match command with
        | .firewalldInfoPolicy name =>
            Plain name ∧ ∀ field ∈ ((host.firewall.firewalldPolicies.bind fun policies => policies name).elim []
              FirewalldPolicy.fields), field.Plain
        | _ => True
  | _ => True

instance (host : Host) (request : HostCall) : Decidable (scenario.CapturedWhole host request) := by
  unfold CapturedWhole
  split
  · refine @instDecidableAnd _ _ inferInstance ?_
    split <;> infer_instance
  · infer_instance

section Answers

variable {scenario} {host : Host} {firewall : HostFirewall} {command : ToolCommand}

theorem isRoute_routeRule {comment : Bytes} (h : newline ∉ comment) :
    HostFirewall.isRoute comment (routeRule comment) = true := by
  have htext : (routeRule comment).text = routeText comment := by
    have hline : newline ∉ routeText comment := by
      rw [routeText, List.mem_append, not_or]
      exact ⟨by decide, h⟩
    apply List.filter_eq_self.mpr
    intro byte hbyte
    rw [bne_iff_ne]
    rintro rfl
    exact hline hbyte
  have hcomment : contains comment (routeText comment) = true := by
    have hself := contains_self (ascii "10.200.0.2 on nll-host     ALLOW FWD   Anywhere                   # ") comment []
    rwa [List.append_nil] at hself
  have hroute : describesRoute (routeText comment) = true := by
    rw [describesRoute, Bool.and_eq_true, Bool.and_eq_true]
    exact ⟨⟨contains_append_right _ (by decide), contains_append_right _ (by decide)⟩,
      contains_append_right _ (by decide)⟩
  rw [HostFirewall.isRoute, htext, hcomment, hroute]
  rfl

/-- Every command does its work. -/
theorem runCommand_effect (h : ∀ comment, command = .ufwRouteAllow comment → newline ∉ comment) :
    Effect scenario.defaults command firewall (scenario.runCommand firewall command).2 := by
  cases command with
  | ufwRouteAllow comment =>
      rw [Effect, HostFirewall.AllowsRoute, runCommand]
      split
      · rfl
      · exact ⟨firewall.ufwRules, [], routeRule comment, (List.append_nil _).symm,
          isRoute_routeRule (h comment rfl), rfl⟩
  | nftListTable table =>
      change (scenario.runCommand firewall (.nftListTable table)).2 = firewall
      rw [runCommand]
      split <;> rfl
  | firewalldState =>
      change (scenario.runCommand firewall .firewalldState).2 = firewall
      rw [runCommand]
      split <;> rfl
  | firewalldInfoPolicy name =>
      change (scenario.runCommand firewall (.firewalldInfoPolicy name)).2 = firewall
      rw [runCommand]
      split
      · rfl
      · split <;> rfl
  | _ => rfl

/-- The simulated host is one that a session can be on. -/
theorem respond_session {request : HostCall} (h : OneLineComment request) :
    sessionHost scenario.defaults scenario.token host request (scenario.respond host request).1
      (scenario.respond host request).2 := by
  have hsame : Elsewhere scenario.token host.firewall host.firewall := ⟨rfl, rfl, Or.inl rfl⟩
  cases request with
  | runTool path command deadline size =>
      refine ⟨⟨_, hsame, Or.inr (runCommand_effect ?_)⟩, rfl, trivial⟩
      rintro comment rfl
      exact h
  | createRecoveryToken => exact ⟨⟨_, hsame, rfl⟩, rfl, Or.inr rfl⟩
  | readRecoveryRecord =>
      refine ⟨⟨_, hsame, rfl⟩, ⟨rfl, ?_⟩, trivial⟩
      cases hjournal : host.journal with
      | none => simp only [respond, hjournal, Option.elim_none]
      | some record => simp only [respond, hjournal, Option.elim_some]
  | writeRecoveryRecord record => exact ⟨⟨_, hsame, rfl⟩, Or.inl rfl, trivial⟩
  | clearRecoveryRecord => exact ⟨⟨_, hsame, rfl⟩, Or.inl rfl, trivial⟩
  | _ => exact ⟨⟨_, hsame, rfl⟩, rfl, trivial⟩

/-- Where its output is captured whole, a command reports what it saw or did. -/
theorem runCommand_truthful {path : Bytes} {deadline : TimePoint} {size : Nat}
    (hcomment : OneLineComment (.runTool path command deadline size))
    (h : scenario.CapturedWhole host (.runTool path command deadline size)) :
    Truthful scenario.defaults command (scenario.runCommand host.firewall command).1 host.firewall
      (scenario.runCommand host.firewall command).2 := by
  have heffect : Effect scenario.defaults command host.firewall (scenario.runCommand host.firewall command).2 :=
    runCommand_effect (by
      rintro comment rfl
      exact hcomment)
  cases command with
  | nftListTable table =>
      refine ⟨heffect, ?_⟩
      rw [runCommand]
      split
      · exact ⟨rfl, contains_self (ascii "table ip ") table _⟩
      · rfl
  | ufwStatusNumbered => exact ⟨heffect, rfl, rfl⟩
  | firewalldState =>
      refine ⟨heffect, ?_⟩
      rw [runCommand]
      split
      · exact ⟨rfl, show trimAscii (ascii "running\n") = ascii "running" by decide⟩
      · exact ⟨rfl, show trimAscii (ascii "not running\n") = ascii "not running" by decide⟩
  | firewalldInfoPolicy name =>
      refine ⟨heffect, ?_⟩
      have hplain := h.2
      have hunknown : contains (ascii "INVALID_POLICY") (ascii "Error: INVALID_POLICY\n") = true := by decide
      cases hpolicies : host.firewall.firewalldPolicies with
      | none => simp only [runCommand, hpolicies]
      | some policies =>
          cases hpolicy : policies name with
          | none => simp only [runCommand, hpolicies, hpolicy, hunknown, and_self]
          | some policy =>
              simp only [hpolicies, Option.bind_some, hpolicy, Option.elim_some] at hplain
              have hblank : ∀ byte ∈ ascii "  ", byte = space := by decide
              have hshows : (policyReport name policy).Shows policy :=
                ⟨List.forall_mem_singleton.mpr hplain.1, hblank, hplain.2, List.Perm.refl _, rfl⟩
              simp only [runCommand, hpolicies, hpolicy, true_and]
              exact ⟨policyReport name policy, hshows, rfl⟩
  | ufwRouteAllow comment =>
      refine ⟨?_, heffect⟩
      rw [runCommand]
      split <;> rfl
  | _ => exact ⟨rfl, heffect⟩

/-- Where its output is captured whole, the simulated host is one that has recovered. -/
theorem respond_recovered {request : HostCall} (hcomment : OneLineComment request)
    (h : scenario.CapturedWhole host request) :
    recoveredHost scenario.defaults scenario.installed host request (scenario.respond host request).1
      (scenario.respond host request).2 := by
  cases request with
  | runTool path command deadline size =>
      refine ⟨?_, rfl⟩
      have hwhole : (scenario.runCommand host.firewall command).1.standardOutput.take size =
          (scenario.runCommand host.firewall command).1.standardOutput := List.take_of_length_le h.1
      have htruthful := runCommand_truthful hcomment h
      rw [respond]
      dsimp only
      rw [hwhole]
      exact htruthful
  | queryTool path =>
      refine ⟨?_, rfl⟩
      rw [InstalledAt, respond]
      split
      · exact ⟨rfl, show isTrustedExecutable ⟨true, 0, 0o755⟩ = true by decide⟩
      · rfl
  | openRecoveryDirectory => exact ⟨rfl, rfl⟩
  | readRecoveryRecord => exact ⟨rfl, rfl⟩
  | writeRecoveryRecord record => exact ⟨rfl, rfl⟩
  | clearRecoveryRecord => exact ⟨rfl, rfl⟩
  | _ => rfl

/-- Execution follows a path of a session's host. -/
theorem path_session {α : Type} (scenario : Scenario) (calls : Nat) (program : HostProgram α) (host : Host)
    (h : ∀ step ∈ (execute scenario.respond calls program host).1, OneLineComment step.request) :
    Path (sessionHost scenario.defaults scenario.token) program host
      (execute scenario.respond calls program host).1 (execute scenario.respond calls program host).2.1
      (execute scenario.respond calls program host).2.2 :=
  path_execute _ _ _ _ fun step hstep => respond_session (h step hstep)

end Answers

end Scenario

/-! ### A workstation with firewalld -/

/-- The settings of a new policy of firewalld. -/
def newPolicySettings : NewPolicySettings where
  fields :=
    [⟨ascii "priority", ascii "-1"⟩, ⟨ascii "target", ascii "CONTINUE"⟩, ⟨ascii "services", []⟩,
      ⟨ascii "ports", []⟩, ⟨ascii "protocols", []⟩, ⟨ascii "masquerade", ascii "no"⟩,
      ⟨ascii "forward-ports", []⟩, ⟨ascii "source-ports", []⟩, ⟨ascii "icmp-blocks", []⟩]
  plain := by decide
  distinct := by decide
  unused := by decide

def workstation : Scenario where
  defaults := newPolicySettings
  installed path := path == ascii "/usr/sbin/nft" || path == ascii "/usr/bin/firewall-cmd"
  backend := .firewalld
  token := ascii "0123456789abcdef0123456789abcdef"
  zone := ascii "public"

/-- firewalld runs and has no policy, and nothing is recorded. -/
def untouched : Host := ⟨⟨fun _ => false, [], some fun _ => none⟩, none⟩

end NetLagLab.NetworkEnvironment
