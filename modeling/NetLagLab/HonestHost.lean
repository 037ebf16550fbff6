import NetLagLab.ConnectivityRemoval
import NetLagLab.HostSimulation

/-! A host whose tools may fail, and may fail to do their work, but say nothing that is not so. A listing is cut at the
size that is captured, so absence can be read off the listing of ufw only while it fits. Where it does, a removal that
gets as far as the journal has left nothing of the token. -/

namespace NetLagLab.NetworkEnvironment

open ByteLines CallPrograms CallPrograms.Program

/-! ### Honest tools -/

/-- What a tool prints holds of the firewall that it looks at. -/
def Honest (command : ToolCommand) (size : Nat) (result : CommandResult) (firewall : HostFirewall) : Prop :=
  match command with
  | .nftListTable table => knownNftTableAbsence result = true → firewall.nftTables table = false
  | .ufwStatusNumbered =>
      result.kind = .success → result.standardOutput = (ufwListing firewall.ufwRules).take size
  | .firewalldState =>
      result.kind = .nonzeroExit → trimAscii result.standardOutput = ascii "not running" →
        firewall.firewalldPolicies = none
  | .firewalldInfoPolicy name =>
      result.kind ≠ .success → contains (ascii "INVALID_POLICY") result.standardError = true →
        (firewall.firewalldPolicies.bind fun policies => policies name) = none
  | _ => True

/-- The report of the tool, if one is run. -/
def HonestStep (request : HostCall) (answer : HostAnswer request) (firewall : HostFirewall) : Prop :=
  match request, answer with
  | .runTool _ command _ size, result => Honest command size result firewall
  | _, _ => True

/-- A session's host with honest tools. -/
def honestHost (defaults : NewPolicySettings) (token : Bytes) : Environment HostCall HostAnswer Host :=
  fun before request answer after =>
    sessionHost defaults token before request answer after ∧ HonestStep request answer after.firewall

/-- The rules of ufw are listed in full. -/
def ListingFits (step : Step HostCall HostAnswer Host) : Prop :=
  match step.request with
  | .runTool _ .ufwStatusNumbered _ size => (ufwListing step.after.firewall.ufwRules).length ≤ size
  | _ => True

/-- A listing of ufw of which no captured line shows the token's rule, although there is one. -/
def HidesRule (token : Bytes) (step : Step HostCall HostAnswer Host) : Prop :=
  match step.request, step.answer with
  | .runTool _ .ufwStatusNumbered _ size, result =>
      result.kind = .success ∧ step.after.firewall.markedRules token ≠ [] ∧
        ∀ line ∈ outputLines ((ufwListing step.after.firewall.ufwRules).take size), contains (marker token) line = false
  | _, _ => False

/-- An honest host whose listings of ufw show the token's rule where there is one. -/
def showingHost (defaults : NewPolicySettings) (token : Bytes) : Environment HostCall HostAnswer Host :=
  fun before request answer after =>
    honestHost defaults token before request answer after ∧ ¬ HidesRule token ⟨before, request, answer, after⟩

/-- A session's host, of which more is known where its tools are believed. -/
def believedHost (believed : Prop) (defaults : NewPolicySettings) (token : Bytes) :
    Environment HostCall HostAnswer Host :=
  fun before request answer after =>
    sessionHost defaults token before request answer after ∧
      (believed → showingHost defaults token before request answer after)

section Reports

variable {defaults : NewPolicySettings} {token : Bytes} {host : Host} {path : Bytes} {deadline : TimePoint}
  {found : Bool}

/-- What is safe on any session's host is so on one whose tools are believed. -/
theorem Safe.believed {α : Type} {believed : Prop} {guarantee : Step HostCall HostAnswer Host → Prop}
    {post : α → Host → Prop} {program : HostProgram α}
    (h : Safe (sessionHost defaults token) guarantee post program host) :
    Safe (believedHost believed defaults token) guarantee post program host :=
  h.mono (fun _ _ _ _ hstep => hstep.1) (fun _ _ hthis => hthis) fun _ _ hpost => hpost

/-- Believed tools are honest and show the rule. -/
theorem Safe.showing {α : Type} {believed : Prop} {guarantee : Step HostCall HostAnswer Host → Prop}
    {post : α → Host → Prop} {program : HostProgram α} (hbelieved : believed)
    (h : Safe (showingHost defaults token) guarantee post program host) :
    Safe (believedHost believed defaults token) guarantee post program host :=
  h.mono (fun _ _ _ _ hstep => hstep.2 hbelieved) (fun _ _ hthis => hthis) fun _ _ hpost => hpost

theorem Safe.showingOnly {α : Type} {guarantee : Step HostCall HostAnswer Host → Prop} {post : α → Host → Prop}
    {program : HostProgram α} (h : Safe (believedHost True defaults token) guarantee post program host) :
    Safe (showingHost defaults token) guarantee post program host :=
  h.mono (fun _ _ _ _ hstep => ⟨hstep.1.1, fun _ => hstep⟩) (fun _ _ hthis => hthis) fun _ _ hpost => hpost

/-- What a program comes to if its tools are believed. -/
theorem Safe.ifBelieved {α : Type} {believed : Prop} {guarantee : Step HostCall HostAnswer Host → Prop}
    {post : α → Host → Prop} {program : HostProgram α}
    (h : believed → Safe (believedHost believed defaults token) guarantee post program host) :
    Safe (believedHost believed defaults token) (fun _ => True) (fun result after => believed → post result after)
      program host := by
  by_cases hbelieved : believed
  · exact (h hbelieved).mono (fun _ _ _ _ hstep => hstep) (fun _ _ _ => trivial) fun _ _ hpost _ => hpost
  · exact ((confined_trivial program).results host).imp fun _ _ _ hno => absurd hno hbelieved

/-- A query leaves a policy that is gone so. -/
theorem policy_none_of_query {command : ToolCommand} {size : Nat} {result : CommandResult} {after : Host}
    (hquery : command.isMutation = false) (hgone : host.firewall.policy token = none)
    (h : showingHost defaults token host (.runTool path command deadline size) result after) :
    after.firewall.policy token = none := by
  obtain ⟨⟨⟨⟨present, helsewhere, hfirewall⟩, -⟩, -⟩, -⟩ := h
  rw [hfirewall.elim id (effect_of_query hquery)]
  exact helsewhere.policy.elim (fun hsame => hsame.trans hgone) id

/-- No rule is found exactly where no line carries the marker. -/
theorem ufwRuleAmong_eq_some_false {pattern : Bytes} {lines : List Bytes} :
    ufwRuleAmong pattern found lines = some false ↔ found = false ∧ ∀ line ∈ lines, contains pattern line = false := by
  induction lines generalizing found with
  | nil => simp [ufwRuleAmong]
  | cons line lines ih =>
      rw [ufwRuleAmong, List.forall_mem_cons]
      cases hline : contains pattern line with
      | false => simp [ih]
      | true =>
          rw [if_pos rfl]
          split <;> simp [ih]

/-- Rules of which no line shows the marker do not carry it. -/
theorem markedRules_eq_nil_of_lines {firewall : HostFirewall}
    (h : ∀ line ∈ outputLines (ufwListing firewall.ufwRules), contains (marker token) line = false) :
    firewall.markedRules token = [] := by
  rw [outputLines_ufwListing, List.forall_mem_append] at h
  have hrules (index : Nat) (rules : List UfwRule)
      (h : ∀ line ∈ numberedRules index rules, contains (marker token) line = false) :
      ∀ rule ∈ rules, contains (marker token) rule.text = false := by
    induction rules generalizing index with
    | nil => simp
    | cons rule rules ih =>
        rw [numberedRules, List.forall_mem_cons, contains_marker_numbered] at h
        exact List.forall_mem_cons.mpr ⟨h.1, ih (index + 1) h.2⟩
  rw [HostFirewall.markedRules, List.filter_eq_nil_iff]
  exact fun rule hrule => by simp [hrules 1 _ h.2 rule hrule]

/-- A listing that fits hides nothing. -/
theorem not_hidesRule_of_fits {step : Step HostCall HostAnswer Host} (h : ListingFits step) : ¬ HidesRule token step := by
  obtain ⟨before, request, answer, after⟩ := step
  cases request with
  | runTool path command deadline size =>
      cases command with
      | ufwStatusNumbered =>
          rintro ⟨-, hmarked, hlines⟩
          rw [List.take_of_length_le h] at hlines
          exact hmarked (markedRules_eq_nil_of_lines hlines)
      | _ => exact id
  | _ => exact id

theorem ufwRulePresent_showing :
    Safe (showingHost defaults token) (fun _ => True)
      (fun present after => present = some false → after.firewall.markedRules token = [])
      (ufwRulePresent path deadline token) host := by
  rw [ufwRulePresent, safe_runTool]
  rintro result after ⟨⟨-, hhonest⟩, hshown⟩
  refine ⟨trivial, ?_⟩
  by_cases hkind : result.kind = .success
  · rw [if_neg (not_not.mpr hkind), hhonest hkind]
    intro hamong
    by_contra hmarked
    exact hshown ⟨hkind, hmarked, (ufwRuleAmong_eq_some_false.mp hamong).2⟩
  · rw [if_pos hkind]
    exact fun h => by cases h

/-- firewalld is known to be stopped, and what is gone stays so. -/
theorem inspectFirewalld_showing :
    Safe (showingHost defaults token) (fun _ => True)
      (fun active after => (active = some false → after.firewall.policy token = none) ∧
        (host.firewall.policy token = none → after.firewall.policy token = none))
      (inspectFirewalld path deadline) host := by
  rw [inspectFirewalld, safe_runTool]
  intro result after hstep
  refine ⟨trivial, ?_⟩
  have hkeeps : host.firewall.policy token = none → after.firewall.policy token = none :=
    fun hgone => policy_none_of_query rfl hgone hstep
  split
  · exact ⟨(fun h => by cases h), hkeeps⟩
  · split
    · rename_i hstopped
      refine ⟨fun _ => ?_, hkeeps⟩
      have hnone : after.firewall.firewalldPolicies = none := hstep.1.2 hstopped.1 hstopped.2
      rw [HostFirewall.policy, hnone, Option.bind_none]
    · exact ⟨(fun h => by cases h), hkeeps⟩

end Reports

/-! ### Removal of the parts -/

section Removal

variable {defaults : NewPolicySettings} {record : RecoveryRecord} {handle : ConnectivityHandle} {host : Host}
  {deadline : TimePoint}

theorem removeUfwRule_showing (hhandle : HandleOf record handle) :
    Safe (showingHost defaults record.token) (fun _ => True)
      (fun result after => result.succeeded = true → after.firewall.markedRules record.token = [])
      (removeUfwRule handle deadline) host := by
  have hfailed {result : OperationResult} {after : Host} (h : result.succeeded = false) :
      result.succeeded = true → after.firewall.markedRules record.token = [] :=
    fun hsucceeded => by simp [h] at hsucceeded
  rw [removeUfwRule]
  simp only [hhandle.token]
  refine safe_bind (ufwRulePresent_showing.imp fun present after hpresent => ?_)
  rcases present with _ | _ | _
  · exact hfailed rfl
  · exact fun _ => hpresent rfl
  · intro deletion after hstep
    refine ⟨trivial, ?_⟩
    change Safe _ _ _ (if deletion.kind ≠ .success then _ else _) after
    split
    · exact hfailed rfl
    · refine safe_bind (ufwRulePresent_showing.imp fun remains last hremains => ?_)
      split
      · rename_i hgone
        exact fun _ => hremains hgone
      · exact hfailed rfl

theorem removeFirewalldPolicy_showing (hhandle : HandleOf record handle) :
    Safe (showingHost defaults record.token) (fun _ => True)
      (fun result after => result.succeeded = true → after.firewall.policy record.token = none)
      (removeFirewalldPolicy handle deadline) host := by
  have hfailed {result : OperationResult} {after : Host} (h : result.succeeded = false) :
      result.succeeded = true → after.firewall.policy record.token = none :=
    fun hsucceeded => by simp [h] at hsucceeded
  rw [removeFirewalldPolicy]
  simp only [hhandle.token]
  rw [safe_runTool]
  intro current first hcurrent
  refine ⟨trivial, ?_⟩
  split
  · rename_i hkind
    refine safe_bind (inspectFirewalld_showing.imp fun active after hactive => ?_)
    split
    · rename_i hstopped
      exact fun _ => hactive.1 hstopped
    · split
      · rename_i hunknown
        exact fun _ => hactive.2 (hcurrent.1.2 hkind hunknown)
      · exact hfailed rfl
  · split
    · exact hfailed rfl
    · rw [safe_runTool]
      intro deletion second _
      refine ⟨trivial, ?_⟩
      split
      · exact hfailed rfl
      · rw [safe_runTool]
        intro afterDeletion third hafter
        refine ⟨trivial, ?_⟩
        split
        · exact hfailed rfl
        · rename_i hkind
          split
          · rename_i hunknown
            exact fun _ => hafter.1.2 hkind hunknown
          · refine safe_bind (inspectFirewalld_showing.imp fun active last hactive => ?_)
            split
            · rename_i hstopped
              exact fun _ => hactive.1 hstopped
            · exact hfailed rfl

theorem removeTable_showing (hhandle : HandleOf record handle) (nftPath : Bytes) :
    Safe (showingHost defaults record.token) (fun _ => True)
      (fun removed after => removed = .ok () → after.firewall.nftTables (tableName record.token) = false)
      (removeTable handle deadline nftPath) host := by
  rw [removeTable]
  simp only [hhandle.table]
  rw [safe_runTool]
  intro tableQuery first hquery
  refine ⟨trivial, ?_⟩
  split
  · split
    · exact fun h => by cases h
    · rw [safe_runTool]
      intro deletion second _
      refine ⟨trivial, ?_⟩
      split
      · exact fun h => by cases h
      · rw [safe_runTool]
        intro afterDeletion third hafter
        refine ⟨trivial, ?_⟩
        split
        · exact fun h => by cases h
        · rename_i habsent
          exact fun _ => hafter.1.2 (by simpa using habsent)
  · split
    · exact fun h => by cases h
    · rename_i habsent
      exact fun _ => hquery.1.2 (by simpa using habsent)

theorem removeRecordedTable_showing (hhandle : HandleOf record handle) :
    Safe (showingHost defaults record.token) (fun _ => True)
      (fun removed after => removed = .ok () → after.firewall.nftTables (tableName record.token) = false)
      (removeRecordedTable handle deadline) host := by
  refine safe_bind (((confined_trivial _).results _).imp fun found after _ => ?_)
  cases found with
  | none => exact fun h => by cases h
  | some nftPath => exact removeTable_showing hhandle nftPath

end Removal

/-! ### The simulated host -/

namespace Scenario

variable {scenario : Scenario} {host : Host}

/-- The simulated host is honest. -/
theorem respond_honest {request : HostCall} (h : OneLineComment request) :
    honestHost scenario.defaults scenario.token host request (scenario.respond host request).1
      (scenario.respond host request).2 := by
  refine ⟨respond_session h, ?_⟩
  cases request with
  | runTool path command deadline size =>
      cases command with
      | nftListTable table =>
          intro habsent
          simp only [respond, runCommand] at habsent ⊢
          cases htable : host.firewall.nftTables table with
          | true => simp [htable, knownNftTableAbsence] at habsent
          | false => simp [htable]
      | ufwStatusNumbered => exact fun _ => rfl
      | firewalldState =>
          intro hkind _
          simp only [respond, runCommand] at hkind ⊢
          cases hpolicies : host.firewall.firewalldPolicies with
          | none => simp [hpolicies]
          | some policies => simp [hpolicies] at hkind
      | firewalldInfoPolicy name =>
          intro hkind _
          simp only [respond, runCommand] at hkind ⊢
          cases hpolicies : host.firewall.firewalldPolicies with
          | none => simp [hpolicies]
          | some policies =>
              cases hpolicy : policies name with
              | none => simp [hpolicies, hpolicy]
              | some policy => simp [hpolicies, hpolicy] at hkind
      | _ => exact trivial
  | _ => exact trivial

/-- Execution follows a path of an honest host. -/
theorem path_honest {α : Type} (scenario : Scenario) (calls : Nat) (program : HostProgram α) (host : Host)
    (h : ∀ step ∈ (execute scenario.respond calls program host).1, OneLineComment step.request) :
    Path (honestHost scenario.defaults scenario.token) program host
      (execute scenario.respond calls program host).1 (execute scenario.respond calls program host).2.1
      (execute scenario.respond calls program host).2.2 :=
  path_execute _ _ _ _ fun step hstep => respond_honest (h step hstep)

end Scenario

/-- How much is captured of a listing of the rules of ufw. -/
def listingLimit : HostCall → Option Nat
  | .runTool _ .ufwStatusNumbered _ size => some size
  | _ => none

theorem listingFits_iff (step : Step HostCall HostAnswer Host) :
    (listingLimit step.request).all (fun size => decide ((ufwListing step.after.firewall.ufwRules).length ≤ size)) = true ↔
      ListingFits step := by
  unfold listingLimit ListingFits
  split
  · rw [Option.all_some, decide_eq_true_eq]
  · exact ⟨fun _ => trivial, fun _ => rfl⟩

instance (step : Step HostCall HostAnswer Host) : Decidable (ListingFits step) :=
  decidable_of_iff _ (listingFits_iff step)

/-! ### A host that works again -/

/-- A recovered host that prints the rules of ufw as far as they are captured. -/
def capturingHost (defaults : NewPolicySettings) (installed : Bytes → Bool) : Environment HostCall HostAnswer Host :=
  fun before request answer after =>
    match request, answer with
    | .runTool _ .ufwStatusNumbered _ size, result =>
        result.kind = .success ∧ result.standardOutput = (ufwListing before.firewall.ufwRules).take size ∧
          after = before
    | request, answer => recoveredHost defaults installed before request answer after

/-- The requests other than the one for the listing. -/
def ListsNoRules (request : HostCall) : Prop :=
  match request with
  | .runTool _ .ufwStatusNumbered _ _ => False
  | _ => True

theorem recovered_of_capturing {defaults : NewPolicySettings} {installed : Bytes → Bool} {before after : Host}
    {request : HostCall} {answer : HostAnswer request} (hlists : ListsNoRules request)
    (h : capturingHost defaults installed before request answer after) :
    recoveredHost defaults installed before request answer after := by
  cases request with
  | runTool path command deadline size =>
      cases command with
      | ufwStatusNumbered => exact hlists.elim
      | _ => exact h
  | _ => exact h

/-- A listing that fits is printed in full. -/
theorem recovered_of_fitting {defaults : NewPolicySettings} {installed : Bytes → Bool} {before after : Host}
    {request : HostCall} {answer : HostAnswer request}
    (h : capturingHost defaults installed before request answer after)
    (hfits : ListingFits ⟨before, request, answer, after⟩) :
    recoveredHost defaults installed before request answer after := by
  by_cases hlists : ListsNoRules request
  · exact recovered_of_capturing hlists h
  cases request with
  | runTool path command deadline size =>
      cases command with
      | ufwStatusNumbered =>
          obtain ⟨hsuccess, hprinted, rfl⟩ := h
          rw [List.take_of_length_le hfits] at hprinted
          exact ⟨⟨rfl, hsuccess, hprinted⟩, rfl⟩
      | _ => exact absurd trivial hlists
  | _ => exact absurd trivial hlists

namespace Scenario

variable {scenario : Scenario} {host : Host}

instance (request : HostCall) : Decidable (ListsNoRules request) := by
  unfold ListsNoRules
  split <;> infer_instance

/-- The simulated host cuts its listings. -/
theorem respond_captured {request : HostCall} (hcomment : OneLineComment request)
    (h : ListsNoRules request → scenario.CapturedWhole host request) :
    capturingHost scenario.defaults scenario.installed host request (scenario.respond host request).1
      (scenario.respond host request).2 := by
  cases request with
  | runTool path command deadline size =>
      cases command with
      | ufwStatusNumbered => exact ⟨rfl, rfl, rfl⟩
      | _ => exact respond_recovered hcomment (h trivial)
  | _ => exact respond_recovered hcomment (h trivial)

/-- Execution follows a path of a host whose listings are cut. -/
theorem path_captured {α : Type} (scenario : Scenario) (calls : Nat) (program : HostProgram α) (host : Host)
    (h : ∀ step ∈ (execute scenario.respond calls program host).1, OneLineComment step.request ∧
      (ListsNoRules step.request → scenario.CapturedWhole step.before step.request)) :
    Path (capturingHost scenario.defaults scenario.installed) program host
      (execute scenario.respond calls program host).1 (execute scenario.respond calls program host).2.1
      (execute scenario.respond calls program host).2.2 :=
  path_execute _ _ _ _ fun step hstep => respond_captured (h step hstep).1 (h step hstep).2

end Scenario

end NetLagLab.NetworkEnvironment
