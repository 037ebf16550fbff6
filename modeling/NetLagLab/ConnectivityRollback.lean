import NetLagLab.ConnectivityRemoval
import NetLagLab.HostSimulation

/-! Configuration is all or nothing for its caller. Without a proof nothing on the host was changed; with
one, a removal on a host that works leaves nothing of the token. -/

namespace NetLagLab.NetworkEnvironment

open ByteLines CallPrograms CallPrograms.Program

/-- A step that runs a mutation of the firewall. -/
def Mutates (step : Step HostCall HostAnswer Host) : Prop :=
  match step.request with
  | .runTool _ command _ _ => command.isMutation = true
  | _ => False

instance (step : Step HostCall HostAnswer Host) : Decidable (Mutates step) := by
  unfold Mutates
  split <;> infer_instance

section Rollback

variable {defaults : NewPolicySettings} {token : Bytes} {deadline : TimePoint}

theorem not_mutates_of_inspection {step : Step HostCall HostAnswer Host} (h : Inspection step.request) :
    ¬ Mutates step := by
  obtain ⟨before, request, answer, after⟩ := step
  cases request with
  | runTool path command deadline limit =>
      intro hmutates
      exact absurd (show command.isMutation = true from hmutates) (by simp [show command.isMutation = false from h])
  | _ => exact id

theorem planConnectivity_confined (ipPath : Bytes) :
    Confined Inspection (fun _ => True) (planConnectivity ipPath deadline) := by
  refine ⟨trivial, fun forwarding => ⟨trivial, fun legacyRules => ?_⟩⟩
  rcases forwarding with _ | forwarding
  · trivial
  rcases legacyRules with _ | legacyRules
  · trivial
  · cases forwarding with
    | false => trivial
    | true =>
      change Confined _ _ (inspectRouting ipPath deadline >>= _)
      refine confined_bind ((inspectRouting_confined ipPath).imp fun routing _ => ?_)
      split
      · trivial
      · refine confined_bind ((selectFirewall_confined _).imp fun selected hselected => ?_)
        split
        · trivial
        · refine ⟨trivial, fun created => ?_⟩
          cases created with
          | none => trivial
          | some token => exact (planSelected_confined (hselected _ rfl)).imp fun _ _ => trivial

/-- Once the table is asked for, the configuration hands over a handle. -/
theorem applyConnectivity_handsOver (plan : ConnectivityPlan) :
    Confined (fun _ => True) (fun result => ∃ handle, HandsOver result handle) (applyConnectivity plan) := by
  refine confined_bind ((confined_trivial _).imp fun added _ => ?_)
  split
  · exact ⟨_, Or.inr ⟨_, rfl⟩⟩
  · refine confined_bind ((confined_trivial _).imp fun sequence _ => ?_)
    split
    · exact ⟨_, Or.inr ⟨_, rfl⟩⟩
    · rw [openFirewall]
      split
      · exact ⟨_, Or.inl rfl⟩
      · refine confined_bind ((confined_trivial _).imp fun result _ => ?_)
        refine confined_bind ((confined_trivial _).imp fun present _ => ?_)
        split
        · exact ⟨_, Or.inr ⟨_, rfl⟩⟩
        · exact ⟨_, Or.inl rfl⟩
      · refine confined_bind ((confined_trivial _).imp fun result _ => ?_)
        split
        · exact ⟨_, Or.inr ⟨_, rfl⟩⟩
        · exact ⟨_, Or.inl rfl⟩

theorem recordApplied_proven (handle : ConnectivityHandle) :
    Confined (fun _ => True) (fun result => result.state ≠ .absent) (recordApplied handle) := by
  refine ⟨trivial, fun written => ?_⟩
  cases written with
  | _ => exact fun h => nomatch h

/-- A call that runs no tool changes nothing, so only what follows it matters. -/
theorem not_mutates_callHost {α : Type} {environment : Environment HostCall HostAnswer Host}
    {request : HostCall} {next : HostAnswer request → HostProgram α} {start last : Host}
    {trace : List (Step HostCall HostAnswer Host)} {result : α}
    (hrequest : ∀ path command limit size, request ≠ .runTool path command limit size)
    (hrun : Path environment (callHost request >>= next) start trace (.done result) last)
    (hnext : ∀ answer middle rest, Path environment (next answer) middle rest (.done result) last →
      ∀ step ∈ rest, ¬ Mutates step) : ∀ step ∈ trace, ¬ Mutates step := by
  cases hrun with
  | step hstep hrest =>
      rw [List.forall_mem_cons]
      refine ⟨fun hmutates => ?_, hnext _ _ _ hrest⟩
      cases request with
      | runTool path command limit size => exact hrequest _ _ _ _ rfl
      | _ => exact hmutates

/-- A program that is over runs nothing. -/
theorem not_mutates_done {α : Type} {environment : Environment HostCall HostAnswer Host} {start last : Host}
    {trace : List (Step HostCall HostAnswer Host)} {result value : α}
    (hrun : Path environment (.done value : HostProgram α) start trace (.done result) last) :
    ∀ step ∈ trace, ¬ Mutates step := by
  cases hrun
  exact fun step hstep => absurd hstep List.not_mem_nil

/-- A configuration that returns without anything to own has changed nothing. -/
theorem not_mutates_of_absent {ipPath : Bytes} {start configured : Host}
    {environment : Environment HostCall HostAnswer Host} {trace : List (Step HostCall HostAnswer Host)}
    {result : ConnectivityMutationResult}
    (hrun : Path environment (configureConnectivity ipPath deadline) start trace (.done result) configured)
    (habsent : result.state = .absent) : ∀ step ∈ trace, ¬ Mutates step := by
  obtain ⟨first, middle, planned, rest, rfl, hplan, hrest⟩ := hrun.of_bind
  have hlooked := ((planConnectivity_confined ipPath).path hplan).1
  have hfirst : ∀ step ∈ first, ¬ Mutates step := fun step hstep => not_mutates_of_inspection (hlooked step hstep)
  suffices hbehind : ∀ step ∈ rest, ¬ Mutates step by
    intro step hstep
    exact (List.mem_append.mp hstep).elim (hfirst step) (hbehind step)
  cases planned with
  | error cause => exact not_mutates_done hrest
  | ok plan =>
      have hproven : ∀ next : Except ConnectivityMutationResult ConnectivityHandle →
          HostProgram ConnectivityMutationResult,
          (∀ handle, next (.ok handle) = recordApplied handle) → (∀ failure, next (.error failure) = return failure) →
          Confined (fun _ => True) (fun result => result.state ≠ .absent) (applyConnectivity plan >>= next) := by
        intro next hok herror
        refine confined_bind ((applyConnectivity_handsOver plan).imp ?_)
        rintro applied ⟨handle, rfl | ⟨cause, rfl⟩⟩
        · rw [hok]
          exact recordApplied_proven handle
        · rw [herror]
          exact fun h => by cases h
      refine not_mutates_callHost (by simp) hrest fun opened second _ hopened => ?_
      cases opened with
      | false => exact not_mutates_done hopened
      | true =>
          refine not_mutates_callHost (by simp) hopened fun existing third _ hexisting => ?_
          cases existing with
          | empty =>
              refine not_mutates_callHost (by simp) hexisting fun written fourth _ hwritten => ?_
              cases written with
              | false => exact not_mutates_done hwritten
              | true => exact absurd habsent ((hproven _ (fun _ => rfl) fun _ => rfl).path hwritten).2
          | _ => exact not_mutates_done hexisting

/-- A journal that holds a record stops a configuration before it owns anything. -/
theorem configureConnectivity_occupied {ipPath : Bytes} {start : Host} {found : RecoveryRecord}
    (habsent : start.firewall.Absent token) (hjournal : start.journal = some found) :
    Safe (sessionHost defaults token) (LooksOnly token (some found)) (fun result _ => result.state = .absent)
      (configureConnectivity ipPath deadline) start := by
  refine safe_bind ((planConnectivity_session ipPath habsent hjournal).imp ?_)
  rintro planned first ⟨-, hfirst, hjournal₁⟩
  split
  · exact rfl
  · refine safe_inspection trivial hfirst hjournal₁ fun opened second _ hsecond hjournal₂ => ?_
    split
    · exact rfl
    · refine safe_inspection trivial hsecond hjournal₂ fun existing third hstep _ _ => ?_
      have hexisting : existing ≠ .empty := by
        rintro rfl
        exact nomatch (hstep.2.1.2 : second.journal = none).symm.trans hjournal₂
      rw [if_pos hexisting]
      exact rfl

/-- A configuration is all or nothing. Without a proof it ran no mutation; once it ran one it returns a
proof, and a removal by its handle on a host that works leaves nothing of the token. -/
theorem configureConnectivity_all_or_nothing {ipPath : Bytes} {installed : Bytes → Bool}
    {start configured : Host} {trace : List (Step HostCall HostAnswer Host)}
    {result : ConnectivityMutationResult} (hstart : start.firewall.Absent token)
    (hnft : Provides installed .nft)
    (hrun : Path (sessionHost defaults token) (configureConnectivity ipPath deadline) start trace
      (.done result) configured) :
    ((∀ proof, result.state ≠ .proven proof) → ∀ step ∈ trace, ¬ Mutates step) ∧
      ((∃ step ∈ trace, Mutates step) → ∃ proof, result.state = .proven proof ∧
        ∀ removalDeadline removal rest removed,
          Path (recoveredHost defaults installed) (removeConnectivity proof.handle removalDeadline) configured
            rest (.done removal) removed →
          removal.state = .absent ∧ removed.firewall.Absent token) := by
  have hconfigured : result.state = .absent ∨
      ∃ proof record zone, result.state = .proven proof ∧ record.token = token ∧
        Holds defaults record zone proof.handle configured := by
    cases hjournal : start.journal with
    | none =>
        have hresult := (configureConnectivity_session ipPath hstart hjournal).result hrun
        rw [Configured] at hresult
        split at hresult
        · rename_i proof hproof
          obtain ⟨record, zone, htoken, hholds⟩ := hresult
          exact Or.inr ⟨proof, record, zone, hproof, htoken, hholds⟩
        · exact Or.inl hresult.1
    | some found => exact Or.inl ((configureConnectivity_occupied hstart hjournal).result hrun)
  rcases hconfigured with habsent | ⟨proof, record, zone, hproof, rfl, hholds⟩
  · have hnone := not_mutates_of_absent hrun habsent
    refine ⟨fun _ => hnone, ?_⟩
    rintro ⟨step, hstep, hmutates⟩
    exact absurd hmutates (hnone step hstep)
  · refine ⟨fun hno => absurd hproof (hno proof), fun _ => ⟨proof, hproof, ?_⟩⟩
    intro removalDeadline removal rest removed hremoval
    have hknown : ¬ ZoneUnknown record zone proof.handle configured.firewall := by
      rintro ⟨policy, hpolicy, -, hne⟩
      obtain ⟨⟨hbackend, hopened⟩, -⟩ := hholds.host.owned.policy policy hpolicy
      exact hne (hholds.ingressZone hbackend hopened).symm
    obtain ⟨hstate, habsent, -⟩ :=
      (removeConnectivity_recovered hnft hholds.handleOf hholds.host hknown).result hremoval
    exact ⟨hstate, habsent⟩

/-- A workstation's firewalld is configured and nothing of it is left behind. -/
theorem configureConnectivity_all_or_nothing_workstation : ∃ proof configured trace result,
    Path (sessionHost workstation.defaults workstation.token)
        (configureConnectivity (ascii "/usr/sbin/ip") (5 : TimePoint)) untouched trace (.done result) configured ∧
      result.state = .proven proof ∧
      ∀ removalDeadline removal rest removed,
        Path (recoveredHost workstation.defaults workstation.installed)
          (removeConnectivity proof.handle removalDeadline) configured rest (.done removal) removed →
        removal.state = .absent ∧ removed.firewall.Absent workstation.token := by
  have hpath := Scenario.path_session workstation 80 (configureConnectivity (ascii "/usr/sbin/ip") (5 : TimePoint))
    untouched (by decide +kernel)
  obtain ⟨result, hresult⟩ := Option.isSome_iff_exists.mp (show
    (execute workstation.respond 80 (configureConnectivity (ascii "/usr/sbin/ip") (5 : TimePoint))
      untouched).2.1.ended.isSome = true by decide +kernel)
  rw [Program.eq_done_of_ended hresult] at hpath
  have hmutates : ∃ step ∈ (execute workstation.respond 80
      (configureConnectivity (ascii "/usr/sbin/ip") (5 : TimePoint)) untouched).1, Mutates step := by
    decide +kernel
  have habsent : untouched.firewall.Absent workstation.token := ⟨rfl, rfl, rfl⟩
  have hnft : Provides workstation.installed .nft :=
    ⟨ascii "/usr/sbin/nft", by decide, by decide⟩
  obtain ⟨proof, hproof, hremoval⟩ := (configureConnectivity_all_or_nothing habsent hnft hpath).2 hmutates
  exact ⟨proof, _, _, result, hpath, hproof, hremoval⟩

end Rollback

end NetLagLab.NetworkEnvironment
