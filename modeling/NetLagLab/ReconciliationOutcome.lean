import NetLagLab.CrashRecovery

/-! What the first reconciliation behind a crash comes to, whatever the tools of the dead Session reported and did. All
that it left is in the shape that a Session gives it, and every mutation had its record; whether the record is still
there, and whether it is enough to recognise a policy of firewalld, decides. -/

namespace NetLagLab.NetworkEnvironment

open ByteLines CallPrograms CallPrograms.Program

section Session

variable {defaults : NewPolicySettings} {token ipPath : Bytes} {start crashed last : Host}
  {trace : List (Step HostCall HostAnswer Host)}

/-- A program is watched on any host of a Session, without a word on when it clears the journal. -/
theorem Safe.session {α : Type} {post : α → Host → Prop} {program : HostProgram α}
    (h : Safe (believedHost False defaults token) (Watched False defaults token) post program start) :
    Safe (sessionHost defaults token) (SessionStep defaults token) post program start :=
  h.mono (fun _ _ _ _ hstep => ⟨hstep, False.elim⟩) (fun _ _ hthis => hthis.session) fun _ _ hpost => hpost

/-- What there is of the token is there by some record of it. -/
def OfRecord (defaults : NewPolicySettings) (token : Bytes) (host : Host) : Prop :=
  ∃ record zone, record.token = token ∧ Recoverable defaults record zone True host

theorem ofRecord_of_path {α : Type} {post : α → Host → Prop} {program rest : HostProgram α}
    (h : Safe (sessionHost defaults token) (SessionStep defaults token) post program start)
    (hstart : OfRecord defaults token start) (hpath : Path (sessionHost defaults token) program start trace rest last) :
    (∀ step ∈ trace, SessionStep defaults token step) ∧ OfRecord defaults token last := by
  have hsteps := (h.path hpath).1
  exact ⟨hsteps, hpath.last_of_steps hstart fun step hstep => (hsteps step hstep).2⟩

theorem Aftermath.ofRecord (h : Aftermath (sessionHost defaults token) ipPath start trace crashed)
    (habsent : start.firewall.Absent token) (hjournal : start.journal = none) :
    (∀ step ∈ trace, SessionStep defaults token step) ∧ OfRecord defaults token crashed := by
  induction h with
  | life h =>
      have hstart : OfRecord defaults token start := (Left.of_absent habsent hjournal).recoverable
      exact ofRecord_of_path (Safe.session (connectivityLife_watched ipPath _ habsent hjournal)) hstart h
  | reconciliation before h ih =>
      obtain ⟨hsteps, hmiddle⟩ := ih
      obtain ⟨record, zone, rfl, hrecoverable⟩ := id hmiddle
      obtain ⟨hmore, hlast⟩ := ofRecord_of_path (Safe.session (reconcilePendingState_watched hrecoverable)) hmiddle h
      exact ⟨List.forall_mem_append.mpr ⟨hsteps, hmore⟩, hlast⟩

end Session

section Outcome

variable {defaults : NewPolicySettings} {installed : Bytes → Bool} {token ipPath : Bytes} {start crashed last : Host}
  {trace more : List (Step HostCall HostAnswer Host)} {deadline : TimePoint} {result : OperationResult}

/-- Without a record nothing is done. -/
theorem reconcilePendingState_unrecorded {host : Host} (hnft : Provides installed .nft)
    (hbackend : ProvidesBackend installed host) (h : OfRecord defaults token host) (hjournal : host.journal = none) :
    Recovers defaults installed (fun _ after => host = after) (reconcilePendingState deadline) host := by
  obtain ⟨record, zone, rfl, hrecoverable⟩ := h
  refine safe_reconcilePendingState (fun _ _ _ _ _ hstep => hstep) hnft hbackend hrecoverable (fun _ => rfl) ?_
  intro current handle hcurrent
  simp [hjournal] at hcurrent

/-- Where the journal is no evidence of what is left, there is no record of it. -/
theorem OfRecord.journal_none {host : Host} (h : OfRecord defaults token host) (hevident : ¬ Evident token host) :
    host.journal = none := by
  obtain ⟨record, zone, htoken, hrecoverable⟩ := h
  rw [Option.eq_none_iff_forall_not_mem]
  intro current hcurrent
  exact hevident (Or.inr ⟨current, hcurrent, (hrecoverable.journal current hcurrent).2.trans htoken⟩)

/-- Every mutation has its record. The next reconciliation, on a host that works again, succeeds and leaves nothing of
the token exactly when the record of what is left is still there and the policy of firewalld has no ingress zone. -/
theorem reconcilePendingState_cleans_iff (h : Aftermath (sessionHost defaults token) ipPath start trace crashed)
    (habsent : start.firewall.Absent token) (hjournal : start.journal = none) (hnft : Provides installed .nft)
    (hbackend : ProvidesBackend installed crashed)
    (hrun : Path (capturingHost defaults installed) (reconcilePendingState deadline) crashed more (.done result) last)
    (hmore : ∀ step ∈ more, ListingFits step) :
    (∀ step ∈ trace, MutationRecorded step) ∧
      ((result.succeeded = true ∧ last.firewall.Absent token ∧ last.journal = none) ↔
        Evident token crashed ∧ ¬ ZoneAssigned token crashed.firewall) := by
  obtain ⟨hsteps, hrecord⟩ := h.ofRecord habsent hjournal
  refine ⟨fun step hstep => (hsteps step hstep).1, ?_⟩
  by_cases hevident : Evident token crashed
  · have hleft : Left defaults token crashed := ⟨hrecord, hevident⟩
    by_cases hassigned : ZoneAssigned token crashed.firewall
    · obtain ⟨hfailed, -⟩ := result_of_recovers (reconcilePendingState_refused hnft hbackend hleft hassigned) hrun hmore
      rw [hfailed]
      exact ⟨(fun hclean => by cases hclean.1), fun hcondition => absurd hassigned hcondition.2⟩
    · have hclean := result_of_recovers (reconcilePendingState_recovered hnft hbackend hleft hassigned) hrun hmore
      exact ⟨fun _ => ⟨hevident, hassigned⟩, fun _ => hclean⟩
  · have hnone := hrecord.journal_none hevident
    obtain rfl : crashed = last :=
      result_of_recovers (reconcilePendingState_unrecorded hnft hbackend hrecord hnone) hrun hmore
    exact ⟨fun hclean => absurd (Or.inl hclean.2.1) hevident, fun hcondition => absurd hcondition.1 hevident⟩

/-- A workstation's helper that dies when the policy has its zone. -/
def zonedWorkstation : List (Step HostCall HostAnswer Host) × HostProgram Unit × Host :=
  execute workstation.respond 26 (connectivityLife (ascii "/usr/sbin/ip") (5 : TimePoint) [6]) untouched

/-- The policy is not recognised, and the reconciliation fails. -/
theorem reconcilePendingState_cleans_zoned : ∃ more last,
    Aftermath (sessionHost workstation.defaults workstation.token) (ascii "/usr/sbin/ip") untouched zonedWorkstation.1
        zonedWorkstation.2.2 ∧
      Path (capturingHost workstation.defaults workstation.installed) (reconcilePendingState (9 : TimePoint))
        zonedWorkstation.2.2 more (.done ⟨false, .identityMismatch⟩) last ∧
      (∀ step ∈ more, ListingFits step) ∧ Evident workstation.token zonedWorkstation.2.2 := by
  have hlife := Scenario.path_session workstation 26 (connectivityLife (ascii "/usr/sbin/ip") (5 : TimePoint) [6]) untouched
    (by decide +kernel)
  have hpath := Scenario.path_captured workstation 40 (reconcilePendingState (9 : TimePoint)) zonedWorkstation.2.2
    (by decide +kernel)
  have hended : (execute workstation.respond 40 (reconcilePendingState (9 : TimePoint))
      zonedWorkstation.2.2).2.1.ended = some ⟨false, .identityMismatch⟩ := by decide +kernel
  rw [Program.eq_done_of_ended hended] at hpath
  have hjournal : zonedWorkstation.2.2.journal = some ⟨.firewalld, .intent, workstation.token⟩ := by decide +kernel
  exact ⟨_, _, .life hlife, hpath, by decide +kernel, Or.inr ⟨_, hjournal, rfl⟩⟩

theorem reconcilePendingState_cleans_iff_workstation : ∃ more result last,
    Path (capturingHost workstation.defaults workstation.installed) (reconcilePendingState (9 : TimePoint))
        crashedWorkstation.2.2 more (.done result) last ∧
      result.succeeded = true ∧ last.firewall.Absent workstation.token ∧ last.journal = none := by
  have hlife := Scenario.path_session workstation 25 (connectivityLife (ascii "/usr/sbin/ip") (5 : TimePoint) [6]) untouched
    (by decide +kernel)
  obtain ⟨more, last, hpath, hmore⟩ := crashedWorkstation_reconciled
  obtain ⟨hnft, hbackend⟩ := workstation_provides crashedWorkstation_journal
  have hunassigned : ¬ ZoneAssigned workstation.token crashedWorkstation.2.2.firewall := by
    rintro ⟨policy, hpolicy, hassigned⟩
    have hzones : (crashedWorkstation.2.2.firewall.policy workstation.token).elim [] FirewalldPolicy.ingressZones = [] := by
      decide +kernel
    rw [hpolicy, Option.elim_some] at hzones
    exact hassigned hzones
  have hclean := (reconcilePendingState_cleans_iff (.life hlife) ⟨rfl, rfl, rfl⟩ rfl hnft hbackend hpath
    hmore).2.mpr ⟨Or.inr ⟨_, crashedWorkstation_journal, rfl⟩, hunassigned⟩
  exact ⟨more, _, last, hpath, hclean⟩

end Outcome

end NetLagLab.NetworkEnvironment
