import NetLagLab.Connectivity

/-! The text of a record in the recovery journal: four lines, of which the reader takes no other than the writer's. -/

namespace NetLagLab.NetworkEnvironment

open ByteLines

def backendName : RecoveryBackend → Bytes
  | .nftables => ascii "nftables"
  | .ufw => ascii "ufw"
  | .firewalld => ascii "firewalld"

def phaseName : RecoveryPhase → Bytes
  | .intent => ascii "intent"
  | .applied => ascii "applied"
  | .removing => ascii "removing"

def parseBackend (value : Bytes) : Option RecoveryBackend :=
  if value = ascii "nftables" then some .nftables
  else if value = ascii "ufw" then some .ufw
  else if value = ascii "firewalld" then some .firewalld
  else none

def parsePhase (value : Bytes) : Option RecoveryPhase :=
  if value = ascii "intent" then some .intent
  else if value = ascii "applied" then some .applied
  else if value = ascii "removing" then some .removing
  else none

def versionLine : Bytes := ascii "version=1"

def backendLabel : Bytes := ascii "backend="

def phaseLabel : Bytes := ascii "phase="

def tokenLabel : Bytes := ascii "token="

def serialize (record : RecoveryRecord) : Option Bytes :=
  if validRecoveryToken record.token then
    some (versionLine ++ newline :: (backendLabel ++ backendName record.backend ++ newline ::
      (phaseLabel ++ phaseName record.phase ++ newline :: (tokenLabel ++ record.token ++ [newline]))))
  else none

/-- The first line, and what stands behind it. -/
def cutLine : Bytes → Option (Bytes × Bytes)
  | [] => none
  | byte :: rest =>
      if byte = newline then some ([], rest)
      else (cutLine rest).map fun cut => (byte :: cut.1, cut.2)

/-- The value of a line that starts with the label. -/
def labelled (label line : Bytes) : Option Bytes :=
  if label <+: line then some (line.drop label.length) else none

def parse (contents : Bytes) : Option RecoveryRecord := do
  let (first, afterFirst) ← cutLine contents
  if first ≠ versionLine then none
  else
    let (second, afterSecond) ← cutLine afterFirst
    let backend ← (labelled backendLabel second).bind parseBackend
    let (third, afterThird) ← cutLine afterSecond
    let phase ← (labelled phaseLabel third).bind parsePhase
    let (fourth, afterFourth) ← cutLine afterThird
    if afterFourth ≠ [] then none
    else
      let token ← labelled tokenLabel fourth
      if validRecoveryToken token then some ⟨backend, phase, token⟩ else none

section Codec

variable {contents line rest label value : Bytes} {record : RecoveryRecord}

theorem cutLine_eq_some_iff :
    cutLine contents = some (line, rest) ↔ newline ∉ line ∧ contents = line ++ newline :: rest := by
  induction contents generalizing line with
  | nil => simp [cutLine]
  | cons byte contents ih =>
      rw [cutLine]
      split
      · rename_i hbyte
        rw [Option.some.injEq, Prod.mk.injEq]
        constructor
        · rintro ⟨rfl, rfl⟩
          exact ⟨List.not_mem_nil, by rw [hbyte, List.nil_append]⟩
        · rintro ⟨hline, hcontents⟩
          cases line with
          | nil => exact ⟨rfl, (List.cons.inj hcontents).2⟩
          | cons first line =>
              rw [List.cons_append, List.cons.injEq] at hcontents
              exact absurd (hbyte.symm.trans hcontents.1 ▸ List.mem_cons_self) hline
      · rename_i hbyte
        rw [Option.map_eq_some_iff]
        constructor
        · rintro ⟨⟨inner, more⟩, hcut, hboth⟩
          obtain ⟨rfl, rfl⟩ := Prod.mk.inj hboth
          obtain ⟨hinner, rfl⟩ := ih.mp hcut
          exact ⟨List.not_mem_cons_of_ne_of_not_mem (Ne.symm hbyte) hinner, rfl⟩
        · rintro ⟨hline, hcontents⟩
          cases line with
          | nil => exact absurd (List.cons.inj hcontents).1 hbyte
          | cons first line =>
              rw [List.cons_append, List.cons.injEq] at hcontents
              obtain ⟨rfl, rfl⟩ := hcontents
              exact ⟨(line, rest), ih.mpr ⟨fun hmem => hline (List.mem_cons_of_mem _ hmem), rfl⟩, rfl⟩

theorem labelled_eq_some_iff : labelled label line = some value ↔ line = label ++ value := by
  unfold labelled
  split
  · rename_i hprefix
    obtain ⟨behind, rfl⟩ := hprefix
    rw [List.drop_left, Option.some.injEq, List.append_cancel_left_eq]
  · rename_i hprefix
    refine ⟨(fun h => nomatch h), ?_⟩
    rintro rfl
    exact absurd (List.prefix_append label value) hprefix

theorem parseBackend_eq_some_iff {backend : RecoveryBackend} :
    parseBackend value = some backend ↔ value = backendName backend := by
  constructor
  · intro h
    unfold parseBackend at h
    split at h
    · cases h
      assumption
    split at h
    · cases h
      assumption
    split at h
    · cases h
      assumption
    exact nomatch h
  · rintro rfl
    cases backend <;> decide

theorem parsePhase_eq_some_iff {phase : RecoveryPhase} : parsePhase value = some phase ↔ value = phaseName phase := by
  constructor
  · intro h
    unfold parsePhase at h
    split at h
    · cases h
      assumption
    split at h
    · cases h
      assumption
    split at h
    · cases h
      assumption
    exact nomatch h
  · rintro rfl
    cases phase <;> decide

theorem newline_notMem_backend (backend : RecoveryBackend) : newline ∉ backendLabel ++ backendName backend := by
  cases backend <;> decide

theorem newline_notMem_phase (phase : RecoveryPhase) : newline ∉ phaseLabel ++ phaseName phase := by
  cases phase <;> decide

theorem newline_notMem_token {token : Bytes} (h : validRecoveryToken token = true) : newline ∉ tokenLabel ++ token := by
  rw [List.mem_append, not_or]
  refine ⟨by decide, fun hmem => ?_⟩
  rw [validRecoveryToken, Bool.and_eq_true, List.all_eq_true] at h
  exact absurd (h.2 newline hmem) (by decide)

/-- The reader takes what the writer writes, and nothing else. -/
theorem parse_eq_some_iff : parse contents = some record ↔ serialize record = some contents := by
  unfold parse serialize
  constructor
  · intro h
    obtain ⟨⟨first, afterFirst⟩, hfirst, h⟩ := Option.bind_eq_some_iff.mp h
    obtain ⟨hversion, h⟩ := Option.ite_none_left_eq_some.mp h
    obtain ⟨⟨second, afterSecond⟩, hsecond, h⟩ := Option.bind_eq_some_iff.mp h
    obtain ⟨backend, hbackend, h⟩ := Option.bind_eq_some_iff.mp h
    obtain ⟨⟨third, afterThird⟩, hthird, h⟩ := Option.bind_eq_some_iff.mp h
    obtain ⟨phase, hphase, h⟩ := Option.bind_eq_some_iff.mp h
    obtain ⟨⟨fourth, afterFourth⟩, hfourth, h⟩ := Option.bind_eq_some_iff.mp h
    obtain ⟨hend, h⟩ := Option.ite_none_left_eq_some.mp h
    obtain ⟨token, htoken, h⟩ := Option.bind_eq_some_iff.mp h
    obtain ⟨hvalid, hrecord⟩ := Option.ite_none_right_eq_some.mp h
    obtain rfl := Option.some.inj hrecord
    obtain ⟨backendText, hbackendText, hbackend⟩ := Option.bind_eq_some_iff.mp hbackend
    obtain ⟨phaseText, hphaseText, hphase⟩ := Option.bind_eq_some_iff.mp hphase
    obtain rfl := not_not.mp hversion
    obtain rfl := not_not.mp hend
    obtain rfl := labelled_eq_some_iff.mp hbackendText
    obtain rfl := labelled_eq_some_iff.mp hphaseText
    obtain rfl := labelled_eq_some_iff.mp htoken
    obtain rfl := parseBackend_eq_some_iff.mp hbackend
    obtain rfl := parsePhase_eq_some_iff.mp hphase
    obtain ⟨-, rfl⟩ := cutLine_eq_some_iff.mp hfourth
    obtain ⟨-, rfl⟩ := cutLine_eq_some_iff.mp hthird
    obtain ⟨-, rfl⟩ := cutLine_eq_some_iff.mp hsecond
    obtain ⟨-, rfl⟩ := cutLine_eq_some_iff.mp hfirst
    exact if_pos hvalid
  · intro h
    obtain ⟨hvalid, hcontents⟩ := Option.ite_none_right_eq_some.mp h
    obtain rfl := Option.some.inj hcontents
    have hcut : ∀ {line rest : Bytes}, newline ∉ line → cutLine (line ++ newline :: rest) = some (line, rest) :=
      fun hline => cutLine_eq_some_iff.mpr ⟨hline, rfl⟩
    have hversion : newline ∉ versionLine := by decide
    have hlabelled : ∀ label value, labelled label (label ++ value) = some value :=
      fun label value => labelled_eq_some_iff.mpr rfl
    rw [hcut hversion]
    simp only [Option.bind_eq_bind, Option.bind_some, ne_eq, not_true_eq_false, if_false,
      hcut (newline_notMem_backend record.backend), hcut (newline_notMem_phase record.phase),
      hcut (newline_notMem_token hvalid), hlabelled, parseBackend_eq_some_iff.mpr rfl, parsePhase_eq_some_iff.mpr rfl,
      hvalid, if_true]

/-- The longest record. -/
theorem length_serialize {contents : Bytes} (h : serialize record = some contents) : contents.length ≤ 82 := by
  obtain ⟨hvalid, hcontents⟩ := Option.ite_none_right_eq_some.mp h
  obtain rfl := Option.some.inj hcontents
  rw [validRecoveryToken, Bool.and_eq_true, decide_eq_true_eq] at hvalid
  have hbackend : (backendLabel ++ backendName record.backend).length ≤ 17 := by
    cases record.backend <;> decide
  have hphase : (phaseLabel ++ phaseName record.phase).length ≤ 14 := by
    cases record.phase <;> decide
  have hversion : versionLine.length = 9 := rfl
  have htoken : tokenLabel.length = 6 := rfl
  simp only [List.length_append, List.length_cons, List.length_nil] at hbackend hphase ⊢
  omega

end Codec

end NetLagLab.NetworkEnvironment
