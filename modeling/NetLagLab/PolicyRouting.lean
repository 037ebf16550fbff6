import NetLagLab.BlankWords
import NetLagLab.Connectivity
import NetLagLab.TokenSpelling

/-! The check of the IPv4 policy routing rules. A line reads as its words with one space between them; the rules are
supported where the lines read as the default rules, each once. The normaliser of the check leaves a space behind a line
that ends in a blank, so that it takes supported rules for others. -/

namespace NetLagLab.NetworkEnvironment

open ByteLines CallPrograms

/-! ### What is checked -/

/-- A line has these words, with any blanks around them. -/
def ReadsAs (line text : Bytes) : Prop := ∃ words, Spells isSpace line words ∧ text = joinWords words

/-- The lines read as the default rules, in any order, each exactly once. -/
def SupportedRouting (output : Bytes) : Prop :=
  ∃ texts, List.Forall₂ ReadsAs (outputLines output) texts ∧ texts.Perm supportedRules

def EndsInBlank (line : Bytes) : Prop := line.getLast?.any isSpace = true

instance endsInBlankDecidable (line : Bytes) : Decidable (EndsInBlank line) := inferInstanceAs (Decidable (_ = true))

/-- The answer to what `ip -4 rule show` has printed. -/
def policyRoutingAnswer (result : CommandResult) : Option Bool :=
  if result.kind ≠ .success ∨ maximumToolOutput ≤ result.standardOutput.length then none
  else some (onlySupportedRules supportedRules (outputLines result.standardOutput))

theorem inspectIpv4PolicyRouting_eq (path : Bytes) (deadline : TimePoint) :
    inspectIpv4PolicyRouting path deadline =
      runTool path .ipRuleShow deadline >>= fun result => pure (policyRoutingAnswer result) := by
  unfold inspectIpv4PolicyRouting policyRoutingAnswer
  refine congrArg (runTool path .ipRuleShow deadline >>= ·) ?_
  funext result
  split <;> rfl

/-! ### The normaliser -/

section Normaliser

variable {line text gap token : Bytes} {words : List Bytes}

/-- One character of the normaliser. -/
def collapseStep (collapsed : Bytes) (character : UInt8) : Bytes :=
  if isSpace character then
    if collapsed = [] ∨ collapsed.getLast? = some space then collapsed else collapsed ++ [space]
  else collapsed ++ [character]

theorem collapseBlanks_eq (line : Bytes) : collapseBlanks line = line.foldl collapseStep [] := rfl

/-- Between two words: nothing is collapsed yet, or it ends in a space. -/
def AtGap (collapsed : Bytes) : Prop := collapsed = [] ∨ collapsed.getLast? = some space

theorem foldl_gap {collapsed : Bytes} (hcollapsed : AtGap collapsed) (hgap : ∀ byte ∈ gap, isSpace byte = true) :
    gap.foldl collapseStep collapsed = collapsed := by
  induction gap with
  | nil => rfl
  | cons byte gap ih =>
      obtain ⟨hbyte, hgap⟩ := List.forall_mem_cons.mp hgap
      have hstep : collapseStep collapsed byte = collapsed := (if_pos hbyte).trans (if_pos hcollapsed)
      rw [List.foldl_cons, hstep]
      exact ih hgap

theorem foldl_token (htoken : ∀ byte ∈ token, isSpace byte = false) (collapsed : Bytes) :
    token.foldl collapseStep collapsed = collapsed ++ token := by
  induction token generalizing collapsed with
  | nil => rw [List.foldl_nil, List.append_nil]
  | cons byte token ih =>
      obtain ⟨hbyte, htoken⟩ := List.forall_mem_cons.mp htoken
      have hstep : collapseStep collapsed byte = collapsed ++ [byte] := if_neg (Bool.not_eq_true _ ▸ hbyte)
      rw [List.foldl_cons, hstep, ih htoken, List.append_assoc, List.singleton_append]

/-- The first blank behind a word is a space. -/
theorem collapseStep_mark {collapsed : Bytes} (hcollapsed : ¬AtGap collapsed) {mark : UInt8} (hmark : isSpace mark = true) :
    collapseStep collapsed mark = collapsed ++ [space] := (if_pos hmark).trans (if_neg hcollapsed)

theorem not_atGap_token (collapsed : Bytes) (h : Unbroken isSpace token) : ¬AtGap (collapsed ++ token) := by
  obtain ⟨hne, hinner⟩ := h
  rintro (hnil | hlast)
  · exact hne (List.append_eq_nil_iff.mp hnil).2
  · rw [List.getLast?_append_of_ne_nil _ hne] at hlast
    exact absurd (hinner space (List.mem_of_getLast? hlast)) (by decide)

theorem endsInBlank_mark (front : Bytes) (mark : UInt8) (rest : Bytes) :
    EndsInBlank (front ++ mark :: rest) ↔ isSpace (rest.getLast?.getD mark) = true := by
  rw [EndsInBlank, List.getLast?_append, List.getLast?_cons]
  rfl

theorem not_endsInBlank_token (front : Bytes) (h : Unbroken isSpace token) : ¬EndsInBlank (front ++ token) := by
  obtain ⟨hne, hinner⟩ := h
  rw [EndsInBlank, List.getLast?_append_of_ne_nil _ hne, List.getLast?_eq_getLast_of_ne_nil hne, Option.any_some,
    hinner _ (List.getLast_mem hne)]
  decide

/-- The words of a line with one space between, and one more behind them where the line ends in a blank. -/
theorem foldl_of_spells (h : Spells isSpace line words) {collapsed : Bytes} (hcollapsed : AtGap collapsed) :
    line.foldl collapseStep collapsed =
      collapsed ++ (joinWords words ++ if words ≠ [] ∧ EndsInBlank line then [space] else []) := by
  induction h generalizing collapsed with
  | blank hgap =>
      rw [foldl_gap hcollapsed hgap, if_neg (by simp)]
      simp [joinWords]
  | @last gap token hgap htoken =>
      rw [List.foldl_append, foldl_gap hcollapsed hgap, foldl_token htoken.inner,
        if_neg fun h => not_endsInBlank_token gap htoken h.2]
      simp [joinWords]
  | @more gap token rest mark tokens hgap htoken hmark hrest ih =>
      have hspace : AtGap (collapsed ++ token ++ [space]) := .inr List.getLast?_concat
      rw [List.foldl_append, foldl_gap hcollapsed hgap, List.foldl_append, foldl_token htoken.inner, List.foldl_cons,
        collapseStep_mark (not_atGap_token collapsed htoken) hmark, ih hspace, ← List.append_assoc gap]
      simp only [endsInBlank_mark]
      cases tokens with
      | nil =>
          -- nothing but blanks behind the word
          have hlast : isSpace (rest.getLast?.getD mark) = true := by
            cases hend : rest.getLast? with
            | none => exact hmark
            | some byte => exact hrest.separators_of_nil byte (List.mem_of_getLast? hend)
          rw [if_neg (by simp), if_pos ⟨List.cons_ne_nil _ _, hlast⟩]
          simp [joinWords]
      | cons next more =>
          have hlast : isSpace (rest.getLast?.getD mark) = true ↔ EndsInBlank rest := by
            rw [EndsInBlank, List.getLast?_eq_getLast_of_ne_nil hrest.ne_nil]
            rfl
          simp only [hlast, ne_eq, List.cons_ne_nil, not_false_eq_true, true_and]
          rw [joinWords_cons_cons]
          simp

theorem collapseBlanks_of_spells (h : Spells isSpace line words) :
    collapseBlanks line = joinWords words ++ if words ≠ [] ∧ EndsInBlank line then [space] else [] := by
  rw [collapseBlanks_eq, foldl_of_spells h (.inl rfl), List.nil_append]

/-- A line is collapsed to a text that does not end in a blank where it reads as it and does not end in a blank either. -/
theorem collapseBlanks_eq_iff (hne : text ≠ []) (htext : ¬EndsInBlank text) :
    collapseBlanks line = text ↔ ReadsAs line text ∧ ¬EndsInBlank line := by
  constructor
  · rintro rfl
    obtain ⟨words, hwords⟩ := Spells.total isSpace line
    rw [collapseBlanks_of_spells hwords] at hne htext ⊢
    by_cases hblank : words ≠ [] ∧ EndsInBlank line
    · rw [if_pos hblank, EndsInBlank, List.getLast?_concat] at htext
      exact absurd rfl htext
    · rw [if_neg hblank, List.append_nil] at hne ⊢
      have hsome : words ≠ [] := by
        rintro rfl
        exact hne rfl
      exact ⟨⟨words, hwords, rfl⟩, fun hend => hblank ⟨hsome, hend⟩⟩
  · rintro ⟨⟨words, hwords, rfl⟩, hend⟩
    rw [collapseBlanks_of_spells hwords, if_neg fun h => hend h.2, List.append_nil]

end Normaliser

/-! ### The answer -/

section Answer

variable {result : CommandResult} {lines missing : List Bytes}

/-- Every line takes one of the missing rules. -/
theorem onlySupportedRules_iff :
    onlySupportedRules missing lines = true ↔ (lines.map collapseBlanks).Perm missing := by
  induction lines generalizing missing with
  | nil =>
      rw [onlySupportedRules, decide_eq_true_eq, List.map_nil, List.nil_perm]
  | cons line lines ih =>
      rw [onlySupportedRules, List.map_cons, List.cons_perm_iff_perm_erase]
      by_cases hmem : collapseBlanks line ∈ missing
      · rw [if_pos hmem, ih]
        exact (and_iff_right hmem).symm
      · rw [if_neg hmem]
        simp [hmem]

theorem map_collapseBlanks {texts : List Bytes} (h : List.Forall₂ ReadsAs lines texts)
    (htexts : ∀ text ∈ texts, text ≠ [] ∧ ¬EndsInBlank text) (hlines : ∀ line ∈ lines, ¬EndsInBlank line) :
    lines.map collapseBlanks = texts := by
  induction h with
  | nil => rfl
  | cons hreads _ ih =>
      obtain ⟨⟨hne, hend⟩, htexts⟩ := List.forall_mem_cons.mp htexts
      obtain ⟨hline, hlines⟩ := List.forall_mem_cons.mp hlines
      rw [List.map_cons, (collapseBlanks_eq_iff hne hend).mpr ⟨hreads, hline⟩, ih htexts hlines]

/-- The check passes where the routing is supported and no line ends in a blank. -/
theorem onlySupportedRules_outputLines (output : Bytes) : onlySupportedRules supportedRules (outputLines output) = true ↔
    SupportedRouting output ∧ ∀ line ∈ outputLines output, ¬EndsInBlank line := by
  have hrule : ∀ rule ∈ supportedRules, rule ≠ [] ∧ ¬EndsInBlank rule := by decide
  rw [onlySupportedRules_iff]
  constructor
  · intro h
    have hline : ∀ line ∈ outputLines output, ReadsAs line (collapseBlanks line) ∧ ¬EndsInBlank line := by
      intro line hmem
      obtain ⟨hne, hend⟩ := hrule _ (h.mem_iff.mp (List.mem_map_of_mem hmem))
      exact (collapseBlanks_eq_iff hne hend).mp rfl
    refine ⟨⟨(outputLines output).map collapseBlanks, ?_, h⟩, fun line hmem => (hline line hmem).2⟩
    rw [List.forall₂_map_right_iff, List.forall₂_same]
    exact fun line hmem => (hline line hmem).1
  · rintro ⟨⟨texts, hreads, hperm⟩, hends⟩
    rw [map_collapseBlanks hreads (fun text hmem => hrule text (hperm.mem_iff.mp hmem)) hends]
    exact hperm

/-- What the answer to an output has to be: whether the routing is supported, or nothing where the output is too long. -/
structure AnswersRouting (result : CommandResult) : Prop where
  supported : result.standardOutput.length < 4096 →
    (policyRoutingAnswer result = some true ↔ SupportedRouting result.standardOutput)
  unsupported : result.standardOutput.length < 4096 →
    (policyRoutingAnswer result = some false ↔ ¬SupportedRouting result.standardOutput)
  long : 4096 ≤ result.standardOutput.length → policyRoutingAnswer result = none

/-- The check answers as it has to but for supported rules one of whose lines ends in a blank. -/
theorem inspectIpv4PolicyRouting_answers (path : Bytes) (deadline : TimePoint) (hsuccess : result.kind = .success) :
    inspectIpv4PolicyRouting path deadline =
        (runTool path .ipRuleShow deadline >>= fun result => pure (policyRoutingAnswer result)) ∧
      (AnswersRouting result ↔
        ¬(result.standardOutput.length < 4096 ∧ SupportedRouting result.standardOutput ∧
          ∃ line ∈ outputLines result.standardOutput, EndsInBlank line)) := by
  refine ⟨inspectIpv4PolicyRouting_eq path deadline, ?_⟩
  have hrefused : (result.kind ≠ .success ∨ maximumToolOutput ≤ result.standardOutput.length) ↔
      4096 ≤ result.standardOutput.length := by
    rw [hsuccess, maximumToolOutput]
    simp
  have hshort : result.standardOutput.length < 4096 → policyRoutingAnswer result =
      some (onlySupportedRules supportedRules (outputLines result.standardOutput)) :=
    fun hlength => if_neg fun h => absurd (hrefused.mp h) (Nat.not_le.mpr hlength)
  have hpasses := onlySupportedRules_outputLines result.standardOutput
  constructor
  · rintro ⟨hsupported, -, -⟩ ⟨hlength, hrouting, line, hmem, hend⟩
    have hanswer := (hsupported hlength).mpr hrouting
    rw [hshort hlength, Option.some.injEq, hpasses] at hanswer
    exact hanswer.2 line hmem hend
  · intro hcondition
    have hclean : result.standardOutput.length < 4096 → (onlySupportedRules supportedRules
        (outputLines result.standardOutput) = true ↔ SupportedRouting result.standardOutput) := by
      intro hlength
      rw [hpasses, and_iff_left_iff_imp]
      exact fun hrouting line hmem hend => hcondition ⟨hlength, hrouting, line, hmem, hend⟩
    refine ⟨fun hlength => ?_, fun hlength => ?_, fun hlength => if_pos (hrefused.mpr hlength)⟩
    · rw [hshort hlength, Option.some.injEq]
      exact hclean hlength
    · rw [hshort hlength, Option.some.injEq, ← hclean hlength, Bool.not_eq_true]

/-- The rules of a host that has not changed them. -/
theorem inspectIpv4PolicyRouting_answers_default : AnswersRouting ⟨.success, [],
    ascii "0:\tfrom all lookup local\n32766:\tfrom all lookup main\n32767:\tfrom all lookup default\n"⟩ :=
  (inspectIpv4PolicyRouting_answers (ascii "/usr/sbin/ip") 0 rfl).2.mpr fun h => absurd h.2.2 (by decide)

theorem readsAs_of_endsInBlank {line text : Bytes} (hend : EndsInBlank line)
    (h : collapseBlanks line = text ++ [space]) : ReadsAs line text := by
  obtain ⟨words, hwords⟩ := Spells.total isSpace line
  have hsome : words ≠ [] := by
    rintro rfl
    rw [collapseBlanks_of_spells hwords] at h
    simp [joinWords] at h
  rw [collapseBlanks_of_spells hwords, if_pos ⟨hsome, hend⟩] at h
  exact ⟨words, hwords, (List.append_cancel_right h).symm⟩

/-- The rules of the same host, printed with a blank behind the first. -/
theorem not_answersRouting_trailing : ¬AnswersRouting ⟨.success, [],
    ascii "0:\tfrom all lookup local \n32766:\tfrom all lookup main\n32767:\tfrom all lookup default\n"⟩ := by
  have hlines : outputLines
      (ascii "0:\tfrom all lookup local \n32766:\tfrom all lookup main\n32767:\tfrom all lookup default\n") =
      [ascii "0:\tfrom all lookup local ", ascii "32766:\tfrom all lookup main",
        ascii "32767:\tfrom all lookup default"] := by
    decide
  have hclean : ∀ {line text : Bytes}, text ≠ [] → ¬EndsInBlank text → collapseBlanks line = text → ReadsAs line text :=
    fun hne htext h => ((collapseBlanks_eq_iff hne htext).mp h).1
  have hrouting : SupportedRouting
      (ascii "0:\tfrom all lookup local \n32766:\tfrom all lookup main\n32767:\tfrom all lookup default\n") := by
    refine ⟨supportedRules, ?_, .refl _⟩
    rw [hlines]
    refine .cons (readsAs_of_endsInBlank (by decide) (by decide)) (.cons ?_ (.cons ?_ .nil))
    · exact hclean (by decide) (by decide) (by decide)
    · exact hclean (by decide) (by decide) (by decide)
  intro h
  have hanswer := (h.supported (by decide)).mpr hrouting
  exact absurd hanswer (by decide)

end Answer

end NetLagLab.NetworkEnvironment
