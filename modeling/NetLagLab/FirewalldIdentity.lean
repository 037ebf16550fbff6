import NetLagLab.ConnectivityOwnership
import NetLagLab.FirewalldReports

/-! Which policies are taken for the Session's own. A label is looked for anywhere in a report, so that a
line which shows it before the field of that name decides in the field's place: `source-ports` hides
`ports`. Apart from reports of that kind a recognised policy is one that the Session can have made, and
every policy that its commands make is recognised. -/

namespace NetLagLab.NetworkEnvironment

open ByteLines

/-! ### Reports with any fields -/

namespace PolicyField

/-- What the line of a field shows behind a label: the value when the name ends in the label, and
otherwise what follows the label inside the value. -/
def shown (label : Bytes) (field : PolicyField) : Option Bytes :=
  if label <:+ field.name then some (trimAscii field.value)
  else (afterFirst (label ++ [colon]) field.value).map trimAscii

end PolicyField

namespace PolicyReport

/-- A report made of lines: a heading, fields with a name and a value, and the rich rules. -/
structure WellFormed (report : PolicyReport) : Prop where
  heading : ∀ line ∈ report.heading, Plain line
  indentation : ∀ byte ∈ report.indentation, byte = space
  names : ∀ field ∈ report.fields, FieldLabel field.name
  values : ∀ field ∈ report.fields, newline ∉ field.value
  richRules : ∀ rule ∈ report.richRules, newline ∉ rule

/-- What the first line shows that has the label. -/
def firstShown (label : Bytes) (report : PolicyReport) : Option Bytes :=
  report.fields.findSome? (PolicyField.shown label)

/-- The rich rules without the blanks around them, and without blank lines. -/
def rules (report : PolicyReport) : List Bytes :=
  (report.richRules.map trimAscii).filter fun rule => rule ≠ []

def ExpectedRules (allowIncomplete : Bool) (report : PolicyReport) : Prop :=
  report.rules = [expectedRichRule] ∨ (allowIncomplete = true ∧ report.rules = [])

end PolicyReport

/-- What a policy of the Session has to have in a field. -/
structure Demand where
  label : Bytes
  required : Bool
  accepted : Bytes → Prop

namespace Demand

/-- The fields themselves are as they have to be. -/
def Held (demand : Demand) (report : PolicyReport) : Prop :=
  (demand.required = true → ∃ field ∈ report.fields, field.name = demand.label) ∧
    ∀ field ∈ report.fields, field.name = demand.label → demand.accepted (trimAscii field.value)

/-- A value that is read, or that is not there, is as it has to be. -/
def Met (demand : Demand) : Option Bytes → Prop
  | some value => demand.accepted value
  | none => demand.required = false

/-- A field that is not as it has to be stands behind a line that shows its label, or is missing. -/
def Hidden (demand : Demand) (report : PolicyReport) : Prop :=
  (∃ before field behind, report.fields = before ++ field :: behind ∧ field.name = demand.label ∧
    ¬demand.accepted (trimAscii field.value) ∧
      ∃ earlier ∈ before, (earlier.shown demand.label).isSome = true) ∨
    (demand.required = true ∧ ∀ field ∈ report.fields, field.name ≠ demand.label)

end Demand

/-- A zone is the expected one; an incomplete policy may have none. -/
def ZoneAccepted (expected : Bytes) (allowIncomplete : Bool) (value : Bytes) : Prop :=
  value = expected ∨ (allowIncomplete = true ∧ value = [])

/-- The expected zones, and nothing else that is open. -/
def demands (zone : Bytes) (allowIncomplete : Bool) : List Demand :=
  [⟨ascii "ingress-zones", true, ZoneAccepted zone allowIncomplete⟩,
    ⟨ascii "egress-zones", true, ZoneAccepted (ascii "ANY") allowIncomplete⟩] ++
    emptyFields.map fun name => ⟨name, false, fun value => value = []⟩

namespace PolicyReport

/-- The report is on a policy that has what the Session gives it and nothing else. -/
structure Identifies (report : PolicyReport) (zone : Bytes) (allowIncomplete : Bool) : Prop where
  fields : ∀ demand ∈ demands zone allowIncomplete, demand.Held report
  rules : report.ExpectedRules allowIncomplete

/-- Everything is as expected that the report shows first. -/
structure Appears (report : PolicyReport) (zone : Bytes) (allowIncomplete : Bool) : Prop where
  fields : ∀ demand ∈ demands zone allowIncomplete, demand.Met (report.firstShown demand.label)
  ingress : ∀ value ∈ report.firstShown (ascii "ingress-zones"),
    value.all isZoneCharacter = true ∧ (allowIncomplete = false → value ≠ [])
  rules : report.ExpectedRules allowIncomplete
  ownSection : report.firstShown (ascii "rich rules") = none

/-- The report shows first what is expected, in front of a field that is not. -/
structure Misleading (report : PolicyReport) (zone : Bytes) (allowIncomplete : Bool) : Prop where
  appears : report.Appears zone allowIncomplete
  hidden : ∃ demand ∈ demands zone allowIncomplete, demand.Hidden report

end PolicyReport

/-! ### Reading a report -/

section Reading

variable {label indentation rest : Bytes} {fields : List PolicyField} {field : PolicyField}

theorem afterFirst_field (hlabel : FieldLabel label) (hne : label ≠ []) (hname : FieldLabel field.name)
    (hindentation : ∀ byte ∈ indentation, byte = space) :
    afterFirst (label ++ [colon]) (field.line indentation ++ newline :: rest) =
      if label <:+ field.name then some (space :: field.value ++ newline :: rest)
      else ((afterFirst (label ++ [colon]) field.value).map (· ++ newline :: rest)).or
        (afterFirst (label ++ [colon]) rest) := by
  have hhead : ∀ first ∈ (label ++ [colon]).head?, first ≠ space := by
    obtain ⟨byte, more, rfl⟩ := List.exists_cons_of_ne_nil hne
    exact hlabel.head
  have hsplit : field.line indentation ++ newline :: rest =
      indentation ++ field.name ++ colon :: (space :: (field.value ++ newline :: rest)) := by
    simp [PolicyField.line]
  rw [hsplit, afterFirst_indented hlabel hname.colon hindentation,
    afterFirst_cons_of_ne (List.append_ne_nil_of_left_ne_nil hne _) hhead,
    afterFirst_append_mark (newline_notMem_label hlabel.newline) (List.append_ne_nil_of_left_ne_nil hne _)]
  rfl

/-- The fields in front of a text show their first value, or nothing that has the label. -/
theorem fieldValue_fields_append (hlabel : FieldLabel label) (hne : label ≠ [])
    (hnames : ∀ field ∈ fields, FieldLabel field.name) (hvalues : ∀ field ∈ fields, newline ∉ field.value)
    (hindentation : ∀ byte ∈ indentation, byte = space) :
    fieldValue (encodeLines (fields.map (PolicyField.line indentation)) ++ rest) label =
      (fields.findSome? (PolicyField.shown label)).or (fieldValue rest label) := by
  induction fields with
  | nil => rfl
  | cons field fields ih =>
      rw [List.forall_mem_cons] at hnames hvalues
      rw [List.map_cons, encodeLines_cons_append, fieldValue, afterFirst_field hlabel hne hnames.1 hindentation,
        List.findSome?_cons, PolicyField.shown]
      by_cases h : label <:+ field.name
      · have hline : newline ∉ space :: field.value := by
          rw [List.mem_cons, not_or]
          exact ⟨by decide, hvalues.1⟩
        rw [if_pos h, if_pos h, Option.map_some, takeWhile_mark hline, trimAscii_cons_blank (by decide)]
        rfl
      · rw [if_neg h, if_neg h]
        cases hbehind : afterFirst (label ++ [colon]) field.value with
        | none => exact ih hnames.2 hvalues.2
        | some behind =>
            have hline : newline ∉ behind := fun hmem => hvalues.1 ((suffix_of_afterFirst hbehind).subset hmem)
            rw [Option.map_some, Option.some_or, Option.map_some, takeWhile_mark hline]
            rfl

theorem afterFirst_fields_append (hlabel : FieldLabel label) (hne : label ≠ [])
    (hnames : ∀ field ∈ fields, FieldLabel field.name) (hindentation : ∀ byte ∈ indentation, byte = space) :
    (fields.findSome? (PolicyField.shown label) = none ∧
      afterFirst (label ++ [colon]) (encodeLines (fields.map (PolicyField.line indentation)) ++ rest) =
        afterFirst (label ++ [colon]) rest) ∨
      (fields.findSome? (PolicyField.shown label) ≠ none ∧ ∃ more,
        afterFirst (label ++ [colon]) (encodeLines (fields.map (PolicyField.line indentation)) ++ rest) =
          some (more ++ rest)) := by
  induction fields with
  | nil => exact Or.inl ⟨rfl, rfl⟩
  | cons field fields ih =>
      rw [List.forall_mem_cons] at hnames
      rw [List.map_cons, encodeLines_cons_append, afterFirst_field hlabel hne hnames.1 hindentation,
        List.findSome?_cons, PolicyField.shown]
      by_cases h : label <:+ field.name
      · rw [if_pos h, if_pos h]
        right
        refine ⟨Option.some_ne_none _, space :: field.value ++ newline ::
          encodeLines (fields.map (PolicyField.line indentation)), ?_⟩
        simp
      · rw [if_neg h, if_neg h]
        cases hbehind : afterFirst (label ++ [colon]) field.value with
        | none => exact ih hnames.2
        | some behind =>
            right
            refine ⟨Option.some_ne_none _, behind ++ newline ::
              encodeLines (fields.map (PolicyField.line indentation)), ?_⟩
            simp

/-- The lines are the expected rule once, or blank. -/
theorem expectedRuleAmong_eq_some_iff {found hasRule : Bool} {lines : List Bytes} :
    expectedRuleAmong found lines = some hasRule ↔
      ((lines.map trimAscii).filter (fun rule => rule ≠ []) = [] ∧ hasRule = found) ∨
        ((lines.map trimAscii).filter (fun rule => rule ≠ []) = [expectedRichRule] ∧ found = false ∧
          hasRule = true) := by
  induction lines generalizing found with
  | nil => simp [expectedRuleAmong, eq_comm]
  | cons line lines ih =>
      rw [expectedRuleAmong, List.map_cons]
      by_cases hblank : trimAscii line = []
      · rw [if_pos hblank, ih, List.filter_cons_of_neg (by simpa using hblank)]
      · rw [if_neg hblank, List.filter_cons_of_pos (by simpa using hblank)]
        by_cases hrule : trimAscii line = expectedRichRule
        · cases found with
          | true => simp [hrule]
          | false => simp [hrule, ih]
        · simp [hrule]

theorem firewalldPolicyMatches_eq_true_iff {output zone : Bytes} {allowIncomplete : Bool} :
    firewalldPolicyMatches output zone allowIncomplete = true ↔
      (∃ ingress, fieldValue output (ascii "ingress-zones") = some ingress ∧
        ZoneAccepted zone allowIncomplete ingress ∧ ingress.all isZoneCharacter = true ∧
          (allowIncomplete = false → ingress ≠ [])) ∧
      (∃ egress, fieldValue output (ascii "egress-zones") = some egress ∧
        ZoneAccepted (ascii "ANY") allowIncomplete egress) ∧
      (∃ rules hasRule, afterFirst (ascii "rich rules:") output = some rules ∧
        expectedRuleAmong false (outputLines rules) = some hasRule ∧ (allowIncomplete || hasRule) = true) ∧
      ∀ name ∈ emptyFields, ∀ value ∈ fieldValue output name, value = [] := by
  have hempty : (emptyFields.any fun field => (fieldValue output field).any fun value => value ≠ []) = false ↔
      ∀ name ∈ emptyFields, ∀ value ∈ fieldValue output name, value = [] := by
    rw [List.any_eq_false]
    apply forall₂_congr
    intro name _
    cases fieldValue output name with
    | none => simp
    | some value => simp
  rw [← hempty, firewalldPolicyMatches]
  cases fieldValue output (ascii "ingress-zones") with
  | none => simp
  | some ingress =>
      cases fieldValue output (ascii "egress-zones") with
      | none => simp
      | some egress =>
          cases afterFirst (ascii "rich rules:") output with
          | none => simp
          | some rules =>
              cases hamong : expectedRuleAmong false (outputLines rules) with
              | none => simp [hamong]
              | some hasRule =>
                  have hany : ascii "ANY" ≠ [] := by decide
                  cases allowIncomplete with
                  | true => simp [hamong, ZoneAccepted]; tauto
                  | false => simp [hamong, ZoneAccepted]; grind

end Reading

section Appearance

variable {report : PolicyReport} {zone label : Bytes} {allowIncomplete : Bool}

def soughtLabels : List Bytes := ascii "ingress-zones" :: ascii "egress-zones" :: emptyFields

theorem sought_label : ∀ label ∈ soughtLabels, FieldLabel label ∧ label ≠ [] ∧ ¬label <:+ ascii "rich rules" := by
  decide

theorem label_mem_soughtLabels {demand : Demand} (h : demand ∈ demands zone allowIncomplete) :
    demand.label ∈ soughtLabels := by
  have hlabels : (demands zone allowIncomplete).map Demand.label = soughtLabels := by
    simp [demands, soughtLabels, Function.comp_def]
  rw [← hlabels]
  exact List.mem_map_of_mem h

theorem richRulesLabel : FieldLabel (ascii "rich rules") := by decide

/-- The lines of the section are the rules, behind the blank that follows its label. -/
theorem filter_section (hreport : report.WellFormed) :
    ((outputLines (encodeLines ([space] :: report.richRules.map (9 :: ·)))).map trimAscii).filter
      (fun rule => rule ≠ []) = report.rules := by
  have hlines : ∀ line ∈ [space] :: report.richRules.map (9 :: ·), newline ∉ line := by
    rw [List.forall_mem_cons]
    refine ⟨by decide, ?_⟩
    intro line hline
    obtain ⟨rule, hrule, rfl⟩ := List.mem_map.mp hline
    rw [List.mem_cons, not_or]
    exact ⟨by decide, hreport.richRules rule hrule⟩
  have htrim : trimAscii ∘ (9 :: ·) = trimAscii := by
    funext rule
    exact trimAscii_cons_blank (by decide) rule
  have hblank : trimAscii [space] = [] := by decide
  rw [outputLines_encodeLines hlines, List.map_cons, List.map_map, htrim, hblank,
    List.filter_cons_of_neg (by simp), PolicyReport.rules]

/-- Where the rules are as expected, no colon stands among them. -/
theorem colon_notMem_richRules (hrules : report.ExpectedRules allowIncomplete) :
    ∀ rule ∈ report.richRules, colon ∉ rule := by
  intro rule hrule hcolon
  have htrim : colon ∈ trimAscii rule := mem_trimAscii (by decide) hcolon
  have hmem : trimAscii rule ∈ report.rules := by
    rw [PolicyReport.rules, List.mem_filter]
    exact ⟨List.mem_map_of_mem hrule, by simpa using List.ne_nil_of_mem htrim⟩
  rcases hrules with h | ⟨-, h⟩
  · rw [h, List.mem_singleton] at hmem
    rw [hmem] at htrim
    exact absurd htrim (by decide)
  · rw [h] at hmem
    exact List.not_mem_nil hmem

/-- A label shows what the first line with it has. -/
theorem fieldValue_text (hreport : report.WellFormed) (hrules : report.ExpectedRules allowIncomplete)
    (h : label ∈ soughtLabels) : fieldValue report.text label = report.firstShown label := by
  obtain ⟨hlabel, hne, hsuffix⟩ := sought_label label h
  have hnone : fieldValue (report.indentation ++ ascii "rich rules" ++ colon ::
      encodeLines ([space] :: report.richRules.map (9 :: ·))) label = none := by
    rw [fieldValue, afterFirst_indented hlabel richRulesLabel.colon hreport.indentation, if_neg hsuffix,
      afterFirst_eq_none (List.mem_append_right label List.mem_cons_self)
        (colon_notMem_section (colon_notMem_richRules hrules))]
    rfl
  have hfields : fieldValue (encodeLines (report.fields.map (PolicyField.line report.indentation)) ++
      (report.indentation ++ ascii "rich rules" ++ colon ::
        encodeLines ([space] :: report.richRules.map (9 :: ·)))) label = _ :=
    fieldValue_fields_append hlabel hne hreport.names hreport.values hreport.indentation
  rw [hnone, Option.or_none] at hfields
  rw [report_text, fieldValue, afterFirst_heading hlabel.newline hreport.heading]
  exact hfields

/-- The section is the one that the report ends with, or it is not understood. -/
theorem expectedRuleAmong_text (hreport : report.WellFormed) :
    (∃ rules hasRule, afterFirst (ascii "rich rules:") report.text = some rules ∧
      expectedRuleAmong false (outputLines rules) = some hasRule ∧ (allowIncomplete || hasRule) = true) ↔
      report.ExpectedRules allowIncomplete ∧ report.firstShown (ascii "rich rules") = none := by
  have hfields := @afterFirst_fields_append _ _ (report.indentation ++ ascii "rich rules" ++ colon ::
    encodeLines ([space] :: report.richRules.map (9 :: ·))) _ richRulesLabel (by decide) hreport.names
    hreport.indentation
  rw [report_text, show ascii "rich rules:" = ascii "rich rules" ++ [colon] by decide,
    afterFirst_heading richRulesLabel.newline hreport.heading]
  rcases hfields with ⟨hown, hafter⟩ | ⟨hother, more, hafter⟩
  · rw [hafter, afterFirst_indented richRulesLabel richRulesLabel.colon hreport.indentation,
      if_pos (List.suffix_refl _)]
    constructor
    · rintro ⟨rules, hasRule, hrules, hamong, hhas⟩
      rw [← Option.some.inj hrules, expectedRuleAmong_eq_some_iff, filter_section hreport] at hamong
      refine ⟨?_, hown⟩
      rcases hamong with ⟨hnone, rfl⟩ | ⟨hone, -, -⟩
      · exact Or.inr ⟨by simpa using hhas, hnone⟩
      · exact Or.inl hone
    · rintro ⟨hexpected, -⟩
      rcases hexpected with hone | ⟨hallow, hnone⟩
      · refine ⟨_, true, rfl, ?_, Bool.or_true _⟩
        rw [expectedRuleAmong_eq_some_iff, filter_section hreport]
        exact Or.inr ⟨hone, rfl, rfl⟩
      · refine ⟨_, false, rfl, ?_, by simp [hallow]⟩
        rw [expectedRuleAmong_eq_some_iff, filter_section hreport]
        exact Or.inl ⟨hnone, rfl⟩
  · constructor
    · rintro ⟨rules, hasRule, hrules, hamong, -⟩
      rw [hafter] at hrules
      have hcontains : contains (ascii "rich rules" ++ [colon]) rules = true := by
        rw [← Option.some.inj hrules]
        apply contains_append_left
        have h := contains_self report.indentation (ascii "rich rules" ++ [colon])
          (encodeLines ([space] :: report.richRules.map (9 :: ·)))
        simpa using h
      obtain ⟨line, hline, hshows⟩ := exists_outputLine_of_contains
        (newline_notMem_label richRulesLabel.newline) (by decide) hcontains
      have hcolon : colon ∈ trimAscii line :=
        mem_trimAscii (by decide) ((contains_iff.mp hshows).subset (List.mem_append_right _ List.mem_cons_self))
      have hmem : trimAscii line ∈ ((outputLines rules).map trimAscii).filter (fun rule => rule ≠ []) := by
        rw [List.mem_filter]
        exact ⟨List.mem_map_of_mem hline, by simpa using List.ne_nil_of_mem hcolon⟩
      rcases expectedRuleAmong_eq_some_iff.mp hamong with ⟨hnone, -⟩ | ⟨hone, -, -⟩
      · rw [hnone] at hmem
        exact absurd hmem List.not_mem_nil
      · rw [hone, List.mem_singleton] at hmem
        rw [hmem] at hcolon
        exact absurd hcolon (by decide)
    · rintro ⟨-, hown⟩
      exact absurd hown hother

/-- What is recognised is what appears to be the Session's own. -/
theorem firewalldPolicyMatches_iff_appears (hreport : report.WellFormed) :
    firewalldPolicyMatches report.text zone allowIncomplete = true ↔ report.Appears zone allowIncomplete := by
  have hmembers {demanded : Demand → Prop} : (∀ demand ∈ demands zone allowIncomplete, demanded demand) ↔
      demanded ⟨ascii "ingress-zones", true, ZoneAccepted zone allowIncomplete⟩ ∧
        demanded ⟨ascii "egress-zones", true, ZoneAccepted (ascii "ANY") allowIncomplete⟩ ∧
          ∀ name ∈ emptyFields, demanded ⟨name, false, fun value => value = []⟩ := by
    simp [demands]
  rw [firewalldPolicyMatches_eq_true_iff, expectedRuleAmong_text hreport]
  constructor
  · rintro ⟨⟨ingress, hingress, hzone, hcharacters, hset⟩, ⟨egress, hegress, hany⟩, ⟨hrules, hsection⟩, hempty⟩
    rw [fieldValue_text hreport hrules List.mem_cons_self] at hingress
    rw [fieldValue_text hreport hrules (List.mem_cons_of_mem _ List.mem_cons_self)] at hegress
    refine ⟨hmembers.mpr ⟨?_, ?_, ?_⟩, ?_, hrules, hsection⟩
    · rw [hingress]
      exact hzone
    · rw [hegress]
      exact hany
    · intro name hname
      have hvalue := hempty name hname
      rw [fieldValue_text hreport hrules (List.mem_cons_of_mem _ (List.mem_cons_of_mem _ hname))] at hvalue
      cases hshown : report.firstShown name with
      | none => rfl
      | some value => exact hvalue value hshown
    · intro value hvalue
      rw [← Option.some.inj (hingress.symm.trans hvalue)]
      exact ⟨hcharacters, hset⟩
  · intro h
    obtain ⟨hingress, hegress, hempty⟩ := hmembers.mp h.fields
    refine ⟨?_, ?_, ⟨h.rules, h.ownSection⟩, ?_⟩
    · rw [fieldValue_text hreport h.rules List.mem_cons_self]
      cases hshown : report.firstShown (ascii "ingress-zones") with
      | none =>
          rw [hshown] at hingress
          cases hingress
      | some value =>
          rw [hshown] at hingress
          exact ⟨value, rfl, hingress, h.ingress value hshown⟩
    · rw [fieldValue_text hreport h.rules (List.mem_cons_of_mem _ List.mem_cons_self)]
      cases hshown : report.firstShown (ascii "egress-zones") with
      | none =>
          rw [hshown] at hegress
          cases hegress
      | some value =>
          rw [hshown] at hegress
          exact ⟨value, rfl, hegress⟩
    · intro name hname value hvalue
      rw [fieldValue_text hreport h.rules (List.mem_cons_of_mem _ (List.mem_cons_of_mem _ hname))] at hvalue
      have hmet := hempty name hname
      rw [hvalue] at hmet
      exact hmet

/-- Where the first value is accepted and the field's own is not, another line hides the field. -/
theorem held_or_hidden {demand : Demand} (h : demand.Met (report.firstShown demand.label)) :
    demand.Held report ↔ ¬demand.Hidden report := by
  constructor
  · rintro ⟨hpresent, haccepted⟩ (⟨before, field, behind, hfields, hname, hwrong, -⟩ | ⟨hrequired, hmissing⟩)
    · refine hwrong (haccepted field ?_ hname)
      rw [hfields]
      exact List.mem_append_right before List.mem_cons_self
    · obtain ⟨field, hfield, hname⟩ := hpresent hrequired
      exact hmissing field hfield hname
  · intro hhidden
    rw [Demand.Hidden, not_or] at hhidden
    refine ⟨?_, ?_⟩
    · intro hrequired
      by_contra hmissing
      push Not at hmissing
      exact hhidden.2 ⟨hrequired, hmissing⟩
    · intro field hfield hname
      by_contra hwrong
      obtain ⟨before, behind, hfields⟩ := List.append_of_mem hfield
      have hfirst : ∀ earlier ∈ before, earlier.shown demand.label = none := by
        intro earlier hearlier
        by_contra hshown
        exact hhidden.1 ⟨before, field, behind, hfields, hname, hwrong, earlier, hearlier,
          Option.isSome_iff_ne_none.mpr hshown⟩
      have hown : field.shown demand.label = some (trimAscii field.value) :=
        if_pos (hname ▸ List.suffix_refl _)
      rw [PolicyReport.firstShown, hfields, List.findSome?_append, List.findSome?_eq_none_iff.mpr hfirst,
        Option.none_or, List.findSome?_cons, hown] at h
      exact hwrong h

end Appearance

/-! ### Policies made by the commands -/

/-- The commands behind the creation of a policy, with what each of them gives to it. -/
def policySteps (token zone : Bytes) : List (ToolCommand × (FirewalldPolicy → FirewalldPolicy)) :=
  [(.firewalldAddIngressZone (marker token) zone, FirewalldPolicy.addIngressZone zone),
    (.firewalldAddEgressZone (marker token), FirewalldPolicy.addEgressZone (ascii "ANY")),
    (.firewalldAddRichRule (marker token), FirewalldPolicy.addRichRule expectedRichRule)]

def policyCommands (token zone : Bytes) : List ToolCommand :=
  .firewalldNewPolicy (marker token) :: (policySteps token zone).map Prod.fst

/-- Commands that do their work one after the other, while other programs leave the token's things alone. -/
inductive Commanded (defaults : NewPolicySettings) (token : Bytes) :
    List ToolCommand → HostFirewall → HostFirewall → Prop
  | done (firewall : HostFirewall) : Commanded defaults token [] firewall firewall
  | command {command : ToolCommand} {commands : List ToolCommand} {before present between after : HostFirewall} :
      Elsewhere token before present → Effect defaults command present between →
        Commanded defaults token commands between after →
          Commanded defaults token (command :: commands) before after

/-- A report on the policy that the commands make where there was none: after all of them, or after the
first of them while it is incomplete. -/
def PolicyReport.Produced (report : PolicyReport) (zone : Bytes) (allowIncomplete : Bool) : Prop :=
  ValidZone zone ∧ ∃ defaults token commands before after policy,
    commands <+: policyCommands token zone ∧ (allowIncomplete = false → commands = policyCommands token zone) ∧
      before.policy token = none ∧ Commanded defaults token commands before after ∧
        after.policy token = some policy ∧ report.Shows policy

section Made

variable {defaults : NewPolicySettings} {token zone : Bytes} {before after : HostFirewall}
  {policy : FirewalldPolicy} {report : PolicyReport}

/-- A policy that is there has been there before. -/
theorem policy_of_elsewhere (h : Elsewhere token before after) (hpolicy : after.policy token = some policy) :
    before.policy token = some policy := by
  rcases h.policy with hsame | hgone
  · rw [← hsame, hpolicy]
  · rw [hgone] at hpolicy
    cases hpolicy

theorem policy_of_update {change : Option FirewalldPolicy → Option FirewalldPolicy}
    (h : after = before.updatePolicy (marker token) change) (hpolicy : after.policy token = some policy) :
    change (before.policy token) = some policy := by
  rw [h, policy_updatePolicy] at hpolicy
  split at hpolicy
  · exact hpolicy
  · cases hpolicy

/-- A run of commands of which each changes the policy in its own way. -/
theorem Commanded.course {steps : List (ToolCommand × (FirewalldPolicy → FirewalldPolicy))}
    (hsteps : ∀ step ∈ steps, ∀ {present between : HostFirewall}, Effect defaults step.1 present between →
      between = present.updatePolicy (marker token) (Option.map step.2))
    (h : Commanded defaults token (steps.map Prod.fst) before after)
    (hpolicy : after.policy token = some policy) :
    ∃ first, before.policy token = some first ∧ policy = steps.foldl (fun made step => step.2 made) first := by
  induction steps generalizing before with
  | nil =>
      cases h
      exact ⟨policy, hpolicy, rfl⟩
  | cons step steps ih =>
      rw [List.forall_mem_cons] at hsteps
      cases h with
      | command helsewhere heffect hrest =>
          obtain ⟨made, hmade, hfold⟩ := ih hsteps.2 hrest
          have hchange := policy_of_update (hsteps.1 heffect) hmade
          obtain ⟨first, hfirst, rfl⟩ := Option.map_eq_some_iff.mp hchange
          exact ⟨first, policy_of_elsewhere helsewhere hfirst, hfold⟩

theorem effect_policySteps :
    ∀ step ∈ policySteps token zone, ∀ {present between : HostFirewall}, Effect defaults step.1 present between →
      between = present.updatePolicy (marker token) (Option.map step.2) := by
  intro step hstep present between heffect
  simp only [policySteps, List.mem_cons, List.not_mem_nil, or_false] at hstep
  rcases hstep with rfl | rfl | rfl
  · exact heffect
  · exact heffect
  · exact heffect

/-- What the first commands have made of the policy. -/
theorem Commanded.made {commands : List ToolCommand} (hcommands : commands <+: policyCommands token zone)
    (habsent : before.policy token = none) (h : Commanded defaults token commands before after)
    (hpolicy : after.policy token = some policy) :
    ∃ steps, steps <+: policySteps token zone ∧
      commands = .firewalldNewPolicy (marker token) :: steps.map Prod.fst ∧
        policy = steps.foldl (fun made step => step.2 made) { settings := defaults.fields } := by
  cases commands with
  | nil =>
      cases h
      rw [habsent] at hpolicy
      cases hpolicy
  | cons command commands =>
      obtain ⟨rfl, hprefix⟩ := List.cons_prefix_cons.mp hcommands
      obtain ⟨steps, hsteps, rfl⟩ := List.prefix_map_iff.mp hprefix
      cases h with
      | @command _ _ _ present between _ helsewhere heffect hrest =>
          obtain ⟨first, hfirst, hfold⟩ :=
            hrest.course (fun step hstep => effect_policySteps step (hsteps.subset hstep)) hpolicy
          have hnew := policy_of_update heffect hfirst
          have hpresent : present.policy token = none := by
            rw [Option.eq_none_iff_forall_ne_some]
            intro old hold
            have hearlier := policy_of_elsewhere helsewhere hold
            rw [habsent] at hearlier
            cases hearlier
          rw [hpresent, Option.getD_none, Option.some.injEq] at hnew
          exact ⟨steps, hsteps, rfl, hnew ▸ hfold⟩

theorem ownPolicy_steps {steps : List (ToolCommand × (FirewalldPolicy → FirewalldPolicy))}
    (h : steps <+: policySteps token zone) :
    OwnPolicy defaults zone (steps.foldl (fun made step => step.2 made) { settings := defaults.fields }) := by
  have hsteps : ∀ step ∈ steps, ∀ made, OwnPolicy defaults zone made → OwnPolicy defaults zone (step.2 made) := by
    intro step hstep made hmade
    have hmem := h.subset hstep
    simp only [policySteps, List.mem_cons, List.not_mem_nil, or_false] at hmem
    rcases hmem with rfl | rfl | rfl
    · exact { hmade with ingress := Or.inr (addMember_own hmade.ingress) }
    · exact { hmade with egress := Or.inr (addMember_own hmade.egress) }
    · exact { hmade with rules := Or.inr (addMember_own hmade.rules) }
  have hfirst : OwnPolicy defaults zone { settings := defaults.fields } :=
    ⟨rfl, Or.inl rfl, Or.inl rfl, Or.inl rfl⟩
  clear h
  generalize ({ settings := defaults.fields } : FirewalldPolicy) = made at hfirst
  induction steps generalizing made with
  | nil => exact hfirst
  | cons step steps ih =>
      rw [List.forall_mem_cons] at hsteps
      exact ih hsteps.2 (step.2 made) (hsteps.1 made hfirst)

/-- A policy of the Session is recognised when it has everything, incomplete or not. -/
theorem firewalldPolicyMatches_complete (hzone : ValidZone zone) (hpolicy : OwnPolicy defaults zone policy)
    (hingress : policy.ingressZones ≠ []) (hegress : policy.egressZones ≠ []) (hrules : policy.richRules ≠ [])
    (hreport : report.Shows policy) : firewalldPolicyMatches report.text zone false = true := by
  obtain ⟨hingressShown, hegressShown⟩ := fieldValue_zones hzone hpolicy hreport
  rw [if_neg hingress] at hingressShown
  rw [if_neg hegress] at hegressShown
  obtain ⟨rules, hafter, hamong⟩ := expectedRuleAmong_report hpolicy hreport
  rw [firewalldPolicyMatches_eq_true_iff]
  refine ⟨⟨zone, hingressShown, Or.inl rfl, hzone.2, fun _ => hzone.1⟩, ⟨_, hegressShown, Or.inl rfl⟩,
    ⟨rules, true, hafter, ?_, rfl⟩, ?_⟩
  · rw [hamong, decide_eq_true hrules]
  · intro name hname value hvalue
    rcases fieldValue_emptyFields hpolicy hreport name hname with hempty | hnone
    · rw [hempty] at hvalue
      exact (Option.some.inj hvalue).symm
    · rw [hnone] at hvalue
      cases hvalue

/-- Every policy that the commands make is recognised. -/
theorem firewalldPolicyMatches_produced {allowIncomplete : Bool} (h : report.Produced zone allowIncomplete) :
    firewalldPolicyMatches report.text zone allowIncomplete = true := by
  obtain ⟨hzone, defaults, token, commands, before, after, policy, hcommands, hall, habsent, hcourse, hpolicy,
    hreport⟩ := h
  obtain ⟨steps, hsteps, hmade, rfl⟩ := hcourse.made hcommands habsent hpolicy
  have hown : OwnPolicy defaults zone _ := ownPolicy_steps hsteps
  cases allowIncomplete with
  | true => rw [firewalldPolicyMatches_own hzone hown hreport, decide_eq_true (Or.inr rfl)]
  | false =>
      have hmap : steps.map Prod.fst = (policySteps token zone).map Prod.fst := by
        rw [hmade, policyCommands, List.cons.injEq] at hall
        exact (hall rfl).2
      obtain rfl : steps = policySteps token zone := by
        apply hsteps.eq_of_length
        have hlength := congrArg List.length hmap
        rwa [List.length_map, List.length_map] at hlength
      have hcomplete : (policySteps token zone).foldl (fun made step => step.2 made)
          { settings := defaults.fields } =
          { ingressZones := [zone], egressZones := [ascii "ANY"], richRules := [expectedRichRule],
            settings := defaults.fields } := by
        simp [policySteps, FirewalldPolicy.addIngressZone, FirewalldPolicy.addEgressZone,
          FirewalldPolicy.addRichRule, addMember]
      rw [hcomplete] at hown hreport
      exact firewalldPolicyMatches_complete hzone hown (List.cons_ne_nil _ _) (List.cons_ne_nil _ _)
        (List.cons_ne_nil _ _) hreport

end Made

/-! ### Identity -/

section Identity

variable {report : PolicyReport} {zone : Bytes} {allowIncomplete : Bool}

theorem demand_ports {demand : Demand} (h : demand ∈ demands zone allowIncomplete)
    (hports : demand.label = ascii "ports") : demand = ⟨ascii "ports", false, fun value => value = []⟩ := by
  have hzones : ascii "ingress-zones" ≠ ascii "ports" ∧ ascii "egress-zones" ≠ ascii "ports" := by decide
  simp only [demands, List.mem_append, List.mem_cons, List.not_mem_nil, or_false, List.mem_map] at h
  rcases h with (rfl | rfl) | ⟨name, -, rfl⟩
  · exact absurd hports hzones.1
  · exact absurd hports hzones.2
  · exact congrArg (fun name => (⟨name, false, fun value => value = []⟩ : Demand)) hports

/-- With the fields that are looked for, each once, and no colon in a value, a misleading report is one
that has open ports behind the ports of another kind. -/
theorem ports_of_misleading (h : report.Misleading zone allowIncomplete)
    (hnames : ∀ field ∈ report.fields, field.name ∈ soughtLabels ∨ ∀ label ∈ soughtLabels, ¬label <:+ field.name)
    (hvalues : ∀ field ∈ report.fields, colon ∉ field.value)
    (hdistinct : (report.fields.map PolicyField.name).Nodup) :
    ∃ before field behind, report.fields = before ++ field :: behind ∧ field.name = ascii "ports" ∧
      trimAscii field.value ≠ [] ∧
        ∃ earlier ∈ before, earlier.name = ascii "source-ports" ∨ earlier.name = ascii "forward-ports" := by
  have hsuffix : ∀ label ∈ soughtLabels, ∀ name ∈ soughtLabels, label <:+ name →
      label = name ∨ (label = ascii "ports" ∧ (name = ascii "source-ports" ∨ name = ascii "forward-ports")) := by
    decide
  have hshows : ∀ field ∈ report.fields, ∀ label ∈ soughtLabels, (field.shown label).isSome = true →
      label = field.name ∨
        (label = ascii "ports" ∧ (field.name = ascii "source-ports" ∨ field.name = ascii "forward-ports")) := by
    intro field hfield label hlabel hshown
    rw [PolicyField.shown] at hshown
    split at hshown
    · rename_i hends
      rcases hnames field hfield with hname | hother
      · exact hsuffix label hlabel field.name hname hends
      · exact absurd hends (hother label hlabel)
    · rw [afterFirst_eq_none (List.mem_append_right label List.mem_cons_self) (hvalues field hfield)] at hshown
      cases hshown
  obtain ⟨demand, hdemand, hhidden⟩ := h.hidden
  have hlabel := label_mem_soughtLabels hdemand
  rcases hhidden with ⟨before, field, behind, hfields, hname, hwrong, earlier, hearlier, hshown⟩ |
    ⟨hrequired, hmissing⟩
  · have hmem : earlier ∈ report.fields := by
      rw [hfields]
      exact List.mem_append_left _ hearlier
    have hne : demand.label ≠ earlier.name := by
      rw [hfields, List.map_append, List.map_cons, List.nodup_append] at hdistinct
      rw [← hname]
      exact (hdistinct.2.2 _ (List.mem_map_of_mem hearlier) _ List.mem_cons_self).symm
    rcases hshows earlier hmem demand.label hlabel hshown with hsame | ⟨hports, hkind⟩
    · exact absurd hsame hne
    · refine ⟨before, field, behind, hfields, hname.trans hports, ?_, earlier, hearlier, hkind⟩
      intro hempty
      rw [demand_ports hdemand hports] at hwrong
      exact hwrong hempty
  · have hmet := h.appears.fields demand hdemand
    cases hfirst : report.firstShown demand.label with
    | none =>
        rw [hfirst] at hmet
        exact absurd (hrequired.symm.trans hmet) (by decide)
    | some value =>
        obtain ⟨field, hfield, hshown⟩ := List.exists_of_findSome?_eq_some hfirst
        rcases hshows field hfield demand.label hlabel (Option.isSome_iff_exists.mpr ⟨value, hshown⟩) with
          hsame | ⟨hports, -⟩
        · exact absurd hsame.symm (hmissing field hfield)
        · rw [demand_ports hdemand hports] at hrequired
          cases hrequired

/-- A policy that the Session's commands have made is recognised. A recognised policy is identified by
its fields and rules, exactly where no line shows an accepted value in the place of another field's. -/
theorem firewalldPolicyMatches_identifies (report : PolicyReport) (zone : Bytes) (allowIncomplete : Bool) :
    (report.Produced zone allowIncomplete → firewalldPolicyMatches report.text zone allowIncomplete = true) ∧
      (report.WellFormed →
        ((firewalldPolicyMatches report.text zone allowIncomplete = true → report.Identifies zone allowIncomplete) ↔
          ¬report.Misleading zone allowIncomplete)) := by
  refine ⟨firewalldPolicyMatches_produced, ?_⟩
  intro hreport
  rw [firewalldPolicyMatches_iff_appears hreport]
  constructor
  · intro h hmisleading
    obtain ⟨demand, hdemand, hhidden⟩ := hmisleading.hidden
    have happears := hmisleading.appears
    exact (held_or_hidden (happears.fields demand hdemand)).mp ((h happears).fields demand hdemand) hhidden
  · intro h happears
    refine ⟨?_, happears.rules⟩
    intro demand hdemand
    rw [held_or_hidden (happears.fields demand hdemand)]
    intro hhidden
    exact h ⟨happears, demand, hdemand, hhidden⟩

/-- The report on a complete policy for the zone public. -/
def completeReport : PolicyReport where
  heading := [ascii "netlaglab- (active)"]
  indentation := [space, space]
  fields := [⟨ascii "egress-zones", ascii "ANY"⟩, ⟨ascii "ingress-zones", ascii "public"⟩]
  richRules := [expectedRichRule]

theorem completeReport_produced : completeReport.Produced (ascii "public") false := by
  have hsame (firewall : HostFirewall) : Elsewhere [] firewall firewall := ⟨rfl, rfl, Or.inl rfl⟩
  let defaults : NewPolicySettings := ⟨[], by simp, by simp, by simp⟩
  let policy : FirewalldPolicy :=
    { ingressZones := [ascii "public"], egressZones := [ascii "ANY"], richRules := [expectedRichRule],
      settings := [] }
  have hcourse : Commanded defaults [] (policyCommands [] (ascii "public")) ⟨fun _ => false, [], some fun _ => none⟩ _ :=
    .command (hsame _) rfl (.command (hsame _) rfl (.command (hsame _) rfl (.command (hsame _) rfl (.done _))))
  refine ⟨by decide, defaults, [], _, _, _, policy, List.prefix_refl _, fun _ => rfl, rfl, hcourse, ?_, ?_⟩
  · simp [HostFirewall.updatePolicy, HostFirewall.policy, FirewalldPolicy.addIngressZone,
      FirewalldPolicy.addEgressZone, FirewalldPolicy.addRichRule, addMember, defaults, policy]
  · exact ⟨by decide, by decide, by decide, List.Perm.swap _ _ _, rfl⟩

theorem firewalldPolicyMatches_identifies_complete :
    firewalldPolicyMatches completeReport.text (ascii "public") false = true ∧
      ((firewalldPolicyMatches completeReport.text (ascii "public") false = true →
        completeReport.Identifies (ascii "public") false) ↔ ¬completeReport.Misleading (ascii "public") false) := by
  have h := firewalldPolicyMatches_identifies completeReport (ascii "public") false
  exact ⟨h.1 completeReport_produced,
    h.2 ⟨by decide, by decide, by decide, by decide, by decide⟩⟩

/-- The report on a policy that opens a port, with the ports of another kind in front. -/
def openPortReport : PolicyReport where
  heading := []
  indentation := [space, space]
  fields := [⟨ascii "ingress-zones", ascii "public"⟩, ⟨ascii "egress-zones", ascii "ANY"⟩,
    ⟨ascii "source-ports", []⟩, ⟨ascii "ports", ascii "22/tcp"⟩]
  richRules := [expectedRichRule]

/-- An open port is not seen behind the source ports. -/
theorem not_identifies_openPort :
    ¬∀ (report : PolicyReport) (zone : Bytes) (allowIncomplete : Bool), report.WellFormed →
      firewalldPolicyMatches report.text zone allowIncomplete = true → report.Identifies zone allowIncomplete := by
  intro h
  have hreport : openPortReport.WellFormed :=
    ⟨by decide, by decide, by decide, by decide, by decide⟩
  have hidentifies := h openPortReport (ascii "public") false hreport (by decide)
  have hports := hidentifies.fields ⟨ascii "ports", false, fun value => value = []⟩ (by simp [demands, emptyFields])
  have hempty : trimAscii (ascii "22/tcp") = [] :=
    hports.2 ⟨ascii "ports", ascii "22/tcp"⟩ (by simp [openPortReport]) rfl
  exact absurd hempty (by decide)

end Identity

end NetLagLab.NetworkEnvironment
