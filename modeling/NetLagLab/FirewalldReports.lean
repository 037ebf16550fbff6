import NetLagLab.FirewallTools

/-! Reports on firewalld policies. A report is a heading, fields in any order and the rich rules; a field's
value is read behind the first label that ends in the field's name. A policy that holds nothing but what
the Session gives it is recognised as the Session's own, at every stage of its making. -/

namespace NetLagLab.NetworkEnvironment

open ByteLines

/-- A field of a report: its name before the colon, its value behind it. -/
structure PolicyField where
  name : Bytes
  value : Bytes
  deriving DecidableEq

/-- A text that stands on one line and holds no colon. -/
def Plain (text : Bytes) : Prop := colon ∉ text ∧ newline ∉ text

instance (text : Bytes) : Decidable (Plain text) := inferInstanceAs (Decidable (_ ∧ _))

def PolicyField.Plain (field : PolicyField) : Prop :=
  NetworkEnvironment.Plain field.name ∧ NetworkEnvironment.Plain field.value

instance (field : PolicyField) : Decidable field.Plain := inferInstanceAs (Decidable (_ ∧ _))

def PolicyField.line (indentation : Bytes) (field : PolicyField) : Bytes :=
  indentation ++ field.name ++ [colon, space] ++ field.value

structure FirewalldPolicy where
  ingressZones : List Bytes := []
  egressZones : List Bytes := []
  richRules : List Bytes := []
  settings : List PolicyField
  deriving DecidableEq

def joinZones (zones : List Bytes) : Bytes := List.intercalate [space] zones

@[simp] theorem joinZones_singleton (zone : Bytes) : joinZones [zone] = zone := by
  simp [joinZones]

/-- All that is reported of a policy before its rich rules. -/
def FirewalldPolicy.fields (policy : FirewalldPolicy) : List PolicyField :=
  ⟨ascii "ingress-zones", joinZones policy.ingressZones⟩ ::
    ⟨ascii "egress-zones", joinZones policy.egressZones⟩ :: policy.settings

/-- What `--info-policy` prints. -/
structure PolicyReport where
  heading : List Bytes
  indentation : Bytes
  fields : List PolicyField
  richRules : List Bytes

namespace PolicyReport

def text (report : PolicyReport) : Bytes :=
  encodeLines (report.heading ++ report.fields.map (PolicyField.line report.indentation))
    ++ report.indentation ++ ascii "rich rules:" ++ encodeLines ([space] :: report.richRules.map (9 :: ·))

/-- The report is on the policy: its fields in some order, its rich rules, and around them only a heading
without a colon and blanks. -/
structure Shows (report : PolicyReport) (policy : FirewalldPolicy) : Prop where
  heading : ∀ line ∈ report.heading, Plain line
  indentation : ∀ byte ∈ report.indentation, byte = space
  plain : ∀ field ∈ report.fields, field.Plain
  fields : report.fields.Perm policy.fields
  richRules : report.richRules = policy.richRules

end PolicyReport

/-- The settings that firewalld gives to every new policy. -/
structure NewPolicySettings where
  fields : List PolicyField
  plain : ∀ field ∈ fields, field.Plain
  /-- Zones and rich rules are not among them. -/
  distinct : ∀ field ∈ fields, ¬ ascii "ingress-zones" <:+ field.name ∧ ¬ ascii "egress-zones" <:+ field.name
    ∧ ¬ ascii "rich rules" <:+ field.name
  /-- A new policy allows nothing. -/
  unused : ∀ field ∈ fields, (∃ name ∈ emptyFields, name <:+ field.name) → field.value = []

/-! ### Reading a field -/

section Fields

variable {label indentation rest : Bytes} {fields : List PolicyField}

theorem afterFirst_heading {heading : List Bytes} (hlabel : newline ∉ label)
    (hheading : ∀ line ∈ heading, Plain line) :
    afterFirst (label ++ [colon]) (encodeLines heading ++ rest) = afterFirst (label ++ [colon]) rest := by
  induction heading with
  | nil => rfl
  | cons line heading ih =>
      rw [List.forall_mem_cons] at hheading
      rw [encodeLines_cons_append, afterFirst_line (List.mem_append_right label List.mem_cons_self)
        (newline_notMem_label hlabel) hheading.1.1]
      exact ih hheading.2

/-- Blanks in front of a name are no part of a label that begins with another byte. -/
theorem suffix_indented {name : Bytes} (hindentation : ∀ byte ∈ indentation, byte = space)
    (hlabel : ∀ byte ∈ label.head?, byte ≠ space) (h : label <:+ indentation ++ name) : label <:+ name := by
  rcases List.suffix_or_suffix_of_suffix h (List.suffix_append indentation name) with hname | ⟨front, rfl⟩
  · exact hname
  · cases front with
    | nil => exact List.suffix_refl name
    | cons byte front =>
        obtain ⟨before, hbefore⟩ := h
        have heq : before ++ byte :: front = indentation := by
          rw [← List.append_assoc] at hbefore
          exact List.append_cancel_right hbefore
        have hmem : byte ∈ indentation := heq ▸ List.mem_append_right before List.mem_cons_self
        exact absurd (hindentation byte hmem) (hlabel byte rfl)

/-- A text that can be the name of a field: on one line, without a colon and without a blank in front. -/
structure FieldLabel (label : Bytes) : Prop where
  colon : colon ∉ label
  newline : newline ∉ label
  head : ∀ byte ∈ label.head?, byte ≠ space

instance (label : Bytes) : Decidable (FieldLabel label) :=
  decidable_of_iff (ByteLines.colon ∉ label ∧ ByteLines.newline ∉ label ∧ ∀ byte ∈ label.head?, byte ≠ space)
    ⟨fun h => ⟨h.1, h.2.1, h.2.2⟩, fun h => ⟨h.colon, h.newline, h.head⟩⟩

theorem afterFirst_indented {words : Bytes} (hlabel : FieldLabel label) (hwords : colon ∉ words)
    (hindentation : ∀ byte ∈ indentation, byte = space) :
    afterFirst (label ++ [colon]) (indentation ++ words ++ colon :: rest) =
      if label <:+ words then some rest else afterFirst (label ++ [colon]) rest := by
  have hline : colon ∉ indentation ++ words := by
    rw [List.mem_append, not_or]
    exact ⟨fun hmem => absurd (hindentation colon hmem) (by decide), hwords⟩
  rw [afterFirst_label hlabel.colon hline]
  by_cases h : label <:+ words
  · rw [if_pos h, if_pos (h.trans (List.suffix_append _ _))]
  · rw [if_neg h, if_neg fun hsuffix => h (suffix_indented hindentation hlabel.head hsuffix)]

theorem afterFirst_cons {field : PolicyField} (hlabel : FieldLabel label) (hfield : field.Plain)
    (hindentation : ∀ byte ∈ indentation, byte = space) :
    afterFirst (label ++ [colon]) (encodeLines ((field :: fields).map (PolicyField.line indentation)) ++ rest) =
      if label <:+ field.name then
        some ((space :: field.value) ++ newline ::
          (encodeLines (fields.map (PolicyField.line indentation)) ++ rest))
      else afterFirst (label ++ [colon]) (encodeLines (fields.map (PolicyField.line indentation)) ++ rest) := by
  have hline : colon ∉ space :: field.value := by
    rw [List.mem_cons, not_or]
    exact ⟨by decide, hfield.2.1⟩
  have hsplit : PolicyField.line indentation field ++ newline ::
        (encodeLines (fields.map (PolicyField.line indentation)) ++ rest) =
      indentation ++ field.name ++ colon :: ((space :: field.value) ++ newline ::
        (encodeLines (fields.map (PolicyField.line indentation)) ++ rest)) := by
    simp [PolicyField.line]
  rw [List.map_cons, encodeLines_cons_append, hsplit, afterFirst_indented hlabel hfield.1.1 hindentation,
    afterFirst_line (List.mem_append_right label List.mem_cons_self) (newline_notMem_label hlabel.newline) hline]

/-- Fields with other names are passed over. -/
theorem afterFirst_fields (hlabel : FieldLabel label) (hfields : ∀ field ∈ fields, field.Plain)
    (hindentation : ∀ byte ∈ indentation, byte = space) (hother : ∀ field ∈ fields, ¬ label <:+ field.name) :
    afterFirst (label ++ [colon]) (encodeLines (fields.map (PolicyField.line indentation)) ++ rest) =
      afterFirst (label ++ [colon]) rest := by
  induction fields with
  | nil => rfl
  | cons field fields ih =>
      rw [List.forall_mem_cons] at hfields hother
      rw [afterFirst_cons hlabel hfields.1 hindentation, if_neg hother.1]
      exact ih hfields.2 hother.2

/-- The value that all fields agree on whose names end in the label. -/
theorem fieldValue_fields {value : Bytes} (hlabel : FieldLabel label) (hfields : ∀ field ∈ fields, field.Plain)
    (hindentation : ∀ byte ∈ indentation, byte = space)
    (hvalue : ∀ field ∈ fields, label <:+ field.name → trimAscii (space :: field.value) = value)
    (hsome : ∃ field ∈ fields, label <:+ field.name) :
    fieldValue (encodeLines (fields.map (PolicyField.line indentation)) ++ rest) label = some value := by
  induction fields with
  | nil => simp at hsome
  | cons field fields ih =>
      rw [List.forall_mem_cons] at hfields hvalue
      rw [fieldValue, afterFirst_cons hlabel hfields.1 hindentation]
      by_cases h : label <:+ field.name
      · have hline : newline ∉ space :: field.value := by
          rw [List.mem_cons, not_or]
          exact ⟨by decide, hfields.1.2.2⟩
        rw [if_pos h, Option.map_some, takeWhile_mark hline, hvalue.1 h]
      · rw [if_neg h]
        apply ih hfields.2 hvalue.2
        simpa [h] using hsome

end Fields

/-! ### The Session's own policies -/

def ValidZone (zone : Bytes) : Prop := zone ≠ [] ∧ zone.all isZoneCharacter = true

instance (zone : Bytes) : Decidable (ValidZone zone) := inferInstanceAs (Decidable (_ ∧ _))

/-- A policy at some stage of its making: it has no zone, rule or setting but those that it is given. -/
structure OwnPolicy (defaults : NewPolicySettings) (zone : Bytes) (policy : FirewalldPolicy) : Prop where
  settings : policy.settings = defaults.fields
  ingress : policy.ingressZones = [] ∨ policy.ingressZones = [zone]
  egress : policy.egressZones = [] ∨ policy.egressZones = [ascii "ANY"]
  rules : policy.richRules = [] ∨ policy.richRules = [expectedRichRule]

section Own

variable {defaults : NewPolicySettings} {zone : Bytes} {policy : FirewalldPolicy} {report : PolicyReport}

theorem isBlank_of_isZoneCharacter {byte : UInt8} (h : isZoneCharacter byte = true) : isBlank byte = false := by
  by_contra hblank
  rw [Bool.not_eq_false, isBlank, Bool.or_eq_true, Bool.or_eq_true, Bool.or_eq_true] at hblank
  simp only [decide_eq_true_eq] at hblank
  rcases hblank with ((rfl | rfl) | rfl) | rfl
  all_goals exact absurd h (by decide)

theorem trimAscii_zone (h : ValidZone zone) : trimAscii (space :: zone) = zone := by
  have hblank : ∀ byte ∈ zone, isBlank byte = false :=
    fun byte hbyte => isBlank_of_isZoneCharacter (List.all_eq_true.mp h.2 byte hbyte)
  have htrim : trimAscii ([space] ++ zone ++ []) = zone :=
    trimAscii_surrounded (by decide) (by simp) (fun byte hbyte => hblank byte (List.mem_of_head? hbyte))
      (fun byte hbyte => hblank byte (List.mem_of_getLast? hbyte))
  rwa [List.append_nil, List.singleton_append] at htrim

/-- What the reports on a policy have in front of the rich rules. -/
theorem report_text (report : PolicyReport) :
    report.text = encodeLines report.heading ++
      (encodeLines (report.fields.map (PolicyField.line report.indentation)) ++
        (report.indentation ++ ascii "rich rules" ++ colon ::
          encodeLines ([space] :: report.richRules.map (9 :: ·)))) := by
  simp [PolicyReport.text, show ascii "rich rules:" = ascii "rich rules" ++ [colon] by decide]

/-- The value of a field that the policy has, in any report on it. -/
theorem fieldValue_report {label value : Bytes} (hlabel : FieldLabel label) (hreport : report.Shows policy)
    (hvalue : ∀ field ∈ policy.fields, label <:+ field.name → trimAscii (space :: field.value) = value)
    (hsome : ∃ field ∈ policy.fields, label <:+ field.name) :
    fieldValue report.text label = some value := by
  rw [report_text, fieldValue, afterFirst_heading hlabel.newline hreport.heading]
  apply fieldValue_fields hlabel hreport.plain hreport.indentation
  · intro field hfield
    exact hvalue field (hreport.fields.mem_iff.mp hfield)
  · obtain ⟨field, hfield, hsuffix⟩ := hsome
    exact ⟨field, hreport.fields.mem_iff.mpr hfield, hsuffix⟩

/-- The rich rules of a policy that has no field of that name. -/
theorem afterFirst_richRules (hreport : report.Shows policy)
    (hother : ∀ field ∈ policy.fields, ¬ ascii "rich rules" <:+ field.name) :
    afterFirst (ascii "rich rules:") report.text =
      some (encodeLines ([space] :: policy.richRules.map (9 :: ·))) := by
  have hlabel : FieldLabel (ascii "rich rules") := by decide
  rw [report_text, show ascii "rich rules:" = ascii "rich rules" ++ [colon] by decide,
    afterFirst_heading hlabel.newline hreport.heading,
    afterFirst_fields hlabel hreport.plain hreport.indentation
      (fun field hfield => hother field (hreport.fields.mem_iff.mp hfield)),
    afterFirst_indented hlabel (by decide) hreport.indentation, if_pos (List.suffix_refl _), hreport.richRules]

theorem colon_notMem_section {rules : List Bytes} (h : ∀ rule ∈ rules, colon ∉ rule) :
    colon ∉ encodeLines ([space] :: rules.map (9 :: ·)) := by
  intro hmem
  obtain ⟨piece, hpiece, hcolon⟩ := List.mem_flatten.mp hmem
  obtain ⟨line, hline, rfl⟩ := List.mem_map.mp hpiece
  rcases List.mem_append.mp hcolon with hcolon | hcolon
  · rcases List.mem_cons.mp hline with rfl | hline
    · exact absurd hcolon (by decide)
    · obtain ⟨rule, hrule, rfl⟩ := List.mem_map.mp hline
      rcases List.mem_cons.mp hcolon with hcolon | hcolon
      · exact absurd hcolon (by decide)
      · exact h rule hrule hcolon
  · exact absurd (List.mem_singleton.mp hcolon) (by decide)

/-- A field that the policy lacks is not found among its rich rules either. -/
theorem fieldValue_absent {label : Bytes} (hlabel : FieldLabel label) (hreport : report.Shows policy)
    (hother : ∀ field ∈ policy.fields, ¬ label <:+ field.name) (hrules : ¬ label <:+ ascii "rich rules")
    (hplain : ∀ rule ∈ policy.richRules, colon ∉ rule) : fieldValue report.text label = none := by
  rw [report_text, fieldValue, afterFirst_heading hlabel.newline hreport.heading,
    afterFirst_fields hlabel hreport.plain hreport.indentation
      (fun field hfield => hother field (hreport.fields.mem_iff.mp hfield)),
    afterFirst_indented hlabel (by decide) hreport.indentation, if_neg hrules, hreport.richRules,
    afterFirst_eq_none (List.mem_append_right label List.mem_cons_self) (colon_notMem_section hplain)]
  rfl

/-- The zones that a report shows of a policy of the Session. -/
theorem fieldValue_zones (hzone : ValidZone zone) (hpolicy : OwnPolicy defaults zone policy)
    (hreport : report.Shows policy) :
    fieldValue report.text (ascii "ingress-zones") = some (if policy.ingressZones = [] then [] else zone) ∧
      fieldValue report.text (ascii "egress-zones") =
        some (if policy.egressZones = [] then [] else ascii "ANY") := by
  have hzones : ¬ ascii "ingress-zones" <:+ ascii "egress-zones" ∧
      ¬ ascii "egress-zones" <:+ ascii "ingress-zones" := by
    decide
  have hmem {field : PolicyField} (hfield : field ∈ policy.fields) :
      field = ⟨ascii "ingress-zones", joinZones policy.ingressZones⟩ ∨
        field = ⟨ascii "egress-zones", joinZones policy.egressZones⟩ ∨ field ∈ defaults.fields := by
    rw [FirewalldPolicy.fields, hpolicy.settings] at hfield
    simpa using hfield
  constructor
  · apply fieldValue_report ⟨by decide, by decide, by decide⟩ hreport
    · intro field hfield hsuffix
      rcases hmem hfield with rfl | rfl | hdefault
      · rcases hpolicy.ingress with hingress | hingress
        · rw [hingress, if_pos rfl]
          decide
        · rw [hingress, if_neg (List.cons_ne_nil _ _), joinZones_singleton]
          exact trimAscii_zone hzone
      · exact absurd hsuffix hzones.1
      · exact absurd hsuffix (defaults.distinct field hdefault).1
    · exact ⟨_, List.mem_cons_self, List.suffix_refl _⟩
  · apply fieldValue_report ⟨by decide, by decide, by decide⟩ hreport
    · intro field hfield hsuffix
      rcases hmem hfield with rfl | rfl | hdefault
      · exact absurd hsuffix hzones.2
      · rcases hpolicy.egress with hegress | hegress
        · rw [hegress]
          decide
        · rw [hegress]
          decide
      · exact absurd hsuffix (defaults.distinct field hdefault).2.1
    · exact ⟨_, List.mem_cons_of_mem _ List.mem_cons_self, List.suffix_refl _⟩

/-- Nothing else is open in a policy of the Session. -/
theorem fieldValue_emptyFields (hpolicy : OwnPolicy defaults zone policy) (hreport : report.Shows policy) :
    ∀ name ∈ emptyFields, fieldValue report.text name = some [] ∨ fieldValue report.text name = none := by
  intro name hname
  have hall : ∀ name ∈ emptyFields, FieldLabel name := by decide
  have hlabel := hall name hname
  have hother : ∀ name ∈ emptyFields, ¬ name <:+ ascii "ingress-zones" ∧ ¬ name <:+ ascii "egress-zones" ∧
      ¬ name <:+ ascii "rich rules" := by
    decide
  have hempty : ∀ field ∈ policy.fields, name <:+ field.name → trimAscii (space :: field.value) = [] := by
    intro field hfield hsuffix
    rw [FirewalldPolicy.fields, hpolicy.settings] at hfield
    rcases List.mem_cons.mp hfield with rfl | hfield
    · exact absurd hsuffix (hother name hname).1
    · rcases List.mem_cons.mp hfield with rfl | hdefault
      · exact absurd hsuffix (hother name hname).2.1
      · rw [defaults.unused field hdefault ⟨name, hname, hsuffix⟩]
        decide
  by_cases hsome : ∃ field ∈ policy.fields, name <:+ field.name
  · exact Or.inl (fieldValue_report hlabel hreport hempty hsome)
  · right
    apply fieldValue_absent hlabel hreport (fun field hfield hsuffix => hsome ⟨field, hfield, hsuffix⟩)
      (hother name hname).2.2
    intro rule hrule
    rcases hpolicy.rules with hrules | hrules
    · simp [hrules] at hrule
    · rw [hrules, List.mem_singleton] at hrule
      rw [hrule]
      decide

/-- The rich rules of a policy of the Session. -/
theorem expectedRuleAmong_report (hpolicy : OwnPolicy defaults zone policy) (hreport : report.Shows policy) :
    ∃ rules, afterFirst (ascii "rich rules:") report.text = some rules ∧
      expectedRuleAmong false (outputLines rules) = some (decide (policy.richRules ≠ [])) := by
  have hzones : ¬ ascii "rich rules" <:+ ascii "ingress-zones" ∧
      ¬ ascii "rich rules" <:+ ascii "egress-zones" := by
    decide
  refine ⟨_, afterFirst_richRules hreport ?_, ?_⟩
  · intro field hfield hsuffix
    rw [FirewalldPolicy.fields, hpolicy.settings] at hfield
    rcases List.mem_cons.mp hfield with rfl | hfield
    · exact absurd hsuffix hzones.1
    · rcases List.mem_cons.mp hfield with rfl | hdefault
      · exact absurd hsuffix hzones.2
      · exact (defaults.distinct field hdefault).2.2 hsuffix
  · rcases hpolicy.rules with hrules | hrules
    · rw [hrules]
      decide
    · rw [hrules]
      decide

/-- A policy of the Session is recognised while it is incomplete when its ingress zone is not set or is
the expected one. -/
theorem firewalldPolicyMatches_own (hzone : ValidZone zone) (hpolicy : OwnPolicy defaults zone policy)
    (hreport : report.Shows policy) (expected : Bytes) :
    firewalldPolicyMatches report.text expected true =
      decide (policy.ingressZones = [] ∨ zone = expected) := by
  obtain ⟨hingress, hegress⟩ := fieldValue_zones hzone hpolicy hreport
  obtain ⟨rules, hrules, hamong⟩ := expectedRuleAmong_report hpolicy hreport
  have hempty : (emptyFields.any fun field => (fieldValue report.text field).any fun value => value ≠ [])
      = false := by
    rw [List.any_eq_false]
    intro name hname
    rcases fieldValue_emptyFields hpolicy hreport name hname with hvalue | hvalue
    · simp [hvalue]
    · simp [hvalue]
  have hcharacters : (if policy.ingressZones = [] then [] else zone).all isZoneCharacter = true := by
    split
    · rfl
    · exact hzone.2
  rw [firewalldPolicyMatches, hingress, hegress]
  simp only [hrules, hamong, hempty, hcharacters]
  by_cases hassigned : policy.ingressZones = []
  · by_cases hegressSet : policy.egressZones = []
    · simp [hassigned, hegressSet]
    · simp [hassigned, hegressSet]
  · by_cases hegressSet : policy.egressZones = []
    · simp [hassigned, hegressSet, hzone.1]
    · simp [hassigned, hegressSet, hzone.1]

end Own

end NetLagLab.NetworkEnvironment
