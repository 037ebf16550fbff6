import NetLagLab.ByteSearch
import NetLagLab.TokenSpelling

/-! The status of a process, read from its line under `/proc`. The process chooses its own name, and the kernel does not
escape it; the line is cut behind the last parenthesis, so that no name is read as a field. -/

namespace NetLagLab

open ByteLines

structure ProcessStatus where
  parentPid : Int32
  startTimeTicks : UInt64
  deriving DecidableEq

/-- `std::from_chars` of an integer type that has to consume the whole text. Only a signed type has a minus sign. -/
def parseNumber (signed : Bool) (minimum maximum : Int) (text : Bytes) : Option Int :=
  let negative := signed && decide (text.head? = some 45)
  let digits := if negative then text.tail else text
  if digits = [] ∨ digits.all isDigit = false then none
  else
    let value : Int := if negative then -(decimalValue digits) else decimalValue digits
    if value < minimum ∨ maximum < value then none else some value

def parsePid (text : Bytes) : Option Int32 := (parseNumber true (-2 ^ 31) (2 ^ 31 - 1) text).map Int32.ofInt

def parseTicks (text : Bytes) : Option UInt64 :=
  (parseNumber false 0 (2 ^ 64 - 1) text).map fun value => UInt64.ofNat value.toNat

/-- The fields of the line: what stands between spaces, empty pieces left out. -/
def statFields (remaining : Bytes) : List Bytes :=
  ((splitAtMark space remaining).1 ++ [(splitAtMark space remaining).2]).filter fun field => decide (field ≠ [])

/-- The fields behind the name start with the third; the parent is the fourth and the start time the 22nd. -/
def parseProcessStatus (statLine : Bytes) : Option ProcessStatus :=
  match afterLast (ascii ") ") statLine with
  | none => none
  | some remaining =>
      let fields := statFields remaining
      if fields.length < 20 then none
      else
        match parsePid (fields.getD 1 []), parseTicks (fields.getD 19 []) with
        | some parentPid, some startTimeTicks => some ⟨parentPid, startTimeTicks⟩
        | _, _ => none

/-! ### Numbers -/

/-- The integer that a text denotes. -/
inductive IntegerText (signed : Bool) : Bytes → Int → Prop
  | plain {digits : Bytes} (nonempty : digits ≠ []) (digit : digits.all isDigit = true) :
      IntegerText signed digits (decimalValue digits)
  | negative {digits : Bytes} (minus : signed = true) (nonempty : digits ≠ []) (digit : digits.all isDigit = true) :
      IntegerText signed (45 :: digits) (-decimalValue digits)

section Numbers

variable {signed : Bool} {minimum maximum value : Int} {text : Bytes}

theorem head?_ne_minus {digits : Bytes} (hdigits : digits.all isDigit = true) : digits.head? ≠ some 45 := by
  intro hhead
  exact absurd (List.all_eq_true.mp hdigits 45 (List.mem_of_head? hhead)) (by decide)

/-- A number is read from a text if and only if it is what the text denotes and in range. -/
theorem parseNumber_iff : parseNumber signed minimum maximum text = some value ↔
    IntegerText signed text value ∧ minimum ≤ value ∧ value ≤ maximum := by
  constructor
  · intro h
    unfold parseNumber at h
    dsimp only at h
    rw [Option.ite_none_left_eq_some, Option.ite_none_left_eq_some] at h
    obtain ⟨hdigits, hrange, hvalue⟩ := h
    rw [not_or, Bool.not_eq_false] at hdigits
    rw [Option.some.inj hvalue, not_or, Int.not_lt, Int.not_lt] at hrange
    refine ⟨?_, hrange⟩
    cases hnegative : signed && decide (text.head? = some 45) with
    | false =>
        simp only [hnegative] at hdigits hvalue
        rw [← Option.some.inj hvalue]
        exact .plain hdigits.1 hdigits.2
    | true =>
        simp only [hnegative] at hdigits hvalue
        rw [Bool.and_eq_true, decide_eq_true_eq] at hnegative
        rw [← Option.some.inj hvalue, ← List.cons_head?_tail hnegative.2]
        exact .negative hnegative.1 hdigits.1 hdigits.2
  · rintro ⟨h, hminimum, hmaximum⟩
    have hrange : ¬(value < minimum ∨ maximum < value) := by omega
    cases h with
    | plain hne hdigits =>
        have hnegative : (signed && decide (text.head? = some 45)) = false := by
          rw [decide_eq_false (head?_ne_minus hdigits), Bool.and_false]
        unfold parseNumber
        simp only [hnegative]
        rw [if_neg (by simp [hne, hdigits])]
        exact if_neg hrange
    | negative hsigned hne hdigits =>
        unfold parseNumber
        simp only [hsigned, List.head?_cons, decide_true, Bool.and_self, if_true, List.tail_cons]
        rw [if_neg (by simp [hne, hdigits])]
        exact if_neg hrange

theorem parsePid_iff {pid : Int32} : parsePid text = some pid ↔ IntegerText true text pid.toInt := by
  rw [parsePid, Option.map_eq_some_iff]
  constructor
  · rintro ⟨value, hvalue, rfl⟩
    obtain ⟨htext, hminimum, hmaximum⟩ := parseNumber_iff.mp hvalue
    rwa [Int32.toInt_ofInt_of_le hminimum (by omega)]
  · intro h
    exact ⟨pid.toInt, parseNumber_iff.mpr ⟨h, pid.le_toInt, Int.le_sub_one_of_lt pid.toInt_lt⟩, Int32.ofInt_toInt pid⟩

theorem parseTicks_iff {ticks : UInt64} : parseTicks text = some ticks ↔ IntegerText false text ticks.toNat := by
  rw [parseTicks, Option.map_eq_some_iff]
  constructor
  · rintro ⟨value, hvalue, rfl⟩
    obtain ⟨htext, hminimum, hmaximum⟩ := parseNumber_iff.mp hvalue
    rw [UInt64.toNat_ofNat_of_lt' (show value.toNat < UInt64.size by unfold UInt64.size; omega), Int.toNat_of_nonneg hminimum]
    exact htext
  · intro h
    have hlt := ticks.toNat_lt
    refine ⟨ticks.toNat, parseNumber_iff.mpr ⟨h, Int.natCast_nonneg _, by omega⟩, ?_⟩
    rw [Int.toNat_natCast, UInt64.ofNat_toNat]

end Numbers

/-! ### Lines -/

/-- The separator of the fields. -/
def isFieldSeparator (byte : UInt8) : Bool := decide (byte = space)

/-- The line of a process: its pid, its name in parentheses, and the other fields. -/
def statLine (pid name rest : Bytes) : Bytes := pid ++ ascii " (" ++ name ++ ascii ") " ++ rest

section Lines

variable {rest : Bytes} {fields : List Bytes}

theorem space_notMem_of_unbroken {token : Bytes} (h : Unbroken isFieldSeparator token) : space ∉ token :=
  fun hmem => absurd (h.inner space hmem) (by decide)

theorem statFields_gap {gap : Bytes} (hgap : ∀ byte ∈ gap, isFieldSeparator byte = true) (rest : Bytes) :
    statFields (gap ++ rest) = statFields rest := by
  induction gap with
  | nil => rfl
  | cons byte gap ih =>
      obtain ⟨hbyte, hgap⟩ := List.forall_mem_cons.mp hgap
      rw [isFieldSeparator, decide_eq_true_eq] at hbyte
      rw [List.cons_append, hbyte, statFields, splitAtMark_mark, List.cons_append, List.filter_cons_of_neg (by decide)]
      exact ih hgap

/-- The fields are those that the text spells, whatever its spacing. -/
theorem statFields_of_spells (h : Spells isFieldSeparator rest fields) : statFields rest = fields := by
  have hkept : ∀ {token : Bytes} (pieces : List Bytes), Unbroken isFieldSeparator token →
      (token :: pieces).filter (fun field => decide (field ≠ [])) =
        token :: pieces.filter fun field => decide (field ≠ []) :=
    fun pieces htoken => List.filter_cons_of_pos (decide_eq_true htoken.nonempty)
  induction h with
  | @blank gap hgap =>
      have hempty := statFields_gap hgap []
      rwa [List.append_nil] at hempty
  | @last gap token hgap htoken =>
      rw [statFields_gap hgap, statFields, splitAtMark_of_notMem (space_notMem_of_unbroken htoken), List.nil_append,
        hkept _ htoken]
      rfl
  | @more gap token rest mark tokens hgap htoken hmark _ ih =>
      rw [isFieldSeparator, decide_eq_true_eq] at hmark
      rw [statFields_gap hgap, hmark, statFields, splitAtMark_piece (space_notMem_of_unbroken htoken), List.cons_append,
        hkept _ htoken]
      exact congrArg (token :: ·) ih

/-- The line is cut behind its name, whatever the name is. -/
theorem afterLast_statLine (pid name : Bytes) (hrest : 41 ∉ rest) :
    afterLast (ascii ") ") (statLine pid name rest) = some rest := by
  have hpattern : ascii ") " = [41, 32] := by decide
  have hbehind : (41 : UInt8) ∉ [32] ++ rest := by
    rw [List.mem_append, not_or]
    exact ⟨by decide, hrest⟩
  rw [statLine, List.append_assoc, hpattern]
  exact afterLast_append _ (afterLast_self hbehind)

theorem parseProcessStatus_statLine (pid name : Bytes) (hfields : 20 ≤ fields.length)
    (hfree : ∀ field ∈ fields, 41 ∉ field) (hrest : Spells isFieldSeparator rest fields) :
    parseProcessStatus (statLine pid name rest) =
      match parsePid (fields.getD 1 []), parseTicks (fields.getD 19 []) with
      | some parentPid, some startTimeTicks => some ⟨parentPid, startTimeTicks⟩
      | _, _ => none := by
  have hparenthesis : 41 ∉ rest := by
    rw [hrest.mem_iff (by decide)]
    rintro ⟨field, hfield, hmem⟩
    exact hfree field hfield hmem
  rw [parseProcessStatus, afterLast_statLine pid name hparenthesis]
  dsimp only
  rw [statFields_of_spells hrest, if_neg (Nat.not_lt.mpr hfields)]

/-- The parent and the start time are the fourth and the 22nd field, and the name has no part in them. -/
theorem parseProcessStatus_anyName (pid name : Bytes) (hfields : 20 ≤ fields.length)
    (hfree : ∀ field ∈ fields, 40 ∉ field ∧ 41 ∉ field) (hrest : Spells isFieldSeparator rest fields) :
    (∀ status, parseProcessStatus (statLine pid name rest) = some status ↔
      IntegerText true (fields.getD 1 []) status.parentPid.toInt ∧
        IntegerText false (fields.getD 19 []) status.startTimeTicks.toNat) ∧
    ∀ other, parseProcessStatus (statLine pid other rest) = parseProcessStatus (statLine pid name rest) := by
  have hclosing : ∀ field ∈ fields, 41 ∉ field := fun field hfield => (hfree field hfield).2
  constructor
  · rintro ⟨parentPid, startTimeTicks⟩
    rw [parseProcessStatus_statLine pid name hfields hclosing hrest, ← parsePid_iff, ← parseTicks_iff]
    cases parsePid (fields.getD 1 []) with
    | none => simp
    | some parent =>
        cases parseTicks (fields.getD 19 []) with
        | none => simp
        | some start => simp
  · intro other
    rw [parseProcessStatus_statLine pid name hfields hclosing hrest,
      parseProcessStatus_statLine pid other hfields hclosing hrest]

/-- A name that looks like the fields behind it. -/
theorem parseProcessStatus_anyName_fields :
    parseProcessStatus (statLine (ascii "42") (ascii "init) S 1 (")
      (ascii "S 17 5 6 7 8 9 10 11 12 13 14 15 16 17 18 19 20 21 987654")) = some ⟨17, 987654⟩ := by
  have hspells : Spells isFieldSeparator (ascii "S 17 5 6 7 8 9 10 11 12 13 14 15 16 17 18 19 20 21 987654")
      (statFields (ascii "S 17 5 6 7 8 9 10 11 12 13 14 15 16 17 18 19 20 21 987654")) := by
    obtain ⟨fields, h⟩ := Spells.total isFieldSeparator
      (ascii "S 17 5 6 7 8 9 10 11 12 13 14 15 16 17 18 19 20 21 987654")
    rwa [statFields_of_spells h]
  obtain ⟨hstatus, -⟩ := parseProcessStatus_anyName (ascii "42") (ascii "init) S 1 (") (by decide)
    (by decide) hspells
  refine (hstatus _).mpr ⟨parsePid_iff.mp ?_, parseTicks_iff.mp ?_⟩
  · decide
  · decide

end Lines

end NetLagLab
