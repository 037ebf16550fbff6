import NetLagLab.ControlPlane

/-! The status that a Controller is shown. It is a bounded text of printable lines, whatever the arguments of the
Workload are: each of them stays on its own line, and a reader finds the arguments again, all of them or, behind a
notice, as many as there was room for. -/

namespace NetLagLab

open ByteLines

/-! ### Escapes -/

/-- A byte that stays on its line and does nothing but show itself. -/
def IsPrintable (byte : UInt8) : Prop := 32 ≤ byte ∧ byte ≠ 127

instance isPrintableDecidable (byte : UInt8) : Decidable (IsPrintable byte) := inferInstanceAs (Decidable (_ ∧ _))

def backslash : UInt8 := 92

/-- The bytes of an argument as the status shows them. -/
def escaped (argument : Bytes) : Bytes := argument.flatMap escapedByte

def hexValue (digit : UInt8) : UInt8 := if digit < 65 then digit - 48 else digit - 55

/-- The byte that a letter behind a backslash stands for. -/
def namedByte (letter : UInt8) : UInt8 :=
  if letter = 116 then 9 else if letter = 110 then newline else if letter = 114 then 13 else letter

/-- The reader of escapes. -/
def unescape : Bytes → Bytes
  | [] => []
  | [byte] => [byte]
  | byte :: letter :: rest =>
      if byte ≠ backslash then byte :: unescape (letter :: rest)
      else if letter ≠ 120 then namedByte letter :: unescape rest
      else
        match rest with
        | high :: low :: rest => (hexValue high * 16 + hexValue low) :: unescape rest
        | _ => []

section Escapes

variable {byte : UInt8} {rest : Bytes}

theorem unescape_plain (h : byte ≠ backslash) : unescape (byte :: rest) = byte :: unescape rest := by
  cases rest with
  | nil => rfl
  | cons letter rest =>
      rw [unescape.eq_def]
      exact if_pos h

theorem unescape_named {letter : UInt8} (h : letter ≠ 120) :
    unescape (backslash :: letter :: rest) = namedByte letter :: unescape rest := by
  rw [unescape.eq_def]
  exact (if_neg (not_not_intro rfl)).trans (if_pos h)

theorem unescape_hex (high low : UInt8) :
    unescape (backslash :: 120 :: high :: low :: rest) = (hexValue high * 16 + hexValue low) :: unescape rest := by
  rw [unescape.eq_def]
  exact (if_neg (not_not_intro rfl)).trans (if_neg (not_not_intro rfl))

/-- The forms of a byte: itself, a letter behind a backslash, or two digits behind `\x`. -/
theorem escapedByte_cases (byte : UInt8) :
    (byte ≠ backslash ∧ IsPrintable byte ∧ escapedByte byte = [byte]) ∨
    (∃ letter, letter ≠ 120 ∧ namedByte letter = byte ∧ IsPrintable letter ∧ escapedByte byte = [backslash, letter]) ∨
    ∃ high low, hexValue high * 16 + hexValue low = byte ∧ IsPrintable high ∧ IsPrintable low ∧
      escapedByte byte = [backslash, 120, high, low] := by
  have hdigits : hexValue (hexDigit (byte >>> 4)) * 16 + hexValue (hexDigit (byte &&& 15)) = byte ∧
      IsPrintable (hexDigit (byte >>> 4)) ∧ IsPrintable (hexDigit (byte &&& 15)) := by
    revert byte
    exact forall_byte (by decide +kernel)
  unfold escapedByte
  split
  · exact .inr (.inl ⟨92, by decide, by subst byte; decide, by decide, rfl⟩)
  split
  · exact .inr (.inl ⟨116, by decide, by subst byte; decide, by decide, rfl⟩)
  split
  · exact .inr (.inl ⟨110, by decide, by subst byte; decide, by decide, rfl⟩)
  split
  · exact .inr (.inl ⟨114, by decide, by subst byte; decide, by decide, rfl⟩)
  split
  · exact .inr (.inr ⟨_, _, hdigits.1, hdigits.2.1, hdigits.2.2, rfl⟩)
  · rename_i hslash _ _ _ hplain
    rw [not_or] at hplain
    exact .inl ⟨hslash, ⟨UInt8.not_lt.mp hplain.1, hplain.2⟩, rfl⟩

/-- The escapes are read back. -/
theorem unescape_escaped (argument : Bytes) : unescape (escaped argument) = argument := by
  induction argument with
  | nil => rfl
  | cons byte argument ih =>
      rw [escaped, List.flatMap_cons]
      change unescape (escapedByte byte ++ escaped argument) = _
      rcases escapedByte_cases byte with ⟨hplain, -, heq⟩ | ⟨letter, hletter, hnamed, -, heq⟩ | ⟨high, low, hvalue, -, -, heq⟩
      · rw [heq, List.singleton_append, unescape_plain hplain, ih]
      · rw [heq, List.cons_append, List.singleton_append, unescape_named hletter, ih, hnamed]
      · rw [heq, List.cons_append, List.cons_append, List.cons_append, List.singleton_append, unescape_hex, ih, hvalue]

theorem isPrintable_escaped {argument : Bytes} : ∀ byte ∈ escaped argument, IsPrintable byte := by
  intro shown hshown
  obtain ⟨byte, -, hbyte⟩ := List.mem_flatMap.mp hshown
  have hslash : IsPrintable backslash := by decide
  have hx : IsPrintable 120 := by decide
  rcases escapedByte_cases byte with ⟨-, hprintable, heq⟩ | ⟨letter, -, -, hletter, heq⟩ | ⟨high, low, -, hhigh, hlow, heq⟩
  · rw [heq, List.mem_singleton] at hbyte
    exact hbyte ▸ hprintable
  · rw [heq] at hbyte
    simp only [List.mem_cons, List.not_mem_nil, or_false] at hbyte
    rcases hbyte with rfl | rfl
    · exact hslash
    · exact hletter
  · rw [heq] at hbyte
    simp only [List.mem_cons, List.not_mem_nil, or_false] at hbyte
    rcases hbyte with rfl | rfl | rfl | rfl
    · exact hslash
    · exact hx
    · exact hhigh
    · exact hlow

end Escapes

/-! ### What is shown of the arguments -/

/-- What is shown of arguments: all of them, some of the first ones, or those and a part of the next one. -/
inductive Shown : List Bytes → List Bytes → Bool → Prop
  | all (arguments : List Bytes) : Shown arguments arguments true
  | missing (whole : List Bytes) {rest : List Bytes} (some : rest ≠ []) : Shown (whole ++ rest) whole false
  | cut (whole : List Bytes) {part argument : Bytes} (rest : List Bytes) (begins : part <+: argument)
      (shorter : part ≠ argument) : Shown (whole ++ argument :: rest) (whole ++ [part]) false

def argumentLabel (index : Nat) : Bytes := ascii "argument[" ++ decimalText index ++ ascii "]: "

/-- The lines of arguments from an index on. -/
def argumentLines : Nat → List Bytes → List Bytes
  | _, [] => []
  | index, argument :: arguments => (argumentLabel index ++ escaped argument) :: argumentLines (index + 1) arguments

section Shown

variable {arguments shown : List Bytes} {complete : Bool} {limit : Nat} {output : Bytes}

theorem Shown.cons (argument : Bytes) (h : Shown arguments shown complete) :
    Shown (argument :: arguments) (argument :: shown) complete := by
  cases h with
  | all => exact .all _
  | missing _ hsome => exact .missing (argument :: shown) hsome
  | cut whole rest begins shorter => exact .cut (argument :: whole) rest begins shorter

/-- As much of an argument as fits. -/
theorem appendEscapedLimited_spec (argument : Bytes) (hroom : output.length ≤ limit) :
    ∃ part, part <+: argument ∧ (appendEscapedLimited limit output argument).1 = output ++ escaped part ∧
      (output ++ escaped part).length ≤ limit ∧
      ((appendEscapedLimited limit output argument).2 = true → part = argument) ∧
      ((appendEscapedLimited limit output argument).2 = false → part ≠ argument) := by
  induction argument generalizing output with
  | nil =>
      have hnil : output ++ escaped [] = output := List.append_nil _
      exact ⟨[], List.prefix_rfl, hnil.symm, hnil.symm ▸ hroom, fun _ => rfl, fun h => nomatch h⟩
  | cons byte argument ih =>
      unfold appendEscapedLimited
      split
      · have hnil : output ++ escaped [] = output := List.append_nil _
        refine ⟨[], List.nil_prefix, hnil.symm, hnil.symm ▸ hroom, (fun h => nomatch h), fun _ => ?_⟩
        exact (List.cons_ne_nil _ _).symm
      · rename_i hfits
        rw [not_or, Nat.not_lt, Nat.not_lt] at hfits
        have hmore : (output ++ escapedByte byte).length ≤ limit := by
          rw [List.length_append]
          omega
        obtain ⟨part, hpart, heq, hlength, hall, hcut⟩ := ih hmore
        have hescaped : output ++ escaped (byte :: part) = output ++ escapedByte byte ++ escaped part := by
          rw [escaped, List.flatMap_cons, ← List.append_assoc]
          rfl
        refine ⟨byte :: part, List.cons_prefix_cons.mpr ⟨rfl, hpart⟩, heq.trans hescaped.symm, hescaped ▸ hlength,
          fun hcomplete => congrArg _ (hall hcomplete), fun hpartly hsame => hcut hpartly (List.cons.inj hsame).2⟩

/-- As many argument lines as fit. -/
theorem appendArguments_spec (index : Nat) (arguments : List Bytes) (hroom : output.length ≤ limit) :
    ∃ shown, Shown arguments shown (appendArguments limit output index arguments).2 ∧
      (appendArguments limit output index arguments).1 = output ++ encodeLines (argumentLines index shown) ∧
      (output ++ encodeLines (argumentLines index shown)).length ≤ limit := by
  have hnone : ∀ (index : Nat) (output : Bytes), output.length ≤ limit →
      output = output ++ encodeLines (argumentLines index []) ∧
        (output ++ encodeLines (argumentLines index [])).length ≤ limit := by
    intro index output hroom
    have hnil : output ++ encodeLines (argumentLines index []) = output := List.append_nil _
    exact ⟨hnil.symm, hnil.symm ▸ hroom⟩
  induction arguments generalizing output index with
  | nil => exact ⟨[], .all [], hnone index output hroom⟩
  | cons argument arguments ih =>
      unfold appendArguments
      dsimp only
      split
      · exact ⟨[], .missing [] (List.cons_ne_nil _ _), hnone index output hroom⟩
      · rename_i hfits
        have hstart : (output ++ argumentLabel index).length ≤ limit - 1 := by
          rw [List.length_append]
          change ¬ limit < output.length + (argumentLabel index).length + 1 at hfits
          omega
        obtain ⟨part, hpart, heq, hlength, hall, hcut⟩ := appendEscapedLimited_spec argument hstart
        have hline : (output ++ argumentLabel index ++ escaped part ++ [newline]).length ≤ limit := by
          rw [List.length_append, List.length_singleton]
          rw [List.length_append] at hfits
          omega
        have hone : ∀ rest, output ++ argumentLabel index ++ escaped part ++ [newline] ++
            encodeLines (argumentLines (index + 1) rest) = output ++ encodeLines (argumentLines index (part :: rest)) :=
          fun rest => by simp [argumentLines]
        split
        · rename_i written hwritten
          have hboth := Prod.ext_iff.mp hwritten
          rw [show written = _ from hboth.1.symm.trans heq]
          refine ⟨[part], .cut [] arguments hpart (hcut hboth.2), ?_, ?_⟩
          · exact (List.append_nil _).symm.trans (hone [])
          · rw [← hone []]
            exact (congrArg List.length (List.append_nil _)).trans_le hline
        · rename_i written hwritten
          have hboth := Prod.ext_iff.mp hwritten
          rw [show written = _ from hboth.1.symm.trans heq]
          obtain rfl := hall hboth.2
          obtain ⟨shown, hshown, hmore, hbound⟩ := ih (index + 1) hline
          exact ⟨part :: shown, hshown.cons part, hmore.trans (hone shown), hone shown ▸ hbound⟩

end Shown

/-! ### The lines of a status -/

def statusBegin : Bytes := ascii "STATUS_BEGIN"

def statusEnd : Bytes := ascii "STATUS_END"

def programPrefix : Bytes := ascii "program: "

def truncatedLine : Bytes := ascii "arguments: truncated"

def stateLine (stopping : Bool) : Bytes := if stopping then ascii "state: stopping" else ascii "state: running"

def pidLine (workloadPid : Int) : Bytes := ascii "pid: " ++ decimalTextInt workloadPid

/-- The lines of what is shown of the program and its arguments. -/
def contentLines (shown : List Bytes) : List Bytes :=
  (programPrefix ++ escaped (shown.headD [])) :: argumentLines 0 shown.tail

section Lines

variable [DecimalText]

def directionLines (name : Bytes) (settings : DirectionSettings) : List Bytes :=
  [name ++ ascii ":",
    ascii "  delay: " ++ decimalTextInt settings.delay.toInt ++ ascii " ms",
    ascii "  jitter: " ++ decimalTextInt settings.jitter.toInt ++ ascii " ms",
    ascii "  packet loss: " ++ DecimalText.streamText settings.packetLossPercent ++ ascii "%",
    ascii "  bandwidth: " ++ match settings.bandwidthKbps with
      | some kbps => decimalText kbps.toNat ++ ascii " kbps"
      | none => ascii "unlimited"]

/-- The lines behind the arguments, without the last one. -/
def profileLines (profile : NetworkProfile) (shapingApplied : Bool) : List Bytes :=
  (if shapingApplied then ascii "shaping: applied" else ascii "shaping: not applied") ::
    directionLines (ascii "outbound") profile.outbound ++ directionLines (ascii "inbound") profile.inbound

/-- The lines of a status between the first and the last one. -/
def statusInner (workloadPid : Int) (shown : List Bytes) (complete : Bool) (profile : NetworkProfile)
    (stopping shapingApplied : Bool) : List Bytes :=
  stateLine stopping :: pidLine workloadPid :: contentLines shown ++
    (if complete then [] else [truncatedLine]) ++ profileLines profile shapingApplied

/-- The text behind the arguments, whose length limits them. -/
def statusTail (profile : NetworkProfile) (shapingApplied : Bool) : Bytes :=
  encodeLines (profileLines profile shapingApplied ++ [statusEnd])

theorem directionStatus_eq (name : Bytes) (settings : DirectionSettings) :
    directionStatus name settings = encodeLines (directionLines name settings) := by
  have hdelay : ascii ":\n  delay: " = ascii ":" ++ newline :: ascii "  delay: " := rfl
  have hjitter : ascii " ms\n  jitter: " = ascii " ms" ++ newline :: ascii "  jitter: " := rfl
  have hloss : ascii " ms\n  packet loss: " = ascii " ms" ++ newline :: ascii "  packet loss: " := rfl
  have hbandwidth : ascii "%\n  bandwidth: " = ascii "%" ++ newline :: ascii "  bandwidth: " := rfl
  have hkbps : ascii " kbps\n" = ascii " kbps" ++ [newline] := rfl
  have hunlimited : ascii "unlimited\n" = ascii "unlimited" ++ [newline] := rfl
  unfold directionStatus directionLines
  rw [hdelay, hjitter, hloss, hbandwidth, hkbps, hunlimited]
  cases settings.bandwidthKbps <;> simp

theorem statusTail_eq (profile : NetworkProfile) (shapingApplied : Bool) :
    statusTail profile shapingApplied = ascii "shaping: "
      ++ (if shapingApplied then ascii "applied\n" else ascii "not applied\n")
      ++ directionStatus (ascii "outbound") profile.outbound
      ++ directionStatus (ascii "inbound") profile.inbound ++ ascii "STATUS_END\n" := by
  have happlied : ascii "shaping: " ++ ascii "applied\n" = ascii "shaping: applied" ++ [newline] := rfl
  have hnot : ascii "shaping: " ++ ascii "not applied\n" = ascii "shaping: not applied" ++ [newline] := rfl
  have hend : ascii "STATUS_END\n" = statusEnd ++ [newline] := rfl
  rw [directionStatus_eq, directionStatus_eq, hend, statusTail, profileLines]
  cases shapingApplied
  · rw [if_neg (by decide), if_neg (by decide), hnot]
    simp
  · rw [if_pos rfl, if_pos rfl, happlied]
    simp

/-- What `std::ostream << double` is documented to write: a short text that can be printed. -/
def StreamsNumerals : Prop :=
  ∀ value, (∀ byte ∈ DecimalText.streamText value, IsPrintable byte) ∧ (DecimalText.streamText value).length ≤ 64

/-- A line of a status between the first and the last one. -/
structure InnerLine (line : Bytes) : Prop where
  printable : ∀ byte ∈ line, IsPrintable byte
  begins : line.head? ≠ statusEnd.head?

end Lines

section Inner

variable {line start rest : Bytes} {shown : List Bytes}

theorem isPrintable_of_isDigit {byte : UInt8} (h : isDigit byte = true) : IsPrintable byte := by
  obtain ⟨hlow, hhigh⟩ := of_decide_eq_true h
  refine ⟨UInt8.le_trans (show (32 : UInt8) ≤ 48 by decide) hlow, ?_⟩
  rintro rfl
  exact absurd hhigh (by decide)

theorem decimalText_printable (value : Nat) : ∀ byte ∈ decimalText value, IsPrintable byte :=
  fun _ hbyte => isPrintable_of_isDigit (isDigit_of_mem_decimalText hbyte)

theorem decimalTextInt_printable (value : Int) : ∀ byte ∈ decimalTextInt value, IsPrintable byte := by
  unfold decimalTextInt
  split
  · exact List.forall_mem_cons.mpr ⟨by decide, decimalText_printable _⟩
  · exact decimalText_printable _

theorem length_decimalTextInt_le {value : Int} {width : Nat} (hwidth : 0 < width) (h : value.natAbs < 10 ^ width) :
    (decimalTextInt value).length ≤ width + 1 := by
  unfold decimalTextInt
  split
  · exact Nat.succ_le_succ (length_decimalText hwidth h)
  · rw [← Int.natAbs_of_nonneg (show 0 ≤ value by omega), Int.toNat_natCast]
    exact (length_decimalText hwidth h).trans (Nat.le_succ _)

/-- A line that begins with a text of its own. -/
theorem innerLine_append (hstart : start ≠ []) (hbegins : start.head? ≠ statusEnd.head?)
    (hprintable : ∀ byte ∈ start, IsPrintable byte) (hrest : ∀ byte ∈ rest, IsPrintable byte) :
    InnerLine (start ++ rest) where
  printable := List.forall_mem_append.mpr ⟨hprintable, hrest⟩
  begins := by rwa [List.head?_append_of_ne_nil _ hstart]

theorem InnerLine.single (h : InnerLine line) : newline ∉ line :=
  fun hmem => absurd (h.printable newline hmem).1 (by decide)

theorem InnerLine.ne (h : InnerLine line) {other : Bytes} (hother : other.head? = statusEnd.head?) : line ≠ other := by
  rintro rfl
  exact h.begins hother

theorem innerLine_argument (index : Nat) (argument : Bytes) : InnerLine (argumentLabel index ++ escaped argument) := by
  rw [argumentLabel, List.append_assoc, List.append_assoc]
  refine innerLine_append (by decide) (by decide) (by decide) ?_
  rw [List.forall_mem_append, List.forall_mem_append]
  exact ⟨decimalText_printable _, by decide, isPrintable_escaped⟩

theorem innerLine_argumentLines (index : Nat) (shown : List Bytes) : ∀ line ∈ argumentLines index shown, InnerLine line := by
  induction shown generalizing index with
  | nil => exact fun _ hmem => nomatch hmem
  | cons argument shown ih => exact List.forall_mem_cons.mpr ⟨innerLine_argument index argument, ih (index + 1)⟩

theorem innerLine_contentLines : ∀ line ∈ contentLines shown, InnerLine line :=
  List.forall_mem_cons.mpr
    ⟨innerLine_append (by decide) (by decide) (by decide) isPrintable_escaped, innerLine_argumentLines 0 _⟩

theorem innerLine_pidLine (workloadPid : Int) : InnerLine (pidLine workloadPid) :=
  innerLine_append (by decide) (by decide) (by decide) (decimalTextInt_printable _)

theorem innerLine_stateLine (stopping : Bool) : InnerLine (stateLine stopping) := by
  cases stopping <;> exact ⟨by decide, by decide⟩

variable [DecimalText]

/-- The lines of a direction, printable and bounded. -/
theorem directionLines_spec (hstream : StreamsNumerals) {name : Bytes} (hname : name ≠ [])
    (hbegins : name.head? ≠ statusEnd.head?) (hprintable : ∀ byte ∈ name, IsPrintable byte) (hlength : name.length ≤ 8)
    (settings : DirectionSettings) : ∀ line ∈ directionLines name settings, InnerLine line ∧ line.length ≤ 96 := by
  have hmilliseconds : ∀ (start : Bytes) (value : Int64), start ≠ [] → start.head? ≠ statusEnd.head? →
      (∀ byte ∈ start, IsPrintable byte) → start.length ≤ 12 →
      InnerLine (start ++ decimalTextInt value.toInt ++ ascii " ms") ∧
        (start ++ decimalTextInt value.toInt ++ ascii " ms").length ≤ 96 := by
    intro start value hne hhead hstart hshort
    have hvalue : value.toInt.natAbs < 10 ^ 19 := by
      have hminimum := value.le_toInt
      have hmaximum := value.toInt_lt
      omega
    have hnumeral := length_decimalTextInt_le (by decide) hvalue
    refine ⟨?_, ?_⟩
    · rw [List.append_assoc]
      refine innerLine_append hne hhead hstart (List.forall_mem_append.mpr ⟨decimalTextInt_printable _, by decide⟩)
    · rw [List.length_append, List.length_append, show (ascii " ms").length = 3 from rfl]
      omega
  have hpercent := hstream settings.packetLossPercent
  rw [directionLines]
  simp only [List.forall_mem_cons]
  refine ⟨⟨?_, ?_⟩, hmilliseconds _ _ (by decide) (by decide) (by decide) (by decide),
    hmilliseconds _ _ (by decide) (by decide) (by decide) (by decide), ⟨?_, ?_⟩, ⟨?_, ?_⟩, fun _ hmem => nomatch hmem⟩
  · exact innerLine_append hname hbegins hprintable (by decide)
  · rw [List.length_append, show (ascii ":").length = 1 from rfl]
    omega
  · rw [List.append_assoc]
    exact innerLine_append (by decide) (by decide) (by decide) (List.forall_mem_append.mpr ⟨hpercent.1, by decide⟩)
  · rw [List.length_append, List.length_append, show (ascii "  packet loss: ").length = 15 from rfl,
      show (ascii "%").length = 1 from rfl]
    omega
  · refine innerLine_append (by decide) (by decide) (by decide) ?_
    cases settings.bandwidthKbps with
    | none => decide
    | some kbps => exact List.forall_mem_append.mpr ⟨decimalText_printable _, by decide⟩
  · rw [List.length_append, show (ascii "  bandwidth: ").length = 13 from rfl]
    cases settings.bandwidthKbps with
    | none => decide
    | some kbps =>
        have hnumeral := length_decimalText (by decide : 0 < 20) (kbps.toNat_lt.trans (by decide : 2 ^ 64 < 10 ^ 20))
        dsimp only
        rw [List.length_append, show (ascii " kbps").length = 5 from rfl]
        omega

theorem profileLines_spec (hstream : StreamsNumerals) (profile : NetworkProfile) (shapingApplied : Bool) :
    ∀ line ∈ profileLines profile shapingApplied, InnerLine line ∧ line.length ≤ 96 := by
  have hdirection : ∀ name ∈ [ascii "outbound", ascii "inbound"], ∀ settings,
      ∀ line ∈ directionLines name settings, InnerLine line ∧ line.length ≤ 96 := by
    intro name hname settings
    have hspec : name ≠ [] ∧ name.head? ≠ statusEnd.head? ∧ (∀ byte ∈ name, IsPrintable byte) ∧ name.length ≤ 8 := by
      revert name
      decide
    exact directionLines_spec hstream hspec.1 hspec.2.1 hspec.2.2.1 hspec.2.2.2 settings
  rw [profileLines, List.cons_append, List.forall_mem_cons, List.forall_mem_append]
  refine ⟨?_, hdirection _ (by simp) _, hdirection _ (by simp) _⟩
  cases shapingApplied <;> exact ⟨⟨by decide, by decide⟩, by decide⟩

theorem length_statusTail_le (hstream : StreamsNumerals) (profile : NetworkProfile) (shapingApplied : Bool) :
    (statusTail profile shapingApplied).length ≤ 1164 := by
  have hlines : ∀ line ∈ profileLines profile shapingApplied ++ [statusEnd], line.length ≤ 96 := by
    rw [List.forall_mem_append, List.forall_mem_singleton]
    exact ⟨fun line hline => (profileLines_spec hstream profile shapingApplied line hline).2, by decide⟩
  have hcount : (profileLines profile shapingApplied ++ [statusEnd]).length = 12 := by
    simp [profileLines, directionLines]
  have hlength : (statusTail profile shapingApplied).length ≤ _ := length_encodeMarked_le hlines
  rw [hcount] at hlength
  exact hlength

/-- The text before what is shown of the program. -/
def statusHeader (workloadPid : Int) (stopping : Bool) : Bytes :=
  encodeLines [statusBegin, stateLine stopping, pidLine workloadPid] ++ programPrefix

omit [DecimalText] in
theorem statusHeader_eq (workloadPid : Int) (stopping : Bool) :
    ascii "STATUS_BEGIN\nstate: " ++ (if stopping then ascii "stopping" else ascii "running")
      ++ ascii "\npid: " ++ decimalTextInt workloadPid ++ ascii "\nprogram: " = statusHeader workloadPid stopping := by
  have hbegin : ascii "STATUS_BEGIN\nstate: " = statusBegin ++ newline :: ascii "state: " := rfl
  have hpid : ascii "\npid: " = newline :: ascii "pid: " := rfl
  have hprogram : ascii "\nprogram: " = newline :: programPrefix := rfl
  have hstopping : ascii "state: stopping" = ascii "state: " ++ ascii "stopping" := rfl
  have hrunning : ascii "state: running" = ascii "state: " ++ ascii "running" := rfl
  rw [hbegin, hpid, hprogram, statusHeader, stateLine, pidLine, hstopping, hrunning]
  cases stopping <;> simp

omit [DecimalText] in
theorem length_statusHeader_le {workloadPid : Int} (hpid : workloadPid.natAbs < 10 ^ 10) (stopping : Bool) :
    (statusHeader workloadPid stopping).length ≤ 64 := by
  have hnumeral := length_decimalTextInt_le (by decide) hpid
  have hstate : (stateLine stopping).length ≤ 15 := by cases stopping <;> decide
  simp only [statusHeader, encodeMarked_cons, encodeMarked_nil, pidLine, List.length_append, List.length_cons,
    List.length_nil, show statusBegin.length = 12 from rfl, show programPrefix.length = 9 from rfl,
    show (ascii "pid: ").length = 5 from rfl]
  omega

omit [DecimalText] in
/-- What stands before the tail: the program and its arguments as far as there is room. -/
theorem content_spec {header : Bytes} {limit : Nat} (program : Bytes) (arguments : List Bytes)
    (hroom : header.length ≤ limit - 1) (hlimit : 0 < limit) :
    ∃ first rest complete, Shown (program :: arguments) (first :: rest) complete ∧
      (if (appendEscapedLimited (limit - 1) header program).2 then
        appendArguments limit ((appendEscapedLimited (limit - 1) header program).1 ++ [newline]) 0 arguments
        else ((appendEscapedLimited (limit - 1) header program).1 ++ [newline], false)) =
        (header ++ escaped first ++ newline :: encodeLines (argumentLines 0 rest), complete) ∧
      (header ++ escaped first ++ newline :: encodeLines (argumentLines 0 rest)).length ≤ limit := by
  obtain ⟨part, hpart, heq, hlength, hall, hcut⟩ := appendEscapedLimited_spec program hroom
  have hline : (header ++ escaped part ++ [newline]).length ≤ limit := by
    rw [List.length_append, List.length_singleton]
    omega
  have hjoin : ∀ rest, header ++ escaped part ++ [newline] ++ encodeLines (argumentLines 0 rest) =
      header ++ escaped part ++ newline :: encodeLines (argumentLines 0 rest) := fun rest => by simp
  rw [heq]
  cases hcomplete : (appendEscapedLimited (limit - 1) header program).2 with
  | true =>
      obtain rfl := hall hcomplete
      obtain ⟨rest, hshown, hmore, hbound⟩ := appendArguments_spec 0 arguments hline
      refine ⟨part, rest, _, hshown.cons part, ?_, hjoin rest ▸ hbound⟩
      exact Prod.ext (hmore.trans (hjoin rest)) rfl
  | false =>
      exact ⟨part, [], false, .cut [] arguments hpart (hcut hcomplete), rfl, hline⟩

/-- The status as lines, with what is shown of the arguments. -/
theorem buildStatus_eq (hstream : StreamsNumerals) {workloadPid : Int} (hpid : workloadPid.natAbs < 10 ^ 10)
    (program : Bytes) (arguments : List Bytes) (profile : NetworkProfile) (stopping shapingApplied : Bool) :
    ∃ first rest complete, Shown (program :: arguments) (first :: rest) complete ∧
      buildStatus workloadPid (program :: arguments) profile stopping shapingApplied = encodeLines
        (statusBegin :: statusInner workloadPid (first :: rest) complete profile stopping shapingApplied ++ [statusEnd]) ∧
      (buildStatus workloadPid (program :: arguments) profile stopping shapingApplied).length ≤ maximumStatusSize := by
  have htail := length_statusTail_le hstream profile shapingApplied
  have hheader := length_statusHeader_le hpid stopping
  have hnotice : ascii "arguments: truncated\n" = encodeLines [truncatedLine] := rfl
  have hroom : (statusHeader workloadPid stopping).length ≤
      maximumStatusSize - (statusTail profile shapingApplied).length - (encodeLines [truncatedLine]).length - 1 := by
    rw [show (encodeLines [truncatedLine]).length = 21 from rfl, maximumStatusSize]
    omega
  have hlimit : 0 < maximumStatusSize - (statusTail profile shapingApplied).length -
      (encodeLines [truncatedLine]).length := by
    rw [show (encodeLines [truncatedLine]).length = 21 from rfl, maximumStatusSize]
    omega
  obtain ⟨first, rest, complete, hshown, hcontent, hlength⟩ := content_spec program arguments hroom hlimit
  have htext : buildStatus workloadPid (program :: arguments) profile stopping shapingApplied =
      statusHeader workloadPid stopping ++ escaped first ++ newline :: encodeLines (argumentLines 0 rest) ++
        (if complete then [] else encodeLines [truncatedLine]) ++ statusTail profile shapingApplied := by
    unfold buildStatus
    dsimp only
    rw [← statusTail_eq, statusHeader_eq, hnotice, List.headD_cons, List.tail_cons, hcontent]
  refine ⟨first, rest, complete, hshown, ?_, ?_⟩
  · rw [htext]
    cases complete <;> simp [statusHeader, statusTail, statusInner, contentLines]
  · have hended : (if complete then [] else encodeLines [truncatedLine]).length ≤ (encodeLines [truncatedLine]).length := by
      cases complete <;> simp
    rw [htext, List.length_append, List.length_append]
    omega

theorem innerLine_statusInner (hstream : StreamsNumerals) (workloadPid : Int) (shown : List Bytes) (complete : Bool)
    (profile : NetworkProfile) (stopping shapingApplied : Bool) :
    ∀ line ∈ statusInner workloadPid shown complete profile stopping shapingApplied, InnerLine line := by
  rw [statusInner, List.forall_mem_append, List.cons_append, List.cons_append, List.forall_mem_cons,
    List.forall_mem_cons, List.forall_mem_append]
  refine ⟨⟨innerLine_stateLine stopping, innerLine_pidLine workloadPid, innerLine_contentLines, ?_⟩,
    fun line hline => (profileLines_spec hstream profile shapingApplied line hline).1⟩
  cases complete
  · exact List.forall_mem_singleton.mpr ⟨by decide, by decide⟩
  · exact fun _ hmem => nomatch hmem

end Inner

/-! ### Reading the arguments back -/

/-- The arguments on their lines from an index on, and the lines behind them. -/
def readArguments : Nat → List Bytes → List Bytes × List Bytes
  | _, [] => ([], [])
  | index, line :: lines =>
      if (argumentLabel index).isPrefixOf line then
        (unescape (line.drop (argumentLabel index).length) :: (readArguments (index + 1) lines).1,
          (readArguments (index + 1) lines).2)
      else ([], line :: lines)

/-- The arguments that a status shows, and whether it says that there is more. -/
def readStatus (text : Bytes) : List Bytes × Bool :=
  match (splitLines text).1.drop 3 with
  | [] => ([], false)
  | program :: lines =>
      (unescape (program.drop programPrefix.length) :: (readArguments 0 lines).1,
        decide ((readArguments 0 lines).2.head? = some truncatedLine))

section Read

theorem readArguments_lines (index : Nat) (shown : List Bytes) {line : Bytes} {lines : List Bytes}
    (h : (ascii "argument[").isPrefixOf line = false) :
    readArguments index (argumentLines index shown ++ line :: lines) = (shown, line :: lines) := by
  induction shown generalizing index with
  | nil =>
      have hother : ¬ (argumentLabel index).isPrefixOf line = true := by
        intro hprefix
        rw [List.isPrefixOf_iff_prefix, argumentLabel, List.append_assoc] at hprefix
        have hstart := (List.prefix_append (ascii "argument[") _).trans hprefix
        rw [← List.isPrefixOf_iff_prefix, h] at hstart
        exact nomatch hstart
      rw [argumentLines, List.nil_append, readArguments, if_neg hother]
  | cons argument shown ih =>
      have hown : (argumentLabel index).isPrefixOf (argumentLabel index ++ escaped argument) = true :=
        List.isPrefixOf_iff_prefix.mpr (List.prefix_append _ _)
      rw [argumentLines, List.cons_append, readArguments, if_pos hown, ih, List.drop_left, unescape_escaped]

variable [DecimalText]

/-- The lines behind the arguments begin with one that is no argument, and tell whether there is more. -/
theorem exists_behind (complete : Bool) (profile : NetworkProfile) (shapingApplied : Bool) :
    ∃ line lines, (if complete then [] else [truncatedLine]) ++ (profileLines profile shapingApplied ++ [statusEnd]) =
      line :: lines ∧ (ascii "argument[").isPrefixOf line = false ∧
      decide (some line = some truncatedLine) = !complete := by
  cases complete
  · exact ⟨truncatedLine, _, rfl, by decide, by decide⟩
  · cases shapingApplied
    · exact ⟨ascii "shaping: not applied", _, rfl, by decide, by decide⟩
    · exact ⟨ascii "shaping: applied", _, rfl, by decide, by decide⟩

/-- The arguments of a status are read back. -/
theorem readStatus_lines (hstream : StreamsNumerals) (workloadPid : Int) (first : Bytes) (rest : List Bytes)
    (complete : Bool) (profile : NetworkProfile) (stopping shapingApplied : Bool) :
    readStatus (encodeLines (statusBegin ::
      statusInner workloadPid (first :: rest) complete profile stopping shapingApplied ++ [statusEnd])) =
      (first :: rest, !complete) := by
  have hinner := innerLine_statusInner hstream workloadPid (first :: rest) complete profile stopping shapingApplied
  have hsingle : ∀ line ∈ statusBegin :: statusInner workloadPid (first :: rest) complete profile stopping
      shapingApplied ++ [statusEnd], newline ∉ line := by
    rw [List.cons_append, List.forall_mem_cons, List.forall_mem_append, List.forall_mem_singleton]
    exact ⟨by decide, fun line hline => (hinner line hline).single, by decide⟩
  have hsplit := splitAtMark_encodeMarked_append hsingle []
  rw [List.append_nil] at hsplit
  obtain ⟨line, lines, hbehind, hother, hflag⟩ := exists_behind complete profile shapingApplied
  have hdrop : (splitLines (encodeLines (statusBegin ::
      statusInner workloadPid (first :: rest) complete profile stopping shapingApplied ++ [statusEnd]))).1.drop 3 =
      (programPrefix ++ escaped first) :: (argumentLines 0 rest ++ line :: lines) := by
    rw [show splitLines _ = _ from hsplit, ← hbehind]
    simp [statusInner, contentLines]
  rw [readStatus, hdrop]
  dsimp only
  rw [readArguments_lines 0 rest hother, List.drop_left, unescape_escaped, List.head?_cons, hflag]

/-- A status of any arguments is bounded and made of printable lines, of which only the last one ends it. Each argument
that is shown has its own line, and is read back; behind the notice, only the last one can be a part. -/
theorem buildStatus_unforgeable (hstream : StreamsNumerals) {workloadPid : Int}
    (hpid : -2 ^ 31 ≤ workloadPid ∧ workloadPid < 2 ^ 31) (program : Bytes) (arguments : List Bytes)
    (profile : NetworkProfile) (stopping shapingApplied : Bool) :
    (buildStatus workloadPid (program :: arguments) profile stopping shapingApplied).length ≤ 8192 ∧
    (statusTail profile shapingApplied).length + (ascii "arguments: truncated\n").length < maximumStatusSize ∧
    ∃ shown complete, Shown (program :: arguments) shown complete ∧
      buildStatus workloadPid (program :: arguments) profile stopping shapingApplied = encodeLines
        (statusBegin :: statusInner workloadPid shown complete profile stopping shapingApplied ++ [statusEnd]) ∧
      (∀ line ∈ statusInner workloadPid shown complete profile stopping shapingApplied,
        (∀ byte ∈ line, IsPrintable byte) ∧ line ≠ statusBegin ∧ line ≠ statusEnd) ∧
      (contentLines shown).length = shown.length ∧
      readStatus (buildStatus workloadPid (program :: arguments) profile stopping shapingApplied) =
        (shown, !complete) := by
  obtain ⟨first, rest, complete, hshown, htext, hlength⟩ :=
    buildStatus_eq hstream (show workloadPid.natAbs < 10 ^ 10 by omega) program arguments profile stopping shapingApplied
  have htail := length_statusTail_le hstream profile shapingApplied
  have hinner := innerLine_statusInner hstream workloadPid (first :: rest) complete profile stopping shapingApplied
  refine ⟨hlength, ?_, first :: rest, complete, hshown, htext, fun line hline => ?_, ?_, ?_⟩
  · rw [show (ascii "arguments: truncated\n").length = 21 from rfl, maximumStatusSize]
    omega
  · exact ⟨(hinner line hline).printable, (hinner line hline).ne rfl, (hinner line hline).ne rfl⟩
  · have hcount : ∀ index (shown : List Bytes), (argumentLines index shown).length = shown.length := by
      intro index shown
      induction shown generalizing index with
      | nil => rfl
      | cons argument shown ih => rw [argumentLines, List.length_cons, List.length_cons, ih]
    rw [contentLines, List.length_cons, List.tail_cons, hcount, List.length_cons]
  · rw [htext]
    exact readStatus_lines hstream workloadPid first rest complete profile stopping shapingApplied

end Read

section Sample

attribute [local instance] bitPatternText

theorem streamsNumerals_bitPattern : StreamsNumerals := by
  intro value
  have hlength := length_decimalText (by decide : 0 < 20) (value.bits.isLt.trans (by decide : 2 ^ 64 < 10 ^ 20))
  exact ⟨decimalText_printable _, hlength.trans (by decide)⟩

/-- A Workload whose argument looks like the end of a status. -/
def forgingArguments : List Bytes := [ascii "sh", ascii "-c\nSTATUS_END\nDETACHED\n", []]

theorem buildStatus_unforgeable_forging :
    (buildStatus 41 forgingArguments {} false true).length ≤ 8192 ∧
    readStatus (buildStatus 41 forgingArguments {} false true) = (forgingArguments, false) :=
  ⟨(buildStatus_unforgeable streamsNumerals_bitPattern (by decide) (ascii "sh")
    [ascii "-c\nSTATUS_END\nDETACHED\n", []] {} false true).1, by decide +kernel⟩

end Sample

end NetLagLab
