import NetLagLab.ByteLines

/-! What a Workload is started with, and the block of lines that carries it to the helper: a working directory,
arguments and environment entries, each in hexadecimal on a line of its own. -/

namespace NetLagLab

open ByteLines

structure WorkloadContext where
  workingDirectory : Bytes := []
  arguments : List Bytes := []
  environment : List Bytes := []
  deriving DecidableEq

def maximumContextValueSize : Nat := 128 * 1024

def maximumContextTotalSize : Nat := 1024 * 1024

def maximumContextEntryCount : Nat := 4096

/-! ### Hexadecimal values -/

def containsNul (value : Bytes) : Bool := value.contains 0

/-- The total with a value of that size and its terminating NUL, while it is in bounds. -/
def addSize (total valueSize : Nat) : Option Nat :=
  if maximumContextValueSize < valueSize ∨ valueSize = 2 ^ 64 - 1
      ∨ maximumContextTotalSize - (valueSize + 1) < total then none
  else some (total + (valueSize + 1))

def hexDigits : Bytes := ascii "0123456789ABCDEF"

def encodeHex : Bytes → Bytes
  | [] => []
  | byte :: value => hexDigits.getD (byte >>> 4).toNat 0 :: hexDigits.getD (byte &&& 15).toNat 0 :: encodeHex value

def decodeNibble (character : UInt8) : Option UInt8 :=
  if 48 ≤ character ∧ character ≤ 57 then some (character - 48)
  else if 65 ≤ character ∧ character ≤ 70 then some (character - 65 + 10)
  else none

/-- Two digits for every byte, none of which is NUL. -/
def decodePairs : Bytes → Option Bytes
  | high :: low :: encoded =>
      match decodeNibble high, decodeNibble low with
      | some high, some low =>
          let value := high <<< 4 ||| low
          if value = 0 then none else (decodePairs encoded).map (value :: ·)
      | _, _ => none
  | _ => some []

def decodeHex (encoded : Bytes) : Option Bytes :=
  if encoded.length % 2 ≠ 0 ∨ maximumContextValueSize < encoded.length / 2 then none else decodePairs encoded

/-! ### Serialization -/

def startBeginLine : Bytes := ascii "START_BEGIN"

def startEndLine : Bytes := ascii "START_END"

def workingDirectoryPrefix : Bytes := ascii "CWD "

def argumentPrefix : Bytes := ascii "ARG "

def environmentPrefix : Bytes := ascii "ENV "

/-- The block with one more line, and the total with its value. -/
def appendEncodedLine (block start value : Bytes) (total : Nat) : Option (Bytes × Nat) :=
  if containsNul value = true then none
  else (addSize total value.length).map fun total => (block ++ start ++ encodeHex value ++ [newline], total)

def appendEncodedLines (start : Bytes) : Bytes × Nat → List Bytes → Option (Bytes × Nat)
  | state, [] => some state
  | (block, total), value :: values =>
      match appendEncodedLine block start value total with
      | none => none
      | some state => appendEncodedLines start state values

def serializeStartBlock (context : WorkloadContext) : Option Bytes :=
  if context.workingDirectory.head? ≠ some 47 ∨ context.arguments = []
      ∨ maximumContextEntryCount < context.arguments.length
      ∨ maximumContextEntryCount < context.environment.length then none
  else do
    let state ← appendEncodedLine (startBeginLine ++ [newline]) workingDirectoryPrefix context.workingDirectory 0
    let state ← appendEncodedLines argumentPrefix state context.arguments
    let (block, _) ← appendEncodedLines environmentPrefix state context.environment
    return block ++ startEndLine ++ [newline]

/-! ### Parsing -/

/-- The value of a line that starts with the prefix, and the total with it. -/
def takeValue (line start : Bytes) (total : Nat) : Option (Bytes × Nat) :=
  if start.isPrefixOf line = false then none
  else
    match decodeHex (line.drop start.length) with
    | none => none
    | some value => (addSize total value.length).map fun total => (value, total)

/-- The values of the lines that start with the prefix, behind those taken before, with the total and the lines
that are left. -/
def takeEntries (start : Bytes) : List Bytes → Nat → List Bytes → Option (List Bytes × Nat × List Bytes)
  | entries, total, [] => some (entries, total, [])
  | entries, total, line :: lines =>
      if start.isPrefixOf line = false then some (entries, total, line :: lines)
      else if entries.length = maximumContextEntryCount then none
      else
        match takeValue line start total with
        | none => none
        | some (value, total) => takeEntries start (entries ++ [value]) total lines

def parseStartBlock (lines : List Bytes) : Option WorkloadContext :=
  if lines.length < 4 ∨ lines.head? ≠ some startBeginLine ∨ lines.getLast? ≠ some startEndLine then none
  else
    -- the lines between the first and the last
    match lines.tail.dropLast with
    | [] => none
    | first :: lines =>
        match takeValue first workingDirectoryPrefix 0 with
        | none => none
        | some (workingDirectory, total) =>
            if workingDirectory.head? ≠ some 47 then none
            else
              match takeEntries argumentPrefix [] total lines with
              | none => none
              | some (arguments, total, lines) =>
                  if arguments = [] then none
                  else
                    match takeEntries environmentPrefix [] total lines with
                    | some (environment, _, []) => some { workingDirectory, arguments, environment }
                    | _ => none

/-! ### Digits and bytes -/

/-- The digits of a byte are read back as its halves, which make it up. -/
theorem decodeNibble_digits (byte : UInt8) :
    decodeNibble (hexDigits.getD (byte >>> 4).toNat 0) = some (byte >>> 4) ∧
      decodeNibble (hexDigits.getD (byte &&& 15).toNat 0) = some (byte &&& 15) ∧
      (byte >>> 4) <<< 4 ||| (byte &&& 15) = byte := by
  revert byte
  exact forall_byte (by decide +kernel)

/-- A digit is the only spelling of its value. -/
theorem digit_of_decodeNibble {character : UInt8} : ∀ {nibble : UInt8}, decodeNibble character = some nibble →
    nibble < 16 ∧ hexDigits.getD nibble.toNat 0 = character := by
  revert character
  have hdigits : ∀ character : UInt8, (decodeNibble character).all fun nibble =>
      decide (nibble < 16 ∧ hexDigits.getD nibble.toNat 0 = character) := forall_byte (by decide +kernel)
  intro character nibble h
  have hdigit := hdigits character
  rw [h] at hdigit
  exact of_decide_eq_true hdigit

theorem halves_of_nibbles {high low : UInt8} (hhigh : high < 16) (hlow : low < 16) :
    (high <<< 4 ||| low) >>> 4 = high ∧ (high <<< 4 ||| low) &&& 15 = low := by
  have hall : ∀ high < 16, ∀ low < 16, (UInt8.ofNat high <<< 4 ||| UInt8.ofNat low) >>> 4 = UInt8.ofNat high ∧
      (UInt8.ofNat high <<< 4 ||| UInt8.ofNat low) &&& 15 = UInt8.ofNat low := by decide
  have hvalue := hall high.toNat (UInt8.lt_iff_toNat_lt.mp hhigh) low.toNat (UInt8.lt_iff_toNat_lt.mp hlow)
  rwa [UInt8.ofNat_toNat, UInt8.ofNat_toNat] at hvalue

@[simp] theorem length_encodeHex (value : Bytes) : (encodeHex value).length = 2 * value.length := by
  induction value with
  | nil => rfl
  | cons byte value ih =>
      rw [encodeHex, List.length_cons, List.length_cons, ih, List.length_cons]
      omega

theorem decodePairs_encodeHex {value : Bytes} (h : 0 ∉ value) : decodePairs (encodeHex value) = some value := by
  induction value with
  | nil => rfl
  | cons byte value ih =>
      rw [List.mem_cons, not_or] at h
      obtain ⟨hhigh, hlow, hbyte⟩ := decodeNibble_digits byte
      rw [encodeHex, decodePairs, hhigh, hlow]
      dsimp only
      rw [hbyte, if_neg (Ne.symm h.1), ih h.2]
      rfl

/-- What is decoded is encoded as it was, and holds no NUL. -/
theorem encodeHex_of_decodePairs {encoded value : Bytes} (heven : encoded.length % 2 = 0)
    (h : decodePairs encoded = some value) : encoded = encodeHex value ∧ 0 ∉ value := by
  induction encoded using decodePairs.induct generalizing value with
  | case1 high low encoded highNibble lowNibble hlow hhigh byte =>
      rename_i hzero
      rw [decodePairs, hhigh, hlow] at h
      exact nomatch (if_pos hzero).symm.trans h
  | case2 high low encoded highNibble lowNibble hlow hhigh byte hzero =>
      rename_i ih
      rw [decodePairs, hhigh, hlow] at h
      dsimp only at h
      rw [if_neg hzero] at h
      obtain ⟨rest, hrest, rfl⟩ := Option.map_eq_some_iff.mp h
      obtain ⟨rfl, hnul⟩ := ih (by rw [List.length_cons, List.length_cons] at heven; omega) hrest
      obtain ⟨hhighBound, hhighDigit⟩ := digit_of_decodeNibble hhigh
      obtain ⟨hlowBound, hlowDigit⟩ := digit_of_decodeNibble hlow
      obtain ⟨hfirst, hsecond⟩ := halves_of_nibbles hhighBound hlowBound
      refine ⟨?_, ?_⟩
      · rw [encodeHex, hfirst, hsecond, hhighDigit, hlowDigit]
      · rw [List.mem_cons, not_or]
        exact ⟨Ne.symm hzero, hnul⟩
  | case3 high low encoded hnone =>
      rw [decodePairs] at h
      split at h
      · exact (hnone _ _ ‹_› ‹_›).elim
      · exact nomatch h
  | case4 encoded hshort =>
      cases encoded with
      | nil =>
          obtain rfl := Option.some.inj h
          exact ⟨rfl, List.not_mem_nil⟩
      | cons high encoded =>
          cases encoded with
          | nil => exact nomatch heven
          | cons low encoded => exact (hshort high low encoded rfl).elim

/-! ### Which contexts are written -/

namespace WorkloadContext

/-- Everything that has a line in the block. -/
def values (context : WorkloadContext) : List Bytes :=
  context.workingDirectory :: context.arguments ++ context.environment

end WorkloadContext

/-- The size of values with their terminating NULs. -/
def contextSize (values : List Bytes) : Nat := (values.map fun value => value.length + 1).sum

/-- A value that a line can carry. -/
def Carried (value : Bytes) : Prop := 0 ∉ value ∧ value.length ≤ maximumContextValueSize

theorem decodeHex_eq_some_iff {encoded value : Bytes} :
    decodeHex encoded = some value ↔ Carried value ∧ encoded = encodeHex value := by
  unfold decodeHex
  constructor
  · intro h
    rw [Option.ite_none_left_eq_some, not_or, not_not, Nat.not_lt] at h
    obtain ⟨⟨heven, hbound⟩, hdecoded⟩ := h
    obtain ⟨rfl, hnul⟩ := encodeHex_of_decodePairs heven hdecoded
    rw [length_encodeHex] at hbound
    exact ⟨⟨hnul, by omega⟩, rfl⟩
  · rintro ⟨⟨hnul, hbound⟩, rfl⟩
    rw [length_encodeHex, if_neg (by omega)]
    exact decodePairs_encodeHex hnul

/-- A context that a Workload can be started with. -/
structure WorkloadContext.Startable (context : WorkloadContext) : Prop where
  absolute : context.workingDirectory.head? = some 47
  arguments : 1 ≤ context.arguments.length ∧ context.arguments.length ≤ maximumContextEntryCount
  environment : context.environment.length ≤ maximumContextEntryCount
  values : ∀ value ∈ context.values, Carried value
  total : contextSize context.values ≤ maximumContextTotalSize

def encodedLine (start value : Bytes) : Bytes := start ++ encodeHex value

/-- The lines between the first and the last of a block. -/
def WorkloadContext.valueLines (context : WorkloadContext) : List Bytes :=
  encodedLine workingDirectoryPrefix context.workingDirectory :: context.arguments.map (encodedLine argumentPrefix)
    ++ context.environment.map (encodedLine environmentPrefix)

def WorkloadContext.blockLines (context : WorkloadContext) : List Bytes :=
  startBeginLine :: context.valueLines ++ [startEndLine]

/-! ### What the lines of a block add up to -/

@[simp] theorem contextSize_nil : contextSize [] = 0 := rfl

@[simp] theorem contextSize_cons (value : Bytes) (values : List Bytes) :
    contextSize (value :: values) = value.length + 1 + contextSize values := by
  rw [contextSize, List.map_cons, List.sum_cons, contextSize]

theorem contextSize_append (values others : List Bytes) :
    contextSize (values ++ others) = contextSize values + contextSize others := by
  rw [contextSize, List.map_append, List.sum_append, contextSize, contextSize]

theorem addSize_eq_some_iff {total size next : Nat} :
    addSize total size = some next ↔
      size ≤ maximumContextValueSize ∧ next = total + (size + 1) ∧ next ≤ maximumContextTotalSize := by
  unfold addSize maximumContextValueSize maximumContextTotalSize
  split
  · constructor
    · exact fun h => nomatch h
    · omega
  · rw [Option.some.injEq]
    omega

theorem containsNul_eq_false_iff {value : Bytes} : containsNul value = false ↔ 0 ∉ value := by
  rw [containsNul, List.contains_eq_mem, decide_eq_false_iff_not]

theorem appendEncodedLine_eq_some_iff {block start value : Bytes} {total : Nat} {state : Bytes × Nat} :
    appendEncodedLine block start value total = some state ↔
      Carried value ∧ total + (value.length + 1) ≤ maximumContextTotalSize ∧
        state = (block ++ (encodedLine start value ++ [newline]), total + (value.length + 1)) := by
  rw [appendEncodedLine, Option.ite_none_left_eq_some, Bool.not_eq_true, containsNul_eq_false_iff,
    Option.map_eq_some_iff, Carried, encodedLine]
  constructor
  · rintro ⟨hnul, next, hadd, rfl⟩
    obtain ⟨hsize, rfl, htotal⟩ := addSize_eq_some_iff.mp hadd
    exact ⟨⟨hnul, hsize⟩, htotal, by simp only [List.append_assoc]⟩
  · rintro ⟨⟨hnul, hsize⟩, htotal, rfl⟩
    exact ⟨hnul, _, addSize_eq_some_iff.mpr ⟨hsize, rfl, htotal⟩, by simp only [List.append_assoc]⟩

/-- Values are appended as long as each can be carried and all of them fit. -/
theorem appendEncodedLines_eq_some_iff {start : Bytes} {values : List Bytes} : ∀ {block : Bytes} {total : Nat}
    {state : Bytes × Nat}, total ≤ maximumContextTotalSize → (appendEncodedLines start (block, total) values = some state ↔
      (∀ value ∈ values, Carried value) ∧ total + contextSize values ≤ maximumContextTotalSize ∧
        state = (block ++ encodeLines (values.map (encodedLine start)), total + contextSize values)) := by
  induction values with
  | nil =>
      intro block total state htotal
      simp [appendEncodedLines, htotal, eq_comm]
  | cons value values ih =>
      intro block total state htotal
      rw [appendEncodedLines, contextSize_cons, List.forall_mem_cons, List.map_cons]
      have hblock : block ++ encodeLines (encodedLine start value :: values.map (encodedLine start)) =
          block ++ (encodedLine start value ++ [newline]) ++ encodeLines (values.map (encodedLine start)) := by simp
      rw [hblock, ← Nat.add_assoc]
      constructor
      · intro h
        split at h
        · exact nomatch h
        · rename_i next hline
          obtain ⟨hcarried, hsize, rfl⟩ := appendEncodedLine_eq_some_iff.mp hline
          obtain ⟨hvalues, hsum, hstate⟩ := (ih hsize).mp h
          exact ⟨⟨hcarried, hvalues⟩, hsum, hstate⟩
      · rintro ⟨⟨hcarried, hvalues⟩, hsum, hstate⟩
        have hsize : total + (value.length + 1) ≤ maximumContextTotalSize := Nat.le_trans (Nat.le_add_right _ _) hsum
        rw [appendEncodedLine_eq_some_iff.mpr ⟨hcarried, hsize, rfl⟩]
        exact (ih hsize).mpr ⟨hvalues, hsum, hstate⟩

theorem takeValue_eq_some_iff {line start value : Bytes} {total next : Nat} :
    takeValue line start total = some (value, next) ↔ Carried value ∧ line = encodedLine start value ∧
      next = total + (value.length + 1) ∧ next ≤ maximumContextTotalSize := by
  unfold takeValue
  rw [Option.ite_none_left_eq_some, Bool.not_eq_false, List.isPrefixOf_iff_prefix]
  constructor
  · rintro ⟨⟨encoded, rfl⟩, h⟩
    rw [List.drop_left] at h
    split at h
    · exact nomatch h
    · rename_i decoded hdecoded
      obtain ⟨hcarried, rfl⟩ := decodeHex_eq_some_iff.mp hdecoded
      obtain ⟨total', hadd, hpair⟩ := Option.map_eq_some_iff.mp h
      obtain ⟨rfl, rfl⟩ := Prod.mk.inj hpair
      exact ⟨hcarried, rfl, (addSize_eq_some_iff.mp hadd).2⟩
  · rintro ⟨hcarried, rfl, hadd⟩
    refine ⟨List.prefix_append _ _, ?_⟩
    rw [encodedLine, List.drop_left, decodeHex_eq_some_iff.mpr ⟨hcarried, rfl⟩]
    exact Option.map_eq_some_iff.mpr ⟨next, addSize_eq_some_iff.mpr ⟨hcarried.2, hadd⟩, rfl⟩

theorem isPrefixOf_encodedLine (start value : Bytes) : start.isPrefixOf (encodedLine start value) = true :=
  List.isPrefixOf_iff_prefix.mpr (List.prefix_append _ _)

/-- The entries that are taken stand in a run of lines with the prefix, and no line with the prefix is left. -/
theorem takeEntries_eq_some_iff {start : Bytes} {lines : List Bytes} : ∀ {entries : List Bytes} {total : Nat}
    {found rest : List Bytes} {next : Nat}, total ≤ maximumContextTotalSize → entries.length ≤ maximumContextEntryCount →
      (takeEntries start entries total lines = some (found, next, rest) ↔
        ∃ taken, found = entries ++ taken ∧ lines = taken.map (encodedLine start) ++ rest ∧
          (∀ value ∈ taken, Carried value) ∧ found.length ≤ maximumContextEntryCount ∧
          next = total + contextSize taken ∧ next ≤ maximumContextTotalSize ∧
          ∀ line ∈ rest.head?, start.isPrefixOf line = false) := by
  induction lines with
  | nil =>
      intro entries total found rest next htotal hcount
      rw [takeEntries, Option.some.injEq]
      constructor
      · rintro ⟨⟩
        exact ⟨[], by simpa using ⟨hcount, htotal⟩⟩
      · rintro ⟨taken, rfl, hlines, -, -, rfl, -, -⟩
        obtain ⟨htaken, rfl⟩ := List.append_eq_nil_iff.mp hlines.symm
        obtain rfl := List.map_eq_nil_iff.mp htaken
        simp
  | cons line lines ih =>
      intro entries total found rest next htotal hcount
      rw [takeEntries]
      by_cases hstart : start.isPrefixOf line = false
      · rw [if_pos hstart, Option.some.injEq]
        constructor
        · rintro ⟨⟩
          exact ⟨[], by simpa using ⟨hcount, htotal, hstart⟩⟩
        · rintro ⟨taken, rfl, hlines, -, -, rfl, -, -⟩
          cases taken with
          | nil => simpa using hlines
          | cons value taken =>
              rw [List.map_cons, List.cons_append, List.cons.injEq] at hlines
              rw [hlines.1, isPrefixOf_encodedLine] at hstart
              exact nomatch hstart
      · rw [if_neg hstart, Option.ite_none_left_eq_some]
        constructor
        · rintro ⟨hroom, h⟩
          split at h
          · exact nomatch h
          · rename_i value total' hvalue
            obtain ⟨hcarried, rfl, rfl, htotal'⟩ := takeValue_eq_some_iff.mp hvalue
            have hroom' : (entries ++ [value]).length ≤ maximumContextEntryCount := by
              rw [List.length_append, List.length_singleton]
              omega
            obtain ⟨taken, rfl, rfl, hvalues, hfound, rfl, hnext, hrest⟩ := (ih htotal' hroom').mp h
            exact ⟨value :: taken, by simp, rfl, List.forall_mem_cons.mpr ⟨hcarried, hvalues⟩, hfound,
              by rw [contextSize_cons]; omega, hnext, hrest⟩
        · rintro ⟨taken, rfl, hlines, hvalues, hfound, rfl, hnext, hrest⟩
          cases taken with
          | nil =>
              rw [List.map_nil, List.nil_append] at hlines
              exact absurd (hrest line (by rw [← hlines]; rfl)) hstart
          | cons value taken =>
              rw [List.map_cons, List.cons_append, List.cons.injEq] at hlines
              obtain ⟨rfl, rfl⟩ := hlines
              obtain ⟨hcarried, hvalues⟩ := List.forall_mem_cons.mp hvalues
              rw [List.length_append, List.length_cons] at hfound
              rw [contextSize_cons, ← Nat.add_assoc] at hnext ⊢
              have htotal' : total + (value.length + 1) ≤ maximumContextTotalSize :=
                Nat.le_trans (Nat.le_add_right _ _) hnext
              have hroom' : (entries ++ [value]).length ≤ maximumContextEntryCount := by
                rw [List.length_append, List.length_singleton]
                omega
              rw [takeValue_eq_some_iff.mpr ⟨hcarried, rfl, rfl, htotal'⟩]
              refine ⟨by omega, (ih htotal' hroom').mpr ⟨taken, by simp, rfl, hvalues, ?_, rfl, hnext, hrest⟩⟩
              rw [List.length_append, List.length_cons]
              exact hfound

theorem takeEntries_nil_eq_some_iff {start : Bytes} {lines found rest : List Bytes} {total next : Nat}
    (h : total ≤ maximumContextTotalSize) :
    takeEntries start [] total lines = some (found, next, rest) ↔
      lines = found.map (encodedLine start) ++ rest ∧ (∀ value ∈ found, Carried value) ∧
        found.length ≤ maximumContextEntryCount ∧ next = total + contextSize found ∧ next ≤ maximumContextTotalSize ∧
        ∀ line ∈ rest.head?, start.isPrefixOf line = false := by
  rw [takeEntries_eq_some_iff h (Nat.zero_le _)]
  constructor
  · rintro ⟨_, rfl, htaken⟩
    exact htaken
  · exact fun hfound => ⟨found, rfl, hfound⟩

/-! ### The block and the context -/

theorem WorkloadContext.contextSize_values (context : WorkloadContext) : contextSize context.values =
    context.workingDirectory.length + 1 + contextSize context.arguments + contextSize context.environment := by
  rw [WorkloadContext.values, contextSize_append, contextSize_cons]

theorem WorkloadContext.forall_mem_values {P : Bytes → Prop} {context : WorkloadContext} :
    (∀ value ∈ context.values, P value) ↔
      P context.workingDirectory ∧ (∀ value ∈ context.arguments, P value) ∧ ∀ value ∈ context.environment, P value := by
  rw [WorkloadContext.values, List.forall_mem_append, List.forall_mem_cons, and_assoc]

/-- A context is written exactly when a Workload can be started with it, as the lines of its block. -/
theorem serializeStartBlock_eq_some_iff {context : WorkloadContext} {block : Bytes} :
    serializeStartBlock context = some block ↔ context.Startable ∧ block = encodeLines context.blockLines := by
  have hsum := context.contextSize_values
  have hblock : encodeLines context.blockLines = startBeginLine ++ [newline] ++
      (encodedLine workingDirectoryPrefix context.workingDirectory ++ [newline]) ++
      encodeLines (context.arguments.map (encodedLine argumentPrefix)) ++
      encodeLines (context.environment.map (encodedLine environmentPrefix)) ++ startEndLine ++ [newline] := by
    simp [WorkloadContext.blockLines, WorkloadContext.valueLines]
  rw [serializeStartBlock, Option.ite_none_left_eq_some, not_or, not_or, not_or, not_not, Nat.not_lt, Nat.not_lt,
    hblock]
  constructor
  · rintro ⟨⟨habsolute, hsome, harguments, henvironment⟩, h⟩
    obtain ⟨_, hdirectory, h⟩ := Option.bind_eq_some_iff.mp h
    obtain ⟨_, hargumentLines, h⟩ := Option.bind_eq_some_iff.mp h
    obtain ⟨_, henvironmentLines, h⟩ := Option.bind_eq_some_iff.mp h
    obtain ⟨hcarried, htotal, rfl⟩ := appendEncodedLine_eq_some_iff.mp hdirectory
    obtain ⟨hcarriedArguments, hargumentTotal, rfl⟩ := (appendEncodedLines_eq_some_iff htotal).mp hargumentLines
    obtain ⟨hcarriedEnvironment, hall, rfl⟩ := (appendEncodedLines_eq_some_iff hargumentTotal).mp henvironmentLines
    obtain rfl := Option.some.inj h
    refine ⟨⟨habsolute, ⟨List.length_pos_iff.mpr hsome, harguments⟩, henvironment,
      WorkloadContext.forall_mem_values.mpr ⟨hcarried, hcarriedArguments, hcarriedEnvironment⟩, ?_⟩, rfl⟩
    rwa [hsum, ← Nat.zero_add (context.workingDirectory.length + 1)]
  · rintro ⟨⟨habsolute, ⟨hsome, harguments⟩, henvironment, hvalues, htotal⟩, rfl⟩
    obtain ⟨hcarried, hcarriedArguments, hcarriedEnvironment⟩ := WorkloadContext.forall_mem_values.mp hvalues
    rw [hsum, ← Nat.zero_add (context.workingDirectory.length + 1)] at htotal
    have hargumentTotal := Nat.le_trans (Nat.le_add_right _ _) htotal
    have hdirectoryTotal := Nat.le_trans (Nat.le_add_right _ _) hargumentTotal
    refine ⟨⟨habsolute, List.length_pos_iff.mp hsome, harguments, henvironment⟩, ?_⟩
    rw [appendEncodedLine_eq_some_iff.mpr ⟨hcarried, hdirectoryTotal, rfl⟩, Option.bind_eq_bind, Option.bind_some,
      (appendEncodedLines_eq_some_iff hdirectoryTotal).mpr ⟨hcarriedArguments, hargumentTotal, rfl⟩, Option.bind_some,
      (appendEncodedLines_eq_some_iff hargumentTotal).mpr ⟨hcarriedEnvironment, htotal, rfl⟩]
    rfl

/-- A block is a first line, a last line and what stands between them. -/
theorem framed_iff {first last : Bytes} {lines : List Bytes} :
    ¬ (lines.length < 4 ∨ lines.head? ≠ some first ∨ lines.getLast? ≠ some last) ↔
      ∃ between, 2 ≤ between.length ∧ lines = first :: between ++ [last] := by
  rw [not_or, not_or, not_not, not_not, Nat.not_lt]
  constructor
  · rintro ⟨hlength, hfirst, hlast⟩
    obtain ⟨lines, rfl⟩ := List.head?_eq_some_iff.mp hfirst
    rw [List.getLast?_cons_of_ne_nil (List.ne_nil_of_length_pos (by rw [List.length_cons] at hlength; omega))] at hlast
    obtain ⟨between, rfl⟩ := List.getLast?_eq_some_iff.mp hlast
    refine ⟨between, ?_, rfl⟩
    rw [List.length_cons, List.length_append, List.length_singleton] at hlength
    omega
  · rintro ⟨between, hlength, rfl⟩
    refine ⟨?_, rfl, List.getLast?_concat⟩
    rw [List.cons_append, List.length_cons, List.length_append, List.length_singleton]
    omega

theorem argument_not_isPrefixOf (value : Bytes) :
    argumentPrefix.isPrefixOf (encodedLine environmentPrefix value) = false := rfl

/-- The lines that are read are those of the block of what is read, and a Workload can be started with it. -/
theorem parseStartBlock_eq_some_iff {lines : List Bytes} {context : WorkloadContext} :
    parseStartBlock lines = some context ↔ context.Startable ∧ lines = context.blockLines := by
  have hsum := context.contextSize_values
  rw [parseStartBlock, Option.ite_none_left_eq_some, framed_iff]
  constructor
  · rintro ⟨⟨between, hlength, rfl⟩, h⟩
    rw [List.cons_append, List.tail_cons, List.dropLast_concat] at h
    rcases between with _ | ⟨first, between⟩
    · exact nomatch h
    dsimp only at h
    split at h
    · exact nomatch h
    rename_i workingDirectory _ hdirectory
    obtain ⟨hcarried, rfl, rfl, hdirectoryTotal⟩ := takeValue_eq_some_iff.mp hdirectory
    rw [Option.ite_none_left_eq_some, not_not] at h
    obtain ⟨habsolute, h⟩ := h
    split at h
    · exact nomatch h
    rename_i arguments _ rest harguments
    obtain ⟨rfl, hcarriedArguments, hcount, rfl, hargumentTotal, -⟩ :=
      (takeEntries_nil_eq_some_iff hdirectoryTotal).mp harguments
    rw [Option.ite_none_left_eq_some] at h
    obtain ⟨hsome, h⟩ := h
    split at h
    · rename_i environment _ henvironment
      obtain ⟨rfl, hcarriedEnvironment, henvironmentCount, rfl, htotal, -⟩ :=
        (takeEntries_nil_eq_some_iff hargumentTotal).mp henvironment
      obtain rfl := Option.some.inj h
      rw [List.append_nil]
      refine ⟨⟨habsolute, ⟨List.length_pos_iff.mpr hsome, hcount⟩, henvironmentCount,
        WorkloadContext.forall_mem_values.mpr ⟨hcarried, hcarriedArguments, hcarriedEnvironment⟩, ?_⟩, rfl⟩
      rwa [hsum, ← Nat.zero_add (workingDirectory.length + 1)]
    · exact nomatch h
  · rintro ⟨⟨habsolute, ⟨hsome, harguments⟩, henvironment, hvalues, htotal⟩, rfl⟩
    obtain ⟨hcarried, hcarriedArguments, hcarriedEnvironment⟩ := WorkloadContext.forall_mem_values.mp hvalues
    rw [hsum, ← Nat.zero_add (context.workingDirectory.length + 1)] at htotal
    have hargumentTotal := Nat.le_trans (Nat.le_add_right _ _) htotal
    have hdirectoryTotal := Nat.le_trans (Nat.le_add_right _ _) hargumentTotal
    refine ⟨⟨context.valueLines, ?_, rfl⟩, ?_⟩
    · rw [WorkloadContext.valueLines, List.length_append, List.length_cons, List.length_map]
      omega
    · have hlines : context.blockLines.tail.dropLast = context.valueLines := List.dropLast_concat
      have hfirst : ∀ line ∈ (context.environment.map (encodedLine environmentPrefix)).head?,
          argumentPrefix.isPrefixOf line = false := by
        intro line hline
        obtain ⟨value, -, rfl⟩ := List.mem_map.mp (List.mem_of_mem_head? hline)
        exact argument_not_isPrefixOf value
      rw [hlines, WorkloadContext.valueLines, List.cons_append]
      dsimp only
      rw [takeValue_eq_some_iff.mpr ⟨hcarried, rfl, rfl, hdirectoryTotal⟩]
      dsimp only
      rw [if_neg (not_not.mpr habsolute), (takeEntries_nil_eq_some_iff hdirectoryTotal).mpr
        ⟨rfl, hcarriedArguments, harguments, rfl, hargumentTotal, hfirst⟩]
      dsimp only
      rw [if_neg (List.length_pos_iff.mp hsome), (takeEntries_nil_eq_some_iff hargumentTotal).mpr
        ⟨(List.append_nil _).symm, hcarriedEnvironment, henvironment, rfl, htotal, fun line hline => nomatch hline⟩]

end NetLagLab
