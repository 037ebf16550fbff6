import NetLagLab.StreamPieces
import NetLagLab.WorkloadContext

/-! The helper reads the start block from a stream that may be cut anywhere. Its bounds on lines and on the block
admit every block that is written, and what it takes for a block was written from the context that it returns. -/

namespace NetLagLab

open ByteLines StreamPieces

def maximumEncodedStartBlockSize : Nat := maximumContextTotalSize * 2 + (maximumContextEntryCount * 2 + 4) * 6

def maximumEncodedContextLineSize : Nat := maximumContextValueSize * 2 + 5

/-- The state of the block after a read; a complete one comes with its context. -/
inductive StartBlockFeedResult where
  | incomplete
  | complete (context : WorkloadContext)
  | invalid
  deriving DecidableEq

structure HelperStartConversation where
  buffer : Bytes := []
  lines : List Bytes := []
  encodedSize : Nat := 0
  started : Bool := false
  finished : Bool := false

namespace HelperStartConversation

/-- The answer that ends the conversation. -/
def finish (conversation : HelperStartConversation) (result : StartBlockFeedResult) :
    HelperStartConversation × StartBlockFeedResult := ({ conversation with finished := true }, result)

/-- The conversation with one more line, and what is left in the buffer behind it. -/
def withLine (conversation : HelperStartConversation) (line rest : Bytes) : HelperStartConversation :=
  { conversation with
    buffer := rest
    lines := conversation.lines ++ [line]
    encodedSize := conversation.encodedSize + (line.length + 1)
    started := true }

/-- The lines of the buffer in order, and the bytes behind the last newline. -/
def receiveLines (conversation : HelperStartConversation) :
    List Bytes → Bytes → HelperStartConversation × StartBlockFeedResult
  | [], rest =>
      let conversation := { conversation with buffer := rest }
      if maximumEncodedContextLineSize < rest.length
          ∨ maximumEncodedStartBlockSize - rest.length < conversation.encodedSize then conversation.finish .invalid
      else (conversation, .incomplete)
  | line :: lines, rest =>
      let buffer := encodeLines lines ++ rest
      if maximumEncodedContextLineSize < line.length
          ∨ maximumEncodedStartBlockSize - (line.length + 1) < conversation.encodedSize
          ∨ maximumContextEntryCount * 2 + 2 < conversation.lines.length then
        { conversation with buffer := line ++ newline :: buffer }.finish .invalid
      else if conversation.lines = [] ∧ line ≠ startBeginLine then
        { conversation with buffer, encodedSize := conversation.encodedSize + (line.length + 1) }.finish .invalid
      else
        let conversation := conversation.withLine line buffer
        if line ≠ startEndLine then conversation.receiveLines lines rest
        else if buffer ≠ [] then conversation.finish .invalid
        else
          match parseStartBlock conversation.lines with
          | none => conversation.finish .invalid
          | some context => conversation.finish (.complete context)

def receiveBytes (conversation : HelperStartConversation) (bytes : Bytes) :
    HelperStartConversation × StartBlockFeedResult :=
  if conversation.finished = true then (conversation, .invalid)
  else
    conversation.receiveLines (splitLines (conversation.buffer ++ bytes)).1 (splitLines (conversation.buffer ++ bytes)).2

/-- The reads in turn, with the result of each. -/
def receiveAll (conversation : HelperStartConversation) (reads : List Bytes) :
    HelperStartConversation × List StartBlockFeedResult :=
  feedAll (fun conversation bytes => ((conversation.receiveBytes bytes).1, [(conversation.receiveBytes bytes).2]))
    conversation reads

/-- The conversation that holds these lines, with nothing decided. -/
def holding (lines : List Bytes) (buffer : Bytes) : HelperStartConversation where
  buffer := buffer
  lines := lines
  encodedSize := (encodeLines lines).length
  started := decide (lines ≠ [])
  finished := false

/-! ### The lines one by one -/

section Lines

variable {held lines : List Bytes} {line buffer rest : Bytes}

theorem holding_withLine : (holding held buffer).withLine line rest = holding (held ++ [line]) rest := by
  simp [holding, withLine]

/-- A line that the block has room for, and that may stand there. -/
structure Taken (held : List Bytes) (line : Bytes) : Prop where
  bound : line.length ≤ maximumEncodedContextLineSize
  size : (encodeLines held).length ≤ maximumEncodedStartBlockSize - (line.length + 1)
  count : held.length ≤ maximumContextEntryCount * 2 + 2
  first : held = [] → line = startBeginLine

theorem receiveLines_taken (h : Taken held line) :
    (holding held buffer).receiveLines (line :: lines) rest =
      if line ≠ startEndLine then
        (holding (held ++ [line]) (encodeLines lines ++ rest)).receiveLines lines rest
      else if encodeLines lines ++ rest ≠ [] then
        (holding (held ++ [line]) (encodeLines lines ++ rest)).finish .invalid
      else
        match parseStartBlock (held ++ [line]) with
        | none => (holding (held ++ [line]) (encodeLines lines ++ rest)).finish .invalid
        | some context => (holding (held ++ [line]) (encodeLines lines ++ rest)).finish (.complete context) := by
  obtain ⟨hline, hsize, hcount, hfirst⟩ := h
  have hroom : ¬ (maximumEncodedContextLineSize < line.length
      ∨ maximumEncodedStartBlockSize - (line.length + 1) < (holding held buffer).encodedSize
      ∨ maximumContextEntryCount * 2 + 2 < (holding held buffer).lines.length) := by
    rintro (hover | hover | hover)
    · exact Nat.not_lt.mpr hline hover
    · exact Nat.not_lt.mpr hsize hover
    · exact Nat.not_lt.mpr hcount hover
  rw [receiveLines, if_neg hroom, if_neg (fun hother => hother.2 (hfirst hother.1)), holding_withLine]
  rfl

/-- Every other line ends the conversation. -/
theorem receiveLines_refused (h : ¬ Taken held line) :
    ((holding held buffer).receiveLines (line :: lines) rest).2 = .invalid := by
  rw [receiveLines]
  split
  · rfl
  · rename_i hroom
    split
    · rfl
    · rename_i hfirst
      refine absurd ⟨?_, ?_, ?_, fun hheld => ?_⟩ h
      · exact Nat.not_lt.mp fun hline => hroom (Or.inl hline)
      · exact Nat.not_lt.mp fun hsize => hroom (Or.inr (Or.inl hsize))
      · exact Nat.not_lt.mp fun hcount => hroom (Or.inr (Or.inr hcount))
      · exact not_not.mp fun hother => hfirst ⟨hheld, hother⟩

/-- As long as the block is incomplete, the lines are held and the rest stays in the buffer. -/
theorem receiveLines_incomplete (h : ((holding held buffer).receiveLines lines rest).2 = .incomplete) :
    ((holding held buffer).receiveLines lines rest).1 = holding (held ++ lines) rest := by
  induction lines generalizing held buffer with
  | nil =>
      rw [receiveLines] at h ⊢
      split at h
      · exact nomatch h
      · rename_i hroom
        rw [if_neg hroom, List.append_nil]
        rfl
  | cons line lines ih =>
      by_cases htaken : Taken held line
      · rw [receiveLines_taken htaken] at h ⊢
        by_cases hend : line ≠ startEndLine
        · rw [if_pos hend] at h ⊢
          rw [ih h, List.append_assoc, List.singleton_append]
        · rw [if_neg hend] at h
          split at h
          · exact nomatch h
          · split at h <;> exact nomatch h
      · exact nomatch (receiveLines_refused htaken).symm.trans h

/-- A context that is reported was read from all lines, and nothing stands behind them. -/
theorem receiveLines_complete {context : WorkloadContext}
    (h : ((holding held buffer).receiveLines lines rest).2 = .complete context) :
    rest = [] ∧ parseStartBlock (held ++ lines) = some context := by
  induction lines generalizing held buffer with
  | nil =>
      rw [receiveLines] at h
      split at h <;> exact nomatch h
  | cons line lines ih =>
      by_cases htaken : Taken held line
      · rw [receiveLines_taken htaken] at h
        by_cases hend : line ≠ startEndLine
        · rw [if_pos hend] at h
          obtain ⟨hrest, hparse⟩ := ih h
          rw [List.append_assoc, List.singleton_append] at hparse
          exact ⟨hrest, hparse⟩
        · rw [if_neg hend] at h
          split at h
          · exact nomatch h
          · rename_i hbuffer
            obtain ⟨hlines, rfl⟩ := List.append_eq_nil_iff.mp (not_not.mp hbuffer)
            obtain rfl := eq_nil_of_encodeMarked hlines
            split at h
            · exact nomatch h
            · rename_i found hparse
              obtain rfl := StartBlockFeedResult.complete.inj h
              exact ⟨rfl, hparse⟩
      · exact nomatch (receiveLines_refused htaken).symm.trans h

end Lines

/-! ### The lines of a block -/

section Block

variable {context : WorkloadContext} {held lines more : List Bytes} {line buffer rest : Bytes}

/-- Before its last line a block has a first line and lines of values, none of which ends it. -/
theorem front_ne_startEndLine (h : line ∈ startBeginLine :: context.valueLines) : line ≠ startEndLine := by
  rw [WorkloadContext.valueLines, List.mem_cons, List.mem_append, List.mem_cons, List.mem_map, List.mem_map] at h
  rcases h with rfl | (rfl | ⟨value, -, rfl⟩) | ⟨value, -, rfl⟩
  · decide
  · exact fun hend => by cases hend
  · exact fun hend => by cases hend
  · exact fun hend => by cases hend

theorem newline_notMem_encodeHex (value : Bytes) : newline ∉ encodeHex value := by
  have hdigits : ∀ byte : UInt8, newline ≠ hexDigits.getD (byte >>> 4).toNat 0 ∧
      newline ≠ hexDigits.getD (byte &&& 15).toNat 0 := forall_byte (by decide +kernel)
  induction value with
  | nil => exact List.not_mem_nil
  | cons byte value ih =>
      rw [encodeHex, List.mem_cons, List.mem_cons, not_or, not_or]
      exact ⟨(hdigits byte).1, (hdigits byte).2, ih⟩

/-- A line of a value is in bounds with its value. -/
theorem encodedLine_spec {start value : Bytes} (hstart : start.length = 4) (hnewline : newline ∉ start)
    (h : Carried value) :
    newline ∉ encodedLine start value ∧ (encodedLine start value).length ≤ maximumEncodedContextLineSize := by
  constructor
  · rw [encodedLine, List.mem_append, not_or]
    exact ⟨hnewline, newline_notMem_encodeHex value⟩
  · have hvalue := h.2
    rw [encodedLine, List.length_append, length_encodeHex, maximumEncodedContextLineSize]
    omega

/-- No line of a block is cut or refused. -/
theorem blockLines_spec (h : context.Startable) :
    ∀ line ∈ context.blockLines, newline ∉ line ∧ line.length ≤ maximumEncodedContextLineSize := by
  intro line hline
  rw [WorkloadContext.blockLines, WorkloadContext.valueLines, List.mem_append, List.mem_cons, List.mem_append,
    List.mem_cons, List.mem_map, List.mem_map, List.mem_singleton] at hline
  obtain ⟨hdirectory, harguments, henvironment⟩ := WorkloadContext.forall_mem_values.mp h.values
  rcases hline with (rfl | (rfl | ⟨value, hvalue, rfl⟩) | ⟨value, hvalue, rfl⟩) | rfl
  · decide
  · exact encodedLine_spec (by decide) (by decide) hdirectory
  · exact encodedLine_spec (by decide) (by decide) (harguments value hvalue)
  · exact encodedLine_spec (by decide) (by decide) (henvironment value hvalue)
  · decide

theorem length_encodeLines_values {start : Bytes} (hstart : start.length = 4) (values : List Bytes) :
    (encodeLines (values.map (encodedLine start))).length = 2 * contextSize values + 3 * values.length := by
  induction values with
  | nil => rfl
  | cons value values ih =>
      rw [List.map_cons, encodeLines, encodeMarked_cons, List.length_append, List.length_cons, ih, encodedLine,
        List.length_append, length_encodeHex, hstart, contextSize_cons, List.length_cons]
      omega

/-- A block that is written has room in the bounds of the reader. -/
theorem block_room (h : context.Startable) :
    context.blockLines.length ≤ maximumContextEntryCount * 2 + 3 ∧
      (encodeLines context.blockLines).length ≤ maximumEncodedStartBlockSize := by
  obtain ⟨-, ⟨hsome, harguments⟩, henvironment, -, htotal⟩ := h
  constructor
  · rw [WorkloadContext.blockLines, WorkloadContext.valueLines, List.length_append, List.length_cons,
      List.length_append, List.length_cons, List.length_map, List.length_map, List.length_singleton]
    omega
  · have hdirectory := length_encodeLines_values (show workingDirectoryPrefix.length = 4 from by decide)
      [context.workingDirectory]
    have hargumentLines := length_encodeLines_values (show argumentPrefix.length = 4 from by decide)
      context.arguments
    have henvironmentLines := length_encodeLines_values (show environmentPrefix.length = 4 from by decide)
      context.environment
    have hframe : (encodeLines [startBeginLine]).length + (encodeLines [startEndLine]).length = 22 := by decide
    have hblock : context.blockLines = [startBeginLine] ++ [context.workingDirectory].map (encodedLine workingDirectoryPrefix)
        ++ context.arguments.map (encodedLine argumentPrefix) ++ context.environment.map (encodedLine environmentPrefix)
        ++ [startEndLine] := by
      simp [WorkloadContext.blockLines, WorkloadContext.valueLines]
    rw [hblock]
    simp only [encodeLines, encodeMarked_append, List.length_append] at *
    rw [context.contextSize_values] at htotal
    rw [contextSize_cons, contextSize_nil, List.length_singleton] at hdirectory
    unfold maximumEncodedStartBlockSize
    omega

theorem taken_of_block (h : context.Startable) (hlines : context.blockLines = held ++ line :: more) :
    Taken held line := by
  obtain ⟨hcount, hsize⟩ := block_room h
  have hline := (blockLines_spec h line (hlines ▸ List.mem_append_right _ List.mem_cons_self)).2
  rw [hlines, List.length_append, List.length_cons] at hcount
  rw [hlines, encodeLines, encodeMarked_append, encodeMarked_cons, List.length_append, List.length_append,
    List.length_cons] at hsize
  refine ⟨hline, ?_, by omega, fun hheld => ?_⟩
  · change (encodeMarked newline held).length ≤ _
    omega
  · rw [hheld] at hlines
    exact (List.cons.inj hlines).1.symm

/-- The lines of a block before the last leave it incomplete, with what is there of the next line. -/
theorem receiveLines_part (h : context.Startable)
    (hlines : startBeginLine :: context.valueLines = held ++ lines ++ more)
    (hrest : rest.length ≤ maximumEncodedContextLineSize)
    (hroom : (encodeLines (held ++ lines)).length + rest.length ≤ maximumEncodedStartBlockSize) :
    (holding held buffer).receiveLines lines rest = (holding (held ++ lines) rest, .incomplete) := by
  induction lines generalizing held buffer with
  | nil =>
      rw [List.append_nil] at hroom ⊢
      refine if_neg ?_
      rintro (hover | hover)
      · exact Nat.not_lt.mpr hrest hover
      · exact Nat.not_lt.mpr (Nat.le_sub_of_add_le hroom) hover
  | cons line lines ih =>
      have hblock : context.blockLines = held ++ line :: (lines ++ more ++ [startEndLine]) := by
        rw [WorkloadContext.blockLines, ← List.cons_append, hlines]
        simp
      have hend : line ≠ startEndLine := front_ne_startEndLine (by rw [hlines]; simp)
      rw [List.append_cons] at hlines hroom ⊢
      rw [receiveLines_taken (taken_of_block h hblock), if_pos hend]
      exact ih hlines hroom

/-- All lines of a block are its context. -/
theorem receiveLines_block (h : context.Startable) (hlines : context.blockLines = held ++ lines) (hsome : lines ≠ []) :
    ((holding held buffer).receiveLines lines []).2 = .complete context := by
  induction lines generalizing held buffer with
  | nil => exact absurd rfl hsome
  | cons line lines ih =>
      rw [receiveLines_taken (taken_of_block h hlines)]
      rcases List.eq_nil_or_concat lines with rfl | ⟨front, last, rfl⟩
      · obtain ⟨-, hline⟩ := List.append_inj' hlines rfl
        rw [if_neg (not_not.mpr (List.cons.inj hline).1.symm), if_neg (not_not.mpr (show encodeLines [] ++ [] = [] from rfl)), ← hlines,
          parseStartBlock_eq_some_iff.mpr ⟨h, rfl⟩]
        rfl
      · have hfront : startBeginLine :: context.valueLines = held ++ line :: front := by
          have hinit := congrArg List.dropLast hlines
          rwa [WorkloadContext.blockLines, List.dropLast_concat, List.concat_eq_append, ← List.cons_append,
            ← List.append_assoc, List.dropLast_concat] at hinit
        have hmem : line ∈ startBeginLine :: context.valueLines := by
          rw [hfront]
          exact List.mem_append_right _ List.mem_cons_self
        have hend := front_ne_startEndLine hmem
        rw [if_pos hend]
        refine ih ?_ (by rw [List.concat_eq_append]; exact List.concat_ne_nil _ _)
        rw [List.append_assoc, List.singleton_append]
        exact hlines

end Block

/-! ### Reads -/

section Reads

variable {context : WorkloadContext} {reads : List Bytes} {read seen bytes : Bytes}

/-- The conversation that has seen these bytes. -/
def reading (seen : Bytes) : HelperStartConversation := holding (splitLines seen).1 (splitLines seen).2

theorem receiveBytes_reading (seen bytes : Bytes) : (reading seen).receiveBytes bytes =
    (reading seen).receiveLines (splitLines ((splitLines seen).2 ++ bytes)).1 (splitLines ((splitLines seen).2 ++ bytes)).2 :=
  if_neg (fun h => nomatch h)

theorem receiveBytes_incomplete (h : ((reading seen).receiveBytes bytes).2 = .incomplete) :
    ((reading seen).receiveBytes bytes).1 = reading (seen ++ bytes) := by
  rw [receiveBytes_reading] at h ⊢
  rw [reading, receiveLines_incomplete h, reading,
    show splitLines (seen ++ bytes) = _ from splitAtMark_append newline seen bytes]

theorem receiveBytes_complete (h : ((reading seen).receiveBytes bytes).2 = .complete context) :
    serializeStartBlock context = some (seen ++ bytes) := by
  rw [receiveBytes_reading] at h
  obtain ⟨hrest, hparse⟩ := receiveLines_complete h
  obtain ⟨hstartable, hlines⟩ := parseStartBlock_eq_some_iff.mp hparse
  have hjoin := splitAtMark_join newline (seen ++ bytes)
  rw [splitAtMark_append] at hjoin
  dsimp only at hjoin
  rw [hrest, hlines, List.append_nil] at hjoin
  exact serializeStartBlock_eq_some_iff.mpr ⟨hstartable, hjoin.symm⟩

/-- A read that goes on with a block, behind a part of it, says whether the block is complete. -/
theorem receiveBytes_block {more : Bytes} (h : context.Startable)
    (hblock : seen ++ bytes ++ more = encodeLines context.blockLines) (hseen : seen ≠ encodeLines context.blockLines) :
    ((reading seen).receiveBytes bytes).2 = if more = [] then .complete context else .incomplete := by
  have hspec := blockLines_spec h
  have hsplit := splitAtMark_append newline seen bytes
  obtain ⟨left, hleft, hmore⟩ := splitAtMark_of_append_eq (fun line hline => (hspec line hline).1) hblock
  rw [hsplit] at hleft hmore
  have hunfinished : newline ∉ (splitLines ((splitLines seen).2 ++ bytes)).2 := notMem_splitAtMark_snd _
  rw [receiveBytes_reading, reading]
  by_cases hend : more = []
  · rw [if_pos hend]
    rw [hend, List.append_nil] at hmore
    obtain rfl : left = [] := by
      rcases left with _ | ⟨line, left⟩
      · rfl
      · exact absurd (hmore ▸ by simp) hunfinished
    rw [List.append_nil] at hleft
    rw [show (splitLines ((splitLines seen).2 ++ bytes)).2 = [] from hmore]
    refine receiveLines_block h hleft fun hnone => hseen ?_
    -- without a new line, the block was there before
    have hjoin := splitAtMark_join newline seen
    rw [hnone, List.append_nil] at hleft
    rw [← hleft] at hjoin
    rw [hend, List.append_nil, ← hjoin, List.append_assoc] at hblock
    rw [← hjoin, (List.append_eq_nil_iff.mp (List.append_right_eq_self.mp hblock)).1, List.append_nil]
  · rw [if_neg hend]
    obtain ⟨front, last, rfl⟩ : ∃ front last, left = front ++ [last] := by
      rcases List.eq_nil_or_concat left with rfl | ⟨front, last, rfl⟩
      · exact absurd (List.append_eq_nil_iff.mp hmore).2 hend
      · exact ⟨front, last, List.concat_eq_append⟩
    have hfront : startBeginLine :: context.valueLines = (splitLines seen).1 ++
        (splitLines ((splitLines seen).2 ++ bytes)).1 ++ front := by
      rw [WorkloadContext.blockLines, ← List.append_assoc] at hleft
      exact (List.append_inj' hleft rfl).1
    have hbound := length_le_of_append_eq hunfinished
      (fun line hline => (hspec line (hleft ▸ List.mem_append_right _ hline)).2) hmore
    have hroom := (block_room h).2
    rw [hleft, encodeLines, encodeMarked_append, ← hmore, List.length_append, List.length_append] at hroom
    rw [receiveLines_part h hfront hbound (Nat.le_trans (Nat.add_le_add_left (Nat.le_add_right _ _) _) hroom)]

/-- Once something else than an incomplete block is reported, the conversation is over. -/
theorem receiveLines_finished (conversation : HelperStartConversation) (lines : List Bytes) (rest : Bytes)
    (h : (conversation.receiveLines lines rest).2 ≠ .incomplete) :
    (conversation.receiveLines lines rest).1.finished = true := by
  induction lines generalizing conversation with
  | nil =>
      rw [receiveLines] at h ⊢
      split at h
      · rename_i hover
        rw [if_pos hover]
        rfl
      · exact absurd rfl h
  | cons line lines ih =>
      rw [receiveLines] at h ⊢
      split at h
      · rename_i hover
        rw [if_pos hover]
        rfl
      · rename_i hroom
        rw [if_neg hroom]
        split at h
        · rename_i hfirst
          rw [if_pos hfirst]
          rfl
        · rename_i hfirst
          rw [if_neg hfirst]
          dsimp only at h ⊢
          split at h
          · rename_i hend
            rw [if_pos hend]
            exact ih _ h
          · rename_i hend
            rw [if_neg hend]
            split
            · rfl
            · split <;> rfl

theorem receiveBytes_finished (conversation : HelperStartConversation)
    (h : (conversation.receiveBytes bytes).2 ≠ .incomplete) : (conversation.receiveBytes bytes).1.finished = true := by
  unfold receiveBytes at h ⊢
  split
  · assumption
  · rename_i hgoing
    rw [if_neg hgoing] at h
    exact receiveLines_finished _ _ _ h

theorem receiveAll_cons (conversation : HelperStartConversation) :
    conversation.receiveAll (read :: reads) =
      (((conversation.receiveBytes read).1.receiveAll reads).1,
        (conversation.receiveBytes read).2 :: ((conversation.receiveBytes read).1.receiveAll reads).2) := rfl

/-- A conversation that is over takes everything for an error. -/
theorem receiveAll_finished {conversation : HelperStartConversation} (h : conversation.finished = true) :
    (conversation.receiveAll reads).2 = List.replicate reads.length .invalid := by
  induction reads with
  | nil => rfl
  | cons read reads ih =>
      have hread : conversation.receiveBytes read = (conversation, .invalid) := if_pos h
      rw [receiveAll_cons, hread, ih]
      rfl

/-- Reads of a part of a block leave it incomplete. -/
theorem receiveAll_part {more : Bytes} (h : context.Startable) (hmore : more ≠ [])
    (hblock : seen ++ reads.flatten ++ more = encodeLines context.blockLines) :
    (reading seen).receiveAll reads = (reading (seen ++ reads.flatten), List.replicate reads.length .incomplete) := by
  induction reads generalizing seen with
  | nil =>
      rw [List.flatten_nil, List.append_nil]
      rfl
  | cons read reads ih =>
      rw [List.flatten_cons, ← List.append_assoc] at hblock ⊢
      have hseen : seen ≠ encodeLines context.blockLines := by
        rintro rfl
        simp [hmore] at hblock
      have hresult : ((reading seen).receiveBytes read).2 = .incomplete := by
        rw [List.append_assoc] at hblock
        rw [receiveBytes_block h hblock hseen, if_neg]
        exact fun hnone => hmore (List.append_eq_nil_iff.mp hnone).2
      rw [receiveAll_cons, receiveBytes_incomplete hresult, ih hblock, hresult]
      rfl

/-- A context that is reported last was written as the bytes that were read. -/
theorem receiveAll_complete (h : ((reading seen).receiveAll reads).2.getLast? = some (.complete context)) :
    serializeStartBlock context = some (seen ++ reads.flatten) := by
  induction reads generalizing seen with
  | nil => exact nomatch h
  | cons read reads ih =>
      rw [receiveAll_cons] at h
      rw [List.flatten_cons, ← List.append_assoc]
      by_cases hresult : ((reading seen).receiveBytes read).2 = .incomplete
      · rw [hresult, receiveBytes_incomplete hresult] at h
        refine ih ?_
        rcases hresults : ((reading (seen ++ read)).receiveAll reads).2 with _ | ⟨result, results⟩
        · rw [hresults] at h
          exact nomatch h
        · rwa [hresults, List.getLast?_cons_cons] at h
      · rw [receiveAll_finished (receiveBytes_finished _ hresult)] at h
        rcases reads with _ | ⟨next, reads⟩
        · rw [List.flatten_nil, List.append_nil]
          exact receiveBytes_complete (Option.some.inj h)
        · rw [List.length_cons, List.replicate_succ, List.getLast?_cons_cons, ← List.replicate_succ,
            List.getLast?_replicate, if_neg (Nat.succ_ne_zero _)] at h
          exact nomatch h

end Reads

/-- A context is written exactly when it is in bounds. Reads of its block are incomplete before the last byte and
complete at it, with the same context; and a context that is reported is written as what was read. -/
theorem startBlock_codec (context : WorkloadContext) :
    ((∃ block, serializeStartBlock context = some block) ↔ context.Startable) ∧
      (∀ block, serializeStartBlock context = some block →
        (∀ reads : List Bytes, reads.flatten <+: block → reads.flatten ≠ block →
          (receiveAll {} reads).2 = List.replicate reads.length .incomplete) ∧
        ∀ (reads : List Bytes) (last : Bytes), reads.flatten ++ last = block → last ≠ [] →
          (receiveAll {} (reads ++ [last])).2 = List.replicate reads.length .incomplete ++ [.complete context]) ∧
      ∀ reads : List Bytes, (receiveAll {} reads).2.getLast? = some (.complete context) →
        serializeStartBlock context = some reads.flatten := by
  have hfresh : ({} : HelperStartConversation) = reading [] := rfl
  rw [hfresh]
  refine ⟨?_, fun block hblock => ?_, fun reads h => receiveAll_complete h⟩
  · constructor
    · rintro ⟨block, hblock⟩
      exact (serializeStartBlock_eq_some_iff.mp hblock).1
    · exact fun h => ⟨_, serializeStartBlock_eq_some_iff.mpr ⟨h, rfl⟩⟩
  · obtain ⟨hstartable, rfl⟩ := serializeStartBlock_eq_some_iff.mp hblock
    constructor
    · rintro reads ⟨more, hmore⟩ hpart
      have hleft : more ≠ [] := by
        rintro rfl
        exact hpart (by rw [← hmore, List.append_nil])
      rw [receiveAll_part hstartable hleft hmore]
    · intro reads last hreads hlast
      have hseen : reads.flatten ≠ encodeLines context.blockLines := by
        intro hall
        rw [hall] at hreads
        exact hlast (List.append_right_eq_self.mp hreads)
      have hpart := receiveAll_part hstartable hlast (show [] ++ reads.flatten ++ last = _ from hreads)
      have hresult : ((reading reads.flatten).receiveBytes last).2 = .complete context := by
        rw [receiveBytes_block hstartable (by rw [List.append_nil]; exact hreads) hseen, if_pos rfl]
      have hall : ((reading []).receiveAll (reads ++ [last])).2 =
          ((reading []).receiveAll reads).2 ++ (((reading []).receiveAll reads).1.receiveAll [last]).2 :=
        congrArg Prod.snd (feedAll_append _ _)
      rw [hall, hpart, List.nil_append, receiveAll_cons, hresult]
      rfl

end HelperStartConversation

end NetLagLab
