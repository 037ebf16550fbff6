import NetLagLab.SessionOutcomeBlock

/-! The block of an outcome as a code. What the parser accepts is an outcome that can be written, every byte behind a
block is refused, and however a stream is cut, it is accepted, refused or not at its end with the same bytes. -/

namespace NetLagLab

open ByteLines ControllerSessionOutcome

namespace ControllerSessionOutcome

/-! ### More lines do not take a verdict back -/

section More

variable {succeeded : Bool} {workload : Option WorkloadResult} {failures : List InfrastructureFailure}
  {lines later : List Bytes} {unfinished rest input more : Bytes}

/-- What is decided before more comes is refused with it. -/
theorem parseFailures_more (hmore : later ≠ [] ∨ rest ≠ [])
    (h : parseFailures succeeded workload unfinished failures lines ≠ .incomplete) :
    ∃ error, parseFailures succeeded workload rest failures (lines ++ later) = .error error := by
  induction lines generalizing failures with
  | nil => exact absurd rfl h
  | cons line lines ih =>
      rw [parseFailures] at h
      rw [List.cons_append, parseFailures]
      by_cases hend : line = endMarker
      · have htrailing : lines ++ later ≠ [] ∨ rest ≠ [] := hmore.imp_left (List.append_ne_nil_of_right_ne_nil lines)
        rw [if_pos hend, if_pos htrailing]
        exact ⟨_, rfl⟩
      · rw [if_neg hend] at h ⊢
        by_cases hstart : succeeded = true ∨ failurePrefix.isPrefixOf line = false
        · rw [if_pos hstart]
          exact ⟨_, rfl⟩
        · rw [if_neg hstart] at h ⊢
          cases hcode : parseFailureCode (line.drop failurePrefix.length) with
          | none => exact ⟨_, rfl⟩
          | some failure =>
              rw [hcode] at h
              dsimp only at h ⊢
              by_cases hmapping : failureMapping failure = none
              · rw [if_pos hmapping]
                exact ⟨_, rfl⟩
              · by_cases hseen : failure ∈ failures
                · rw [if_neg hmapping, if_pos hseen]
                  exact ⟨_, rfl⟩
                · rw [if_neg hmapping, if_neg hseen] at h ⊢
                  exact ih h

theorem parseLines_more (hmore : later ≠ [] ∨ rest ≠ []) (h : parseLines lines unfinished ≠ .incomplete) :
    ∃ error, parseLines (lines ++ later) rest = .error error := by
  unfold parseLines at h ⊢
  rcases lines with _ | ⟨begin, lines⟩
  · exact absurd rfl h
  rw [List.cons_append]
  dsimp only at h ⊢
  by_cases hbegin : begin ≠ beginMarker
  · rw [if_pos hbegin]
    exact ⟨_, rfl⟩
  rw [if_neg hbegin] at h ⊢
  rcases lines with _ | ⟨workload, lines⟩
  · exact absurd rfl h
  rw [List.cons_append]
  dsimp only at h ⊢
  cases hworkload : parseWorkloadLine workload with
  | error error => exact ⟨_, rfl⟩
  | ok result =>
      rw [hworkload] at h
      rcases lines with _ | ⟨infrastructure, lines⟩
      · exact absurd rfl h
      rw [List.cons_append]
      dsimp only at h ⊢
      split
      · exact ⟨_, rfl⟩
      · rename_i hknown
        rw [if_neg hknown] at h
        split
        · exact ⟨_, rfl⟩
        · rename_i hpossible
          rw [if_neg hpossible] at h
          exact parseFailures_more hmore h

/-- Bytes behind an input that is decided are refused. -/
theorem parseBlock_more (hmore : more ≠ []) (h : parseBlock input ≠ .incomplete) :
    ∃ error, parseBlock (input ++ more) = .error error := by
  unfold parseBlock at h ⊢
  have hsplit := splitAtMark_append newline input more
  rw [show splitLines (input ++ more) = _ from hsplit]
  refine parseLines_more ?_ h
  by_contra hnone
  rw [not_or, not_not, not_not] at hnone
  have hjoin := splitAtMark_join newline ((splitAtMark newline input).2 ++ more)
  rw [hnone.1, hnone.2, encodeMarked_nil, List.nil_append] at hjoin
  exact hmore (List.append_eq_nil_iff.mp hjoin.symm).2

end More

/-! ### What is accepted can be written -/

section Accepted

variable {outcome : SessionOutcome} {succeeded : Bool} {workload : Option WorkloadResult}
  {failures : List InfrastructureFailure} {lines : List Bytes} {unfinished input line : Bytes}

theorem validWorkload_of_parseWorkloadLine (h : parseWorkloadLine line = .ok workload) :
    validWorkloadForWire workload = true := by
  unfold parseWorkloadLine at h
  split at h
  · obtain rfl := Except.ok.inj h
    rfl
  · split at h
    · split at h
      · exact nomatch h
      · rename_i value hvalue
        obtain rfl := Except.ok.inj h
        exact decide_eq_true (parseBoundedInteger_range hvalue)
    · split at h
      · split at h
        · exact nomatch h
        · rename_i value hvalue
          obtain rfl := Except.ok.inj h
          exact decide_eq_true (parseBoundedInteger_range hvalue)
      · exact nomatch h

/-- The failures that are collected differ, and there are some when the infrastructure failed. -/
theorem parseFailures_outcome (hfailures : failures.Nodup)
    (h : parseFailures succeeded workload unfinished failures lines = .outcome outcome) :
    outcome.workload = workload ∧ outcome.infrastructureFailures.Nodup ∧
      (succeeded = false → outcome.infrastructureFailures ≠ []) := by
  induction lines generalizing failures with
  | nil => cases h
  | cons line lines ih =>
      rw [parseFailures] at h
      by_cases hend : line = endMarker
      · rw [if_pos hend] at h
        split at h
        · cases h
        · split at h
          · cases h
          · split at h
            · cases h
            · rename_i hsome
              obtain rfl := ControllerSessionOutcomeParseResult.outcome.inj h
              exact ⟨rfl, hfailures, fun hfailed hnone => hsome ⟨hfailed, hnone⟩⟩
      · rw [if_neg hend] at h
        split at h
        · cases h
        · cases hcode : parseFailureCode (line.drop failurePrefix.length) with
          | none =>
              rw [hcode] at h
              cases h
          | some failure =>
              rw [hcode] at h
              dsimp only at h
              split at h
              · cases h
              · split at h
                · cases h
                · rename_i hnew
                  refine ih (List.nodup_append.mpr ⟨hfailures, List.nodup_singleton _, ?_⟩) h
                  intro other hother last hlast
                  rw [List.mem_singleton.mp hlast]
                  exact fun hsame => hnew (hsame ▸ hother)

theorem deliverable_of_parseBlock (h : parseBlock input = .outcome outcome) : outcome.Deliverable := by
  unfold parseBlock parseLines at h
  split at h
  · exact nomatch h
  · split at h
    · exact nomatch h
    · split at h
      · exact nomatch h
      · split at h
        · exact nomatch h
        · rename_i workload hworkload
          split at h
          · exact nomatch h
          · dsimp only at h
            split at h
            · exact nomatch h
            · split at h
              · exact nomatch h
              · rename_i hpossible
                obtain ⟨rfl, honce, hfailed⟩ := parseFailures_outcome List.nodup_nil h
                refine ⟨validWorkload_of_parseWorkloadLine hworkload, fun hsucceeded hnone => ?_, honce⟩
                refine hpossible ⟨?_, hnone⟩
                exact Bool.eq_true_of_not_eq_false fun hfailure => hfailed hfailure (List.isEmpty_iff.mp hsucceeded)

end Accepted

end ControllerSessionOutcome

/-! ### Reads in turn -/

namespace ControllerSessionOutcomeParser

/-- What a stream comes to. -/
inductive Verdict where
  | incomplete
  | complete (outcome : SessionOutcome)
  | rejected
  deriving DecidableEq

/-- A stream is rejected with the first read that is an error, and else comes to what its last read does. -/
def verdict : List ControllerSessionOutcomeParseResult → Verdict
  | [] => .incomplete
  | .error _ :: _ => .rejected
  | [.outcome outcome] => .complete outcome
  | .outcome _ :: results => verdict results
  | .incomplete :: results => verdict results

section Reads

variable {outcome : SessionOutcome} {parser : ControllerSessionOutcomeParser} {reads later : List Bytes}
  {buffer bytes last more : Bytes}

/-- What a parser makes of a stream that arrives at once. -/
theorem receive_fresh (bytes : Bytes) : (receive {} bytes).2 =
    if maximumControllerSessionOutcomeSize < bytes.length then .error .messageTooLarge else parseBlock bytes := by
  have hsize : (0 : Nat) + bytes.length = bytes.length := Nat.zero_add _
  unfold receive
  rw [if_neg (fun h => nomatch h), List.length_nil, hsize]
  split
  · rfl
  · rw [List.nil_append]
    dsimp only
    split
    · rename_i outcome hparse
      exact hparse.symm
    · rfl

/-- Behind bytes that it holds, a parser makes of a read what a new one makes of all of them. -/
theorem receive_holding (buffer bytes : Bytes) : (receive { buffer } bytes).2 = (receive {} (buffer ++ bytes)).2 := by
  rw [receive_fresh, List.length_append]
  unfold receive
  rw [if_neg (fun h => nomatch h)]
  split
  · rfl
  · dsimp only
    split
    · rename_i outcome hparse
      exact hparse.symm
    · rfl

theorem receive_incomplete (h : (receive { buffer } bytes).2 = .incomplete) :
    (receive { buffer } bytes).1 = { buffer := buffer ++ bytes } := by
  unfold receive at h ⊢
  rw [if_neg (fun h => nomatch h)] at h ⊢
  split at h
  · exact nomatch h
  · rename_i hroom
    rw [if_neg hroom]
    dsimp only at h ⊢
    split at h
    · exact nomatch h
    · rfl

theorem receive_outcome (h : (receive { buffer } bytes).2 = .outcome outcome) :
    (receive { buffer } bytes).1.completed = true := by
  unfold receive at h ⊢
  rw [if_neg (fun h => nomatch h)] at h ⊢
  split at h
  · exact nomatch h
  · rename_i hroom
    rw [if_neg hroom]
    dsimp only at h ⊢
    split
    · rfl
    · rename_i hother
      split at h
      · rename_i hparse
        exact (hother _ hparse).elim
      · exact (hother _ h).elim

theorem receiveAll_cons : parser.receiveAll (bytes :: reads) =
    (parser.receive bytes).2 :: (parser.receive bytes).1.receiveAll reads := rfl

theorem receiveAll_completed (h : parser.completed = true) (reads : List Bytes) :
    parser.receiveAll reads = List.replicate reads.length (.error .trailingData) := by
  induction reads with
  | nil => rfl
  | cons bytes reads ih =>
      have hread : parser.receive bytes = (parser, .error .trailingData) := if_pos h
      rw [receiveAll_cons, hread, ih]
      rfl

/-- A stream that is decided is refused with more bytes. -/
theorem receive_more (hmore : more ≠ []) (h : (receive {} bytes).2 ≠ .incomplete) :
    ∃ error, (receive {} (bytes ++ more)).2 = .error error := by
  rw [receive_fresh] at h ⊢
  split
  · exact ⟨_, rfl⟩
  · rename_i hroom
    rw [List.length_append] at hroom
    rw [if_neg (by omega)] at h
    exact parseBlock_more hmore h

theorem verdict_receiveAll (hlast : last ≠ []) : verdict (receiveAll { buffer } (reads ++ [last])) =
    verdict (receiveAll {} [buffer ++ (reads.flatten ++ last)]) := by
  induction reads generalizing buffer with
  | nil => rw [List.nil_append, receiveAll_cons, receive_holding, List.flatten_nil, List.nil_append]; rfl
  | cons bytes reads ih =>
      have hmore : reads.flatten ++ last ≠ [] := List.append_ne_nil_of_right_ne_nil _ hlast
      rw [List.cons_append, receiveAll_cons, List.flatten_cons, List.append_assoc bytes, ← List.append_assoc buffer]
      cases hresult : (receive { buffer } bytes).2 with
      | incomplete =>
          rw [receive_incomplete hresult, ← ih]
          rfl
      | error error =>
          have hdecided : (receive {} (buffer ++ bytes)).2 ≠ .incomplete := by
            rw [← receive_holding, hresult]
            exact fun h => nomatch h
          obtain ⟨other, hother⟩ := receive_more hmore hdecided
          rw [receiveAll_cons, hother]
          rfl
      | outcome outcome =>
          have hdecided : (receive {} (buffer ++ bytes)).2 ≠ .incomplete := by
            rw [← receive_holding, hresult]
            exact fun h => nomatch h
          obtain ⟨other, hother⟩ := receive_more hmore hdecided
          rw [receiveAll_cons, hother, receiveAll_completed (receive_outcome hresult), List.length_append,
            List.length_singleton]
          rfl

/-- A read that leaves bytes of a block to come. -/
theorem receive_part (h : outcome.Deliverable) (hmore : more ≠ [])
    (hblock : buffer ++ bytes ++ more = encodeLines (outcomeLines outcome)) :
    receive { buffer } bytes = ({ buffer := buffer ++ bytes }, .incomplete) := by
  have hresult : (receive { buffer } bytes).2 = .incomplete := by
    have hbound := length_block_le h
    rw [← hblock, List.length_append] at hbound
    rw [receive_holding, receive_fresh, if_neg (by omega)]
    exact parseBlock_part h hmore hblock
  exact Prod.ext (receive_incomplete hresult) hresult

/-- The read that completes a block. -/
theorem receive_whole (h : outcome.Deliverable) (hblock : buffer ++ bytes = encodeLines (outcomeLines outcome)) :
    (receive { buffer } bytes).2 = .outcome outcome := by
  rw [receive_holding, hblock, receive_fresh, if_neg (Nat.not_lt.mpr (length_block_le h)), parseBlock_block h]

/-- Reads of a part of a block are incomplete, and the parser goes on behind them. -/
theorem receiveAll_part (h : outcome.Deliverable) (hmore : more ≠ [])
    (hblock : buffer ++ reads.flatten ++ more = encodeLines (outcomeLines outcome)) (later : List Bytes) :
    receiveAll { buffer } (reads ++ later) =
      List.replicate reads.length .incomplete ++ receiveAll { buffer := buffer ++ reads.flatten } later := by
  induction reads generalizing buffer with
  | nil => rw [List.flatten_nil, List.append_nil, List.nil_append, List.length_nil, List.replicate_zero, List.nil_append]
  | cons bytes reads ih =>
      rw [List.flatten_cons, ← List.append_assoc] at hblock ⊢
      have hread : receive { buffer } bytes = ({ buffer := buffer ++ bytes }, .incomplete) := by
        rw [List.append_assoc] at hblock
        exact receive_part h (List.append_ne_nil_of_right_ne_nil _ hmore) hblock
      rw [List.cons_append, receiveAll_cons, hread, ih hblock, List.length_cons, List.replicate_succ,
        List.cons_append]

/-- Whatever a parser has seen, it only reports outcomes that can be written. -/
theorem deliverable_of_receiveAll (h : .outcome outcome ∈ parser.receiveAll reads) : outcome.Deliverable := by
  induction reads generalizing parser with
  | nil => exact nomatch h
  | cons bytes reads ih =>
      rw [receiveAll_cons, List.mem_cons] at h
      rcases h with hread | hlater
      · unfold receive at hread
        split at hread
        · exact nomatch hread
        · split at hread
          · exact nomatch hread
          · dsimp only at hread
            split at hread
            · rename_i found hparse
              obtain rfl := ControllerSessionOutcomeParseResult.outcome.inj hread
              exact deliverable_of_parseBlock hparse
            · exact deliverable_of_parseBlock hread.symm
      · exact ih hlater

end Reads

end ControllerSessionOutcomeParser

open ControllerSessionOutcomeParser

/-- Reads of a written block are incomplete before its last byte and the outcome at it, and everything behind that
byte is an error. What is accepted can be written, and its block is accepted as the same outcome. The verdict on a
stream is that on its bytes in one read. -/
theorem outcomeBlock_codec :
    (∀ outcome block, serializeControllerSessionOutcome outcome = .ok block →
      (∀ reads : List Bytes, reads.flatten <+: block → reads.flatten ≠ block →
        receiveAll {} reads = List.replicate reads.length .incomplete) ∧
      ∀ (reads : List Bytes) (last : Bytes), reads.flatten ++ last = block → last ≠ [] →
        (∀ later : List Bytes, receiveAll {} (reads ++ [last] ++ later) =
          List.replicate reads.length .incomplete ++ [.outcome outcome] ++
            List.replicate later.length (.error .trailingData)) ∧
        ∀ further : Bytes, further ≠ [] → ∃ error, receiveAll {} (reads ++ [last ++ further]) =
          List.replicate reads.length .incomplete ++ [.error error]) ∧
    (∀ reads outcome, .outcome outcome ∈ receiveAll {} reads →
      ∃ block, serializeControllerSessionOutcome outcome = .ok block ∧ receiveAll {} [block] = [.outcome outcome]) ∧
    ∀ (reads : List Bytes) (last : Bytes), last ≠ [] →
      verdict (receiveAll {} (reads ++ [last])) = verdict (receiveAll {} [reads.flatten ++ last]) := by
  have hwhole : ∀ outcome : SessionOutcome, outcome.Deliverable →
      (receive {} (encodeLines (outcomeLines outcome))).2 = .outcome outcome := fun outcome h =>
    receive_whole h (List.nil_append _)
  refine ⟨fun outcome block hblock => ?_, fun reads outcome h => ?_, fun reads last hlast => verdict_receiveAll hlast⟩
  · obtain ⟨hdeliverable, rfl⟩ := serializeControllerSessionOutcome_eq_ok_iff.mp hblock
    constructor
    · rintro reads ⟨more, hmore⟩ hpart
      have hleft : more ≠ [] := by
        rintro rfl
        exact hpart (by rw [← hmore, List.append_nil])
      have hreads := receiveAll_part hdeliverable hleft (show [] ++ reads.flatten ++ more = _ from hmore) []
      rwa [List.append_nil, receiveAll, List.append_nil] at hreads
    · intro reads last hreads hlast
      have hpart := receiveAll_part hdeliverable hlast (show [] ++ reads.flatten ++ last = _ from hreads)
      have hresult : (receive { buffer := [] ++ reads.flatten } last).2 = .outcome outcome :=
        receive_whole hdeliverable hreads
      constructor
      · intro later
        rw [List.append_assoc, hpart, List.singleton_append, receiveAll_cons, hresult,
          receiveAll_completed (receive_outcome hresult), List.append_assoc]
        rfl
      · intro further hfurther
        have hdecided : (receive {} (reads.flatten ++ last)).2 ≠ .incomplete := by
          rw [hreads, hwhole outcome hdeliverable]
          exact fun h => by cases h
        obtain ⟨error, herror⟩ := receive_more hfurther hdecided
        refine ⟨error, ?_⟩
        rw [hpart, receiveAll_cons, receive_holding, List.nil_append, ← List.append_assoc, herror]
        rfl
  · have hdeliverable := deliverable_of_receiveAll h
    refine ⟨_, serializeControllerSessionOutcome_eq_ok_iff.mpr ⟨hdeliverable, rfl⟩, ?_⟩
    rw [receiveAll_cons, hwhole outcome hdeliverable]
    rfl

end NetLagLab
