import NetLagLab.AttachClient

/-! Streams that the attach client understands: lines that it goes on behind, in whole blocks, and then the end of the
stream. However such a stream is cut into reads, the client takes all of it, ends with the status of its end, and has
nothing to complain about. -/

namespace NetLagLab

open ByteLines ControllerSessionOutcome ControllerSessionOutcomeParser

/-- No complaint about what the Session has sent. -/
def ClientReport.Quiet (report : ClientReport) : Prop :=
  report ∉ [ClientReport.error invalidResponseText, .error responseTooLongText, .error invalidSessionOutcomeText]

instance quietDecidable (report : ClientReport) : Decidable report.Quiet := inferInstanceAs (Decidable (_ ∉ _))

/-! ### Lines that the client goes on behind -/

structure GoesOn (block : ResponseBlock) (line : Bytes) : Prop where
  single : newline ∉ line
  bounded : line.length ≤ maximumStatusSize
  ordinary : line ≠ beginMarker
  quiet : ∀ report ∈ (handleSupervisorResponseLine line block).reports, report.Quiet
  going : (handleSupervisorResponseLine line block).status = none

instance goesOnDecidable (block : ResponseBlock) (line : Bytes) : Decidable (GoesOn block line) :=
  decidable_of_iff (newline ∉ line ∧ line.length ≤ maximumStatusSize ∧ line ≠ beginMarker ∧
      (∀ report ∈ (handleSupervisorResponseLine line block).reports, report.Quiet) ∧
      (handleSupervisorResponseLine line block).status = none)
    ⟨fun ⟨hsingle, hbounded, hordinary, hquiet, hgoing⟩ => ⟨hsingle, hbounded, hordinary, hquiet, hgoing⟩,
      fun h => ⟨h.single, h.bounded, h.ordinary, h.quiet, h.going⟩⟩

/-- The client goes on behind each of the lines, from a block to a block. -/
def Calm : ResponseBlock → List Bytes → ResponseBlock → Prop
  | block, [], last => block = last
  | block, line :: lines, last => GoesOn block line ∧ Calm (handleSupervisorResponseLine line block).block lines last

instance calmDecidable : ∀ block lines last, Decidable (Calm block lines last)
  | block, [], last => inferInstanceAs (Decidable (block = last))
  | block, line :: lines, last =>
      haveI := calmDecidable (handleSupervisorResponseLine line block).block lines last
      inferInstanceAs (Decidable (_ ∧ _))

section Calm

variable {block middle last : ResponseBlock} {lines more : List Bytes}

theorem calm_append_iff : Calm block (lines ++ more) last ↔ ∃ middle, Calm block lines middle ∧ Calm middle more last := by
  induction lines generalizing block with
  | nil => exact ⟨fun h => ⟨block, rfl, h⟩, fun ⟨_, hsame, h⟩ => hsame ▸ h⟩
  | cons line lines ih =>
      rw [List.cons_append, Calm, ih]
      constructor
      · rintro ⟨hline, middle, hlines, hmore⟩
        exact ⟨middle, ⟨hline, hlines⟩, hmore⟩
      · rintro ⟨middle, ⟨hline, hlines⟩, hmore⟩
        exact ⟨hline, middle, hlines, hmore⟩

theorem Calm.single (h : Calm block lines last) : ∀ line ∈ lines, newline ∉ line ∧ line.length ≤ maximumStatusSize := by
  induction lines generalizing block with
  | nil => exact fun _ hmem => nomatch hmem
  | cons line lines ih => exact List.forall_mem_cons.mpr ⟨⟨h.1.single, h.1.bounded⟩, ih h.2⟩

/-- Behind such lines the client does with the others what it does with them alone. -/
theorem Calm.handleResponseLines (h : Calm block lines middle) (unfinished : Bytes) (more : List Bytes) :
    ∃ said : List ClientReport,
    (∀ report ∈ said, report.Quiet) ∧ handleResponseLines unfinished block (lines ++ more) =
      { handleResponseLines unfinished middle more with
        reports := said ++ (NetLagLab.handleResponseLines unfinished middle more).reports } := by
  induction lines generalizing block with
  | nil => exact ⟨[], (fun _ hmem => nomatch hmem), by rw [show block = middle from h, List.nil_append]; rfl⟩
  | cons line lines ih =>
      obtain ⟨hline, hlines⟩ := h
      obtain ⟨said, hquiet, heq⟩ := ih hlines
      refine ⟨(handleSupervisorResponseLine line block).reports ++ said, ?_, ?_⟩
      · exact List.forall_mem_append.mpr ⟨hline.quiet, hquiet⟩
      · rw [List.cons_append, NetLagLab.handleResponseLines, if_neg hline.ordinary]
        dsimp only
        rw [hline.going, heq, List.append_assoc]

end Calm

/-! ### How a stream ends -/

inductive StreamEnd where
  | detached
  | delivered (outcome : SessionOutcome)
  deriving DecidableEq

namespace StreamEnd

def lines : StreamEnd → List Bytes
  | .detached => [ascii "DETACHED"]
  | .delivered outcome => outcomeLines outcome

/-- The exit status of a client at this end. -/
def status : StreamEnd → Nat
  | .detached => 0
  | .delivered outcome => if outcome.infrastructureSucceeded = true then 0 else 1

/-- An end that is written. -/
def Written : StreamEnd → Prop
  | .detached => True
  | .delivered outcome => outcome.Deliverable

variable {ending : StreamEnd}

theorem lines_spec (h : ending.Written) : ∀ line ∈ ending.lines, newline ∉ line ∧ line.length ≤ maximumStatusSize := by
  cases ending with
  | detached => exact by decide
  | delivered outcome =>
      intro line hmem
      obtain ⟨hsingle, hlength⟩ := outcomeLines_spec h line hmem
      exact ⟨hsingle, hlength.trans (by decide)⟩

end StreamEnd

/-- The outcome of a Session that could be written is reported with its status. -/
theorem reportAttachedSessionOutcome_spec {outcome : SessionOutcome} (h : outcome.Deliverable) :
    (reportAttachedSessionOutcome outcome).1.Quiet ∧
      (reportAttachedSessionOutcome outcome).2 = (StreamEnd.delivered outcome).status := by
  unfold reportAttachedSessionOutcome StreamEnd.status
  have houtput : ∀ text, (ClientReport.output text).Quiet := fun text => by simp [ClientReport.Quiet]
  dsimp only
  split
  · rename_i hsucceeded
    obtain ⟨⟨kind, value⟩, hworkload⟩ := Option.ne_none_iff_exists'.mp (h.known hsucceeded)
    rw [hworkload]
    cases kind <;> exact ⟨houtput _, rfl⟩
  · refine ⟨?_, rfl⟩
    -- the twelfth byte tells the texts apart
    have hother : ∀ {text : Bytes}, (text.drop 11).head? ≠ some 83 → infrastructureFailedText outcome ≠ text := by
      rintro text hhead rfl
      exact hhead rfl
    simp only [ClientReport.Quiet, List.mem_cons, ClientReport.error.injEq, List.not_mem_nil, or_false, not_or]
    exact ⟨hother (by decide), hother (by decide), hother (by decide)⟩

/-! ### Reads of a stream -/

/-- The client has taken a part of a stream, and the bytes are still to come. -/
inductive Expecting (ending : StreamEnd) : AttachClient → Bytes → Prop
  | lines {block : ResponseBlock} {lines : List Bytes} {unfinished more : Bytes} (calm : Calm block lines .none)
      (single : newline ∉ unfinished) (stream : unfinished ++ more = encodeLines (lines ++ ending.lines)) :
      Expecting ending { responseBuffer := unfinished, responseBlock := block } more
  | block {outcome : SessionOutcome} {block : ResponseBlock} {buffer more : Bytes}
      (delivered : ending = .delivered outcome) (stream : buffer ++ more = encodeLines (outcomeLines outcome)) :
      Expecting ending { responseBlock := block, sessionOutcomeParser := some { buffer } } more

/-- What a read of a stream does: it ends the client if it is the last one, and else the client goes on. -/
structure Understood (ending : StreamEnd) (more : Bytes) (handled : ReadResult) : Prop where
  quiet : ∀ report ∈ handled.reports, report.Quiet
  ended : more = [] → handled.status = some ending.status
  going : more ≠ [] → handled.status = none ∧ Expecting ending handled.client more

section Reads

variable {ending : StreamEnd} {outcome : SessionOutcome} {client : AttachClient} {block : ResponseBlock}
  {lines : List Bytes} {buffer bytes more unfinished : Bytes}

/-- Reports that came before do no harm. -/
theorem Understood.behind {handled : ReadResult} {said : List ClientReport} (h : Understood ending more handled)
    (hsaid : ∀ report ∈ said, report.Quiet) :
    Understood ending more { handled with reports := said ++ handled.reports } where
  quiet := List.forall_mem_append.mpr ⟨hsaid, h.quiet⟩
  ended := h.ended
  going := h.going

/-- A read of the block. -/
theorem understood_block (h : outcome.Deliverable) (block : ResponseBlock)
    (hblock : buffer ++ bytes ++ more = encodeLines (outcomeLines outcome)) :
    Understood (.delivered outcome) more (handleSessionOutcomeResult
      { responseBlock := block, sessionOutcomeParser := some (receive { buffer } bytes).1 }
      (receive { buffer } bytes).2) := by
  by_cases hmore : more = []
  · rw [hmore, List.append_nil] at hblock
    obtain ⟨hquiet, hstatus⟩ := reportAttachedSessionOutcome_spec h
    rw [receive_whole h hblock]
    refine ⟨?_, fun _ => congrArg some hstatus, fun hne => absurd hmore hne⟩
    exact fun report hmem => List.mem_singleton.mp hmem ▸ hquiet
  · rw [receive_part h hmore hblock]
    exact ⟨(fun _ hmem => nomatch hmem), fun hnil => absurd hnil hmore, fun _ => ⟨rfl, .block rfl hblock⟩⟩

/-- The line that begins the block, and the lines behind it that came with it. -/
theorem understood_begin (h : outcome.Deliverable) (block : ResponseBlock)
    (hblock : encodeLines (beginMarker :: lines) ++ unfinished ++ more = encodeLines (outcomeLines outcome)) :
    Understood (.delivered outcome) more (handleResponseLines unfinished block (beginMarker :: lines)) := by
  have hbegun : encodeLines (beginMarker :: lines) ++ unfinished =
      [] ++ (beginMarker ++ [newline]) ++ (encodeLines lines ++ unfinished) := by simp
  rw [hbegun, List.append_assoc] at hblock
  have hrest : encodeLines lines ++ unfinished ++ more ≠ [] := by
    intro hnil
    rw [hnil, List.append_nil] at hblock
    have hlength := congrArg List.length hblock
    simp [outcomeLines] at hlength
  have hreceived := receive_part h hrest hblock
  rw [← List.append_assoc] at hblock
  rw [handleResponseLines, if_pos rfl]
  dsimp only
  rw [hreceived]
  by_cases hbuffer : encodeLines lines ++ unfinished = []
  · rw [hbuffer, List.nil_append] at hrest
    rw [hbuffer, List.append_nil] at hblock
    rw [if_pos hbuffer]
    exact ⟨(fun _ hmem => by cases hmem), fun hnil => absurd hnil hrest, fun _ => ⟨rfl, .block rfl hblock⟩⟩
  · rw [if_neg hbuffer]
    exact understood_block h block hblock

/-- A read that ends before the end of the stream begins. -/
theorem understood_lines (hwritten : ending.Written) (calm : Calm block lines .none) (single : newline ∉ unfinished)
    (hstream : unfinished ++ more = encodeLines (lines ++ ending.lines)) :
    Understood ending more (handleResponseLines unfinished block []) := by
  have hbound : unfinished.length ≤ maximumStatusSize := by
    refine length_le_of_append_eq single (fun line hline => ?_) hstream
    rcases List.mem_append.mp hline with hmem | hmem
    · exact (calm.single line hmem).2
    · exact (StreamEnd.lines_spec hwritten line hmem).2
  have hmore : more ≠ [] := by
    rintro rfl
    rw [List.append_nil] at hstream
    cases ending <;> simp [StreamEnd.lines, outcomeLines, hstream] at single
  rw [handleResponseLines, if_neg (Nat.not_lt.mpr hbound)]
  exact ⟨(fun _ hmem => by cases hmem), fun hnil => absurd hnil hmore, fun _ => ⟨rfl, .lines calm single hstream⟩⟩

/-- Lines of the end of the stream. -/
theorem understood_end {first : Bytes} {seen rest : List Bytes} (hwritten : ending.Written)
    (hlines : ending.lines = first :: seen ++ rest) (hstream : unfinished ++ more = encodeLines rest) :
    Understood ending more (handleResponseLines unfinished .none (first :: seen)) := by
  cases ending with
  | detached =>
      obtain ⟨rfl, hnone⟩ := List.cons.inj hlines
      obtain ⟨rfl, rfl⟩ := List.append_eq_nil_iff.mp hnone.symm
      obtain ⟨rfl, rfl⟩ := List.append_eq_nil_iff.mp hstream
      exact ⟨by decide, fun _ => by decide, fun hne => absurd rfl hne⟩
  | delivered outcome =>
      obtain ⟨rfl, -⟩ := List.cons.inj hlines
      refine understood_begin hwritten .none ?_
      rw [List.append_assoc, hstream, ← encodeMarked_append, ← hlines]
      rfl

/-- Every read of a stream is understood. -/
theorem Expecting.read (h : Expecting ending client (bytes ++ more)) (hwritten : ending.Written) :
    Understood ending more (client.readAndHandleSupervisorResponses (.data bytes)) := by
  cases h with
  | block delivered stream =>
      subst delivered
      rw [← List.append_assoc] at stream
      exact understood_block hwritten _ stream
  | @lines block lines unfinished _ calm single stream =>
      have hsingle : ∀ line ∈ lines ++ ending.lines, newline ∉ line := fun line hline =>
        (List.mem_append.mp hline).elim (fun hmem => (calm.single line hmem).1)
          fun hmem => (StreamEnd.lines_spec hwritten line hmem).1
      rw [← List.append_assoc] at stream
      obtain ⟨rest, hrest, hunfinished⟩ := splitAtMark_of_append_eq hsingle stream
      have hnewline : newline ∉ (splitLines (unfinished ++ bytes)).2 := notMem_splitAtMark_snd _
      rw [AttachClient.readAndHandleSupervisorResponses]
      dsimp only
      -- the read ends among the lines, or behind the first one of the end
      rcases List.append_eq_append_iff.mp hrest with ⟨seen, hseen, hending⟩ | ⟨left, rfl, rfl⟩
      · obtain ⟨said, hquiet, heq⟩ := calm.handleResponseLines (splitLines (unfinished ++ bytes)).2 seen
        rw [hseen, heq]
        cases seen with
        | nil =>
            rw [List.nil_append] at hending
            rw [← hending] at hunfinished
            have hnothing : Calm .none [] .none := rfl
            exact (understood_lines hwritten hnothing hnewline hunfinished).behind hquiet
        | cons first seen => exact (understood_end hwritten hending hunfinished).behind hquiet
      · obtain ⟨middle, hread, hleft⟩ := calm_append_iff.mp calm
        obtain ⟨said, hquiet, heq⟩ := hread.handleResponseLines (splitLines (unfinished ++ bytes)).2 []
        rw [List.append_nil] at heq
        rw [heq]
        exact (understood_lines hwritten hleft hnewline hunfinished).behind hquiet

/-- Reads that bring the rest of a stream. -/
theorem Expecting.readResponses {reads : List Bytes} (hwritten : ending.Written) (hreads : ∀ read ∈ reads, read ≠ [])
    (hne : reads ≠ []) (h : Expecting ending client reads.flatten) :
    (client.readResponses (reads.map .data)).status = some ending.status ∧
      (client.readResponses (reads.map .data)).unread = [] ∧
      ∀ report ∈ (client.readResponses (reads.map .data)).reports, report.Quiet := by
  induction reads generalizing client with
  | nil => exact absurd rfl hne
  | cons bytes reads ih =>
      rw [List.flatten_cons] at h
      have hread := h.read hwritten
      rw [List.map_cons, AttachClient.readResponses]
      dsimp only
      rcases reads with _ | ⟨next, reads⟩
      · rw [hread.ended rfl]
        exact ⟨rfl, rfl, hread.quiet⟩
      · have hlater := (List.forall_mem_cons.mp hreads).2
        have hmore : (next :: reads).flatten ≠ [] := by
          rw [List.flatten_cons]
          exact List.append_ne_nil_of_left_ne_nil (hlater next List.mem_cons_self) _
        obtain ⟨hgoing, hexpecting⟩ := hread.going hmore
        obtain ⟨hstatus, hunread, hquiet⟩ := ih hlater (List.cons_ne_nil _ _) hexpecting
        rw [hgoing]
        exact ⟨hstatus, hunread, List.forall_mem_append.mpr ⟨hread.quiet, hquiet⟩⟩

/-- A stream in any reads, from its first byte on. -/
theorem readResponses_stream {reads : List Bytes} (hwritten : ending.Written) (calm : Calm .none lines .none)
    (hreads : ∀ read ∈ reads, read ≠ []) (hstream : reads.flatten = encodeLines (lines ++ ending.lines)) :
    (AttachClient.readResponses {} (reads.map .data)).status = some ending.status ∧
      (AttachClient.readResponses {} (reads.map .data)).unread = [] ∧
      ∀ report ∈ (AttachClient.readResponses {} (reads.map .data)).reports, report.Quiet := by
  have hne : reads ≠ [] := by
    rintro rfl
    have hnone := eq_nil_of_encodeMarked hstream.symm
    cases ending <;> simp [StreamEnd.lines, outcomeLines] at hnone
  have hexpecting : Expecting ending {} reads.flatten :=
    .lines calm List.not_mem_nil ((List.nil_append _).trans hstream)
  exact hexpecting.readResponses hwritten hreads hne

end Reads

end NetLagLab
