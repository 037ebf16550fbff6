import NetLagLab.ResolverSnapshot

/-! What a snapshot of the name service configuration is to its source: one line, the one of the hosts database, is
replaced, and every other line is copied. -/

namespace NetLagLab.ResolverView

open ByteLines

/-! ### Ended lines -/

/-- The text of lines that may each be ended by a newline. -/
def joinEnded (lines : List (Bytes × Bool)) : Bytes :=
  lines.flatMap fun line => line.1 ++ if line.2 = true then [newline] else []

/-- Lines as a text has them: only the last one may be unfinished, and then it is not empty. -/
inductive EndedLines : List (Bytes × Bool) → Prop
  | nil : EndedLines []
  | unfinished (line : Bytes) (nonempty : line ≠ []) (whole : newline ∉ line) : EndedLines [(line, false)]
  | cons (line : Bytes) (whole : newline ∉ line) {lines : List (Bytes × Bool)} (rest : EndedLines lines) :
      EndedLines ((line, true) :: lines)

section Ended

variable {text : Bytes} {lines before after : List (Bytes × Bool)} {line other : Bytes × Bool}

theorem map_fst_endedLines (text : Bytes) : (endedLines text).map Prod.fst = outputLines text := by
  rw [endedLines, outputLines, List.map_append, List.map_map]
  split <;> simp [Function.comp_def]

theorem joinEnded_endedLines (text : Bytes) : joinEnded (endedLines text) = text := by
  have hjoin := splitAtMark_join newline text
  have hpieces : joinEnded ((splitLines text).1.map (·, true)) = encodeLines (splitLines text).1 := by
    rw [joinEnded, List.flatMap_map]
    rfl
  conv_rhs => rw [← hjoin]
  rw [endedLines, joinEnded, List.flatMap_append, ← joinEnded, hpieces]
  split
  · rename_i hnone
    rw [show (splitAtMark newline text).2 = [] from hnone]
    rfl
  · simp

theorem endedLines_cons {content : Bytes} (whole : newline ∉ content) (rest : Bytes) :
    endedLines (content ++ newline :: rest) = (content, true) :: endedLines rest := by
  simp only [endedLines, show splitLines _ = _ from splitAtMark_piece whole rest, List.map_cons, List.cons_append]

theorem endedLines_joinEnded (h : EndedLines lines) : endedLines (joinEnded lines) = lines := by
  induction h with
  | nil => rfl
  | unfinished line nonempty whole =>
      have htext : joinEnded [(line, false)] = line := by simp [joinEnded]
      rw [htext, endedLines, show splitLines line = _ from splitAtMark_of_notMem whole]
      simp [nonempty]
  | @cons line whole lines rest ih =>
      have htext : joinEnded ((line, true) :: lines) = line ++ newline :: joinEnded lines := by simp [joinEnded]
      rw [htext, endedLines_cons whole, ih]

theorem endedLines_of_endedLines (text : Bytes) : EndedLines (endedLines text) := by
  have hwhole := newline_notMem_outputLines text
  have hunfinished : EndedLines (if (splitLines text).2 = [] then [] else [((splitLines text).2, false)]) := by
    split
    · exact .nil
    · rename_i hsome
      exact .unfinished _ hsome (notMem_splitAtMark_snd text)
  have hpieces : ∀ pieces : List Bytes, (∀ piece ∈ pieces, newline ∉ piece) →
      EndedLines (pieces.map (·, true) ++ if (splitLines text).2 = [] then [] else [((splitLines text).2, false)]) := by
    intro pieces
    induction pieces with
    | nil => exact fun _ => hunfinished
    | cons piece pieces ih =>
        intro h
        obtain ⟨hpiece, hrest⟩ := List.forall_mem_cons.mp h
        exact .cons piece hpiece (ih hrest)
  exact hpieces _ (notMem_of_mem_splitAtMark_fst text)

/-- A line may be replaced by another that is whole. -/
theorem EndedLines.replace {content : Bytes} (hcontent : newline ∉ content) (hne : content ≠ []) :
    ∀ {before : List (Bytes × Bool)}, EndedLines (before ++ line :: after) →
      EndedLines (before ++ (content, line.2) :: after) := by
  intro before
  induction before with
  | nil =>
      intro h
      cases h with
      | unfinished => exact .unfinished content hne hcontent
      | cons first whole rest => exact .cons content hcontent rest
  | cons first before ih =>
      intro h
      cases before with
      | nil =>
          cases h with
          | cons first whole rest => exact .cons first whole (ih rest)
      | cons second before =>
          cases h with
          | cons first whole rest => exact .cons first whole (ih rest)

end Ended

/-! ### The line of the hosts database -/

def firstWord (rawLine : Bytes) : Option Bytes := (nsswitchWords rawLine).head?

/-- The first word names the hosts database, or merely begins like it. -/
def BeginsHosts (rawLine : Bytes) : Prop := ∃ first, firstWord rawLine = some first ∧ hostsDatabase <+: first

section HostsLine

variable {raw : Bytes}

def hostsFilesDns : Bytes := ascii "hosts: files dns"

/-- A comment begins with its mark. -/
theorem exists_comment (h : hash ∈ raw) :
    ∃ rest, trim (raw.dropWhile fun byte => byte != hash) = hash :: rest := by
  obtain ⟨before, behind, rfl, hbefore⟩ := List.eq_append_cons_of_mem h
  have hdrop : (before ++ hash :: behind).dropWhile (fun byte => byte != hash) = hash :: behind := by
    rw [List.dropWhile_append_of_pos fun byte hbyte => by
      rw [bne_iff_ne]
      rintro rfl
      exact hbefore hbyte]
    rfl
  have hfront : (hash :: behind).dropWhile isTrimmed = hash :: behind := rfl
  rw [hdrop, trim, trimBlanks, hfront]
  rcases List.prefix_cons_iff.mp (List.rdropWhile_prefix isTrimmed (hash :: behind)) with hnil | ⟨rest, hrest, -⟩
  · exact absurd (List.rdropWhile_eq_nil_iff.mp hnil hash List.mem_cons_self) (by decide)
  · exact ⟨rest, hrest⟩

theorem hostsLine_of_mem (h : hash ∈ raw) :
    ∃ rest, hostsLine raw = hostsFilesDns ++ space :: hash :: rest ∧
      trim (raw.dropWhile fun byte => byte != hash) = hash :: rest ∧ trim (hash :: rest) = hash :: rest := by
  obtain ⟨rest, hrest⟩ := exists_comment h
  refine ⟨rest, ?_, hrest, ?_⟩
  · rw [hostsLine, if_pos (List.contains_iff_mem.mpr h), hrest]
    rfl
  · rw [← hrest]
    exact trimBlanks_trimBlanks isTrimmed _

theorem hostsLine_of_notMem (h : hash ∉ raw) : hostsLine raw = hostsFilesDns := by
  rw [hostsLine, if_neg (mt List.contains_iff_mem.mp h), List.append_nil]
  rfl

theorem takeWhile_hostsFilesDns (behind : Bytes) :
    (hostsFilesDns ++ space :: hash :: behind).takeWhile (fun byte => byte != hash) = hostsFilesDns ++ [space] ∧
      (hostsFilesDns ++ space :: hash :: behind).dropWhile (fun byte => byte != hash) = hash :: behind := by
  have hfront : ∀ byte ∈ hostsFilesDns ++ [space], (byte != hash) = true := by decide
  rw [← List.singleton_append, ← List.append_assoc]
  constructor
  · rw [List.takeWhile_append_of_pos hfront, List.takeWhile_cons_of_neg (by simp), List.append_nil]
  · rw [List.dropWhile_append_of_pos hfront, List.dropWhile_cons_of_neg (by simp)]

/-- The line that replaces another is itself one of the hosts database. -/
theorem firstWord_hostsLine (raw : Bytes) : firstWord (hostsLine raw) = some hostsDatabase := by
  by_cases hcomment : hash ∈ raw
  · obtain ⟨rest, hline, -, htrim⟩ := hostsLine_of_mem hcomment
    have hlast := getLast?_trimBlanks isTrimmed (hash :: rest)
    rw [← trim, htrim] at hlast
    have hself : trim (hostsFilesDns ++ space :: hash :: rest) = hostsFilesDns ++ space :: hash :: rest := by
      refine trimBlanks_eq_self ?_ fun byte hbyte => hlast byte ?_
      · rintro byte ⟨⟩
        rfl
      · rw [← List.singleton_append, ← List.append_assoc, List.getLast?_append, List.getLast?_cons] at hbyte
        rw [List.getLast?_cons]
        exact hbyte
    rw [hline, firstWord, nsswitchWords, hself, (takeWhile_hostsFilesDns rest).1]
    decide
  · rw [hostsLine_of_notMem hcomment]
    decide

theorem hostsLine_hostsLine (raw : Bytes) : hostsLine (hostsLine raw) = hostsLine raw := by
  by_cases hcomment : hash ∈ raw
  · obtain ⟨rest, hline, -, htrim⟩ := hostsLine_of_mem hcomment
    rw [hline, hostsLine, if_pos (List.contains_iff_mem.mpr (by simp)), (takeWhile_hostsFilesDns rest).2, htrim]
    rfl
  · rw [hostsLine_of_notMem hcomment, hostsLine_of_notMem (by decide)]

theorem newline_notMem_hostsLine (h : newline ∉ raw) : newline ∉ hostsLine raw := by
  by_cases hcomment : hash ∈ raw
  · obtain ⟨rest, hline, hrest, -⟩ := hostsLine_of_mem hcomment
    rw [hline]
    intro hmem
    rcases List.mem_append.mp hmem with hfront | hbehind
    · exact absurd hfront (by decide)
    · rcases List.mem_cons.mp hbehind with hspace | hin
      · exact absurd hspace (by decide)
      · rw [← hrest] at hin
        exact h (List.dropWhile_subset _ (mem_of_mem_trimBlanks hin))
  · rw [hostsLine_of_notMem hcomment]
    decide

theorem hostsLine_ne_nil (raw : Bytes) : hostsLine raw ≠ [] :=
  List.append_ne_nil_of_left_ne_nil (by decide) _

end HostsLine

/-! ### The lines of the configuration -/

section NsswitchLines

variable {progress after : NsswitchProgress} {lines first rest : List (Bytes × Bool)} {line : Bytes × Bool}
  {source snapshot : Bytes}

theorem nsswitchLine_of_copied (hshort : line.1.length ≤ maximumLineSize) (h : ¬ BeginsHosts line.1) :
    nsswitchLine progress line = .ok { progress with snapshot := progress.snapshot ++ joinEnded [line] } := by
  rw [nsswitchLine, if_neg (Nat.not_lt.mpr hshort)]
  cases hfirst : (nsswitchWords line.1).head? with
  | none => simp [joinEnded]
  | some word =>
      have hother : ¬ hostsDatabase.isPrefixOf word = true := fun hbegins =>
        h ⟨word, hfirst, List.isPrefixOf_iff_prefix.mp hbegins⟩
      dsimp only
      rw [if_neg hother]
      simp [joinEnded]

theorem nsswitchLine_of_hosts (hshort : line.1.length ≤ maximumLineSize) (hfirst : firstWord line.1 = some hostsDatabase)
    (hunseen : progress.hostsSeen = false) :
    nsswitchLine progress line = .ok ⟨progress.snapshot ++ joinEnded [(hostsLine line.1, line.2)], true⟩ := by
  rw [nsswitchLine, if_neg (Nat.not_lt.mpr hshort), show (nsswitchWords line.1).head? = some hostsDatabase from hfirst]
  dsimp only
  rw [if_pos (by decide), if_neg (by simp [hunseen])]
  simp [joinEnded]

/-- A line that is accepted is copied, or is the first one of the hosts database. -/
theorem nsswitchLine_ok (h : nsswitchLine progress line = .ok after) :
    line.1.length ≤ maximumLineSize ∧
      ((¬ BeginsHosts line.1 ∧ after = { progress with snapshot := progress.snapshot ++ joinEnded [line] }) ∨
        (firstWord line.1 = some hostsDatabase ∧ progress.hostsSeen = false ∧
          after = ⟨progress.snapshot ++ joinEnded [(hostsLine line.1, line.2)], true⟩)) := by
  have hshort : line.1.length ≤ maximumLineSize := by
    by_contra hlong
    rw [nsswitchLine, if_pos (Nat.lt_of_not_le hlong)] at h
    exact nomatch h
  refine ⟨hshort, ?_⟩
  by_cases hbegins : BeginsHosts line.1
  · obtain ⟨word, hfirst, hword⟩ := hbegins
    have hline := h
    rw [nsswitchLine, if_neg (Nat.not_lt.mpr hshort), show (nsswitchWords line.1).head? = some word from hfirst] at hline
    dsimp only at hline
    rw [if_pos (List.isPrefixOf_iff_prefix.mpr hword)] at hline
    split at hline
    · exact nomatch hline
    · rename_i hnew
      rw [not_or, Bool.not_eq_true, not_not] at hnew
      rw [hnew.2] at hfirst
      rw [nsswitchLine_of_hosts hshort hfirst hnew.1] at h
      exact .inr ⟨hfirst, hnew.1, (Except.ok.inj h).symm⟩
  · rw [nsswitchLine_of_copied hshort hbegins] at h
    exact .inl ⟨hbegins, (Except.ok.inj h).symm⟩

theorem joinEnded_cons (line : Bytes × Bool) (lines : List (Bytes × Bool)) :
    joinEnded (line :: lines) = joinEnded [line] ++ joinEnded lines := by
  simp [joinEnded]

theorem joinEnded_append (lines more : List (Bytes × Bool)) :
    joinEnded (lines ++ more) = joinEnded lines ++ joinEnded more :=
  List.flatMap_append

theorem nsswitchLines_of_copied (h : ∀ line ∈ lines, line.1.length ≤ maximumLineSize ∧ ¬ BeginsHosts line.1) :
    lines.foldlM nsswitchLine progress =
      .ok { progress with snapshot := progress.snapshot ++ joinEnded lines } := by
  induction lines generalizing progress with
  | nil => simp [joinEnded]; rfl
  | cons line lines ih =>
      obtain ⟨hline, hrest⟩ := List.forall_mem_cons.mp h
      rw [List.foldlM_cons, nsswitchLine_of_copied hline.1 hline.2, joinEnded_cons line lines, ← List.append_assoc]
      exact ih hrest

/-- What the lines come to: copies, with at most one line of the hosts database among them. -/
theorem nsswitchLines_ok (h : lines.foldlM nsswitchLine progress = .ok after) :
    (∀ line ∈ lines, line.1.length ≤ maximumLineSize) ∧
      (((∀ line ∈ lines, ¬ BeginsHosts line.1) ∧
          after = { progress with snapshot := progress.snapshot ++ joinEnded lines }) ∨
        ∃ first line rest, lines = first ++ line :: rest ∧ firstWord line.1 = some hostsDatabase ∧
          (∀ other ∈ first ++ rest, ¬ BeginsHosts other.1) ∧ progress.hostsSeen = false ∧
          after = ⟨progress.snapshot ++ joinEnded (first ++ (hostsLine line.1, line.2) :: rest), true⟩) := by
  induction lines generalizing progress with
  | nil =>
      cases h
      refine ⟨(fun _ hmem => nomatch hmem), .inl ⟨(fun _ hmem => nomatch hmem), ?_⟩⟩
      simp [joinEnded]
  | cons line lines ih =>
      rw [List.foldlM_cons] at h
      cases hline : nsswitchLine progress line with
      | error failure => rw [hline] at h; exact nomatch h
      | ok next =>
          rw [hline] at h
          obtain ⟨hshort, hcourse⟩ := nsswitchLine_ok hline
          obtain ⟨hshorts, hrest⟩ := ih h
          refine ⟨List.forall_mem_cons.mpr ⟨hshort, hshorts⟩, ?_⟩
          rcases hcourse with ⟨hother, rfl⟩ | ⟨hfirst, hunseen, rfl⟩
          · rcases hrest with ⟨hothers, rfl⟩ | ⟨first, hosts, rest, rfl, hhosts, hothers, hunseen, rfl⟩
            · refine .inl ⟨List.forall_mem_cons.mpr ⟨hother, hothers⟩, ?_⟩
              rw [joinEnded_cons line lines, List.append_assoc]
            · refine .inr ⟨line :: first, hosts, rest, rfl, hhosts, List.forall_mem_cons.mpr ⟨hother, hothers⟩, hunseen, ?_⟩
              rw [List.cons_append, joinEnded_cons line (first ++ _), List.append_assoc]
          · rcases hrest with ⟨hothers, rfl⟩ | ⟨first, hosts, rest, rfl, hhosts, hothers, hseen, rfl⟩
            · refine .inr ⟨[], line, lines, rfl, hfirst, hothers, hunseen, ?_⟩
              rw [List.nil_append, joinEnded_cons (hostsLine line.1, line.2) lines, List.append_assoc]
            · exact nomatch hseen

/-! ### The snapshot -/

def namesHosts (line : Bytes) : Bool := decide (firstWord line = some hostsDatabase)

/-- The source and the snapshot have the same lines but for one, which names the hosts database in both. -/
structure NsswitchSnapshotOf (source snapshot : Bytes) (first : List (Bytes × Bool)) (line : Bytes × Bool)
    (rest : List (Bytes × Bool)) : Prop where
  lines : endedLines source = first ++ line :: rest
  hosts : firstWord line.1 = some hostsDatabase
  others : ∀ other ∈ first ++ rest, ¬ BeginsHosts other.1
  replaced : endedLines snapshot = first ++ (hostsLine line.1, line.2) :: rest
  again : snapshot.length ≤ maximumFileSize → (∀ line ∈ outputLines snapshot, line.length ≤ maximumLineSize) →
    makeNsswitchSnapshot snapshot = .ok snapshot

/-- Lines with just one of the hosts database are accepted. -/
theorem makeNsswitchSnapshot_of_lines (hlines : endedLines source = first ++ line :: rest)
    (hhosts : firstWord line.1 = some hostsDatabase) (hothers : ∀ other ∈ first ++ rest, ¬ BeginsHosts other.1)
    (hsize : source.length ≤ maximumFileSize) (hshort : ∀ line ∈ outputLines source, line.length ≤ maximumLineSize) :
    makeNsswitchSnapshot source = .ok (joinEnded (first ++ (hostsLine line.1, line.2) :: rest)) := by
  have hshorts : ∀ other ∈ first ++ line :: rest, other.1.length ≤ maximumLineSize := by
    intro other hother
    apply hshort
    rw [← map_fst_endedLines, hlines]
    exact List.mem_map_of_mem hother
  have hfirst : ∀ other ∈ first, other.1.length ≤ maximumLineSize ∧ ¬ BeginsHosts other.1 := fun other hother =>
    ⟨hshorts other (List.mem_append_left _ hother), hothers other (List.mem_append_left _ hother)⟩
  have hrest : ∀ other ∈ rest, other.1.length ≤ maximumLineSize ∧ ¬ BeginsHosts other.1 := fun other hother =>
    ⟨hshorts other (List.mem_append_right _ (List.mem_cons_of_mem _ hother)),
      hothers other (List.mem_append_right _ hother)⟩
  have hne : source ≠ [] := by
    rintro rfl
    exact absurd hlines.symm (by simp [endedLines])
  have hfold : (endedLines source).foldlM nsswitchLine {} =
      .ok ⟨joinEnded (first ++ (hostsLine line.1, line.2) :: rest), true⟩ := by
    rw [hlines, List.foldlM_append, nsswitchLines_of_copied hfirst]
    change List.foldlM nsswitchLine _ (line :: rest) = _
    rw [List.foldlM_cons, nsswitchLine_of_hosts (hshorts line (by simp)) hhosts rfl]
    change List.foldlM nsswitchLine _ rest = _
    rw [nsswitchLines_of_copied hrest, List.append_assoc, List.append_assoc, ← joinEnded_append, ← joinEnded_append]
    rfl
  rw [makeNsswitchSnapshot, if_neg (not_or.mpr ⟨hne, Nat.not_lt.mpr hsize⟩), hfold]
  rfl

theorem lines_of_makeNsswitchSnapshot (h : makeNsswitchSnapshot source = .ok snapshot) :
    ∃ first line rest, endedLines source = first ++ line :: rest ∧ firstWord line.1 = some hostsDatabase ∧
      (∀ other ∈ first ++ rest, ¬ BeginsHosts other.1) ∧
      snapshot = joinEnded (first ++ (hostsLine line.1, line.2) :: rest) := by
  rw [makeNsswitchSnapshot] at h
  split at h
  · exact nomatch h
  · cases hfold : (endedLines source).foldlM nsswitchLine {} with
    | error failure => rw [hfold] at h; exact nomatch h
    | ok after =>
        rw [hfold] at h
        change (if after.hostsSeen = false then _ else _) = _ at h
        rcases (nsswitchLines_ok hfold).2 with ⟨-, rfl⟩ | ⟨first, line, rest, hlines, hhosts, hothers, -, rfl⟩
        · exact nomatch h
        · exact ⟨first, line, rest, hlines, hhosts, hothers, (Except.ok.inj h).symm⟩

theorem nsswitchSnapshotOf_of_ok (h : makeNsswitchSnapshot source = .ok snapshot) :
    ∃ first line rest, NsswitchSnapshotOf source snapshot first line rest := by
  obtain ⟨first, line, rest, hlines, hhosts, hothers, hsnapshot⟩ := lines_of_makeNsswitchSnapshot h
  have hended := hlines ▸ endedLines_of_endedLines source
  have hwhole : newline ∉ line.1 := by
    apply newline_notMem_outputLines source
    rw [← map_fst_endedLines, hlines]
    simp
  have hreplaced : endedLines snapshot = first ++ (hostsLine line.1, line.2) :: rest :=
    hsnapshot ▸ endedLines_joinEnded (hended.replace (newline_notMem_hostsLine hwhole) (hostsLine_ne_nil _))
  refine ⟨first, line, rest, hlines, hhosts, hothers, hreplaced, fun hsize hshort => ?_⟩
  have hagain := makeNsswitchSnapshot_of_lines hreplaced (firstWord_hostsLine _) hothers hsize hshort
  rw [hagain, hostsLine_hostsLine]
  exact congrArg Except.ok hsnapshot.symm

/-- An accepted configuration has one line of the hosts database, which alone is replaced; with no such line, with two
or with one that merely begins like it, none is accepted. -/
theorem makeNsswitchSnapshot_frame (source : Bytes) :
    (∀ snapshot, makeNsswitchSnapshot source = .ok snapshot →
      ∃ first line rest, NsswitchSnapshotOf source snapshot first line rest) ∧
    (((outputLines source).filter namesHosts).length ≠ 1 ∨
        (∃ line ∈ outputLines source, BeginsHosts line ∧ firstWord line ≠ some hostsDatabase) →
      ∃ failure, makeNsswitchSnapshot source = .error failure) := by
  refine ⟨fun snapshot h => nsswitchSnapshotOf_of_ok h, fun hnone => ?_⟩
  cases hmade : makeNsswitchSnapshot source with
  | error failure => exact ⟨failure, rfl⟩
  | ok snapshot =>
      obtain ⟨first, line, rest, hof⟩ := nsswitchSnapshotOf_of_ok hmade
      have hlines : outputLines source = first.map Prod.fst ++ line.1 :: rest.map Prod.fst := by
        rw [← map_fst_endedLines, hof.lines, List.map_append, List.map_cons]
      have hother : ∀ other ∈ first.map Prod.fst ++ rest.map Prod.fst, ¬ BeginsHosts other := by
        intro other hmem
        rw [← List.map_append] at hmem
        obtain ⟨ended, hended, rfl⟩ := List.mem_map.mp hmem
        exact hof.others ended hended
      have hunnamed : ∀ other ∈ first.map Prod.fst ++ rest.map Prod.fst, ¬ namesHosts other = true := by
        intro other hmem hnames
        exact hother other hmem ⟨hostsDatabase, of_decide_eq_true hnames, List.prefix_rfl⟩
      exfalso
      rcases hnone with hcount | ⟨other, hmem, hbegins, hnotHosts⟩
      · apply hcount
        rw [hlines, List.filter_append, List.filter_cons_of_pos (by simpa [namesHosts] using hof.hosts),
          List.filter_eq_nil_iff.mpr fun other hin => hunnamed other (List.mem_append_left _ hin),
          List.filter_eq_nil_iff.mpr fun other hin => hunnamed other (List.mem_append_right _ hin)]
        rfl
      · rw [hlines, List.mem_append, List.mem_cons] at hmem
        rcases hmem with hin | rfl | hin
        · exact hother other (List.mem_append_left _ hin) hbegins
        · exact hnotHosts hof.hosts
        · exact hother other (List.mem_append_right _ hin) hbegins

end NsswitchLines

theorem makeNsswitchSnapshot_frame_host :
    (∃ first line rest, NsswitchSnapshotOf (ascii "passwd: files\nhosts: resolve dns # host\ngroup: files")
      (ascii "passwd: files\nhosts: files dns # host\ngroup: files") first line rest) ∧
    ∃ failure, makeNsswitchSnapshot (ascii "hosts: files\nhosts: dns\n") = .error failure :=
  ⟨(makeNsswitchSnapshot_frame _).1 _ (by decide), (makeNsswitchSnapshot_frame _).2 (.inl (by decide))⟩

end NetLagLab.ResolverView
