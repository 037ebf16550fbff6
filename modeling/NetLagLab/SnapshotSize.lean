import NetLagLab.NsswitchSnapshot

/-! The size of the snapshots, against the bound that they meet when they are materialized. A resolver snapshot is longer
than its source only by the newline that its last line may get; the line of the hosts database may grow by more. -/

namespace NetLagLab.ResolverView

open ByteLines

/-- The snapshot is within the bound: where an empty file is admitted, it is. -/
def Fits (snapshot : Bytes) : Prop :=
  snapshot.length ≤ maximumFileSize ∧
    ∀ (effectiveUser : UInt32) (directory source : FileStatus) (seals : Option UInt32),
      admitsSnapshot effectiveUser directory { source with size := 0 } seals = true →
        admitsSnapshot effectiveUser directory { source with size := snapshot.length } seals = true

theorem fits_iff (snapshot : Bytes) : Fits snapshot ↔ snapshot.length ≤ maximumFileSize := by
  refine ⟨fun hfits => hfits.1, fun hsize => ⟨hsize, fun effectiveUser directory source seals hempty => ?_⟩⟩
  simp only [admitsSnapshot, Bool.and_eq_true, decide_eq_true_eq] at hempty ⊢
  obtain ⟨⟨⟨hchecks, -⟩, -⟩, hseals⟩ := hempty
  exact ⟨⟨⟨hchecks, Int.natCast_nonneg _⟩, Int.ofNat_le.mpr hsize⟩, hseals⟩

/-! ### Resolver snapshots -/

/-- A line with nothing to leave out: its words with one blank between, and no address but IPv4. -/
def Tight (line : Bytes) : Prop :=
  (joinWords (words (uncommented line))).length = line.length ∧ words (uncommented line) ≠ [] ∧
    ∀ text, words (uncommented line) = [nameserver, text] → (inetPton (cString text)).isSome = true

section Sizes

variable {progress next before after : ResolverProgress} {line source : Bytes} {lines : List Bytes}
  {entry : Option (List Bytes)} {entries : List (List Bytes)}

theorem length_words_le (line : Bytes) : (joinWords (words (uncommented line))).length ≤ line.length :=
  (length_joinWords_blankWords_le blank_of_separator _).trans (uncommented_within line).length_le

theorem Accepted.length_encodeLines (h : Accepted progress (words (uncommented line)) entry next) :
    (encodeLines (entry.toList.map joinWords)).length ≤ line.length + 1 ∧
      ((encodeLines (entry.toList.map joinWords)).length = line.length + 1 ↔ Tight line) := by
  have hle := length_words_le line
  unfold Tight
  generalize words (uncommented line) = tokens at h hle
  cases entry with
  | none =>
      refine ⟨Nat.zero_le _, (fun hlength => nomatch hlength), fun htight => ?_⟩
      cases h with
      | blank => exact absurd rfl htight.2.1
      | passedOver other => exact nomatch (other ▸ htight.2.2 _ rfl : (none : Option InAddr).isSome = true)
  | some written =>
      have hlength : (encodeLines ((some written).toList.map joinWords)).length = (joinWords tokens).length + 1 := by
        rw [← h.length]
        simp [encodeMarked]
      rw [hlength]
      refine ⟨Nat.succ_le_succ hle, fun heq => ⟨Nat.succ.inj heq, ?_, ?_⟩, fun htight => congrArg Nat.succ htight.1⟩
      · rintro rfl
        cases h
      · rintro text rfl
        cases h with
        | address read => rw [read]; rfl
        | domains name => exact absurd name (by decide)

theorem AcceptedLines.length_encodeLines (h : AcceptedLines before lines entries after) :
    (encodeLines (entries.map joinWords)).length ≤ (encodeLines lines).length ∧
      ((encodeLines (entries.map joinWords)).length = (encodeLines lines).length ↔ ∀ line ∈ lines, Tight line) := by
  induction h with
  | nil => exact ⟨le_rfl, (fun _ _ hmem => nomatch hmem), fun _ => rfl⟩
  | @cons progress next after line lines entry entries short directive rest ih =>
      have hparts : (encodeLines ((entry.toList ++ entries).map joinWords)).length =
          (encodeLines (entry.toList.map joinWords)).length + (encodeLines (entries.map joinWords)).length := by
        rw [List.map_append, ← List.length_append]
        exact congrArg List.length (encodeMarked_append _ _)
      have hline : (encodeLines (line :: lines)).length = line.length + ((encodeLines lines).length + 1) := by
        rw [encodeLines, encodeMarked_cons, List.length_append, List.length_cons]
      have hentry := directive.length_encodeLines
      rw [hparts, hline, List.forall_mem_cons, ← hentry.2, ← ih.2]
      omega

/-- The lines of a text, each ended, are longer by the newline that the last one may lack. -/
theorem length_encodeLines_outputLines (text : Bytes) :
    (encodeLines (outputLines text)).length = text.length + if (splitLines text).2 = [] then 0 else 1 := by
  have hjoin := congrArg List.length (splitAtMark_join newline text)
  have happend : (encodeLines (outputLines text)).length = (encodeLines (splitLines text).1).length +
      (encodeLines (if (splitLines text).2 = [] then [] else [(splitLines text).2])).length := by
    rw [← List.length_append]
    exact congrArg List.length (encodeMarked_append _ _)
  rw [List.length_append] at hjoin
  rw [happend]
  split
  · rename_i hnone
    rw [show (splitAtMark newline text).2 = [] from hnone] at hjoin
    exact hjoin
  · have hlast : (encodeLines [(splitLines text).2]).length = (splitLines text).2.length + 1 := by
      simp [encodeMarked]
    rw [hlast, ← hjoin, Nat.add_assoc]

/-! ### Name service snapshots -/

/-- The bytes of the line of the hosts database: 16, and a blank and the comment when there is one. -/
def hostsLength (line : Bytes) : Nat :=
  16 + if line.contains hash = true then 1 + (trim (line.dropWhile fun byte => byte != hash)).length else 0

theorem length_hostsLine (line : Bytes) : (hostsLine line).length = hostsLength line := by
  rw [hostsLine, hostsLength, List.length_append]
  split
  · rw [List.length_cons, Nat.add_comm 1]
    rfl
  · rfl

theorem length_joinEnded_replace (first rest : List (Bytes × Bool)) (line : Bytes × Bool) (content : Bytes) :
    (joinEnded (first ++ (content, line.2) :: rest)).length + line.1.length =
      (joinEnded (first ++ line :: rest)).length + content.length := by
  simp only [joinEnded, List.flatMap_append, List.flatMap_cons, List.length_append]
  omega

/-! ### Sizes -/

/-- A snapshot is too long only for a full source: one for the resolver whose last line is not ended, with nothing to
leave out in any line, and one for the name services that has no room for the line of the hosts database. -/
theorem snapshots_fit (source : Bytes) :
    (∀ inetPton6 snapshot, makeResolverSnapshot inetPton6 source = .ok snapshot →
      (Fits snapshot ↔ ¬ (source.length = maximumFileSize ∧ (splitLines source).2 ≠ [] ∧
        ∀ line ∈ outputLines source, Tight line))) ∧
    ∀ snapshot, makeNsswitchSnapshot source = .ok snapshot → ∀ line ∈ outputLines source, namesHosts line = true →
      (Fits snapshot ↔ source.length + hostsLength line ≤ maximumFileSize + line.length) := by
  constructor
  · intro inetPton6 snapshot h
    obtain ⟨entries, after, hlines, -, -, hsnapshot⟩ := acceptedLines_of_makeResolverSnapshot h
    have hsource : source.length ≤ maximumFileSize := by
      by_contra hlong
      rw [makeResolverSnapshot, if_pos (Nat.lt_of_not_le hlong)] at h
      cases h
    obtain ⟨hle, htight⟩ := hlines.length_encodeLines
    have hfull := length_encodeLines_outputLines source
    rw [fits_iff, hsnapshot, ← htight]
    by_cases hended : (splitLines source).2 = []
    · rw [if_pos hended] at hfull
      constructor
      · exact fun _ hlong => hlong.2.1 hended
      · intro _
        omega
    · rw [if_neg hended] at hfull
      constructor
      · rintro hfits ⟨hsize, -, heq⟩
        omega
      · intro hroom
        by_contra hlong
        exact hroom ⟨by omega, hended, by omega⟩
  · intro snapshot h line hline hnames
    obtain ⟨first, hosts, rest, hlines, hhosts, hothers, hsnapshot⟩ := lines_of_makeNsswitchSnapshot h
    have hsame : line = hosts.1 := by
      rw [← map_fst_endedLines, hlines] at hline
      obtain ⟨ended, hended, rfl⟩ := List.mem_map.mp hline
      have hbegins : BeginsHosts ended.1 := ⟨hostsDatabase, of_decide_eq_true hnames, List.prefix_rfl⟩
      rcases List.mem_append.mp hended with hfirst | hmore
      · exact absurd hbegins (hothers ended (List.mem_append_left _ hfirst))
      · rcases List.mem_cons.mp hmore with rfl | hrest
        · rfl
        · exact absurd hbegins (hothers ended (List.mem_append_right _ hrest))
    have hlength := length_joinEnded_replace first rest hosts (hostsLine hosts.1)
    rw [← hsnapshot, ← hlines, joinEnded_endedLines, length_hostsLine] at hlength
    rw [fits_iff, hsame]
    omega

end Sizes

/-! ### A full source -/

def commentLine (length : Nat) : Bytes × Bool := (hash :: List.replicate length hash, true)

/-- 16384 bytes: a line of the hosts database, and comments. -/
def fullConfiguration : List (Bytes × Bool) :=
  (hostsDatabase, true) :: commentLine 7 :: List.replicate 16 (commentLine 1021)

theorem endedLines_fullConfiguration : EndedLines fullConfiguration := by
  have hcomment : ∀ length, newline ∉ (commentLine length).1 := by
    intro length hmem
    rcases List.mem_cons.mp hmem with hmark | hmore
    · exact absurd hmark (by decide)
    · exact absurd (List.eq_of_mem_replicate hmore) (by decide)
  have hcomments : ∀ count, EndedLines (List.replicate count (commentLine 1021)) := by
    intro count
    induction count with
    | zero => exact .nil
    | succ count ih => exact .cons _ (hcomment 1021) ih
  exact .cons _ (by decide) (.cons _ (hcomment 7) (hcomments 16))

theorem not_beginsHosts_comment (length : Nat) : ¬ BeginsHosts (commentLine length).1 := by
  rintro ⟨first, hfirst, -⟩
  have hmark : hash ∈ (commentLine length).1 := List.mem_cons_self
  obtain ⟨rest, hrest⟩ := exists_comment hmark
  have hwhole : (commentLine length).1.dropWhile (fun byte => byte != hash) = (commentLine length).1 := rfl
  rw [hwhole] at hrest
  rw [firstWord, nsswitchWords, hrest] at hfirst
  cases hfirst

theorem length_fullConfiguration : (joinEnded fullConfiguration).length = maximumFileSize := by
  decide +kernel

theorem makeNsswitchSnapshot_fullConfiguration :
    makeNsswitchSnapshot (joinEnded fullConfiguration) =
      .ok (joinEnded ((hostsFilesDns, true) :: commentLine 7 :: List.replicate 16 (commentLine 1021))) := by
  have hlines := endedLines_joinEnded endedLines_fullConfiguration
  have hothers : ∀ other ∈ commentLine 7 :: List.replicate 16 (commentLine 1021), ¬ BeginsHosts other.1 := by
    refine List.forall_mem_cons.mpr ⟨not_beginsHosts_comment 7, fun other hother => ?_⟩
    rw [List.eq_of_mem_replicate hother]
    exact not_beginsHosts_comment 1021
  refine makeNsswitchSnapshot_of_lines (show endedLines _ = [] ++ (hostsDatabase, true) :: _ from hlines)
    (by decide) hothers (Nat.le_of_eq length_fullConfiguration) ?_
  rw [← map_fst_endedLines, hlines]
  decide +kernel

theorem snapshots_fit_full :
    ¬ Fits (joinEnded ((hostsFilesDns, true) :: commentLine 7 :: List.replicate 16 (commentLine 1021))) := by
  have hhosts : hostsDatabase ∈ outputLines (joinEnded fullConfiguration) := by
    rw [← map_fst_endedLines, endedLines_joinEnded endedLines_fullConfiguration]
    exact List.mem_cons_self
  have hfits := (snapshots_fit (joinEnded fullConfiguration)).2 _ makeNsswitchSnapshot_fullConfiguration hostsDatabase hhosts
    (by decide)
  rw [hfits, length_fullConfiguration]
  decide

/-- A full configuration whose line of the hosts database grows. -/
theorem not_snapshots_fit :
    ¬ ∀ source snapshot, makeNsswitchSnapshot source = .ok snapshot → snapshot.length ≤ maximumFileSize := by
  intro h
  exact absurd (h _ _ makeNsswitchSnapshot_fullConfiguration) (by decide +kernel)

end NetLagLab.ResolverView
