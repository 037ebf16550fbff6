import Mathlib.Data.List.DropRight
import NetLagLab.ByteLines

/-! Reading the text that a program printed: the first occurrence of a pattern, the lines, and a text
without the blanks around it. A label that ends in a colon is found in the first line whose words
before the colon end in it. Nothing in this file refers to a particular program. -/

namespace ByteLines

/-- What stands behind the first occurrence of a pattern. -/
def afterFirst (pattern : Bytes) : Bytes → Option Bytes
  | [] => if pattern = [] then some [] else none
  | byte :: rest =>
      if pattern <+: byte :: rest then some ((byte :: rest).drop pattern.length)
      else afterFirst pattern rest

/-- What stands behind the last occurrence of a pattern. -/
def afterLast (pattern : Bytes) : Bytes → Option Bytes
  | [] => if pattern = [] then some [] else none
  | byte :: rest =>
      match afterLast pattern rest with
      | some behind => some behind
      | none => if pattern <+: byte :: rest then some ((byte :: rest).drop pattern.length) else none

def contains (pattern text : Bytes) : Bool := (afterFirst pattern text).isSome

/-- The lines of a text, the last one also when no newline ends it. -/
def outputLines (text : Bytes) : List Bytes :=
  (splitLines text).1 ++ if (splitLines text).2 = [] then [] else [(splitLines text).2]

def isBlank (byte : UInt8) : Bool :=
  decide (byte = space) || decide (byte = 9) || decide (byte = newline) || decide (byte = 13)

/-- A text without the blanks around it. -/
def trimAscii (value : Bytes) : Bytes := (value.dropWhile isBlank).rdropWhile isBlank

def isAlphanumeric (byte : UInt8) : Bool :=
  isDigit byte || decide (65 ≤ byte ∧ byte ≤ 90) || decide (97 ≤ byte ∧ byte ≤ 122)

def colon : UInt8 := 58

/-! ### Occurrences -/

section Occurrences

variable {pattern text : Bytes}

theorem contains_iff : contains pattern text = true ↔ pattern <:+: text := by
  rw [contains]
  induction text with
  | nil =>
      rw [afterFirst, List.infix_nil]
      by_cases h : pattern = []
      · simp [h]
      · simp [h]
  | cons byte rest ih =>
      rw [afterFirst, List.infix_cons_iff]
      by_cases h : pattern <+: byte :: rest
      · simp [h]
      · simp [h, ih]

theorem contains_append_left (before : Bytes) (h : contains pattern text = true) :
    contains pattern (before ++ text) = true := by
  rw [contains_iff] at h ⊢
  exact h.trans (List.suffix_append before text).isInfix

theorem contains_append_right (behind : Bytes) (h : contains pattern text = true) :
    contains pattern (text ++ behind) = true := by
  rw [contains_iff] at h ⊢
  exact h.trans (List.prefix_append text behind).isInfix

theorem contains_self (before pattern behind : Bytes) : contains pattern (before ++ pattern ++ behind) = true :=
  contains_iff.mpr ⟨before, behind, rfl⟩

/-- A pattern with a byte that the text lacks does not occur in it. -/
theorem not_contains_of_mem {byte : UInt8} (hpattern : byte ∈ pattern) (htext : byte ∉ text) :
    contains pattern text = false := by
  rw [← Bool.not_eq_true, contains_iff]
  exact fun h => htext (h.subset hpattern)

/-- A pattern that does not begin inside the text before it is found behind it. -/
theorem afterFirst_append {before : Bytes}
    (h : ∀ start behind, before = start ++ behind → behind ≠ [] → ¬ pattern <+: behind ++ text) :
    afterFirst pattern (before ++ text) = afterFirst pattern text := by
  induction before with
  | nil => rfl
  | cons byte before ih =>
      have hhere : ¬ pattern <+: byte :: (before ++ text) := h [] (byte :: before) rfl (List.cons_ne_nil _ _)
      rw [List.cons_append, afterFirst, if_neg hhere]
      apply ih
      rintro start behind rfl hbehind
      exact h (byte :: start) behind rfl hbehind

/-- A pattern on one line with a byte that the line before lacks does not begin on that line. -/
theorem afterFirst_line {line rest : Bytes} {byte : UInt8} (hbyte : byte ∈ pattern)
    (hpattern : newline ∉ pattern) (hline : byte ∉ line) :
    afterFirst pattern (line ++ newline :: rest) = afterFirst pattern rest := by
  have hnewline : byte ≠ newline := fun h => hpattern (h ▸ hbyte)
  rw [show line ++ newline :: rest = (line ++ [newline]) ++ rest by simp]
  apply afterFirst_append
  intro start behind hsplit hbehind hprefix
  have hlast : newline ∈ behind := by
    have hend := congrArg List.getLast? hsplit
    rw [List.getLast?_append_of_ne_nil _ hbehind, List.getLast?_append_of_ne_nil _ (by simp)] at hend
    exact List.mem_of_getLast? hend.symm
  have hwithout : byte ∉ behind := by
    intro hmem
    have : byte ∈ line ++ [newline] := hsplit ▸ List.mem_append_right start hmem
    rw [List.mem_append, List.mem_singleton] at this
    exact this.elim hline hnewline
  rcases List.prefix_or_prefix_of_prefix hprefix (List.prefix_append behind rest) with hshort | hlong
  · exact hwithout (hshort.subset hbyte)
  · exact hpattern (hlong.subset hlast)

/-- What stands before the first mark. -/
theorem takeWhile_mark {mark : UInt8} {piece : Bytes} (h : mark ∉ piece) (rest : Bytes) :
    (piece ++ mark :: rest).takeWhile (fun byte => byte != mark) = piece := by
  have hne : ∀ byte ∈ piece, (byte != mark) = true := by
    intro byte hbyte
    rw [bne_iff_ne]
    rintro rfl
    exact h hbyte
  rw [List.takeWhile_append_of_pos hne]
  simp

theorem newline_notMem_label {label : Bytes} (h : newline ∉ label) : newline ∉ label ++ [colon] := by
  rw [List.mem_append, not_or]
  exact ⟨h, by decide⟩

/-- A label is found where the words before the colon end in it. -/
theorem afterFirst_label {label words rest : Bytes} (hlabel : colon ∉ label) (hwords : colon ∉ words) :
    afterFirst (label ++ [colon]) (words ++ colon :: rest) =
      if label <:+ words then some rest else afterFirst (label ++ [colon]) rest := by
  have hwhole {start : Bytes} (hstart : colon ∉ start) :
      label ++ [colon] <+: start ++ colon :: rest ↔ label = start := by
    constructor
    · rintro ⟨behind, h⟩
      rw [List.append_assoc, List.singleton_append] at h
      have htake := congrArg (List.takeWhile fun byte => byte != colon) h
      rwa [takeWhile_mark hlabel, takeWhile_mark hstart] at htake
    · rintro rfl
      exact ⟨rest, by simp⟩
  induction words with
  | nil =>
      rw [List.nil_append, afterFirst]
      by_cases h : label = []
      · simp [h]
      · have hhere : ¬ label ++ [colon] <+: colon :: rest :=
          fun hprefix => h ((hwhole List.not_mem_nil).mp hprefix)
        rw [if_neg hhere, if_neg fun hsuffix => h (List.suffix_nil.mp hsuffix)]
  | cons byte words ih =>
      rw [List.cons_append, afterFirst]
      by_cases h : label = byte :: words
      · have hhere : label ++ [colon] <+: byte :: (words ++ colon :: rest) := (hwhole hwords).mpr h
        rw [if_pos hhere, if_pos (List.suffix_cons_iff.mpr (Or.inl h)), h]
        simp
      · have hhere : ¬ label ++ [colon] <+: byte :: (words ++ colon :: rest) :=
          fun hprefix => h ((hwhole hwords).mp hprefix)
        rw [if_neg hhere, ih fun hmem => hwords (List.mem_cons_of_mem byte hmem)]
        simp only [List.suffix_cons_iff, h, false_or]

/-- Nothing with a byte that the text lacks is found in it. -/
theorem afterFirst_eq_none {byte : UInt8} (hpattern : byte ∈ pattern) (htext : byte ∉ text) :
    afterFirst pattern text = none := by
  have h := not_contains_of_mem hpattern htext
  rwa [contains, Option.isSome_eq_false_iff, Option.isNone_iff_eq_none] at h

theorem suffix_of_afterFirst {behind : Bytes} (h : afterFirst pattern text = some behind) : behind <:+ text := by
  induction text with
  | nil =>
      rw [afterFirst] at h
      split at h
      · rw [← Option.some.inj h]
      · cases h
  | cons byte rest ih =>
      rw [afterFirst] at h
      split at h
      · rw [← Option.some.inj h]
        exact List.drop_suffix _ _
      · exact (ih h).trans (List.suffix_cons byte rest)

/-- A pattern without the mark is found in front of a mark, or behind it. -/
theorem afterFirst_append_mark {mark : UInt8} (hpattern : mark ∉ pattern) (hne : pattern ≠ []) (piece rest : Bytes) :
    afterFirst pattern (piece ++ mark :: rest) =
      ((afterFirst pattern piece).map (· ++ mark :: rest)).or (afterFirst pattern rest) := by
  induction piece with
  | nil =>
      have hhere : ¬pattern <+: mark :: rest := by
        obtain ⟨byte, more, rfl⟩ := List.exists_cons_of_ne_nil hne
        intro h
        exact hpattern ((List.cons_prefix_cons.mp h).1 ▸ List.mem_cons_self)
      simp [afterFirst, hhere, hne]
  | cons byte piece ih =>
      have hiff : pattern <+: byte :: (piece ++ mark :: rest) ↔ pattern <+: byte :: piece := by
        constructor
        · intro h
          rcases List.prefix_or_prefix_of_prefix h (List.prefix_append (byte :: piece) (mark :: rest)) with
            hshort | ⟨more, rfl⟩
          · exact hshort
          · cases more with
            | nil => simp
            | cons first more =>
                rw [← List.cons_append, List.prefix_append_right_inj, List.cons_prefix_cons] at h
                exact absurd (List.mem_append_right _ (h.1 ▸ List.mem_cons_self)) hpattern
        · intro h
          exact h.trans (List.prefix_append (byte :: piece) (mark :: rest))
      rw [List.cons_append, afterFirst, afterFirst, ih]
      by_cases h : pattern <+: byte :: piece
      · rw [if_pos (hiff.mpr h), if_pos h, Option.map_some, Option.some_or]
        congr 1
        rw [← List.cons_append, List.drop_append_of_le_length h.length_le]
      · rw [if_neg fun hprefix => h (hiff.mp hprefix), if_neg h]

/-- A pattern does not begin with a byte that is not its first. -/
theorem afterFirst_cons_of_ne {byte : UInt8} (hne : pattern ≠ []) (hhead : ∀ first ∈ pattern.head?, first ≠ byte)
    (rest : Bytes) : afterFirst pattern (byte :: rest) = afterFirst pattern rest := by
  obtain ⟨first, more, rfl⟩ := List.exists_cons_of_ne_nil hne
  rw [afterFirst, if_neg]
  intro h
  exact hhead first rfl (List.cons_prefix_cons.mp h).1

/-- What stands in front of the last occurrence does not matter. -/
theorem afterLast_append {behind : Bytes} (before : Bytes) (h : afterLast pattern text = some behind) :
    afterLast pattern (before ++ text) = some behind := by
  induction before with
  | nil => exact h
  | cons byte before ih => rw [List.cons_append, afterLast, ih]

theorem afterLast_eq_none {byte : UInt8} (hpattern : byte ∈ pattern) (htext : byte ∉ text) :
    afterLast pattern text = none := by
  induction text with
  | nil => exact if_neg (List.ne_nil_of_mem hpattern)
  | cons first text ih =>
      have hhere : ¬pattern <+: first :: text := fun hhead => htext (hhead.subset hpattern)
      rw [afterLast, ih fun hmem => htext (List.mem_cons_of_mem first hmem)]
      exact if_neg hhere

/-- A pattern whose first byte does not come again. -/
theorem afterLast_self {byte : UInt8} {more rest : Bytes} (h : byte ∉ more ++ rest) :
    afterLast (byte :: more) (byte :: more ++ rest) = some rest := by
  rw [List.cons_append, afterLast, afterLast_eq_none List.mem_cons_self h]
  have hdrop : (byte :: (more ++ rest)).drop (byte :: more).length = rest := List.drop_left
  exact (if_pos (List.prefix_append (byte :: more) rest)).trans (congrArg some hdrop)

end Occurrences

/-! ### Lines and blanks -/

theorem encodeLines_cons_append (line : Bytes) (lines : List Bytes) (rest : Bytes) :
    encodeLines (line :: lines) ++ rest = line ++ newline :: (encodeLines lines ++ rest) := by
  simp

/-- The lines of a text whose every line is ended. -/
theorem outputLines_encodeLines {lines : List Bytes} (h : ∀ line ∈ lines, newline ∉ line) :
    outputLines (encodeLines lines) = lines := by
  have hsplit : splitLines (encodeLines lines) = (lines ++ (splitAtMark newline []).1, []) := by
    have h := splitAtMark_encodeMarked_append h []
    rwa [List.append_nil] at h
  rw [outputLines, hsplit]
  simp

/-- A pattern without the mark stands on one side of a mark. -/
theorem infix_of_infix_mark {mark : UInt8} {pattern piece rest : Bytes} (hpattern : mark ∉ pattern)
    (hne : pattern ≠ []) (h : pattern <:+: piece ++ mark :: rest) :
    pattern <:+: piece ∨ pattern <:+: rest := by
  obtain ⟨before, behind, heq⟩ := h
  rw [List.append_assoc] at heq
  rcases List.append_eq_append_iff.mp heq with ⟨more, rfl, hbehind⟩ | ⟨more, rfl, hrest⟩
  · rcases List.append_eq_append_iff.mp hbehind with ⟨tail, rfl, -⟩ | ⟨tail, rfl, htail⟩
    · exact Or.inl ⟨before, tail, by simp⟩
    · cases tail with
      | nil => exact Or.inl ⟨before, [], by simp⟩
      | cons byte tail =>
          rw [List.cons_append, List.cons.injEq] at htail
          exact absurd (List.mem_append_right more (htail.1 ▸ List.mem_cons_self)) hpattern
  · cases more with
    | nil =>
        obtain ⟨byte, pattern, rfl⟩ := List.exists_cons_of_ne_nil hne
        rw [List.nil_append, List.cons_append, List.cons.injEq] at hrest
        exact absurd (hrest.1 ▸ List.mem_cons_self) hpattern
    | cons byte more =>
        rw [List.cons_append, List.cons.injEq] at hrest
        exact Or.inr ⟨more, behind, by rw [hrest.2, List.append_assoc]⟩

/-- A pattern on one line that occurs in a text occurs in one of its lines. -/
theorem exists_outputLine_of_contains {pattern text : Bytes} (hpattern : newline ∉ pattern)
    (hne : pattern ≠ []) (h : contains pattern text = true) :
    ∃ line ∈ outputLines text, contains pattern line = true := by
  have hjoin := splitAtMark_join newline text
  rw [outputLines]
  generalize (splitAtMark newline text).1 = pieces, (splitAtMark newline text).2 = rest at hjoin
  induction pieces generalizing text with
  | nil =>
      rw [encodeMarked_nil, List.nil_append] at hjoin
      have hrestne : rest ≠ [] := by
        rintro rfl
        rw [← hjoin, contains_iff, List.infix_nil] at h
        exact hne h
      exact ⟨rest, by simp [hrestne], hjoin ▸ h⟩
  | cons piece pieces ih =>
      rw [encodeMarked_cons, List.append_assoc, List.cons_append] at hjoin
      rw [← hjoin, contains_iff] at h
      rcases infix_of_infix_mark hpattern hne h with hpiece | hmore
      · exact ⟨piece, by simp, contains_iff.mpr hpiece⟩
      · obtain ⟨line, hline, hcontains⟩ := ih (contains_iff.mpr hmore) rfl
        exact ⟨line, by simpa using Or.inr hline, hcontains⟩

theorem rdropWhile_append_of_all {text blanks : Bytes} {test : UInt8 → Bool}
    (h : ∀ byte ∈ blanks, test byte = true) :
    (text ++ blanks).rdropWhile test = text.rdropWhile test := by
  induction blanks using List.reverseRecOn with
  | nil => rw [List.append_nil]
  | append_singleton blanks byte ih =>
      rw [← List.append_assoc, List.rdropWhile_concat_pos _ _ _ (h byte (by simp))]
      exact ih fun other hother => h other (by simp [hother])

theorem trimAscii_cons_blank {byte : UInt8} (h : isBlank byte = true) (text : Bytes) :
    trimAscii (byte :: text) = trimAscii text := by
  rw [trimAscii, trimAscii, List.dropWhile_cons_of_pos h]

/-- Only blanks are taken away. -/
theorem mem_trimAscii {byte : UInt8} {text : Bytes} (hbyte : isBlank byte = false) (h : byte ∈ text) :
    byte ∈ trimAscii text := by
  have hkept : ∀ {text : Bytes}, byte ∈ text → byte ∈ text.dropWhile isBlank := by
    intro text hmem
    rw [← List.takeWhile_append_dropWhile (p := isBlank) (l := text), List.mem_append] at hmem
    rcases hmem with hblank | hmem
    · exact absurd (List.mem_takeWhile_imp hblank) (by simp [hbyte])
    · exact hmem
  rw [trimAscii, List.rdropWhile, List.mem_reverse]
  exact hkept (List.mem_reverse.mpr (hkept h))

/-- The blanks around a text that neither begins nor ends with one. -/
theorem trimAscii_surrounded {front text back : Bytes} (hfront : ∀ byte ∈ front, isBlank byte = true)
    (hback : ∀ byte ∈ back, isBlank byte = true) (hhead : ∀ byte ∈ text.head?, isBlank byte = false)
    (hlast : ∀ byte ∈ text.getLast?, isBlank byte = false) :
    trimAscii (front ++ text ++ back) = text := by
  rw [trimAscii, List.append_assoc, List.dropWhile_append_of_pos hfront]
  cases text with
  | nil =>
      rw [List.nil_append, List.dropWhile_eq_nil_iff.mpr hback]
      rfl
  | cons byte rest =>
      have hfirst : ¬ isBlank byte = true := by simp [hhead byte rfl]
      have hlastIs := hlast _ (List.getLast?_eq_getLast_of_ne_nil (List.cons_ne_nil byte rest))
      rw [List.cons_append, List.dropWhile_cons_of_neg hfirst, ← List.cons_append,
        rdropWhile_append_of_all hback]
      exact List.rdropWhile_eq_self_iff.mpr fun _ => by simp [hlastIs]

end ByteLines
