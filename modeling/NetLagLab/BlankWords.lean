import NetLagLab.ByteSearch

/-! The words of a line. Blanks are trimmed from both ends of what is left of the line before each word is cut off at the
next separator; every separator is a blank, but not every blank ends a word. Words written with one space between are
read back as they are. Nothing in this file refers to a particular file format. -/

namespace ByteLines

/-- A text without the blanks around it. -/
def trimBlanks (blank : UInt8 → Bool) (text : Bytes) : Bytes := (text.dropWhile blank).rdropWhile blank

/-- The words of a line; every word and its separator take at least one byte. -/
def wordsWithin (blank separator : UInt8 → Bool) : Nat → Bytes → List Bytes
  | 0, _ => []
  | bound + 1, line =>
      let line := trimBlanks blank line
      if line = [] then []
      else
        line.takeWhile (fun byte => !separator byte) ::
          match line.dropWhile (fun byte => !separator byte) with
          | [] => []
          | _ :: rest => wordsWithin blank separator bound rest

def blankWords (blank separator : UInt8 → Bool) (line : Bytes) : List Bytes :=
  wordsWithin blank separator line.length line

/-- Words with one space between. -/
def joinWords : List Bytes → Bytes
  | [] => []
  | word :: words => word ++ words.flatMap (space :: ·)

/-- A word that is neither cut nor trimmed. -/
structure PlainWord (blank separator : UInt8 → Bool) (word : Bytes) : Prop where
  nonempty : word ≠ []
  unbroken : ∀ byte ∈ word, separator byte = false
  head : ∀ byte ∈ word.head?, blank byte = false
  last : ∀ byte ∈ word.getLast?, blank byte = false

section Trim

variable {blank : UInt8 → Bool} {text : Bytes}

theorem trimBlanks_within (blank : UInt8 → Bool) (text : Bytes) : trimBlanks blank text <:+: text :=
  (List.rdropWhile_prefix blank _).isInfix.trans (List.dropWhile_suffix blank).isInfix

theorem length_trimBlanks_le (blank : UInt8 → Bool) (text : Bytes) : (trimBlanks blank text).length ≤ text.length :=
  (trimBlanks_within blank text).length_le

theorem head?_dropWhile (blank : UInt8 → Bool) (text : Bytes) :
    ∀ byte ∈ (text.dropWhile blank).head?, blank byte = false := by
  intro byte hbyte
  have hkept := List.head?_dropWhile_not blank text
  rw [Option.mem_def.mp hbyte] at hkept
  simpa using hkept

theorem getLast?_trimBlanks (blank : UInt8 → Bool) (text : Bytes) :
    ∀ byte ∈ (trimBlanks blank text).getLast?, blank byte = false := by
  intro byte hbyte
  obtain ⟨hne, hlast⟩ := List.mem_getLast?_eq_getLast hbyte
  rw [hlast]
  exact Bool.not_eq_true _ ▸ List.rdropWhile_last_not blank _ hne

theorem head?_trimBlanks (blank : UInt8 → Bool) (text : Bytes) :
    ∀ byte ∈ (trimBlanks blank text).head?, blank byte = false := by
  intro byte hbyte
  obtain ⟨behind, hbehind⟩ := List.rdropWhile_prefix blank (text.dropWhile blank)
  apply head?_dropWhile blank text
  rw [← hbehind, Option.mem_def, List.head?_append, ← trimBlanks, Option.mem_def.mp hbyte]
  rfl

/-- Only blanks at the ends are trimmed. -/
theorem trimBlanks_eq_self (hhead : ∀ byte ∈ text.head?, blank byte = false)
    (hlast : ∀ byte ∈ text.getLast?, blank byte = false) : trimBlanks blank text = text := by
  have hfront : text.dropWhile blank = text := by
    cases text with
    | nil => rfl
    | cons byte rest => exact List.dropWhile_cons_of_neg (by simp [hhead byte rfl])
  rw [trimBlanks, hfront]
  refine List.rdropWhile_eq_self_iff.mpr fun hne => ?_
  simp [hlast _ (List.getLast?_eq_getLast_of_ne_nil hne)]

theorem trimBlanks_trimBlanks (blank : UInt8 → Bool) (text : Bytes) :
    trimBlanks blank (trimBlanks blank text) = trimBlanks blank text :=
  trimBlanks_eq_self (head?_trimBlanks blank text) (getLast?_trimBlanks blank text)

end Trim

/-! ### Words of a line -/

section Words

variable {blank separator : UInt8 → Bool} {line word : Bytes} {words : List Bytes}

theorem wordsWithin_nil (bound : Nat) : wordsWithin blank separator bound [] = [] := by
  cases bound <;> rfl

/-- Any bound that is no shorter than the line will do. -/
theorem wordsWithin_eq {bound : Nat} (h : line.length ≤ bound) :
    wordsWithin blank separator bound line = blankWords blank separator line := by
  have hany : ∀ (bound other : Nat) (line : Bytes), line.length ≤ bound → line.length ≤ other →
      wordsWithin blank separator bound line = wordsWithin blank separator other line := by
    intro bound
    induction bound with
    | zero =>
        intro other line hbound _
        rw [List.length_eq_zero_iff.mp (Nat.le_zero.mp hbound), wordsWithin_nil, wordsWithin_nil]
    | succ bound ih =>
        intro other line hbound hother
        cases other with
        | zero => rw [List.length_eq_zero_iff.mp (Nat.le_zero.mp hother), wordsWithin_nil, wordsWithin_nil]
        | succ other =>
            have htrim := length_trimBlanks_le blank line
            rw [wordsWithin, wordsWithin]
            split
            · rfl
            · have hdrop := (List.dropWhile_suffix (l := trimBlanks blank line) fun byte => !separator byte).length_le
              cases hrest : (trimBlanks blank line).dropWhile fun byte => !separator byte with
              | nil => rfl
              | cons mark rest =>
                  rw [hrest, List.length_cons] at hdrop
                  exact congrArg (_ :: ·) (ih other rest (by omega) (by omega))
  exact hany bound line.length line h le_rfl

/-- A line is blank, or one word, or a word with more behind its separator. -/
theorem blankWords_cases (hseparator : ∀ byte, separator byte = true → blank byte = true) (line : Bytes) :
    (trimBlanks blank line = [] ∧ blankWords blank separator line = []) ∨
    (PlainWord blank separator (trimBlanks blank line) ∧
      blankWords blank separator line = [trimBlanks blank line]) ∨
    ∃ word mark rest, trimBlanks blank line = word ++ mark :: rest ∧ separator mark = true ∧ word ≠ [] ∧
      (∀ byte ∈ word, separator byte = false) ∧ (∀ byte ∈ word.head?, blank byte = false) ∧
      blankWords blank separator line = word :: blankWords blank separator rest := by
  by_cases hblank : trimBlanks blank line = []
  · refine .inl ⟨hblank, ?_⟩
    unfold blankWords
    cases line with
    | nil => rfl
    | cons byte line => rw [List.length_cons, wordsWithin, hblank]; rfl
  have hne : line ≠ [] := by
    rintro rfl
    exact hblank rfl
  have hhead := head?_trimBlanks blank line
  have hlast := getLast?_trimBlanks blank line
  have hlength := length_trimBlanks_le blank line
  obtain ⟨bound, hbound⟩ := Nat.exists_eq_succ_of_ne_zero (mt List.length_eq_zero_iff.mp hne)
  have hwords : blankWords blank separator line =
      (trimBlanks blank line).takeWhile (fun byte => !separator byte) ::
        match (trimBlanks blank line).dropWhile (fun byte => !separator byte) with
        | [] => []
        | _ :: rest => wordsWithin blank separator bound rest := by
    rw [blankWords, hbound, wordsWithin]
    exact if_neg hblank
  have htake : ∀ byte ∈ (trimBlanks blank line).takeWhile (fun byte => !separator byte), separator byte = false := by
    intro byte hbyte
    simpa using List.mem_takeWhile_imp hbyte
  have hjoin := List.takeWhile_append_dropWhile (p := fun byte => !separator byte) (l := trimBlanks blank line)
  cases hdrop : (trimBlanks blank line).dropWhile (fun byte => !separator byte) with
  | nil =>
      rw [hdrop, List.append_nil] at hjoin
      rw [hdrop, hjoin] at hwords
      rw [hjoin] at htake
      exact .inr (.inl ⟨⟨hblank, htake, hhead, hlast⟩, hwords⟩)
  | cons mark rest =>
      have hmark : separator mark = true := by
        have hkept := head?_dropWhile (fun byte => !separator byte) (trimBlanks blank line) mark (by rw [hdrop]; rfl)
        simpa using hkept
      rw [hdrop] at hjoin hwords
      rw [← hjoin] at hlength hhead
      rw [List.length_append, List.length_cons] at hlength
      have hword : (trimBlanks blank line).takeWhile (fun byte => !separator byte) ≠ [] := by
        intro hempty
        rw [hempty] at hhead
        exact nomatch (hseparator mark hmark).symm.trans (hhead mark rfl)
      have hwordHead : ∀ byte ∈ ((trimBlanks blank line).takeWhile (fun byte => !separator byte)).head?,
          blank byte = false := by
        intro byte hbyte
        apply hhead
        rw [Option.mem_def, List.head?_append, Option.mem_def.mp hbyte]
        rfl
      refine .inr (.inr ⟨_, mark, rest, hjoin.symm, hmark, hword, htake, hwordHead, ?_⟩)
      rw [hwords, ← wordsWithin_eq (by omega : rest.length ≤ bound)]

/-- A word of a line: in one piece, and with no blank in front. -/
structure WordOf (blank separator : UInt8 → Bool) (line word : Bytes) : Prop where
  nonempty : word ≠ []
  unbroken : ∀ byte ∈ word, separator byte = false
  head : ∀ byte ∈ word.head?, blank byte = false
  subset : ∀ byte ∈ word, byte ∈ line

theorem mem_of_mem_trimBlanks {byte : UInt8} (h : byte ∈ trimBlanks blank line) : byte ∈ line :=
  (trimBlanks_within blank line).subset h

theorem wordOf_of_mem_blankWords (hseparator : ∀ byte, separator byte = true → blank byte = true) :
    ∀ {line : Bytes}, ∀ word ∈ blankWords blank separator line, WordOf blank separator line word := by
  intro line
  induction hlength : line.length using Nat.strong_induction_on generalizing line with
  | _ length ih =>
      rcases blankWords_cases hseparator line with
        ⟨-, hwords⟩ | ⟨hplain, hwords⟩ | ⟨word, mark, rest, htrim, hmark, hword, hunbroken, hhead, hwords⟩ <;> rw [hwords]
      · exact fun _ hmem => nomatch hmem
      · intro word hmem
        rw [List.mem_singleton] at hmem
        subst hmem
        exact ⟨hplain.nonempty, hplain.unbroken, hplain.head, fun byte => mem_of_mem_trimBlanks⟩
      · have hin : ∀ byte, byte ∈ word ++ mark :: rest → byte ∈ line :=
          fun byte hbyte => mem_of_mem_trimBlanks (htrim ▸ hbyte)
        have hshort : rest.length < length := by
          have hle := length_trimBlanks_le blank line
          rw [htrim, List.length_append, List.length_cons] at hle
          omega
        refine List.forall_mem_cons.mpr ⟨⟨hword, hunbroken, hhead, fun byte hbyte => ?_⟩, fun other hmem => ?_⟩
        · exact hin byte (List.mem_append_left _ hbyte)
        · have hother := ih rest.length hshort rfl other hmem
          exact ⟨hother.nonempty, hother.unbroken, hother.head, fun byte hbyte =>
            hin byte (List.mem_append_right _ (List.mem_cons_of_mem _ (hother.subset byte hbyte)))⟩

/-- Nothing is trimmed off the last word. -/
theorem plainWord_of_blankWords_concat (hseparator : ∀ byte, separator byte = true → blank byte = true) :
    ∀ {line : Bytes} {words : List Bytes}, blankWords blank separator line = words ++ [word] →
      PlainWord blank separator word := by
  intro line
  induction hlength : line.length using Nat.strong_induction_on generalizing line with
  | _ length ih =>
      intro words h
      rcases blankWords_cases hseparator line with
        ⟨-, hwords⟩ | ⟨hplain, hwords⟩ | ⟨first, mark, rest, htrim, hmark, hfirst, hunbroken, hhead, hwords⟩ <;>
        rw [hwords] at h
      · simp at h
      · cases words with
        | nil => exact (List.cons.inj h).1 ▸ hplain
        | cons other words => simp at h
      · have hlast := getLast?_trimBlanks blank line
        have hle := length_trimBlanks_le blank line
        rw [htrim, List.length_append, List.length_cons] at hle
        cases words with
        | cons other words => exact ih rest.length (by omega) rfl (List.cons.inj h).2
        | nil =>
            -- the last byte of a trimmed line is no blank, so something stands behind the separator
            exfalso
            have hnone := (List.cons.inj h).2
            have hblank : trimBlanks blank rest = [] := by
              rcases blankWords_cases hseparator rest with ⟨hempty, -⟩ | ⟨-, hone⟩ | ⟨_, _, _, -, -, -, -, -, hmore⟩
              · exact hempty
              · exact nomatch hone.symm.trans hnone
              · exact nomatch hmore.symm.trans hnone
            have hall : ∀ byte ∈ mark :: rest, blank byte = true := by
              refine List.forall_mem_cons.mpr ⟨hseparator mark hmark, fun byte hbyte => ?_⟩
              by_contra hbyteBlank
              have hdrop : rest.dropWhile blank ≠ [] := fun hnil =>
                hbyteBlank (List.dropWhile_eq_nil_iff.mp hnil byte hbyte)
              obtain ⟨head, tail, hcons⟩ := List.exists_cons_of_ne_nil hdrop
              have hkept := head?_dropWhile blank rest head (by rw [hcons]; rfl)
              have hdropped := List.rdropWhile_eq_nil_iff.mp hblank head (by rw [hcons]; exact List.mem_cons_self)
              exact nomatch hkept.symm.trans hdropped
            have hend := List.getLast?_eq_getLast_of_ne_nil (List.cons_ne_nil mark rest)
            have hmem := List.getLast_mem (List.cons_ne_nil mark rest)
            rw [htrim, List.getLast?_append, hend] at hlast
            exact nomatch (hall _ hmem).symm.trans (hlast _ rfl)

/-! ### Joined words -/

theorem joinWords_cons_cons (word next : Bytes) (words : List Bytes) :
    joinWords (word :: next :: words) = word ++ space :: joinWords (next :: words) := by
  simp [joinWords]

theorem mem_joinWords {byte : UInt8} (h : byte ∈ joinWords words) : byte = space ∨ ∃ word ∈ words, byte ∈ word := by
  cases words with
  | nil => exact nomatch h
  | cons word words =>
      rcases List.mem_append.mp h with hword | hrest
      · exact .inr ⟨word, List.mem_cons_self, hword⟩
      · obtain ⟨other, hother, hbyte⟩ := List.mem_flatMap.mp hrest
        rcases List.mem_cons.mp hbyte with hspace | hin
        · exact .inl hspace
        · exact .inr ⟨other, List.mem_cons_of_mem _ hother, hin⟩

theorem length_joinWords_blankWords_le (hseparator : ∀ byte, separator byte = true → blank byte = true) :
    ∀ line : Bytes, (joinWords (blankWords blank separator line)).length ≤ line.length := by
  intro line
  induction hlength : line.length using Nat.strong_induction_on generalizing line with
  | _ length ih =>
      have hle := length_trimBlanks_le blank line
      rcases blankWords_cases hseparator line with
        ⟨-, hwords⟩ | ⟨-, hwords⟩ | ⟨word, mark, rest, htrim, -, -, -, -, hwords⟩ <;> rw [hwords]
      · exact Nat.zero_le _
      · rw [joinWords, List.flatMap_nil, List.append_nil]
        omega
      · rw [htrim, List.length_append, List.length_cons] at hle
        have hrest := ih rest.length (by omega) rest rfl
        cases hmore : blankWords blank separator rest with
        | nil =>
            rw [joinWords, List.flatMap_nil, List.append_nil]
            omega
        | cons next words =>
            rw [hmore] at hrest
            rw [joinWords_cons_cons, List.length_append, List.length_cons]
            omega

theorem head?_joinWords (h : ∀ word ∈ words, PlainWord blank separator word) :
    ∀ byte ∈ (joinWords words).head?, blank byte = false := by
  cases words with
  | nil => exact fun _ hnone => nomatch hnone
  | cons word words =>
      have hword := h word List.mem_cons_self
      obtain ⟨first, rest, rfl⟩ := List.exists_cons_of_ne_nil hword.nonempty
      exact hword.head

theorem joinWords_ne_nil (h : ∀ word ∈ words, PlainWord blank separator word) (hne : words ≠ []) :
    joinWords words ≠ [] := by
  obtain ⟨word, others, rfl⟩ := List.exists_cons_of_ne_nil hne
  exact List.append_ne_nil_of_left_ne_nil (h word List.mem_cons_self).nonempty _

theorem getLast?_joinWords (h : ∀ word ∈ words, PlainWord blank separator word) :
    ∀ byte ∈ (joinWords words).getLast?, blank byte = false := by
  induction words with
  | nil => exact fun _ hnone => nomatch hnone
  | cons word words ih =>
      obtain ⟨hword, hrest⟩ := List.forall_mem_cons.mp h
      cases words with
      | nil =>
          rw [joinWords, List.flatMap_nil, List.append_nil]
          exact hword.last
      | cons next words =>
          have hne := joinWords_ne_nil hrest (List.cons_ne_nil _ _)
          rw [joinWords_cons_cons, List.getLast?_append, List.getLast?_cons,
            List.getLast?_eq_getLast_of_ne_nil hne]
          intro byte hbyte
          refine ih hrest byte ?_
          rw [List.getLast?_eq_getLast_of_ne_nil hne]
          exact hbyte

/-- Joined words are trimmed. -/
theorem trimBlanks_joinWords (h : ∀ word ∈ words, PlainWord blank separator word) :
    trimBlanks blank (joinWords words) = joinWords words :=
  trimBlanks_eq_self (head?_joinWords h) (getLast?_joinWords h)

theorem takeWhile_word (h : ∀ byte ∈ word, separator byte = false) {mark : UInt8} (hmark : separator mark = true)
    (rest : Bytes) :
    (word ++ mark :: rest).takeWhile (fun byte => !separator byte) = word ∧
      (word ++ mark :: rest).dropWhile (fun byte => !separator byte) = mark :: rest := by
  have hword : ∀ byte ∈ word, (!separator byte) = true := fun byte hbyte => by simp [h byte hbyte]
  constructor
  · rw [List.takeWhile_append_of_pos hword, List.takeWhile_cons_of_neg (by simp [hmark]), List.append_nil]
  · rw [List.dropWhile_append_of_pos hword, List.dropWhile_cons_of_neg (by simp [hmark])]

/-- Joined words are read back. -/
theorem blankWords_joinWords (hspace : separator space = true)
    (h : ∀ word ∈ words, PlainWord blank separator word) : blankWords blank separator (joinWords words) = words := by
  induction words with
  | nil => rfl
  | cons word words ih =>
      have htrim := trimBlanks_joinWords h
      obtain ⟨hword, hrest⟩ := List.forall_mem_cons.mp h
      have hne := joinWords_ne_nil h (List.cons_ne_nil _ _)
      obtain ⟨bound, hbound⟩ := Nat.exists_eq_succ_of_ne_zero (mt List.length_eq_zero_iff.mp hne)
      rw [blankWords, hbound, wordsWithin, htrim, if_neg hne]
      cases words with
      | nil =>
          have hall : ∀ byte ∈ word, (!separator byte) = true := fun byte hbyte => by simp [hword.unbroken byte hbyte]
          rw [joinWords, List.flatMap_nil, List.append_nil, List.takeWhile_eq_self_iff.mpr hall,
            List.dropWhile_eq_nil_iff.mpr hall]
      | cons next words =>
          rw [joinWords_cons_cons, List.length_append, List.length_cons] at hbound
          obtain ⟨htake, hdrop⟩ := takeWhile_word hword.unbroken hspace (joinWords (next :: words))
          have hbehind : wordsWithin blank separator bound (joinWords (next :: words)) = next :: words := by
            rw [wordsWithin_eq (by omega), ih hrest]
          rw [joinWords_cons_cons, htake, hdrop]
          exact congrArg (word :: ·) hbehind

end Words

end ByteLines
