import Mathlib.Data.List.Basic
import Mathlib.Data.List.Flatten
import Mathlib.Data.Nat.Digits.Defs
import Mathlib.Data.Nat.Digits.Lemmas
import Mathlib.Tactic.Common

/-! Byte strings cut at a mark: lines at newlines, tokens at spaces. A reader of a stream socket keeps
the bytes of an unfinished piece and takes the complete pieces out of what it has; `splitAtMark` is
that cut. The facts here say that the pieces a reader sees do not depend on how the bytes arrived,
and which pieces a prefix of an encoded list of pieces contains. Decimal numerals are here as well.
Nothing in this file refers to a particular protocol. -/

namespace ByteLines

abbrev Bytes := List UInt8

instance lawfulBEqBytes : LawfulBEq Bytes := inferInstance

/-- A statement on the bytes of a text is decided along the text, not for all 256 bytes. -/
instance (priority := high) decidableForallMem {property : UInt8 → Prop} [DecidablePred property] (bytes : Bytes) :
    Decidable (∀ byte ∈ bytes, property byte) :=
  List.decidableBAll property bytes

instance (priority := high) decidableForallMemOption {property : UInt8 → Prop} [DecidablePred property]
    (byte : Option UInt8) : Decidable (∀ value ∈ byte, property value) :=
  Option.decidableForallMem byte

/-- A statement on a byte is decided by its 256 values. -/
theorem forall_byte {P : UInt8 → Prop} (h : ∀ value < 256, P (UInt8.ofNat value)) (byte : UInt8) : P byte := by
  have hbyte := h byte.toNat byte.toNat_lt
  rwa [UInt8.ofNat_toNat] at hbyte

/-- The bytes of an ASCII text. -/
def ascii (text : String) : Bytes := text.toList.map fun character => UInt8.ofNat character.toNat

def newline : UInt8 := 10

def space : UInt8 := 32

/-- The pieces of a byte string that are ended by the mark, without their marks, and the
unfinished rest. -/
def splitAtMark (mark : UInt8) : Bytes → List Bytes × Bytes
  | [] => ([], [])
  | byte :: rest =>
      if byte = mark then ([] :: (splitAtMark mark rest).1, (splitAtMark mark rest).2)
      else
        match splitAtMark mark rest with
        | ([], tail) => ([], byte :: tail)
        | (piece :: pieces, tail) => ((byte :: piece) :: pieces, tail)

/-- The bytes of a list of pieces, each ended by the mark. -/
def encodeMarked (mark : UInt8) (pieces : List Bytes) : Bytes :=
  (pieces.map fun piece => piece ++ [mark]).flatten

/-- The complete lines of a byte string and its unfinished line. -/
abbrev splitLines (text : Bytes) : List Bytes × Bytes := splitAtMark newline text

/-- The bytes of a list of lines, each ended by a newline. -/
abbrev encodeLines (lines : List Bytes) : Bytes := encodeMarked newline lines

section Pieces

variable {mark : UInt8}

@[simp] theorem splitAtMark_nil : splitAtMark mark [] = ([], []) := rfl

@[simp] theorem encodeMarked_nil : encodeMarked mark [] = [] := rfl

@[simp] theorem encodeMarked_cons (piece : Bytes) (pieces : List Bytes) :
    encodeMarked mark (piece :: pieces) = piece ++ mark :: encodeMarked mark pieces := by
  simp [encodeMarked]

@[simp] theorem encodeMarked_append (pieces others : List Bytes) :
    encodeMarked mark (pieces ++ others) = encodeMarked mark pieces ++ encodeMarked mark others := by
  simp [encodeMarked]

theorem eq_nil_of_encodeMarked {pieces : List Bytes} (h : encodeMarked mark pieces = []) :
    pieces = [] := by
  cases pieces with
  | nil => rfl
  | cons piece pieces => simp at h

/-- Pieces of bounded length, each with its mark. -/
theorem length_encodeMarked_le {pieces : List Bytes} {bound : Nat} (h : ∀ piece ∈ pieces, piece.length ≤ bound) :
    (encodeMarked mark pieces).length ≤ pieces.length * (bound + 1) := by
  induction pieces with
  | nil => exact Nat.zero_le _
  | cons piece pieces ih =>
      obtain ⟨hpiece, hpieces⟩ := List.forall_mem_cons.mp h
      have hrest := ih hpieces
      rw [encodeMarked_cons, List.length_append, List.length_cons, List.length_cons, Nat.add_mul]
      omega

theorem splitAtMark_mark (rest : Bytes) :
    splitAtMark mark (mark :: rest) =
      ([] :: (splitAtMark mark rest).1, (splitAtMark mark rest).2) := by
  simp [splitAtMark]

/-- Bytes without the mark stay in the unfinished piece. -/
theorem splitAtMark_of_notMem {text : Bytes} (h : mark ∉ text) : splitAtMark mark text = ([], text) := by
  induction text with
  | nil => rfl
  | cons byte rest ih =>
      rw [List.mem_cons, not_or] at h
      rw [splitAtMark, if_neg (Ne.symm h.1), ih h.2]

/-- The first complete piece is what stands before the first mark. -/
theorem splitAtMark_piece {piece : Bytes} (h : mark ∉ piece) (rest : Bytes) :
    splitAtMark mark (piece ++ mark :: rest) =
      (piece :: (splitAtMark mark rest).1, (splitAtMark mark rest).2) := by
  induction piece with
  | nil => exact splitAtMark_mark rest
  | cons byte piece ih =>
      rw [List.mem_cons, not_or] at h
      rw [List.cons_append, splitAtMark, if_neg (Ne.symm h.1), ih h.2]

/-- Cutting a byte string loses nothing. -/
theorem splitAtMark_join (mark : UInt8) (text : Bytes) :
    encodeMarked mark (splitAtMark mark text).1 ++ (splitAtMark mark text).2 = text := by
  induction text with
  | nil => rfl
  | cons byte rest ih =>
      rw [splitAtMark]
      split
      · rename_i hbyte
        simp [hbyte, ih]
      · cases hsplit : splitAtMark mark rest with
        | mk pieces tail =>
            rw [hsplit] at ih
            cases pieces with
            | nil => simpa using ih
            | cons piece pieces => simpa using ih

theorem notMem_splitAtMark_snd (text : Bytes) : mark ∉ (splitAtMark mark text).2 := by
  induction text with
  | nil => exact List.not_mem_nil
  | cons byte rest ih =>
      rw [splitAtMark]
      split
      · exact ih
      · rename_i hbyte
        cases hsplit : splitAtMark mark rest with
        | mk pieces tail =>
            rw [hsplit] at ih
            cases pieces with
            | nil =>
                rw [List.mem_cons, not_or]
                exact ⟨Ne.symm hbyte, ih⟩
            | cons piece pieces => exact ih

theorem notMem_of_mem_splitAtMark_fst (text : Bytes) :
    ∀ piece ∈ (splitAtMark mark text).1, mark ∉ piece := by
  induction text with
  | nil => simp
  | cons byte rest ih =>
      rw [splitAtMark]
      split
      · intro piece hpiece
        rw [List.mem_cons] at hpiece
        rcases hpiece with rfl | hpiece
        · exact List.not_mem_nil
        · exact ih piece hpiece
      · rename_i hbyte
        cases hsplit : splitAtMark mark rest with
        | mk pieces tail =>
            rw [hsplit] at ih
            cases pieces with
            | nil => simp
            | cons first pieces =>
                intro piece hpiece
                rw [List.mem_cons] at hpiece
                rcases hpiece with rfl | hpiece
                · rw [List.mem_cons, not_or]
                  exact ⟨Ne.symm hbyte, ih first List.mem_cons_self⟩
                · exact ih piece (List.mem_cons_of_mem _ hpiece)

theorem splitAtMark_encodeMarked_append {pieces : List Bytes} (h : ∀ piece ∈ pieces, mark ∉ piece)
    (rest : Bytes) :
    splitAtMark mark (encodeMarked mark pieces ++ rest) =
      (pieces ++ (splitAtMark mark rest).1, (splitAtMark mark rest).2) := by
  induction pieces with
  | nil => rfl
  | cons piece pieces ih =>
      have htail := ih fun other hother => h other (List.mem_cons_of_mem _ hother)
      rw [encodeMarked_cons, List.append_assoc, List.cons_append,
        splitAtMark_piece (h piece List.mem_cons_self), htail]
      rfl

/-- The pieces seen do not depend on where a read ended: cut the first part, and put its rest in
front of the second. -/
theorem splitAtMark_append (mark : UInt8) (text more : Bytes) :
    splitAtMark mark (text ++ more) =
      ((splitAtMark mark text).1 ++ (splitAtMark mark ((splitAtMark mark text).2 ++ more)).1,
        (splitAtMark mark ((splitAtMark mark text).2 ++ more)).2) := by
  conv_lhs => rw [← splitAtMark_join mark text, List.append_assoc]
  exact splitAtMark_encodeMarked_append (notMem_of_mem_splitAtMark_fst text) _

/-- What a reader has taken out of a stream that carries a given list of pieces is an initial part
of that list; its unfinished piece and the bytes to come carry the rest. -/
theorem splitAtMark_of_append_eq {text more : Bytes} {pieces : List Bytes}
    (hpieces : ∀ piece ∈ pieces, mark ∉ piece) (h : text ++ more = encodeMarked mark pieces) :
    ∃ rest, pieces = (splitAtMark mark text).1 ++ rest ∧
      (splitAtMark mark text).2 ++ more = encodeMarked mark rest := by
  have hsplit := splitAtMark_append mark text more
  have hall := splitAtMark_encodeMarked_append hpieces []
  rw [List.append_nil] at hall
  rw [h, hall] at hsplit
  simp only [splitAtMark_nil, List.append_nil, Prod.mk.injEq] at hsplit
  refine ⟨(splitAtMark mark ((splitAtMark mark text).2 ++ more)).1, hsplit.1, ?_⟩
  have hjoin := splitAtMark_join mark ((splitAtMark mark text).2 ++ more)
  rw [← hsplit.2, List.append_nil] at hjoin
  exact hjoin.symm

/-- The unfinished piece of a reader is no longer than the pieces it can still become. -/
theorem length_le_of_append_eq {unfinished more : Bytes} {pieces : List Bytes} {bound : Nat}
    (hunfinished : mark ∉ unfinished) (hbound : ∀ piece ∈ pieces, piece.length ≤ bound)
    (h : unfinished ++ more = encodeMarked mark pieces) : unfinished.length ≤ bound := by
  cases pieces with
  | nil =>
      rw [encodeMarked_nil, List.append_eq_nil_iff] at h
      simp [h.1]
  | cons piece pieces =>
      rw [encodeMarked_cons] at h
      have hlength := hbound piece List.mem_cons_self
      rcases List.append_eq_append_iff.mp h with ⟨gap, hpiece, _⟩ | ⟨gap, hpart, hgap⟩
      · rw [hpiece, List.length_append] at hlength
        omega
      · cases gap with
        | nil => simpa [hpart] using hlength
        | cons byte gap =>
            rw [List.cons_append, List.cons.injEq] at hgap
            exact absurd (by rw [hpart, ← hgap.1]; simp) hunfinished

/-- Bytes without the mark that begin a marked piece begin the piece itself. -/
theorem prefix_of_append_eq {unfinished more piece rest : Bytes} (hunfinished : mark ∉ unfinished)
    (h : unfinished ++ more = piece ++ mark :: rest) : unfinished <+: piece := by
  rcases List.append_eq_append_iff.mp h with ⟨gap, hpiece, _⟩ | ⟨gap, hpart, hgap⟩
  · exact ⟨gap, hpiece.symm⟩
  · cases gap with
    | nil => exact ⟨[], by rw [hpart, List.append_nil, List.append_nil]⟩
    | cons byte gap =>
        rw [List.cons_append, List.cons.injEq] at hgap
        exact absurd (by rw [hpart, ← hgap.1]; simp) hunfinished

/-- What follows an unfinished piece: it stays unfinished, or the first piece begins with it. -/
theorem splitAtMark_unfinished {unfinished more : Bytes} (h : mark ∉ unfinished) :
    (splitAtMark mark (unfinished ++ more)).1 = [] ∧ (splitAtMark mark (unfinished ++ more)).2 = unfinished ++ more ∨
      ∃ piece pieces, (splitAtMark mark (unfinished ++ more)).1 = piece :: pieces ∧ unfinished <+: piece := by
  have hjoin := splitAtMark_join mark (unfinished ++ more)
  cases hpieces : (splitAtMark mark (unfinished ++ more)).1 with
  | nil =>
      rw [hpieces, encodeMarked_nil, List.nil_append] at hjoin
      exact Or.inl ⟨rfl, hjoin⟩
  | cons piece pieces =>
      rw [hpieces, encodeMarked_cons, List.append_assoc, List.cons_append] at hjoin
      exact Or.inr ⟨piece, pieces, rfl, prefix_of_append_eq h hjoin.symm⟩

/-- For each read in turn, the pieces that it completes. -/
def completedPieces (mark : UInt8) (unfinished : Bytes) : List Bytes → List (List Bytes)
  | [] => []
  | bytes :: reads =>
      (splitAtMark mark (unfinished ++ bytes)).1 ::
        completedPieces mark (splitAtMark mark (unfinished ++ bytes)).2 reads

/-- Reads that carry a list of pieces complete these pieces, however they are cut. -/
theorem flatten_completedPieces {reads : List Bytes} : ∀ {unfinished : Bytes} {pieces : List Bytes},
    mark ∉ unfinished → (∀ piece ∈ pieces, mark ∉ piece) →
    unfinished ++ reads.flatten = encodeMarked mark pieces →
    (completedPieces mark unfinished reads).flatten = pieces := by
  induction reads with
  | nil =>
      intro unfinished pieces hunfinished _ h
      cases pieces with
      | nil => rfl
      | cons piece pieces =>
          rw [List.flatten_nil, List.append_nil, encodeMarked_cons] at h
          exact absurd (by rw [h]; simp) hunfinished
  | cons bytes reads ih =>
      intro unfinished pieces _ hpieces h
      rw [List.flatten_cons, ← List.append_assoc] at h
      obtain ⟨rest, hsplit, hrest⟩ := splitAtMark_of_append_eq hpieces h
      rw [completedPieces, List.flatten_cons, ih (notMem_splitAtMark_snd _)
        (fun piece hpiece => hpieces piece (hsplit ▸ List.mem_append_right _ hpiece)) hrest]
      exact hsplit.symm

/-- The reads that carry one marked piece each. The unfinished bytes belong to the first. -/
def onePiecePerRead (mark : UInt8) (unfinished : Bytes) : List Bytes → List Bytes
  | [] => []
  | piece :: pieces =>
      (piece ++ [mark]).drop unfinished.length :: pieces.map fun piece => piece ++ [mark]

theorem completedPieces_map_marked (pieces : List Bytes) (h : ∀ piece ∈ pieces, mark ∉ piece) :
    completedPieces mark [] (pieces.map fun piece => piece ++ [mark]) = pieces.map ([·]) := by
  induction pieces with
  | nil => rfl
  | cons piece pieces ih =>
      rw [List.map_cons, completedPieces, List.nil_append, splitAtMark_piece (h piece List.mem_cons_self)]
      exact congrArg ([piece] :: ·) (ih fun other hother => h other (List.mem_cons_of_mem _ hother))

theorem onePiecePerRead_spec {unfinished more : Bytes} {pieces : List Bytes}
    (hunfinished : mark ∉ unfinished) (hpieces : ∀ piece ∈ pieces, mark ∉ piece)
    (h : unfinished ++ more = encodeMarked mark pieces) :
    unfinished ++ (onePiecePerRead mark unfinished pieces).flatten = encodeMarked mark pieces ∧
      completedPieces mark unfinished (onePiecePerRead mark unfinished pieces) = pieces.map ([·]) := by
  cases pieces with
  | nil =>
      rw [encodeMarked_nil, List.append_eq_nil_iff] at h
      rw [h.1]
      exact ⟨rfl, rfl⟩
  | cons piece pieces =>
      rw [encodeMarked_cons] at h
      obtain ⟨gap, hgap⟩ := prefix_of_append_eq hunfinished h
      have hfirst : unfinished ++ (piece ++ [mark]).drop unfinished.length = piece ++ [mark] := by
        rw [← hgap, List.append_assoc, List.drop_left]
      constructor
      · rw [onePiecePerRead, List.flatten_cons, ← List.append_assoc, hfirst]
        rfl
      · rw [onePiecePerRead, completedPieces, hfirst, splitAtMark_piece (hpieces piece List.mem_cons_self)]
        exact congrArg ([piece] :: ·) (completedPieces_map_marked pieces
          fun other hother => hpieces other (List.mem_cons_of_mem _ hother))

end Pieces

/-! ### Decimal numerals -/

def isDigit (byte : UInt8) : Bool := decide (48 ≤ byte ∧ byte ≤ 57)

/-- The value of a string of decimal digits. -/
def decimalValue (digits : Bytes) : Nat :=
  digits.foldl (fun value digit => value * 10 + (digit.toNat - 48)) 0

/-- The shortest decimal numeral of a natural number. -/
def decimalText (value : Nat) : Bytes :=
  if value = 0 then [48] else (Nat.digits 10 value).reverse.map fun digit => UInt8.ofNat (48 + digit)

/-- The decimal numeral of an integer, with a sign when it is negative. -/
def decimalTextInt (value : Int) : Bytes :=
  if value < 0 then 45 :: decimalText value.natAbs else decimalText value.toNat

/-! A numeral is read back as the number it was written from, has no leading zero and is as short
as the number is small. -/

theorem isDigit_ofNat {digit : Nat} (h : digit < 10) : isDigit (UInt8.ofNat (48 + digit)) = true := by
  interval_cases digit <;> decide

theorem toNat_ofNat_digit {digit : Nat} (h : digit < 10) :
    (UInt8.ofNat (48 + digit)).toNat - 48 = digit := by
  interval_cases digit <;> decide

theorem isDigit_of_mem_decimalText {value : Nat} {byte : UInt8} (h : byte ∈ decimalText value) :
    isDigit byte = true := by
  unfold decimalText at h
  split at h
  · rw [List.mem_singleton] at h
    subst h
    decide
  · rw [List.mem_map] at h
    obtain ⟨digit, hdigit, rfl⟩ := h
    exact isDigit_ofNat (Nat.digits_lt_base (by decide) (List.mem_reverse.mp hdigit))

theorem foldl_digits (digits : List Nat) (h : ∀ digit ∈ digits, digit < 10) :
    decimalValue (digits.reverse.map fun digit => UInt8.ofNat (48 + digit)) = Nat.ofDigits 10 digits := by
  rw [decimalValue, List.foldl_map, List.foldl_reverse]
  induction digits with
  | nil => rfl
  | cons digit digits ih =>
      rw [List.foldr_cons, ih fun other hother => h other (List.mem_cons_of_mem _ hother),
        toNat_ofNat_digit (h digit List.mem_cons_self), Nat.ofDigits_cons]
      omega

theorem decimalValue_decimalText (value : Nat) : decimalValue (decimalText value) = value := by
  unfold decimalText
  split
  · rename_i hzero
    rw [hzero]
    rfl
  · rw [foldl_digits _ fun _ h => Nat.digits_lt_base (by decide) h, Nat.ofDigits_digits]

theorem foldl_decimal (digits : Bytes) (start : Nat) :
    digits.foldl (fun value digit => value * 10 + (digit.toNat - 48)) start =
      start * 10 ^ digits.length + decimalValue digits := by
  induction digits generalizing start with
  | nil => simp [decimalValue]
  | cons digit digits ih =>
      rw [decimalValue, List.foldl_cons, List.foldl_cons, ih, ih, List.length_cons, Nat.pow_succ']
      ring

theorem decimalValue_cons (digit : UInt8) (digits : Bytes) :
    decimalValue (digit :: digits) =
      (digit.toNat - 48) * 10 ^ digits.length + decimalValue digits := by
  rw [decimalValue, List.foldl_cons, foldl_decimal, Nat.zero_mul, Nat.zero_add]

theorem decimalValue_append (digits more : Bytes) :
    decimalValue (digits ++ more) = decimalValue digits * 10 ^ more.length + decimalValue more := by
  rw [decimalValue, List.foldl_append, foldl_decimal, ← decimalValue]

theorem digit_sub_le {digit : UInt8} (h : isDigit digit = true) : digit.toNat - 48 ≤ 9 := by
  rw [isDigit, decide_eq_true_eq, UInt8.le_iff_toNat_le, UInt8.le_iff_toNat_le] at h
  have hlast : (57 : UInt8).toNat = 57 := rfl
  omega

theorem decimalValue_lt {digits : Bytes} (h : digits.all isDigit = true) :
    decimalValue digits < 10 ^ digits.length := by
  induction digits with
  | nil => decide
  | cons digit digits ih =>
      rw [List.all_cons, Bool.and_eq_true] at h
      have hdigit := Nat.mul_le_mul_right (10 ^ digits.length) (digit_sub_le h.1)
      have hdigits := ih h.2
      rw [decimalValue_cons, List.length_cons, Nat.pow_succ]
      omega

theorem decimalText_ne_nil (value : Nat) : decimalText value ≠ [] := by
  unfold decimalText
  split
  · exact List.cons_ne_nil _ _
  · rename_i hzero
    simpa [Nat.digits_eq_nil_iff_eq_zero] using hzero

/-- Only the numeral of zero begins with a zero. -/
theorem head_decimalText {value : Nat} (h : 1 < (decimalText value).length) :
    (decimalText value).head? ≠ some 48 := by
  unfold decimalText at h ⊢
  split at h
  · simp at h
  · rename_i hzero
    rw [if_neg hzero, List.head?_map, List.head?_reverse,
      List.getLast?_eq_some_getLast (Nat.digits_ne_nil_iff_ne_zero.mpr hzero), Option.map_some]
    have hlast := Nat.getLast_digit_ne_zero 10 hzero
    have hlt : (Nat.digits 10 value).getLast (Nat.digits_ne_nil_iff_ne_zero.mpr hzero) < 10 :=
      Nat.digits_lt_base (by decide) (List.getLast_mem _)
    revert hlast hlt
    generalize (Nat.digits 10 value).getLast _ = digit
    intro hlast hlt
    interval_cases digit <;> first | exact absurd rfl hlast | decide

theorem length_decimalText {value width : Nat} (hwidth : 0 < width) (h : value < 10 ^ width) :
    (decimalText value).length ≤ width := by
  unfold decimalText
  split
  · rw [List.length_singleton]
    exact hwidth
  · rw [List.length_map, List.length_reverse]
    exact (Nat.digits_length_le_iff (by decide) value).mpr h

end ByteLines
