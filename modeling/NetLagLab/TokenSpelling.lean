import NetLagLab.ByteLines

/-! How a line spells tokens: with separators before, behind and between them, as many as one likes. A line spells one
list of tokens only. Nothing in this file refers to a particular command language. -/

namespace ByteLines

/-- A token is in one piece. -/
structure Unbroken (separator : UInt8 → Bool) (token : Bytes) : Prop where
  nonempty : token ≠ []
  inner : ∀ byte ∈ token, separator byte = false

inductive Spells (separator : UInt8 → Bool) : Bytes → List Bytes → Prop
  | blank {gap : Bytes} (hgap : ∀ byte ∈ gap, separator byte = true) : Spells separator gap []
  | last {gap token : Bytes} (hgap : ∀ byte ∈ gap, separator byte = true) (htoken : Unbroken separator token) :
      Spells separator (gap ++ token) [token]
  | more {gap token rest : Bytes} {mark : UInt8} {tokens : List Bytes} (hgap : ∀ byte ∈ gap, separator byte = true)
      (htoken : Unbroken separator token) (hmark : separator mark = true) (hrest : Spells separator rest tokens) :
      Spells separator (gap ++ (token ++ mark :: rest)) (token :: tokens)

namespace Spells

variable {separator : UInt8 → Bool} {line : Bytes} {tokens : List Bytes} {byte : UInt8}

theorem cons_separator (hbyte : separator byte = true) (h : Spells separator line tokens) :
    Spells separator (byte :: line) tokens := by
  cases h with
  | blank hgap => exact .blank (List.forall_mem_cons.mpr ⟨hbyte, hgap⟩)
  | last hgap htoken => exact .last (List.forall_mem_cons.mpr ⟨hbyte, hgap⟩) htoken
  | more hgap htoken hmark hrest => exact .more (List.forall_mem_cons.mpr ⟨hbyte, hgap⟩) htoken hmark hrest

theorem unbroken_cons {token : Bytes} (hbyte : separator byte = false)
    (htoken : ∀ byte ∈ token, separator byte = false) : Unbroken separator (byte :: token) :=
  ⟨List.cons_ne_nil _ _, List.forall_mem_cons.mpr ⟨hbyte, htoken⟩⟩

/-- A byte that is no separator starts a token, or is the first of the token behind it. -/
theorem exists_cons_inner (hbyte : separator byte = false) (h : Spells separator line tokens) :
    ∃ tokens, Spells separator (byte :: line) tokens := by
  have hnone : ∀ byte ∈ ([] : Bytes), separator byte = true := fun _ hmem => nomatch hmem
  have hsingle : Unbroken separator [byte] := unbroken_cons hbyte fun _ hmem => nomatch hmem
  have hstart : ∀ {mark : UInt8} {rest : Bytes}, separator mark = true → Spells separator rest tokens →
      ∃ tokens, Spells separator (byte :: mark :: rest) tokens :=
    fun hmark hrest => ⟨_, .more hnone hsingle hmark hrest⟩
  cases h with
  | blank hgap =>
      cases line with
      | nil => exact ⟨_, .last hnone hsingle⟩
      | cons mark gap =>
          obtain ⟨hmark, hrest⟩ := List.forall_mem_cons.mp hgap
          exact hstart hmark (.blank hrest)
  | @last gap token hgap htoken =>
      cases gap with
      | nil => exact ⟨_, .last hnone (unbroken_cons hbyte htoken.inner)⟩
      | cons mark gap =>
          obtain ⟨hmark, hrest⟩ := List.forall_mem_cons.mp hgap
          exact hstart hmark (.last hrest htoken)
  | @more gap token rest mark tokens hgap htoken hmark hrest =>
      cases gap with
      | nil => exact ⟨_, .more hnone (unbroken_cons hbyte htoken.inner) hmark hrest⟩
      | cons first gap =>
          obtain ⟨hfirst, hgap⟩ := List.forall_mem_cons.mp hgap
          exact hstart hfirst (.more hgap htoken hmark hrest)

theorem separators_of_nil (h : Spells separator line []) : ∀ byte ∈ line, separator byte = true := by
  cases h with
  | blank hgap => exact hgap

theorem ne_nil {token : Bytes} (h : Spells separator line (token :: tokens)) : line ≠ [] := by
  cases h with
  | last hgap htoken => exact List.append_ne_nil_of_right_ne_nil _ htoken.nonempty
  | more hgap htoken hmark hrest => simp

/-- Every line spells some tokens. -/
theorem total (separator : UInt8 → Bool) (line : Bytes) : ∃ tokens, Spells separator line tokens := by
  induction line with
  | nil => exact ⟨[], .blank fun _ hmem => nomatch hmem⟩
  | cons byte line ih =>
      obtain ⟨tokens, h⟩ := ih
      cases hbyte : separator byte with
      | true => exact ⟨tokens, h.cons_separator hbyte⟩
      | false => exact h.exists_cons_inner hbyte

/-- Only separators are lost. -/
theorem mem_iff (h : Spells separator line tokens) (hbyte : separator byte = false) :
    byte ∈ line ↔ ∃ token ∈ tokens, byte ∈ token := by
  have hlost : ∀ {gap : Bytes}, (∀ byte ∈ gap, separator byte = true) → byte ∉ gap :=
    fun hgap hmem => Bool.noConfusion (hbyte.symm.trans (hgap byte hmem))
  induction h with
  | blank hgap => simp [hlost hgap]
  | last hgap htoken => simp [hlost hgap]
  | @more gap token rest mark tokens hgap htoken hmark hrest ih =>
      have hne : byte ≠ mark := by
        rintro rfl
        exact Bool.noConfusion (hbyte.symm.trans hmark)
      simp [hlost hgap, hne, ih]

end Spells

end ByteLines
