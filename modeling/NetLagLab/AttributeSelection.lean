import Mathlib.Logic.Function.Basic
import NetLagLab.QdiscDecoding

/-! Attributes that are selected by their type: each selected type at most once, with a value read from its payload. What
is found does not depend on the order of the attributes, nor on those of other types. -/

namespace NetLagLab.NetworkEnvironment

open ByteLines Netlink

/-- What was found of each type. -/
abbrev Selection := Nat → Option Bytes

/-- One attribute; a type without a reader is passed over. -/
def selectItem (readers : Nat → Option (Bytes → Option Bytes)) (found : Selection) (item : Attribute) : Option Selection :=
  let type := nlaType item.type
  match readers type with
  | none => some found
  | some read =>
      if (found type).isSome = true then none
      else (read item.payload).map fun value => Function.update found type (some value)

/-- A type with a reader has taken its value from the only payload, any other type is as before. -/
def Selected (readers : Nat → Option (Bytes → Option Bytes)) (before : Selection) (items : List Attribute)
    (after : Selection) : Prop :=
  ∀ type, match readers type with
    | none => after type = before type
    | some read => Selects read (before type) (payloadsOf type items) (after type)

section Selection

variable {readers : Nat → Option (Bytes → Option Bytes)} {before after : Selection} {item : Attribute}
  {items others middle : List Attribute} {type : Nat}

theorem selected_nil : Selected readers before [] after ↔ after = before := by
  constructor
  · intro h
    funext type
    have htype := h type
    split at htype
    · exact htype
    · exact selects_nil.mp htype
  · rintro rfl type
    split
    · rfl
    · exact selects_nil.mpr rfl

theorem selected_cons_of_none (h : readers (nlaType item.type) = none) :
    Selected readers before (item :: items) after ↔ Selected readers before items after := by
  apply forall_congr'
  intro type
  by_cases hsame : nlaType item.type = type
  · rw [← hsame, h]
  · rw [payloadsOf_cons_of_ne hsame]

theorem selected_cons_of_some {read : Bytes → Option Bytes} (h : readers (nlaType item.type) = some read) :
    Selected readers before (item :: items) after ↔
      before (nlaType item.type) = none ∧ ∃ value, read item.payload = some value ∧
        Selected readers (Function.update before (nlaType item.type) (some value)) items after := by
  have hother : ∀ type ≠ nlaType item.type, ∀ value : Option Bytes,
      Function.update before (nlaType item.type) value type = before type :=
    fun type hne value => Function.update_of_ne hne value before
  constructor
  · intro hall
    have hthis := hall (nlaType item.type)
    rw [h] at hthis
    dsimp only at hthis
    rw [payloadsOf_cons_self] at hthis
    obtain ⟨hnone, value, hread, hrest⟩ := selects_cons.mp hthis
    refine ⟨hnone, value, hread, ?_⟩
    intro type
    by_cases hsame : type = nlaType item.type
    · rw [hsame, h, Function.update_self]
      exact hrest
    · have htype := hall type
      rw [payloadsOf_cons_of_ne (Ne.symm hsame)] at htype
      rw [hother type hsame]
      exact htype
  · rintro ⟨hnone, value, hread, hrest⟩ type
    have htype := hrest type
    by_cases hsame : type = nlaType item.type
    · rw [hsame, h, Function.update_self] at htype
      rw [hsame, h]
      dsimp only
      rw [payloadsOf_cons_self]
      exact selects_cons.mpr ⟨hnone, value, hread, htype⟩
    · rw [hother type hsame] at htype
      rw [payloadsOf_cons_of_ne (Ne.symm hsame)]
      exact htype

/-- The fold over the attributes selects by type. -/
theorem foldlM_selectItem_iff :
    items.foldlM (selectItem readers) before = some after ↔ Selected readers before items after := by
  induction items generalizing before with
  | nil =>
      rw [selected_nil, List.foldlM_nil]
      exact ⟨fun h => (Option.some.inj h).symm, fun h => congrArg some h.symm⟩
  | cons item items ih =>
      rw [List.foldlM_cons, selectItem]
      cases hread : readers (nlaType item.type) with
      | none => simpa [hread, selected_cons_of_none hread] using ih
      | some read =>
          rw [selected_cons_of_some hread]
          cases hfound : before (nlaType item.type) with
          | some value => simp
          | none =>
              cases hvalue : read item.payload with
              | none => simp [hvalue]
              | some value => simpa [hfound, hvalue] using ih

/-- Payloads of related attributes, type by type. -/
theorem forall₂_payloadsOf {Related : Attribute → Attribute → Prop}
    (htypes : ∀ item other, Related item other → nlaType item.type = nlaType other.type)
    (h : List.Forall₂ Related middle others) :
    List.Forall₂ (fun payload other => ∃ first second, nlaType first.type = type ∧ Related first second ∧
      first.payload = payload ∧ second.payload = other) (payloadsOf type middle) (payloadsOf type others) := by
  induction h with
  | nil => exact .nil
  | @cons item other middle others hrelated htail ih =>
      have htype := htypes item other hrelated
      by_cases hsame : nlaType item.type = type
      · subst hsame
        rw [payloadsOf_cons_self, htype, payloadsOf_cons_self, ← htype]
        exact .cons ⟨item, other, rfl, hrelated, rfl, rfl⟩ ih
      · rw [payloadsOf_cons_of_ne hsame, payloadsOf_cons_of_ne (htype ▸ hsame)]
        exact ih

theorem payloadsOf_filter {kept : Attribute → Bool} (h : ∀ item : Attribute, nlaType item.type = type → kept item = true)
    (items : List Attribute) : payloadsOf type (items.filter kept) = payloadsOf type items := by
  have hboth : ∀ item ∈ items, (decide (nlaType item.type = type) && kept item) = decide (nlaType item.type = type) := by
    intro item _
    by_cases hsame : nlaType item.type = type
    · simp [hsame, h item hsame]
    · simp [hsame]
  rw [payloadsOf, payloadsOf, ofType, ofType, List.filter_filter, List.filter_congr hboth]

theorem payloadsOf_perm (h : items.Perm others) (hone : (payloadsOf type items).length ≤ 1) :
    payloadsOf type items = payloadsOf type others := by
  rw [payloadsOf, List.length_map] at hone
  rw [payloadsOf, payloadsOf, ofType_perm h hone]

end Selection

end NetLagLab.NetworkEnvironment
