import NetLagLab.QdiscDump

/-! The options of a netem qdisc: what the loop over their attributes comes to, as a function of the attributes alone.
No option that is counted stands there twice, each has its size, and the order does not matter. -/

namespace NetLagLab.NetworkEnvironment

open ByteLines FixedWidth Netlink

/-! ### One option -/

/-- What one option does, by its payload. -/
def netemItem (before : NetemState) (item : Attribute) : Option NetemState :=
  let type := nlaType item.type
  if isCounted type ∧ type ∈ before.seen then none
  else
    let state := before.see type
    if type = tcaNetemLatency64 then
      if state.hasDelay = true ∨ item.payload.length ≠ 8 then none else some (state.setDelay (leValue item.payload))
    else if type = tcaNetemJitter64 then
      if state.hasJitter = true ∨ item.payload.length ≠ 8 then none else some (state.setJitter (leValue item.payload))
    else
      match expectedOption type with
      | none => some state.setUnsupported
      | some (size, mustBeZero) =>
          if item.payload.length ≠ size then none
          else if mustBeZero = true ∧ ¬ ∀ byte ∈ item.payload, byte = 0 then some state.setUnsupported
          else some state

/-- The size that an option must have. -/
def optionSize (type : Nat) : Option Nat :=
  if type = tcaNetemLatency64 ∨ type = tcaNetemJitter64 then some 8 else (expectedOption type).map Prod.fst

abbrev HasItsSize (item : Attribute) : Prop := ∀ size ∈ optionSize (nlaType item.type), item.payload.length = size

/-- An option that a profile does not ask for: one that is not known, or one that is not zero. -/
def isUnsupported (item : Attribute) : Bool :=
  if nlaType item.type = tcaNetemLatency64 ∨ nlaType item.type = tcaNetemJitter64 then false
  else
    match expectedOption (nlaType item.type) with
    | none => true
    | some (_, mustBeZero) => mustBeZero && !decide (∀ byte ∈ item.payload, byte = 0)

/-- The state behind an option in which nothing is wrong. -/
def advance (state : NetemState) (item : Attribute) : NetemState where
  qdisc := { state.qdisc with
    delayNanoseconds :=
      if nlaType item.type = tcaNetemLatency64 then UInt64.ofNat (leValue item.payload) else state.qdisc.delayNanoseconds
    jitterNanoseconds :=
      if nlaType item.type = tcaNetemJitter64 then UInt64.ofNat (leValue item.payload) else state.qdisc.jitterNanoseconds
    hasUnsupportedOptions := state.qdisc.hasUnsupportedOptions || isUnsupported item }
  hasDelay := state.hasDelay || decide (nlaType item.type = tcaNetemLatency64)
  hasJitter := state.hasJitter || decide (nlaType item.type = tcaNetemJitter64)
  seen := (state.see (nlaType item.type)).seen

/-- The flags of a state say what its types say. -/
structure Consistent (state : NetemState) : Prop where
  delay : state.hasDelay = decide (tcaNetemLatency64 ∈ state.seen)
  jitter : state.hasJitter = decide (tcaNetemJitter64 ∈ state.seen)

section Items

variable {bytes : Bytes} {view : AttributeView} {before state last : NetemState} {item : Attribute}
  {items others : List Attribute} {type : Nat}

theorem netemAttribute_eq (h : view.offset + view.length ≤ bytes.length) :
    netemAttribute bytes view before = .ok (netemItem before (view.read bytes)) := by
  have htype : view.type = (view.read bytes).type := rfl
  have hpayload : slice bytes view.offset view.length = (view.read bytes).payload := rfl
  have hlength : view.length = (view.read bytes).payload.length := (length_slice h).symm
  have htiming : ∀ {seen : Bool}, ¬ (seen = true ∨ view.length ≠ 8) →
      copyObject bytes view.offset 8 = .ok (some (view.read bytes).payload) := by
    intro seen hfits
    rw [not_or, not_not] at hfits
    rw [copyObject_eq, if_pos (by omega), ← hpayload, hfits.2]
  generalize view.read bytes = item at htype hpayload hlength htiming ⊢
  unfold netemAttribute netemItem
  rw [htype]
  dsimp only
  split
  · rfl
  · split
    · rw [← hlength]
      split
      · rfl
      · rename_i hfits
        rw [htiming hfits]
        rfl
    · split
      · rw [← hlength]
        split
        · rfl
        · rename_i hfits
          rw [htiming hfits]
          rfl
      · cases expectedOption (nlaType item.type) with
        | none => rfl
        | some expected =>
            dsimp only
            rw [← hlength]
            split
            · rfl
            · rw [memcpy_eq h, hpayload]
              dsimp only [Bind.bind, Except.bind]
              split <;> rfl

@[simp] theorem see_qdisc (state : NetemState) (type : Nat) : (state.see type).qdisc = state.qdisc := by
  unfold NetemState.see
  split <;> rfl

@[simp] theorem see_hasDelay (state : NetemState) (type : Nat) : (state.see type).hasDelay = state.hasDelay := by
  unfold NetemState.see
  split <;> rfl

@[simp] theorem see_hasJitter (state : NetemState) (type : Nat) : (state.see type).hasJitter = state.hasJitter := by
  unfold NetemState.see
  split <;> rfl

theorem netemItem_eq (h : Consistent before) :
    netemItem before item =
      if (isCounted (nlaType item.type) ∧ nlaType item.type ∈ before.seen) ∨ ¬ HasItsSize item then none
      else some (advance before item) := by
  unfold netemItem
  dsimp only
  by_cases hseen : isCounted (nlaType item.type) ∧ nlaType item.type ∈ before.seen
  · rw [if_pos hseen, if_pos (.inl hseen)]
  rw [if_neg hseen]
  have hfresh : isCounted (nlaType item.type) → nlaType item.type ∉ before.seen := fun hcounted hmem => hseen ⟨hcounted, hmem⟩
  by_cases hlatency : nlaType item.type = tcaNetemLatency64
  · have hunset : before.hasDelay = false := by
      rw [h.delay, decide_eq_false_iff_not, ← hlatency]
      exact hfresh (by rw [hlatency]; decide)
    have hsize : HasItsSize item ↔ item.payload.length = 8 := by simp [HasItsSize, optionSize, hlatency]
    rw [if_pos hlatency, see_hasDelay, hunset]
    by_cases height : item.payload.length = 8
    · rw [if_neg (by simp [height]), if_neg (not_or.mpr ⟨hseen, not_not.mpr (hsize.mpr height)⟩)]
      simp [advance, NetemState.setDelay, isUnsupported, hlatency, tcaNetemLatency64, tcaNetemJitter64]
    · rw [if_pos (.inr height), if_pos (.inr (mt hsize.mp height))]
  rw [if_neg hlatency]
  by_cases hjitter64 : nlaType item.type = tcaNetemJitter64
  · have hunset : before.hasJitter = false := by
      rw [h.jitter, decide_eq_false_iff_not, ← hjitter64]
      exact hfresh (by rw [hjitter64]; decide)
    have hsize : HasItsSize item ↔ item.payload.length = 8 := by simp [HasItsSize, optionSize, hjitter64]
    rw [if_pos hjitter64, see_hasJitter, hunset]
    by_cases height : item.payload.length = 8
    · rw [if_neg (by simp [height]), if_neg (not_or.mpr ⟨hseen, not_not.mpr (hsize.mpr height)⟩)]
      simp [advance, NetemState.setJitter, isUnsupported, hjitter64, tcaNetemLatency64, tcaNetemJitter64]
    · rw [if_pos (.inr height), if_pos (.inr (mt hsize.mp height))]
  rw [if_neg hjitter64]
  simp only [HasItsSize, optionSize, hlatency, hjitter64, or_self, if_false, hseen, false_or]
  cases hexpected : expectedOption (nlaType item.type) with
  | none => simp [advance, NetemState.setUnsupported, isUnsupported, hlatency, hjitter64, hexpected]
  | some expected =>
      dsimp only
      obtain ⟨size, mustBeZero⟩ := expected
      simp only [Option.map_some, Option.mem_some_iff, forall_eq', ne_eq]
      split
      · rfl
      · have hunsupported : isUnsupported item = decide (mustBeZero = true ∧ ¬ ∀ byte ∈ item.payload, byte = 0) := by
          simp only [isUnsupported, hlatency, hjitter64, or_self, if_false, hexpected]
          rw [Bool.decide_and, decide_not, Bool.decide_eq_true]
        split
        · rename_i hnonzero
          simp [advance, NetemState.setUnsupported, hlatency, hjitter64, hunsupported, hnonzero]
        · rename_i hzero
          have hsee : before.see (nlaType item.type) = { before with seen := (before.see (nlaType item.type)).seen } := by
            unfold NetemState.see
            split <;> rfl
          simp only [advance, hlatency, hjitter64, if_false, decide_false, Bool.or_false, hunsupported, hzero]
          exact congrArg some hsee

theorem mem_see {type other : Nat} : other ∈ (before.see type).seen ↔ other ∈ before.seen ∨ (isCounted type ∧ other = type) := by
  unfold NetemState.see
  split
  · rename_i hcounted
    rw [List.mem_cons]
    constructor
    · rintro (rfl | hmem)
      · exact .inr ⟨hcounted, rfl⟩
      · exact .inl hmem
    · rintro (hmem | ⟨-, rfl⟩)
      · exact .inr hmem
      · exact .inl rfl
  · rename_i hcounted
    exact ⟨.inl, fun hboth => hboth.elim id fun hother => absurd hother.1 hcounted⟩

theorem consistent_advance (h : Consistent before) (item : Attribute) : Consistent (advance before item) := by
  have hflag : ∀ (seen : Bool) (type : Nat), isCounted type → seen = decide (type ∈ before.seen) →
      (seen || decide (nlaType item.type = type)) = decide (type ∈ (before.see (nlaType item.type)).seen) := by
    intro seen type hcounted hseen
    rw [hseen, ← Bool.decide_or, decide_eq_decide, mem_see]
    constructor
    · rintro (hmem | rfl)
      · exact .inl hmem
      · exact .inr ⟨hcounted, rfl⟩
    · rintro (hmem | ⟨-, rfl⟩)
      · exact .inl hmem
      · exact .inr rfl
  exact ⟨hflag _ _ (by decide) h.delay, hflag _ _ (by decide) h.jitter⟩

end Items

/-! ### All options -/

/-- The options of a type. -/
def ofType (type : Nat) (items : List Attribute) : List Attribute :=
  items.filter fun item => decide (nlaType item.type = type)

/-- No counted type stands twice among the options, those seen before included. -/
def Fresh (seen : List Nat) (items : List Attribute) : Prop :=
  ∀ type, isCounted type → (ofType type items).length + (if type ∈ seen then 1 else 0) ≤ 1

/-- What the last option of a type says. -/
def timing (type : Nat) (items : List Attribute) : Option Nat :=
  (ofType type items).getLast?.map fun item => leValue item.payload

section Folds

variable {before last : NetemState} {item : Attribute} {items others : List Attribute} {type : Nat}

theorem ofType_cons_self (item : Attribute) (items : List Attribute) :
    ofType (nlaType item.type) (item :: items) = item :: ofType (nlaType item.type) items :=
  List.filter_cons_of_pos (by simp)

theorem ofType_cons_of_ne (h : nlaType item.type ≠ type) (items : List Attribute) :
    ofType type (item :: items) = ofType type items :=
  List.filter_cons_of_neg (by simp [h])

theorem fresh_cons : Fresh before.seen (item :: items) ↔
    ¬ (isCounted (nlaType item.type) ∧ nlaType item.type ∈ before.seen) ∧
      Fresh (before.see (nlaType item.type)).seen items := by
  constructor
  · intro h
    constructor
    · rintro ⟨hcounted, hmem⟩
      have hcount := h _ hcounted
      rw [ofType_cons_self, List.length_cons, if_pos hmem] at hcount
      omega
    · intro type hcounted
      have hcount := h type hcounted
      by_cases hsame : nlaType item.type = type
      · subst hsame
        rw [ofType_cons_self, List.length_cons] at hcount
        split <;> omega
      · rw [ofType_cons_of_ne hsame] at hcount
        simp only [mem_see, Ne.symm hsame, and_false, or_false]
        exact hcount
  · rintro ⟨hfresh, hrest⟩ type hcounted
    have hcount := hrest type hcounted
    by_cases hsame : nlaType item.type = type
    · subst hsame
      rw [if_pos (mem_see.mpr (.inr ⟨hcounted, rfl⟩))] at hcount
      rw [ofType_cons_self, List.length_cons, if_neg fun hmem => hfresh ⟨hcounted, hmem⟩]
      omega
    · rw [ofType_cons_of_ne hsame]
      simp only [mem_see, Ne.symm hsame, and_false, or_false] at hcount
      exact hcount

/-- The fold succeeds if and only if no option stands twice and each has its size. -/
theorem foldlM_netemItem_iff (h : Consistent before) : items.foldlM netemItem before = some last ↔
    Fresh before.seen items ∧ (∀ item ∈ items, HasItsSize item) ∧ last = items.foldl advance before := by
  induction items generalizing before with
  | nil =>
      have hempty : Fresh before.seen [] := by
        intro type _
        simp only [ofType, List.filter_nil, List.length_nil]
        split <;> omega
      rw [List.foldlM_nil, List.foldl_nil]
      constructor
      · intro heq
        exact ⟨hempty, by simp, (Option.some.inj heq).symm⟩
      · rintro ⟨-, -, rfl⟩
        rfl
  | cons item items ih =>
      rw [List.foldlM_cons, List.foldl_cons, netemItem_eq h, fresh_cons, List.forall_mem_cons]
      by_cases hrefused : (isCounted (nlaType item.type) ∧ nlaType item.type ∈ before.seen) ∨ ¬ HasItsSize item
      · rw [if_pos hrefused]
        constructor
        · exact fun heq => nomatch heq
        · rintro ⟨⟨hfresh, -⟩, ⟨hsize, -⟩, -⟩
          exact absurd hrefused (not_or.mpr ⟨hfresh, not_not.mpr hsize⟩)
      · rw [if_neg hrefused]
        rw [not_or, not_not] at hrefused
        obtain ⟨hfresh, hsize⟩ := hrefused
        have hrest := ih (consistent_advance h item)
        constructor
        · intro heq
          obtain ⟨hothers, hsizes, rfl⟩ := hrest.mp heq
          exact ⟨⟨hfresh, hothers⟩, ⟨hsize, hsizes⟩, rfl⟩
        · rintro ⟨⟨-, hothers⟩, ⟨-, hsizes⟩, rfl⟩
          exact hrest.mpr ⟨hothers, hsizes, rfl⟩

theorem timing_cons (item : Attribute) (items : List Attribute) :
    timing type (item :: items) =
      if nlaType item.type = type then some ((timing type items).getD (leValue item.payload)) else timing type items := by
  by_cases hsame : nlaType item.type = type
  · subst hsame
    rw [if_pos rfl, timing, timing, ofType_cons_self, List.getLast?_cons]
    cases (ofType (nlaType item.type) items).getLast? <;> rfl
  · rw [if_neg hsame, timing, timing, ofType_cons_of_ne hsame]

/-- What the fold comes to, field by field. -/
theorem foldl_advance (items : List Attribute) (before : NetemState) :
    (items.foldl advance before).qdisc = { before.qdisc with
      delayNanoseconds := ((timing tcaNetemLatency64 items).map UInt64.ofNat).getD before.qdisc.delayNanoseconds
      jitterNanoseconds := ((timing tcaNetemJitter64 items).map UInt64.ofNat).getD before.qdisc.jitterNanoseconds
      hasUnsupportedOptions := before.qdisc.hasUnsupportedOptions || items.any isUnsupported } ∧
    (items.foldl advance before).hasDelay = (before.hasDelay || (timing tcaNetemLatency64 items).isSome) ∧
    (items.foldl advance before).hasJitter = (before.hasJitter || (timing tcaNetemJitter64 items).isSome) := by
  induction items generalizing before with
  | nil => simp [timing, ofType]
  | cons item items ih =>
      obtain ⟨hqdisc, hdelay, hjitter⟩ := ih (advance before item)
      have hvalue : ∀ (type : Nat) (old : UInt64), ((timing type (item :: items)).map UInt64.ofNat).getD old =
          ((timing type items).map UInt64.ofNat).getD
            (if nlaType item.type = type then UInt64.ofNat (leValue item.payload) else old) := by
        intro type old
        rw [timing_cons]
        split
        · cases timing type items <;> rfl
        · rfl
      have hflag : ∀ (type : Nat) (flag : Bool), (flag || (timing type (item :: items)).isSome) =
          (flag || decide (nlaType item.type = type) || (timing type items).isSome) := by
        intro type flag
        rw [timing_cons]
        split
        · rename_i hsame
          simp [hsame]
        · rename_i hother
          simp [hother]
      rw [List.foldl_cons, hqdisc, hdelay, hjitter, hvalue, hvalue, hflag, hflag, List.any_cons, ← Bool.or_assoc]
      exact ⟨rfl, rfl, rfl⟩

end Folds

/-! ### The payload of the options -/

/-- Options in which nothing is wrong. -/
structure NetemItems (items : List Attribute) : Prop where
  once : Fresh [] items
  sized : ∀ item ∈ items, HasItsSize item

/-- The qdisc that the options describe. -/
def netemQdisc (payload : Bytes) (items : List Attribute) (qdisc : RootQdisc) : RootQdisc :=
  { qdisc with
    delayNanoseconds := ((timing tcaNetemLatency64 items).map UInt64.ofNat).getD qdisc.delayNanoseconds
    jitterNanoseconds := ((timing tcaNetemJitter64 items).map UInt64.ofNat).getD qdisc.jitterNanoseconds
    lossProbability := UInt32.ofNat (leValue (slice payload 8 4))
    hasUnsupportedOptions :=
      decide (leValue (slice payload 4 4) ≠ 1000 ∨ leValue (slice payload 12 4) ≠ 0 ∨ leValue (slice payload 16 4) ≠ 0)
        || items.any isUnsupported
        || (!(timing tcaNetemLatency64 items).isSome && decide (leValue (slice payload 0 4) ≠ 0))
        || (!(timing tcaNetemJitter64 items).isSome && decide (leValue (slice payload 20 4) ≠ 0)) }

/-- The state before the attributes, with what the fixed part says. -/
def legacyState (payload : Bytes) (qdisc : RootQdisc) : NetemState where
  qdisc := { qdisc with
    lossProbability := UInt32.ofNat (leValue (slice payload 8 4))
    hasUnsupportedOptions :=
      decide (leValue (slice payload 4 4) ≠ 1000 ∨ leValue (slice payload 12 4) ≠ 0 ∨ leValue (slice payload 16 4) ≠ 0) }

/-- The qdisc behind the attributes; a time of the fixed part alone is not confirmed. -/
def withLegacyTiming (payload : Bytes) (last : NetemState) : RootQdisc :=
  { last.qdisc with
    hasUnsupportedOptions := last.qdisc.hasUnsupportedOptions
      || (!last.hasDelay && decide (leValue (slice payload 0 4) ≠ 0))
      || (!last.hasJitter && decide (leValue (slice payload 20 4) ≠ 0)) }

/-- A payload and the qdisc that it describes. -/
def NetemPayload (payload : Bytes) (qdisc result : RootQdisc) : Prop :=
  ∃ items, 24 ≤ payload.length ∧ Encodes items (payload.drop 24) ∧ NetemItems items ∧ result = netemQdisc payload items qdisc

section Payloads

variable {bytes payload : Bytes} {offset length : Nat} {qdisc result : RootQdisc} {items others : List Attribute} {type : Nat}

theorem netemOptions_eq (h : offset + length ≤ bytes.length) (hpayload : slice bytes offset length = payload) :
    netemOptions bytes offset length qdisc = .ok
      (if length < 24 then none
      else
        ((attributes (payload.drop 24)).bind fun items => items.foldlM netemItem (legacyState payload qdisc)).map
          (withLegacyTiming payload)) := by
  unfold netemOptions
  split
  · rfl
  · have hfield : ∀ start, start + 4 ≤ 24 → slice (slice bytes offset 24) start 4 = slice payload start 4 := by
      intro start hstart
      rw [← hpayload, slice_slice bytes hstart, slice_slice bytes (by omega)]
    have hregion : slice bytes (offset + 24) (length - 24) = payload.drop 24 := by
      rw [← hpayload, slice, slice, List.drop_take, List.drop_drop]
    have hloop : attributeLoop (netemAttribute bytes) bytes (length - 24 + 1) (offset + 24) (length - 24)
        (legacyState payload qdisc) =
        .ok ((attributes (payload.drop 24)).bind fun items => items.foldlM netemItem (legacyState payload qdisc)) := by
      rw [← hregion]
      exact attributeLoop_fold (fun view before hin => netemAttribute_eq hin) (by omega) (Nat.lt_succ_self _)
    simp only [legacyState] at hloop
    rw [copyObject_eq, if_pos (by omega)]
    simp only [Bind.bind, Except.bind, hfield _ (show 0 + 4 ≤ 24 by omega), hfield _ (show 4 + 4 ≤ 24 by omega),
      hfield _ (show 8 + 4 ≤ 24 by omega), hfield _ (show 12 + 4 ≤ 24 by omega), hfield _ (show 16 + 4 ≤ 24 by omega),
      hfield _ (show 20 + 4 ≤ 24 by omega)]
    rw [hloop]
    simp only [legacyState]
    generalize ((attributes (payload.drop 24)).bind fun items => items.foldlM netemItem _) = outcome
    cases outcome <;> rfl

theorem netemOptions_total (h : offset + length ≤ bytes.length) :
    ∃ outcome, netemOptions bytes offset length qdisc = .ok outcome :=
  ⟨_, netemOptions_eq h rfl⟩

theorem netemOptions_iff (h : offset + length ≤ bytes.length) (hpayload : slice bytes offset length = payload) :
    netemOptions bytes offset length qdisc = .ok (some result) ↔ NetemPayload payload qdisc result := by
  have hlength : payload.length = length := by rw [← hpayload, length_slice h]
  have hconsistent : Consistent (legacyState payload qdisc) := ⟨by simp [legacyState], by simp [legacyState]⟩
  have hvalue : ∀ items, withLegacyTiming payload (items.foldl advance (legacyState payload qdisc)) =
      netemQdisc payload items qdisc := by
    intro items
    obtain ⟨hqdisc, hdelay, hjitter⟩ := foldl_advance items (legacyState payload qdisc)
    rw [withLegacyTiming, hqdisc, hdelay, hjitter]
    rfl
  rw [netemOptions_eq h hpayload, Except.ok.injEq, NetemPayload]
  by_cases hshort : length < 24
  · rw [if_pos hshort]
    constructor
    · exact fun heq => nomatch heq
    · rintro ⟨items, hlong, -⟩
      omega
  · rw [if_neg hshort, Option.map_eq_some_iff]
    constructor
    · rintro ⟨last, hlast, rfl⟩
      obtain ⟨items, hitems, hfold⟩ := Option.bind_eq_some_iff.mp hlast
      obtain ⟨honce, hsized, rfl⟩ := (foldlM_netemItem_iff hconsistent).mp hfold
      exact ⟨items, by omega, attributes_eq_some_iff.mp hitems, ⟨honce, hsized⟩, hvalue items⟩
    · rintro ⟨items, -, hencodes, hitems, rfl⟩
      refine ⟨items.foldl advance (legacyState payload qdisc), ?_, hvalue items⟩
      rw [attributes_eq_some_iff.mpr hencodes, Option.bind_some]
      exact (foldlM_netemItem_iff hconsistent).mpr ⟨hitems.once, hitems.sized, rfl⟩

/-! ### The order of the options -/

theorem ofType_perm (h : items.Perm others) (hone : (ofType type items).length ≤ 1) : ofType type items = ofType type others := by
  have hperm : (ofType type items).Perm (ofType type others) := h.filter _
  match hfound : ofType type items with
  | [] => rw [hfound] at hperm; exact (List.nil_perm.mp hperm).symm
  | [item] => rw [hfound] at hperm; exact List.singleton_perm.mp hperm
  | _ :: _ :: _ => rw [hfound] at hone; simp at hone

theorem NetemItems.perm (h : NetemItems items) (hperm : items.Perm others) : NetemItems others := by
  refine ⟨fun type hcounted => ?_, fun item hitem => h.sized item (hperm.mem_iff.mpr hitem)⟩
  have hlength : (ofType type items).length = (ofType type others).length := (hperm.filter _).length_eq
  rw [← hlength]
  exact h.once type hcounted

theorem NetemItems.length_le (h : NetemItems items) (hcounted : isCounted type) : (ofType type items).length ≤ 1 := by
  have hone := h.once type hcounted
  simpa using hone

theorem timing_perm (h : NetemItems items) (hperm : items.Perm others) (hcounted : isCounted type) :
    timing type items = timing type others := by
  rw [timing, timing, ofType_perm hperm (h.length_le hcounted)]

/-- The order of the options does not matter. -/
theorem netemPayload_perm {fixed region reordered : Bytes} (hfixed : fixed.length = 24) (hitems : Encodes items region)
    (hothers : Encodes others reordered) (hperm : items.Perm others) (h : NetemPayload (fixed ++ region) qdisc result) :
    NetemPayload (fixed ++ reordered) qdisc result := by
  obtain ⟨found, -, hfound, hvalid, rfl⟩ := h
  rw [← hfixed, List.drop_left] at hfound
  obtain rfl := encodes_unique hitems hfound
  have hfield : ∀ tail start, start + 4 ≤ 24 → slice (fixed ++ tail) start 4 = slice fixed start 4 :=
    fun tail start hin => slice_append_left (by omega)
  refine ⟨others, ?_, ?_, hvalid.perm hperm, ?_⟩
  · rw [List.length_append]
    omega
  · rw [← hfixed, List.drop_left]
    exact hothers
  · have hany : items.any isUnsupported = others.any isUnsupported := hperm.any_eq
    simp only [netemQdisc, timing_perm hvalid hperm (show isCounted tcaNetemLatency64 by decide),
      timing_perm hvalid hperm (show isCounted tcaNetemJitter64 by decide), hany,
      hfield _ _ (show 0 + 4 ≤ 24 by omega), hfield _ _ (show 4 + 4 ≤ 24 by omega), hfield _ _ (show 8 + 4 ≤ 24 by omega),
      hfield _ _ (show 12 + 4 ≤ 24 by omega), hfield _ _ (show 16 + 4 ≤ 24 by omega), hfield _ _ (show 20 + 4 ≤ 24 by omega)]

/-! ### Options that a profile asks for -/

/-- A time comes from its own option, or it is zero everywhere. -/
def Times (type legacy : Nat) (items : List Attribute) (nanoseconds : UInt64) : Prop :=
  (∃ item ∈ items, nlaType item.type = type ∧ item.payload.length = 8 ∧ nanoseconds.toNat = leValue item.payload) ∨
    ((∀ item ∈ items, nlaType item.type ≠ type) ∧ legacy = 0 ∧ nanoseconds = 0)

/-- The payload says no more than delay, jitter and loss. -/
structure SaysNoMore (payload : Bytes) (items : List Attribute) (result : RootQdisc) : Prop where
  limit : leValue (slice payload 4 4) = 1000
  gap : leValue (slice payload 12 4) = 0
  duplicate : leValue (slice payload 16 4) = 0
  loss : result.lossProbability.toNat = leValue (slice payload 8 4)
  delay : Times tcaNetemLatency64 (leValue (slice payload 0 4)) items result.delayNanoseconds
  jitter : Times tcaNetemJitter64 (leValue (slice payload 20 4)) items result.jitterNanoseconds
  others : ∀ item ∈ items, nlaType item.type = tcaNetemLatency64 ∨ nlaType item.type = tcaNetemJitter64 ∨
    nlaType item.type = tcaNetemPrngSeed ∨ nlaType item.type = tcaNetemPad ∨
    nlaType item.type ∈ [tcaNetemCorr, tcaNetemReorder, tcaNetemCorrupt, tcaNetemRate] ∧ ∀ byte ∈ item.payload, byte = 0
  once : ∀ type, isCounted type → (ofType type items).length ≤ 1

theorem times_of_timing {legacy : Nat} (h : NetemItems items) (hsize : optionSize type = some 8)
    (hlegacy : (timing type items).isSome = false → legacy = 0) :
    Times type legacy items (((timing type items).map UInt64.ofNat).getD 0) := by
  cases hfound : (ofType type items).getLast? with
  | none =>
      have hnil : ofType type items = [] := List.getLast?_eq_none_iff.mp hfound
      have htiming : timing type items = none := by rw [timing, hfound, Option.map_none]
      refine .inr ⟨fun item hitem htype => ?_, hlegacy (by rw [htiming]; rfl), by rw [htiming]; rfl⟩
      have hmem : item ∈ ofType type items := List.mem_filter.mpr ⟨hitem, by simp [htype]⟩
      rw [hnil] at hmem
      exact nomatch hmem
  | some item =>
      have hmem : item ∈ ofType type items := List.mem_of_getLast? hfound
      obtain ⟨hitem, htype⟩ := List.mem_filter.mp hmem
      rw [decide_eq_true_eq] at htype
      have height : item.payload.length = 8 := h.sized item hitem 8 (by rw [htype, hsize]; rfl)
      have hvalue : leValue item.payload < 2 ^ 64 := by
        have hlt := leValue_lt item.payload
        rw [height] at hlt
        exact hlt
      refine .inl ⟨item, hitem, htype, height, ?_⟩
      rw [timing, hfound, Option.map_some, Option.map_some, Option.getD_some, UInt64.toNat_ofNat', Nat.mod_eq_of_lt hvalue]

theorem expectedOption_cases {size : Nat} {mustBeZero : Bool} (h : expectedOption type = some (size, mustBeZero)) :
    (mustBeZero = true ∧ type ∈ [tcaNetemCorr, tcaNetemReorder, tcaNetemCorrupt, tcaNetemRate]) ∨
      mustBeZero = false ∧ (type = tcaNetemPrngSeed ∨ type = tcaNetemPad) := by
  unfold expectedOption at h
  split_ifs at h with hcorr hreorder hcorrupt hrate hseed hpad <;> cases h
  · exact .inl ⟨rfl, by simp [hcorr]⟩
  · exact .inl ⟨rfl, by simp [hreorder]⟩
  · exact .inl ⟨rfl, by simp [hcorrupt]⟩
  · exact .inl ⟨rfl, by simp [hrate]⟩
  · exact .inr ⟨rfl, .inl hseed⟩
  · exact .inr ⟨rfl, .inr hpad⟩

theorem others_of_not_unsupported {item : Attribute} (h : isUnsupported item = false) :
    nlaType item.type = tcaNetemLatency64 ∨ nlaType item.type = tcaNetemJitter64 ∨
      nlaType item.type = tcaNetemPrngSeed ∨ nlaType item.type = tcaNetemPad ∨
      nlaType item.type ∈ [tcaNetemCorr, tcaNetemReorder, tcaNetemCorrupt, tcaNetemRate] ∧ ∀ byte ∈ item.payload, byte = 0 := by
  unfold isUnsupported at h
  split at h
  · rename_i htimes
    exact htimes.elim .inl fun hjitter => .inr (.inl hjitter)
  · split at h
    · exact nomatch h
    · rename_i size mustBeZero hexpected
      rcases expectedOption_cases hexpected with ⟨rfl, hzero⟩ | ⟨-, hseed | hpad⟩
      · rw [Bool.true_and, Bool.not_eq_false', decide_eq_true_eq] at h
        exact .inr (.inr (.inr (.inr ⟨hzero, h⟩)))
      · exact .inr (.inr (.inl hseed))
      · exact .inr (.inr (.inr (.inl hpad)))

/-- A netem qdisc without the flag is one whose options say no more. -/
theorem saysNoMore_of_netemPayload {handle : UInt32} (h : NetemPayload payload { handle, kind := .netem } result)
    (hsupported : result.hasUnsupportedOptions = false) :
    ∃ items, 24 ≤ payload.length ∧ Encodes items (payload.drop 24) ∧ SaysNoMore payload items result := by
  obtain ⟨items, hlength, hencodes, hvalid, rfl⟩ := h
  simp only [netemQdisc, Bool.or_eq_false_iff, decide_eq_false_iff_not, not_or, not_not, Bool.and_eq_false_iff,
    Bool.not_eq_false', List.any_eq_false] at hsupported
  obtain ⟨⟨⟨⟨hlimit, hgap, hduplicate⟩, hitems⟩, hdelay⟩, hjitter⟩ := hsupported
  have hlegacy : ∀ {type legacy : Nat}, (timing type items).isSome = true ∨ legacy = 0 →
      (timing type items).isSome = false → legacy = 0 := by
    intro type legacy hconfirmed hnone
    rw [hnone] at hconfirmed
    exact hconfirmed.resolve_left (by decide)
  refine ⟨items, hlength, hencodes, hlimit, hgap, hduplicate, ?_, ?_, ?_, ?_, fun type hcounted => hvalid.length_le hcounted⟩
  · exact UInt32.toNat_ofNat_of_lt (leValue_slice_lt payload 8 4)
  · exact times_of_timing hvalid rfl (hlegacy hdelay)
  · exact times_of_timing hvalid rfl (hlegacy hjitter)
  · intro item hitem
    exact others_of_not_unsupported (by simpa using hitems item hitem)

end Payloads

end NetLagLab.NetworkEnvironment
