import NetLagLab.NetemOptions

/-! What the decoder of the qdiscs makes of a message: which bytes are the root qdisc of the link, which are another
qdisc, and which end the dump. Anything else is refused, without a read outside the bytes. -/

namespace NetLagLab.NetworkEnvironment

open ByteLines CallPrograms CallPrograms.Program FixedWidth Netlink

/-! ### The attributes of a qdisc -/

/-- The string of a payload that ends with its only zero byte. -/
def stringValue (payload : Bytes) : Option Bytes :=
  if payload.getLast? ≠ some 0 ∨ 0 ∈ payload.dropLast then none else some payload.dropLast

/-- `QdiscAttributes` with the payload of the options in place of its position. -/
structure QdiscPayloads where
  kind : Option Bytes := none
  options : Option Bytes := none

def QdiscAttributes.payloads (message : Bytes) (found : QdiscAttributes) : QdiscPayloads :=
  ⟨found.kind, found.options.map fun view => slice message view.1 view.2⟩

/-- The options lie in the message. -/
def QdiscAttributes.Within (message : Bytes) (found : QdiscAttributes) : Prop :=
  ∀ view, found.options = some view → view.1 + view.2 ≤ message.length

def qdiscItem (found : QdiscPayloads) (item : Attribute) : Option QdiscPayloads :=
  if nlaType item.type = tcaKind then
    if found.kind.isSome = true then none else (stringValue item.payload).map fun kind => { found with kind := some kind }
  else if nlaType item.type = tcaOptions then
    if found.options.isSome = true then none else some { found with options := some item.payload }
  else some found

/-- A value is taken from the only payload there is, and where there is none it stays. -/
def Selects (read : Bytes → Option Bytes) (before : Option Bytes) (payloads : List Bytes) (after : Option Bytes) : Prop :=
  (payloads = [] ∧ after = before) ∨
    (before = none ∧ ∃ payload value, payloads = [payload] ∧ read payload = some value ∧ after = some value)

section Attributes

variable {message payload kind : Bytes} {view : AttributeView} {found last : QdiscAttributes} {before after : QdiscPayloads}
  {items others : List Attribute} {remaining : Nat}

theorem stringValue_eq_some_iff : stringValue payload = some kind ↔ payload = kind ++ [0] ∧ 0 ∉ kind := by
  unfold stringValue
  constructor
  · intro h
    split at h
    · exact nomatch h
    · rename_i hvalid
      rw [not_or, not_not] at hvalid
      cases h
      obtain ⟨hlast, hnone⟩ := hvalid
      refine ⟨?_, hnone⟩
      exact (List.dropLast_append_getLast? 0 hlast).symm
  · rintro ⟨rfl, hnone⟩
    rw [if_neg (by simpa using hnone), List.dropLast_concat]

theorem stringAttribute_eq {offset length : Nat} (h : offset + length ≤ message.length) :
    stringAttribute message offset length = .ok (stringValue (slice message offset length)) := by
  have hsize : (slice message offset length).length = length := length_slice h
  unfold stringAttribute stringValue
  by_cases hempty : length = 0
  · have hnil : slice message offset length = [] := List.length_eq_zero_iff.mp (by omega)
    rw [if_pos (.inl hempty), hnil, if_pos (.inl (by simp))]
    rfl
  · rw [if_neg (by omega), memcpy_eq h]
    dsimp only [Bind.bind, Except.bind]
    split <;> rfl

/-- One attribute, by its payload; the position of the options stays within the message. -/
theorem qdiscAttribute_eq (h : view.offset + view.length ≤ message.length) :
    ∃ outcome : Option QdiscAttributes, qdiscAttribute message view found = .ok outcome ∧
      outcome.map (QdiscAttributes.payloads message) = qdiscItem (found.payloads message) (view.read message) ∧
      ∀ next, outcome = some next → found.Within message → next.Within message := by
  unfold qdiscAttribute qdiscItem AttributeView.read
  dsimp only
  split
  · rename_i hkind
    have hsome : (found.payloads message).kind = found.kind := rfl
    rw [hsome]
    split
    · exact ⟨none, rfl, rfl, fun _ hnone => nomatch hnone⟩
    · rw [stringAttribute_eq h]
      dsimp only [Bind.bind, Except.bind]
      cases stringValue (slice message view.offset view.length) with
      | none => exact ⟨none, rfl, rfl, fun _ hnone => nomatch hnone⟩
      | some kind =>
          refine ⟨some { found with kind := some kind }, rfl, rfl, ?_⟩
          rintro next hnext hwithin
          cases hnext
          exact hwithin
  · split
    · have hsome : (found.payloads message).options.isSome = found.options.isSome := by
        simp [QdiscAttributes.payloads]
      rw [hsome]
      split
      · exact ⟨none, rfl, rfl, fun _ hnone => nomatch hnone⟩
      · refine ⟨some { found with options := some (view.offset, view.length) }, rfl, rfl, ?_⟩
        rintro next hnext -
        cases hnext
        intro position hposition
        cases hposition
        exact h
    · refine ⟨some found, rfl, rfl, ?_⟩
      rintro next hnext hwithin
      cases hnext
      exact hwithin

theorem qdiscAttributes_loop (h : 36 + remaining ≤ message.length) :
    ∃ outcome : Option QdiscAttributes,
      attributeLoop (qdiscAttribute message) message (remaining + 1) 36 remaining {} = .ok outcome ∧
      outcome.map (QdiscAttributes.payloads message) =
        ((attributes (slice message 36 remaining)).bind fun items => items.foldlM qdiscItem {}) ∧
      ∀ last, outcome = some last → last.Within message := by
  obtain ⟨outcome, heq, hvalue, hwithin⟩ :
      ∃ outcome, attributeLoop (qdiscAttribute message) message (remaining + 1) 36 remaining {} = .ok outcome ∧
        outcome.map (QdiscAttributes.payloads message) = ((attributes (slice message 36 remaining)).bind fun items =>
          items.foldlM qdiscItem (QdiscAttributes.payloads message {})) ∧
        ∀ last, outcome = some last → QdiscAttributes.Within message {} → last.Within message :=
    attributeLoop_simulates_invariant (fun view found hin => qdiscAttribute_eq hin) h (Nat.lt_succ_self remaining)
  exact ⟨outcome, heq, hvalue, fun last hlast => hwithin last hlast fun _ hnone => nomatch hnone⟩

variable {read : Bytes → Option Bytes} {first second : Option Bytes} {payloads : List Bytes}

theorem selects_nil : Selects read first [] second ↔ second = first := by
  simp [Selects]

theorem selects_cons : Selects read first (payload :: payloads) second ↔
    first = none ∧ ∃ value, read payload = some value ∧ Selects read (some value) payloads second := by
  simp only [Selects, List.cons.injEq, reduceCtorEq, false_and, false_or, or_false]
  constructor
  · rintro ⟨hnone, _, value, ⟨rfl, hrest⟩, hread, hsecond⟩
    exact ⟨hnone, value, hread, hrest, hsecond⟩
  · rintro ⟨hnone, value, hread, hrest, hsecond⟩
    exact ⟨hnone, payload, value, ⟨rfl, hrest⟩, hread, hsecond⟩

/-- The payloads of a type, in their order. -/
def payloadsOf (type : Nat) (items : List Attribute) : List Bytes := (ofType type items).map Attribute.payload

theorem payloadsOf_cons_self (item : Attribute) (items : List Attribute) :
    payloadsOf (nlaType item.type) (item :: items) = item.payload :: payloadsOf (nlaType item.type) items := by
  rw [payloadsOf, ofType_cons_self, List.map_cons, payloadsOf]

theorem payloadsOf_cons_of_ne {item : Attribute} {type : Nat} (h : nlaType item.type ≠ type) (items : List Attribute) :
    payloadsOf type (item :: items) = payloadsOf type items := by
  rw [payloadsOf, ofType_cons_of_ne h, payloadsOf]

/-- The kind and the options are each the only ones. -/
theorem foldlM_qdiscItem_iff : items.foldlM qdiscItem before = some after ↔
    Selects stringValue before.kind (payloadsOf tcaKind items) after.kind ∧
      Selects some before.options (payloadsOf tcaOptions items) after.options := by
  induction items generalizing before with
  | nil =>
      obtain ⟨kind, options⟩ := before
      obtain ⟨lastKind, lastOptions⟩ := after
      simp only [List.foldlM_nil, payloadsOf, ofType, List.filter_nil, List.map_nil, selects_nil, Option.pure_def,
        Option.some.injEq, QdiscPayloads.mk.injEq, eq_comm]
  | cons item items ih =>
      rw [List.foldlM_cons, qdiscItem]
      by_cases hkind : nlaType item.type = tcaKind
      · have hother : nlaType item.type ≠ tcaOptions := by rw [hkind]; decide
        rw [if_pos hkind, payloadsOf_cons_of_ne hother, ← hkind, payloadsOf_cons_self, selects_cons, hkind]
        cases before.kind with
        | some kind => simp
        | none =>
            cases hread : stringValue item.payload with
            | none => simp
            | some kind =>
                simp only [Option.isSome_none, Bool.false_eq_true, if_false, Option.map_some, Option.bind_eq_bind,
                  Option.bind_some, ih, true_and, Option.some.injEq, exists_eq_left']
      · rw [if_neg hkind, payloadsOf_cons_of_ne hkind]
        by_cases hoptions : nlaType item.type = tcaOptions
        · rw [if_pos hoptions, ← hoptions, payloadsOf_cons_self, selects_cons, hoptions]
          cases before.options with
          | some options => simp
          | none =>
              simp only [Option.isSome_none, Bool.false_eq_true, if_false, Option.bind_eq_bind,
                Option.bind_some, ih, true_and, Option.some.injEq, exists_eq_left']
        · rw [if_neg hoptions, payloadsOf_cons_of_ne hoptions]
          exact ih

end Attributes

/-! ### The body of a qdisc -/

/-- The attributes of a qdisc: one kind, options or none, and anything else. -/
structure QdiscItems (items : List Attribute) (kind : Bytes) (options : Option Bytes) : Prop where
  kinds : payloadsOf tcaKind items = [kind ++ [0]]
  terminated : 0 ∉ kind
  nested : payloadsOf tcaOptions items = options.toList

/-- The root qdisc of a kind, with its options. -/
inductive RootKind (handle : UInt32) : Bytes → Option Bytes → RootQdisc → Prop
  | noqueue (unset : handle = 0) : RootKind handle (ascii "noqueue") none { handle, kind := .noqueue }
  | netem {payload : Bytes} {root : RootQdisc} (described : NetemPayload payload { handle, kind := .netem } root) :
      RootKind handle (ascii "netem") (some payload) root
  | other {kind : Bytes} {options : Option Bytes} (noqueue : kind ≠ ascii "noqueue") (netem : kind ≠ ascii "netem") :
      RootKind handle kind options { handle, kind := .other, hasUnsupportedOptions := true }

/-- The fixed part of a qdisc's message; the index of the link is a positive `int`. -/
structure TcHeader (body : Bytes) (index handle parent : Nat) : Prop where
  length : 20 ≤ body.length
  family : leValue (slice body 0 1) = 0
  positive : 0 < index
  fits : index < 2 ^ 31
  index : leValue (slice body 4 4) = index
  handle : leValue (slice body 8 4) = handle
  parent : leValue (slice body 12 4) = parent

/-- What the body of a qdisc means to a decoder: the root qdisc of its link, or another qdisc. -/
inductive QdiscBody (index : UInt32) (body : Bytes) : QdiscMessage → Prop
  | root {handle : UInt32} {items : List Attribute} {kind : Bytes} {options : Option Bytes} {root : RootQdisc}
      (header : TcHeader body index.toNat handle.toNat tcHRoot) (encodes : Encodes items (body.drop 20))
      (carried : QdiscItems items kind options) (described : RootKind handle kind options root) :
      QdiscBody index body ⟨.present, .root, some root⟩
  | ignored {other handle parent : Nat} (header : TcHeader body other handle parent)
      (elsewhere : other ≠ index.toNat ∨ parent ≠ tcHRoot) : QdiscBody index body ⟨.present, .ignored, none⟩

section Bodies

variable {message front body kind : Bytes} {options : Option Bytes} {found : QdiscAttributes} {handle index : UInt32}
  {outcome : QdiscMessage} {decoder : QdiscMessageDecoder} {header : Header} {items : List Attribute}

theorem qdiscItems_iff : items.foldlM qdiscItem {} = some ⟨some kind, options⟩ ↔ QdiscItems items kind options := by
  rw [foldlM_qdiscItem_iff]
  constructor
  · rintro ⟨hkind, hoptions⟩
    obtain ⟨-, hnone⟩ | ⟨-, payload, value, hpayloads, hread, hvalue⟩ := hkind
    · exact nomatch hnone
    · cases hvalue
      obtain ⟨rfl, hterminated⟩ := stringValue_eq_some_iff.mp hread
      refine ⟨hpayloads, hterminated, ?_⟩
      obtain ⟨hempty, hnone⟩ | ⟨-, nested, value, hnested, hsame, hvalue⟩ := hoptions
      · rw [hempty, show options = none from hnone]
        rfl
      · cases hsame
        rw [hnested, show options = some nested from hvalue]
        rfl
  · intro h
    refine ⟨.inr ⟨rfl, _, kind, h.kinds, stringValue_eq_some_iff.mpr ⟨rfl, h.terminated⟩, rfl⟩, ?_⟩
    have hnested := h.nested
    cases options with
    | none => exact .inl ⟨hnested, rfl⟩
    | some nested => exact .inr ⟨rfl, nested, nested, hnested, rfl, rfl⟩

theorem rootKind_iff {root : RootQdisc} : RootKind handle kind options root ↔
    (kind = ascii "noqueue" ∧ options = none ∧ handle = 0 ∧ root = { handle, kind := .noqueue }) ∨
    (kind = ascii "netem" ∧ ∃ payload, options = some payload ∧ NetemPayload payload { handle, kind := .netem } root) ∨
    (kind ≠ ascii "noqueue" ∧ kind ≠ ascii "netem" ∧ root = { handle, kind := .other, hasUnsupportedOptions := true }) := by
  constructor
  · intro h
    cases h with
    | noqueue unset => exact .inl ⟨rfl, rfl, unset, rfl⟩
    | netem described => exact .inr (.inl ⟨rfl, _, rfl, described⟩)
    | other noqueue netem => exact .inr (.inr ⟨noqueue, netem, rfl⟩)
  · rintro (⟨rfl, rfl, hunset, rfl⟩ | ⟨rfl, payload, rfl, hdescribed⟩ | ⟨hnoqueue, hnetem, rfl⟩)
    · exact .noqueue hunset
    · exact .netem hdescribed
    · exact .other hnoqueue hnetem

theorem rootMessage_total (hwithin : found.Within message) :
    ∃ outcome, QdiscMessageDecoder.rootMessage message handle found = .ok outcome ∧
      (outcome = QdiscMessageDecoder.malformed ∨ outcome.status = .present) := by
  unfold QdiscMessageDecoder.rootMessage
  split
  · exact ⟨_, rfl, .inl rfl⟩
  · split
    · split
      · exact ⟨_, rfl, .inl rfl⟩
      · exact ⟨_, rfl, .inr rfl⟩
    · split
      · split
        · exact ⟨_, rfl, .inl rfl⟩
        · rename_i offset length hoptions
          obtain ⟨result, hresult⟩ := @netemOptions_total message offset length { handle, kind := .netem } (hwithin _ hoptions)
          rw [hresult]
          cases result with
          | none => exact ⟨_, rfl, .inl rfl⟩
          | some root => exact ⟨_, rfl, .inr rfl⟩
      · exact ⟨_, rfl, .inr rfl⟩

theorem rootMessage_iff (hwithin : found.Within message) (hpresent : outcome.status = .present) :
    QdiscMessageDecoder.rootMessage message handle found = .ok outcome ↔
      ∃ kind root, found.kind = some kind ∧ RootKind handle kind (found.payloads message).options root ∧
        outcome = ⟨.present, .root, some root⟩ := by
  have hmalformed : ¬ (.ok QdiscMessageDecoder.malformed : Reading QdiscMessage) = .ok outcome := by
    intro heq
    cases heq
    exact nomatch hpresent
  unfold QdiscMessageDecoder.rootMessage
  cases hkind : found.kind with
  | none =>
      constructor
      · exact fun heq => absurd heq hmalformed
      · rintro ⟨kind, root, hnone, -⟩
        exact nomatch hnone
  | some kind =>
      dsimp only
      have hpayloads : (found.payloads message).options = found.options.map fun view => slice message view.1 view.2 := rfl
      constructor
      · intro heq
        split at heq
        · rename_i hnoqueue
          split at heq
          · exact absurd heq hmalformed
          · rename_i hfree
            rw [not_or, Bool.not_eq_true, Option.isSome_eq_false_iff, Option.isNone_iff_eq_none, not_not] at hfree
            cases heq
            refine ⟨kind, _, rfl, rootKind_iff.mpr (.inl ⟨hnoqueue, ?_, hfree.2, rfl⟩), rfl⟩
            rw [hpayloads, hfree.1, Option.map_none]
        · rename_i hnoqueue
          split at heq
          · rename_i hnetem
            split at heq
            · exact absurd heq hmalformed
            · rename_i offset length hoptions
              obtain ⟨result, hresult⟩ := @netemOptions_total message offset length { handle, kind := .netem } (hwithin _ hoptions)
              rw [hresult] at heq
              cases result with
              | none => exact absurd heq hmalformed
              | some root =>
                  cases heq
                  refine ⟨kind, root, rfl, rootKind_iff.mpr (.inr (.inl ⟨hnetem, slice message offset length, ?_, ?_⟩)), rfl⟩
                  · rw [hpayloads, hoptions, Option.map_some]
                  · exact (netemOptions_iff (hwithin _ hoptions) rfl).mp hresult
          · rename_i hnetem
            cases heq
            exact ⟨kind, _, rfl, rootKind_iff.mpr (.inr (.inr ⟨hnoqueue, hnetem, rfl⟩)), rfl⟩
      · rintro ⟨named, root, hnamed, hroot, rfl⟩
        cases hnamed
        rw [hpayloads] at hroot
        rcases rootKind_iff.mp hroot with ⟨hnoqueue, hnone, hunset, rfl⟩ | ⟨hnetem, payload, hsome, hdescribed⟩ | ⟨hnoqueue, hnetem, rfl⟩
        · rw [if_pos hnoqueue, if_neg]
          · rfl
          · rw [Option.map_eq_none_iff.mp hnone]
            simp [hunset]
        · obtain ⟨⟨offset, length⟩, hoptions, hpayload⟩ := Option.map_eq_some_iff.mp hsome
          rw [if_neg (by rw [hnetem]; decide), if_pos hnetem, hoptions]
          dsimp only
          rw [(netemOptions_iff (hwithin _ hoptions) hpayload).mpr hdescribed]
          rfl
        · rw [if_neg hnoqueue, if_neg hnetem]
          rfl

/-- The loop over the attributes, by the body. -/
theorem bodyLoop (hfront : front.length = 16) (hbody : 20 ≤ body.length) :
    ∃ found : Option QdiscAttributes,
      attributeLoop (qdiscAttribute (front ++ body)) (front ++ body) (body.length - 20 + 1) 36 (body.length - 20) {} = .ok found ∧
      found.map (QdiscAttributes.payloads (front ++ body)) =
        ((attributes (body.drop 20)).bind fun items => items.foldlM qdiscItem {}) ∧
      ∀ last, found = some last → last.Within (front ++ body) := by
  have hregion : slice (front ++ body) 36 (body.length - 20) = body.drop 20 := by
    have hskip : slice (front ++ body) (16 + 20) (body.length - 20) = slice body 20 (body.length - 20) := slice_skip hfront 20 _
    rw [hskip, slice, ← List.length_drop, List.take_length]
  rw [← hregion]
  exact qdiscAttributes_loop (by rw [List.length_append]; omega)

/-- The decoder of a qdisc, by the body. -/
theorem consumeQdisc_eq (hfront : front.length = 16) (hheader : header.length = 16 + body.length) (hbody : 20 ≤ body.length) :
    decoder.consumeQdisc (front ++ body) header =
      if leValue (slice body 0 1) ≠ 0 ∨ leValue (slice body 4 4) = 0 ∨ 2 ^ 31 ≤ leValue (slice body 4 4) then
        .ok QdiscMessageDecoder.malformed
      else if leValue (slice body 4 4) ≠ decoder.expectedIndex.toNat ∨ leValue (slice body 12 4) ≠ tcHRoot then
        .ok ⟨.present, .ignored, none⟩
      else
        attributeLoop (qdiscAttribute (front ++ body)) (front ++ body) (body.length - 20 + 1) 36 (body.length - 20) {} >>= fun
          | none => .ok QdiscMessageDecoder.malformed
          | some found =>
              QdiscMessageDecoder.rootMessage (front ++ body) (UInt32.ofNat (leValue (slice body 8 4))) found := by
  have hfield : ∀ offset size, offset + size ≤ 20 →
      slice (slice (front ++ body) 16 20) offset size = slice body offset size := by
    intro offset size hin
    rw [slice_slice (front ++ body) hin]
    exact slice_skip hfront offset size
  have hremaining : header.length - 36 = body.length - 20 := by omega
  unfold QdiscMessageDecoder.consumeQdisc
  rw [copyObject_eq, if_pos (by rw [List.length_append]; omega)]
  simp only [Bind.bind, Except.bind, hfield _ _ (show 0 + 1 ≤ 20 by omega), hfield _ _ (show 4 + 4 ≤ 20 by omega),
    hfield _ _ (show 8 + 4 ≤ 20 by omega), hfield _ _ (show 12 + 4 ≤ 20 by omega), hremaining]
  rfl

theorem consumeQdisc_total (hfront : front.length = 16) (hheader : header.length = 16 + body.length) (hbody : 20 ≤ body.length) :
    ∃ outcome, decoder.consumeQdisc (front ++ body) header = .ok outcome ∧
      (outcome = QdiscMessageDecoder.malformed ∨ outcome.status = .present) := by
  rw [consumeQdisc_eq hfront hheader hbody]
  split
  · exact ⟨_, rfl, .inl rfl⟩
  · split
    · exact ⟨_, rfl, .inr rfl⟩
    · obtain ⟨found, hfound, -, hwithin⟩ := bodyLoop hfront hbody
      rw [hfound]
      cases found with
      | none => exact ⟨_, rfl, .inl rfl⟩
      | some found => exact rootMessage_total (hwithin found rfl)

/-- The body of a qdisc means what the decoder says. -/
theorem consumeQdisc_iff (hfront : front.length = 16) (hheader : header.length = 16 + body.length) (hbody : 20 ≤ body.length)
    (hpresent : outcome.status = .present) :
    decoder.consumeQdisc (front ++ body) header = .ok outcome ↔ QdiscBody decoder.expectedIndex body outcome := by
  have hmalformed : ¬ (.ok QdiscMessageDecoder.malformed : Reading QdiscMessage) = .ok outcome := by
    intro heq
    cases heq
    exact nomatch hpresent
  have hvalid : ∀ {other handle parent : Nat}, TcHeader body other handle parent →
      ¬ (leValue (slice body 0 1) ≠ 0 ∨ leValue (slice body 4 4) = 0 ∨ 2 ^ 31 ≤ leValue (slice body 4 4)) := by
    intro other handle parent hfixed
    have hpositive := hfixed.positive
    have hfits := hfixed.fits
    rw [hfixed.family, hfixed.index]
    omega
  have hhandle : (UInt32.ofNat (leValue (slice body 8 4))).toNat = leValue (slice body 8 4) :=
    UInt32.toNat_ofNat_of_lt (leValue_slice_lt body 8 4)
  obtain ⟨found, hfound, hpayloads, hwithin⟩ := bodyLoop hfront hbody
  rw [consumeQdisc_eq hfront hheader hbody]
  constructor
  · intro heq
    split at heq
    · exact absurd heq hmalformed
    · rename_i hfixed
      simp only [not_or, not_not, not_le] at hfixed
      obtain ⟨hfamily, hpositive, hfits⟩ := hfixed
      split at heq
      · rename_i helsewhere
        cases heq
        exact .ignored ⟨hbody, hfamily, Nat.pos_of_ne_zero hpositive, hfits, rfl, rfl, rfl⟩ helsewhere
      · rename_i hhere
        rw [not_or, not_not, not_not] at hhere
        rw [hfound] at heq
        cases found with
        | none => exact absurd heq hmalformed
        | some found =>
            obtain ⟨kind, root, hkind, hroot, rfl⟩ := (rootMessage_iff (hwithin found rfl) hpresent).mp heq
            obtain ⟨items, hitems, hfold⟩ := Option.bind_eq_some_iff.mp hpayloads.symm
            have hread : found.payloads (front ++ body) = ⟨some kind, (found.payloads (front ++ body)).options⟩ := by
              rw [← hkind]
              rfl
            rw [hread] at hfold
            refine .root ⟨hbody, hfamily, ?_, ?_, hhere.1, hhandle.symm, hhere.2⟩ (attributes_eq_some_iff.mp hitems)
              (qdiscItems_iff.mp hfold) hroot
            · rw [← hhere.1]
              exact Nat.pos_of_ne_zero hpositive
            · rw [← hhere.1]
              exact hfits
  · intro hmeans
    cases hmeans with
    | @ignored other handle parent hfixed helsewhere =>
        rw [if_neg (hvalid hfixed), if_pos (by rw [hfixed.index, hfixed.parent]; exact helsewhere)]
    | @root handle items kind options root hfixed hencodes hcarried hdescribed =>
        rw [attributes_eq_some_iff.mpr hencodes, Option.bind_some, qdiscItems_iff.mpr hcarried] at hpayloads
        obtain ⟨last, rfl, hlast⟩ := Option.map_eq_some_iff.mp hpayloads
        have hsame : UInt32.ofNat (leValue (slice body 8 4)) = handle := by
          rw [hfixed.handle, UInt32.ofNat_toNat]
        have hkind : last.kind = some kind := congrArg QdiscPayloads.kind hlast
        have hoptions : (last.payloads (front ++ body)).options = options := congrArg QdiscPayloads.options hlast
        rw [if_neg (hvalid hfixed), if_neg (by rw [hfixed.index, hfixed.parent]; simp), hfound, hsame]
        exact (rootMessage_iff (hwithin last rfl) rfl).mpr ⟨kind, root, hkind, hoptions ▸ hdescribed, rfl⟩

end Bodies

/-! ### Messages -/

/-- A message for the decoder that is not interrupted. -/
def QdiscFrame (decoder : QdiscMessageDecoder) (type : Nat) (body message : Bytes) : Prop :=
  ∃ flags < 2 ^ 16, flags &&& 0x10 = 0 ∧ Framed type flags decoder.sequence.toNat decoder.portId.toNat body message

/-- What bytes mean to a decoder that takes them: a qdisc, or the end of the dump without an error. -/
inductive QdiscMeaning (decoder : QdiscMessageDecoder) (bytes : Bytes) : QdiscMessage → Prop
  | qdisc {body : Bytes} {outcome : QdiscMessage} (framed : QdiscFrame decoder rtmNewQdisc body bytes)
      (means : QdiscBody decoder.expectedIndex body outcome) : QdiscMeaning decoder bytes outcome
  | done {body : Bytes} (framed : QdiscFrame decoder nlmsgDone body bytes)
      (clean : body = [] ∨ body.length = 4 ∧ leValue body = 0) :
      QdiscMeaning decoder bytes ⟨.present, .dumpComplete, none⟩

namespace QdiscMessageDecoder

/-- The checks of a header. -/
abbrev refuses (decoder : QdiscMessageDecoder) (bytes : Bytes) (header : Header) : Prop :=
  header.length < 16 ∨ bytes.length < header.length ∨ nlmsgAlign header.length ≠ bytes.length
    ∨ header.sequence ≠ decoder.sequence.toNat ∨ header.portId ≠ decoder.portId.toNat ∨ isInterrupted header = true

section Messages

variable {decoder : QdiscMessageDecoder} {bytes body message : Bytes} {header : Header} {outcome : QdiscMessage} {type : Nat}

theorem consume_eq (hlength : 16 ≤ bytes.length) (hread : readHeader (slice bytes 0 16) = header) :
    decoder.consume bytes =
      if decoder.refuses bytes header then .ok malformed
      else if header.type = nlmsgDone then consumeDone (slice bytes 0 header.length) header
      else if header.type = nlmsgError then consumeError (slice bytes 0 header.length) header
      else if header.type ≠ rtmNewQdisc ∨ header.length < 36 then .ok malformed
      else decoder.consumeQdisc (slice bytes 0 header.length) header := by
  unfold consume
  rw [if_neg (by omega), copyObject_eq, if_pos (by omega)]
  simp only [Bind.bind, Except.bind, hread]
  by_cases hrefused : decoder.refuses bytes header
  · rw [if_pos hrefused, if_pos hrefused]
    rfl
  · have hin : 0 + header.length ≤ bytes.length := by
      unfold refuses at hrefused
      omega
    rw [if_neg hrefused, if_neg hrefused, memcpy_eq hin]
    rfl

/-- Bytes whose header passes are a message. -/
theorem qdiscFrame_of_header (hlength : 16 ≤ bytes.length) (hread : readHeader (slice bytes 0 16) = header)
    (haccepted : ¬ decoder.refuses bytes header) :
    QdiscFrame decoder header.type (slice bytes 16 (header.length - 16)) bytes ∧
      (slice bytes 16 (header.length - 16)).length + 16 = header.length ∧
      slice bytes 0 header.length = slice bytes 0 16 ++ slice bytes 16 (header.length - 16) := by
  simp only [refuses, not_or, not_lt, not_not] at haccepted
  obtain ⟨hlong, hin, haligned, hsequence, hportId, hwhole⟩ := haccepted
  have hframed := framed_of_header hread hlong haligned (by omega)
  rw [hsequence, hportId] at hframed
  rw [isInterrupted, decide_eq_true_eq, not_not] at hwhole
  have hbody : (slice bytes 16 (header.length - 16)).length = header.length - 16 := length_slice (by omega)
  have hsplit := slice_append_slice bytes 0 16 (header.length - 16)
  rw [Nat.zero_add, Nat.add_sub_cancel' hlong] at hsplit
  exact ⟨⟨header.flags, hread ▸ (readHeader_fits _).flags, hwhole, hframed⟩, by omega, hsplit.symm⟩

/-- The header of a message passes. -/
theorem header_of_qdiscFrame (h : QdiscFrame decoder type body bytes) (htype : type < 2 ^ 16) :
    ∃ header front, readHeader (slice bytes 0 16) = header ∧ ¬ decoder.refuses bytes header ∧ header.type = type ∧
      header.length = 16 + body.length ∧ front.length = 16 ∧ slice bytes 0 header.length = front ++ body ∧
      16 ≤ bytes.length := by
  obtain ⟨flags, hfits, hwhole, hframed⟩ := h
  obtain ⟨haligned, hle⟩ := hframed.aligned
  have hread := hframed.readHeader htype hfits decoder.sequence.toNat_lt decoder.portId.toNat_lt []
  have hunpadded := hframed.unpadded []
  rw [List.append_nil] at hread hunpadded
  refine ⟨_, _, hread, ?_, rfl, rfl, length_bytes _, hunpadded, by omega⟩
  simp only [refuses, not_or, not_lt, not_not]
  exact ⟨by omega, hle, haligned, trivial, trivial, by simp [isInterrupted, hwhole]⟩

theorem consumeDone_total (hin : header.length ≤ message.length) : ∃ outcome, consumeDone message header = .ok outcome := by
  unfold consumeDone
  split
  · exact ⟨_, rfl⟩
  · split
    · rename_i hfour
      rw [copyObject_eq, if_pos (by omega)]
      dsimp only [Bind.bind, Except.bind]
      split <;> exact ⟨_, rfl⟩
    · exact ⟨_, rfl⟩

/-- An error is never a message of the dump. -/
theorem consumeError_total (message : Bytes) (header : Header) :
    ∃ outcome, consumeError message header = .ok outcome ∧ outcome.status ≠ .present := by
  unfold consumeError
  split
  · exact ⟨malformed, rfl, by decide⟩
  · rw [copyObject_eq]
    dsimp only [Bind.bind, Except.bind]
    split
    · exact ⟨malformed, rfl, by decide⟩
    · split
      · exact ⟨malformed, rfl, by decide⟩
      · refine ⟨_, rfl, ?_⟩
        dsimp only
        split <;> decide

theorem consumeDone_iff {front : Bytes} (hfront : front.length = 16) (hheader : header.length = 16 + body.length)
    (hpresent : outcome.status = .present) :
    consumeDone (front ++ body) header = .ok outcome ↔
      (body = [] ∨ body.length = 4 ∧ leValue body = 0) ∧ outcome = ⟨.present, .dumpComplete, none⟩ := by
  have hnot : ∀ {other : QdiscMessage}, other.status ≠ .present → ¬ (.ok other : Reading QdiscMessage) = .ok outcome := by
    intro other hother heq
    cases heq
    exact hother hpresent
  have hclean : (.ok ⟨.present, .dumpComplete, none⟩ : Reading QdiscMessage) = .ok outcome ↔
      outcome = ⟨.present, .dumpComplete, none⟩ := by
    rw [Except.ok.injEq, eq_comm]
  unfold consumeDone
  by_cases hempty : body = []
  · have hlength : header.length = 16 := by rw [hheader, hempty, List.length_nil]
    rw [if_neg (by omega), if_neg (by omega)]
    exact hclean.trans ⟨fun heq => ⟨.inl hempty, heq⟩, And.right⟩
  by_cases hfour : body.length = 4
  · have hread : slice (front ++ body) (16 + 0) 4 = body := (slice_skip hfront 0 4).trans (slice_all hfour)
    rw [if_neg (by omega), if_pos (by omega), copyObject_eq, if_pos (by rw [List.length_append]; omega), hread]
    dsimp only [Bind.bind, Except.bind]
    by_cases hzero : leValue body = 0
    · rw [if_neg (not_not.mpr hzero)]
      exact hclean.trans ⟨fun heq => ⟨.inr ⟨hfour, hzero⟩, heq⟩, And.right⟩
    · rw [if_pos hzero]
      refine ⟨fun heq => absurd heq (hnot (by simp)), ?_⟩
      rintro ⟨hnil | ⟨-, hvalue⟩, -⟩
      · exact absurd hnil hempty
      · exact absurd hvalue hzero
  · have hpositive := List.length_pos_iff.mpr hempty
    rw [if_pos (by omega)]
    refine ⟨fun heq => absurd heq (hnot (by simp [malformed])), ?_⟩
    rintro ⟨hnil | ⟨hvalue, -⟩, -⟩
    · exact absurd hnil hempty
    · exact absurd hvalue hfour

/-- The decoder comes to an end, and stays within its bytes. -/
theorem consume_total (decoder : QdiscMessageDecoder) (bytes : Bytes) : ∃ outcome, decoder.consume bytes = .ok outcome := by
  by_cases hlength : 16 ≤ bytes.length
  · generalize hread : readHeader (slice bytes 0 16) = header
    rw [consume_eq hlength hread]
    by_cases hrefused : decoder.refuses bytes header
    · exact ⟨_, if_pos hrefused⟩
    rw [if_neg hrefused]
    obtain ⟨-, hbody, hsplit⟩ := qdiscFrame_of_header hlength hread hrefused
    have hfront : (slice bytes 0 16).length = 16 := length_slice (by omega)
    rw [hsplit]
    split
    · exact consumeDone_total (by rw [List.length_append]; omega)
    · split
      · obtain ⟨outcome, houtcome, -⟩ := consumeError_total (slice bytes 0 16 ++ slice bytes 16 (header.length - 16)) header
        exact ⟨outcome, houtcome⟩
      · split
        · exact ⟨_, rfl⟩
        · obtain ⟨outcome, houtcome, -⟩ := @consumeQdisc_total (slice bytes 0 16) (slice bytes 16 (header.length - 16))
            decoder header hfront (by omega) (by omega)
          exact ⟨outcome, houtcome⟩
  · exact ⟨malformed, if_pos (by omega)⟩

/-- The decoder takes what is a message of the dump, and nothing else. -/
theorem consume_iff (hpresent : outcome.status = .present) :
    decoder.consume bytes = .ok outcome ↔ QdiscMeaning decoder bytes outcome := by
  have hnot : ∀ {other : QdiscMessage}, other.status ≠ .present → ¬ (.ok other : Reading QdiscMessage) = .ok outcome := by
    intro other hother heq
    cases heq
    exact hother hpresent
  constructor
  · intro heq
    by_cases hlength : 16 ≤ bytes.length
    · generalize hread : readHeader (slice bytes 0 16) = header at heq
      rw [consume_eq hlength hread] at heq
      by_cases hrefused : decoder.refuses bytes header
      · rw [if_pos hrefused] at heq
        exact absurd heq (hnot (by simp [malformed]))
      obtain ⟨hframe, hbody, hsplit⟩ := qdiscFrame_of_header hlength hread hrefused
      have hfront : (slice bytes 0 16).length = 16 := length_slice (by omega)
      rw [if_neg hrefused, hsplit] at heq
      split at heq
      · rename_i hdone
        obtain ⟨hclean, rfl⟩ := (consumeDone_iff hfront (by omega) hpresent).mp heq
        exact .done (hdone ▸ hframe) hclean
      · split at heq
        · obtain ⟨other, hother, hstatus⟩ := consumeError_total (slice bytes 0 16 ++ slice bytes 16 (header.length - 16)) header
          rw [hother] at heq
          exact absurd heq (hnot hstatus)
        · split at heq
          · exact absurd heq (hnot (by simp [malformed]))
          · rename_i hqdisc
            rw [not_or, not_not] at hqdisc
            exact .qdisc (hqdisc.1 ▸ hframe) ((consumeQdisc_iff hfront (by omega) (by omega) hpresent).mp heq)
    · rw [consume, if_pos (by omega)] at heq
      exact absurd heq (hnot (by simp [malformed]))
  · intro hmeans
    cases hmeans with
    | @qdisc body outcome hframe hbody =>
        obtain ⟨header, front, hread, haccepted, htype, hheader, hfront, hsplit, hlength⟩ :=
          header_of_qdiscFrame hframe (by decide)
        have hlong : 20 ≤ body.length := by
          cases hbody with
          | root hfixed => exact hfixed.length
          | ignored hfixed => exact hfixed.length
        rw [consume_eq hlength hread, if_neg haccepted, hsplit, htype, if_neg (by decide), if_neg (by decide),
          if_neg (by rw [not_or, not_not, not_lt]; exact ⟨rfl, by omega⟩)]
        exact (consumeQdisc_iff hfront hheader hlong hpresent).mpr hbody
    | @done body hframe hclean =>
        obtain ⟨header, front, hread, haccepted, htype, hheader, hfront, hsplit, hlength⟩ :=
          header_of_qdiscFrame hframe (by decide)
        rw [consume_eq hlength hread, if_neg haccepted, hsplit, htype, if_pos rfl]
        exact (consumeDone_iff hfront hheader rfl).mpr ⟨hclean, rfl⟩

end Messages

end QdiscMessageDecoder

end NetLagLab.NetworkEnvironment
