import NetLagLab.AttributeSelection

/-! The query of a root qdisc: a qdisc that is reported without the flag does no more than its delay, jitter and loss,
the order of the attributes does not matter, and a root is reported present if and only if the dump has exactly one. -/

namespace NetLagLab.NetworkEnvironment

open ByteLines CallPrograms CallPrograms.Program FixedWidth Netlink

/-! ### The order of the attributes -/

/-- Payloads of options with the same options in another order. -/
def ReordersPayload (payload other : Bytes) : Prop :=
  ∃ fixed region reordered inner others, payload = fixed ++ region ∧ other = fixed ++ reordered ∧ fixed.length = 24 ∧
    Encodes inner region ∧ Encodes others reordered ∧ inner.Perm others

/-- The same attribute, but for the order of its options. -/
def SameButOrder (item other : Attribute) : Prop :=
  item.type = other.type ∧
    (item.payload = other.payload ∨ nlaType item.type = tcaOptions ∧ ReordersPayload item.payload other.payload)

/-- The same attributes in another order, and their options in another order. -/
def Reordered (items others : List Attribute) : Prop :=
  ∃ middle, items.Perm middle ∧ List.Forall₂ SameButOrder middle others

section Order

variable {payload other fixed region reordered body kind : Bytes} {items others middle : List Attribute} {type : Nat}
  {options : Option Bytes} {handle index : UInt32} {root : RootQdisc} {outcome : QdiscMessage}

theorem ReordersPayload.symm (h : ReordersPayload payload other) : ReordersPayload other payload := by
  obtain ⟨fixed, region, reordered, inner, others, hpayload, hother, hfixed, hregion, hreordered, hperm⟩ := h
  exact ⟨fixed, reordered, region, others, inner, hother, hpayload, hfixed, hreordered, hregion, hperm.symm⟩

theorem SameButOrder.symm {item other : Attribute} (h : SameButOrder item other) : SameButOrder other item := by
  obtain ⟨htype, hsame | ⟨hoptions, hreorders⟩⟩ := h
  · exact ⟨htype.symm, .inl hsame.symm⟩
  · exact ⟨htype.symm, .inr ⟨htype ▸ hoptions, hreorders.symm⟩⟩

/-- The kinds are the same, and the options are the same but for their order. -/
theorem payloadsOf_sameButOrder (h : List.Forall₂ SameButOrder middle others) :
    payloadsOf tcaKind middle = payloadsOf tcaKind others ∧
      List.Forall₂ (fun payload other => payload = other ∨ ReordersPayload payload other) (payloadsOf tcaOptions middle)
        (payloadsOf tcaOptions others) := by
  have htypes : ∀ item other, SameButOrder item other → nlaType item.type = nlaType other.type :=
    fun item other hsame => congrArg nlaType hsame.1
  constructor
  · rw [← List.forall₂_eq_eq_eq]
    apply (forall₂_payloadsOf htypes h).imp
    rintro _ _ ⟨first, second, hkind, ⟨-, hsame | ⟨hnested, -⟩⟩, rfl, rfl⟩
    · exact hsame
    · rw [hkind] at hnested
      exact absurd hnested (by decide)
  · apply (forall₂_payloadsOf htypes h).imp
    rintro _ _ ⟨first, second, -, ⟨-, hsame⟩, rfl, rfl⟩
    exact hsame.imp id And.right

theorem rootKind_reordered (h : RootKind handle kind (some payload) root) (hreorders : ReordersPayload payload other) :
    RootKind handle kind (some other) root := by
  rcases rootKind_iff.mp h with ⟨-, hnone, -⟩ | ⟨rfl, found, hfound, hdescribed⟩ | ⟨hnoqueue, hnetem, rfl⟩
  · exact nomatch hnone
  · cases hfound
    obtain ⟨fixed, region, reordered, inner, others, rfl, rfl, hfixed, hregion, hreordered, hperm⟩ := hreorders
    exact .netem (netemPayload_perm hfixed hregion hreordered hperm hdescribed)
  · exact .other hnoqueue hnetem

/-- A qdisc in another order of its attributes is the same qdisc. -/
theorem qdiscItems_reordered (h : QdiscItems items kind options) (hreordered : Reordered items others)
    (hroot : RootKind handle kind options root) :
    ∃ reordered, QdiscItems others kind reordered ∧ RootKind handle kind reordered root := by
  obtain ⟨middle, hperm, hsame⟩ := hreordered
  obtain ⟨hkinds, hoptions⟩ := payloadsOf_sameButOrder hsame
  rw [← payloadsOf_perm hperm (by rw [h.kinds]; simp)] at hkinds
  rw [← payloadsOf_perm hperm (by rw [h.nested]; cases options <;> simp), h.nested] at hoptions
  cases options with
  | none =>
      have hnil : payloadsOf tcaOptions others = [] := List.forall₂_nil_left_iff.mp hoptions
      exact ⟨none, ⟨hkinds ▸ h.kinds, h.terminated, hnil⟩, hroot⟩
  | some payload =>
      obtain ⟨other, rest, hother, hrest, hlist⟩ := List.forall₂_cons_left_iff.mp hoptions
      obtain rfl := List.forall₂_nil_left_iff.mp hrest
      refine ⟨some other, ⟨hkinds ▸ h.kinds, h.terminated, hlist⟩, ?_⟩
      rcases hother with rfl | hreorders
      · exact hroot
      · exact rootKind_reordered hroot hreorders

theorem Reordered.symm (h : Reordered items others) : Reordered others items := by
  obtain ⟨middle, hperm, hsame⟩ := h
  obtain ⟨between, hbetween, hothers⟩ := List.perm_comp_forall₂ hperm hsame
  have hback : List.Forall₂ (flip SameButOrder) items between := hbetween.imp fun _ _ hboth => hboth.symm
  exact ⟨between, hothers.symm, hback.flip⟩

/-- The order of the attributes of a qdisc does not matter. -/
theorem qdiscBody_reordered (hfixed : fixed.length = 20) (hitems : Encodes items region) (hothers : Encodes others reordered)
    (horder : Reordered items others) (h : QdiscBody index (fixed ++ region) outcome) :
    QdiscBody index (fixed ++ reordered) outcome := by
  have hfield : ∀ tail offset size, offset + size ≤ 20 → slice (fixed ++ tail) offset size = slice fixed offset size :=
    fun tail offset size hin => slice_append_left (by omega)
  have hheader : ∀ {index handle parent : Nat}, TcHeader (fixed ++ region) index handle parent →
      TcHeader (fixed ++ reordered) index handle parent := by
    intro index handle parent hregion
    obtain ⟨-, hfamily, hpositive, hfits, hindex, hhandle, hparent⟩ := hregion
    rw [hfield _ _ _ (by omega)] at hfamily hindex hhandle hparent
    refine ⟨by rw [List.length_append]; omega, ?_, hpositive, hfits, ?_, ?_, ?_⟩
    · rw [hfield _ _ _ (by omega), hfamily]
    · rw [hfield _ _ _ (by omega), hindex]
    · rw [hfield _ _ _ (by omega), hhandle]
    · rw [hfield _ _ _ (by omega), hparent]
  cases h with
  | @root handle found kind options root hregion hencodes hcarried hdescribed =>
      rw [← hfixed, List.drop_left] at hencodes
      obtain rfl := encodes_unique hitems hencodes
      obtain ⟨nested, hnested, hroot⟩ := qdiscItems_reordered hcarried horder hdescribed
      refine .root (hheader hregion) ?_ hnested hroot
      rw [← hfixed, List.drop_left]
      exact hothers
  | @ignored other handle parent hregion helsewhere => exact .ignored (hheader hregion) helsewhere

end Order

section Frames

variable {decoder : QdiscMessageDecoder} {type flags sequence portId : Nat} {body other message fixed region reordered : Bytes}
  {items others : List Attribute} {outcome : QdiscMessage}

/-- A message for the decoder is framed in one way. -/
theorem body_of_qdiscFrame (h : QdiscFrame decoder type other message) (hother : type < 2 ^ 16)
    (hframed : Framed rtmNewQdisc flags sequence portId body message) (hflags : flags < 2 ^ 16)
    (hsequence : sequence < 2 ^ 32) (hportId : portId < 2 ^ 32) :
    type = rtmNewQdisc ∧ other = body ∧ flags &&& 0x10 = 0 ∧ sequence = decoder.sequence.toNat ∧
      portId = decoder.portId.toNat := by
  obtain ⟨found, hfound, hwhole, hmessage⟩ := h
  have hread := hframed.readHeader (by decide) hflags hsequence hportId []
  have hfoundRead := hmessage.readHeader hother hfound decoder.sequence.toNat_lt decoder.portId.toNat_lt []
  have hunpadded := hframed.unpadded []
  have hfoundUnpadded := hmessage.unpadded []
  rw [hread, Header.mk.injEq] at hfoundRead
  obtain ⟨hlength, htype, hflag, hseq, hport⟩ := hfoundRead
  rw [← hlength, hunpadded, ← htype, ← hflag, ← hseq, ← hport, hlength] at hfoundUnpadded
  exact ⟨htype.symm, (List.append_cancel_left hfoundUnpadded).symm, hflag ▸ hwhole, hseq, hport⟩

/-- A qdisc's message is taken or malformed. -/
theorem consume_of_framed (hframed : Framed rtmNewQdisc flags sequence portId body message) (hflags : flags < 2 ^ 16)
    (hsequence : sequence < 2 ^ 32) (hportId : portId < 2 ^ 32) (h : decoder.consume message = .ok outcome) :
    outcome = QdiscMessageDecoder.malformed ∨ outcome.status = .present := by
  have hread := hframed.readHeader (by decide) hflags hsequence hportId []
  have hunpadded := hframed.unpadded []
  obtain ⟨haligned, hle⟩ := hframed.aligned
  rw [List.append_nil] at hread hunpadded
  rw [QdiscMessageDecoder.consume_eq (by omega) hread, hunpadded] at h
  dsimp only at h
  split at h
  · cases h
    exact .inl rfl
  · rw [if_neg (by decide), if_neg (by decide)] at h
    split at h
    · cases h
      exact .inl rfl
    · rename_i hlong
      rw [not_or, not_not, not_lt] at hlong
      obtain ⟨found, hfound, hcases⟩ := @consumeQdisc_total
        (Header.bytes ⟨16 + body.length, rtmNewQdisc, flags, sequence, portId⟩) body decoder
        ⟨16 + body.length, rtmNewQdisc, flags, sequence, portId⟩ (length_bytes _) rfl (by omega)
      rw [hfound] at h
      cases h
      exact hcases

theorem qdiscMeaning_reordered {message other : Bytes} (hfixed : fixed.length = 20) (hitems : Encodes items region)
    (hothers : Encodes others reordered) (horder : Reordered items others)
    (hmessage : Framed rtmNewQdisc flags sequence portId (fixed ++ region) message)
    (hother : Framed rtmNewQdisc flags sequence portId (fixed ++ reordered) other) (hflags : flags < 2 ^ 16)
    (hsequence : sequence < 2 ^ 32) (hportId : portId < 2 ^ 32) (h : QdiscMeaning decoder message outcome) :
    QdiscMeaning decoder other outcome := by
  cases h with
  | @qdisc body outcome hframe hbody =>
      obtain ⟨-, rfl, hwhole, rfl, rfl⟩ := body_of_qdiscFrame hframe (by decide) hmessage hflags hsequence hportId
      exact .qdisc ⟨flags, hflags, hwhole, hother⟩ (qdiscBody_reordered hfixed hitems hothers horder hbody)
  | @done body hframe hclean =>
      obtain ⟨htype, -⟩ := body_of_qdiscFrame hframe (by decide) hmessage hflags hsequence hportId
      exact absurd htype (by decide)

/-- The order of the attributes does not change the result. -/
theorem consume_reordered {message other : Bytes} (hfixed : fixed.length = 20) (hitems : Encodes items region)
    (hothers : Encodes others reordered) (horder : Reordered items others)
    (hmessage : Framed rtmNewQdisc flags sequence portId (fixed ++ region) message)
    (hother : Framed rtmNewQdisc flags sequence portId (fixed ++ reordered) other) (hflags : flags < 2 ^ 16)
    (hsequence : sequence < 2 ^ 32) (hportId : portId < 2 ^ 32) : decoder.consume message = decoder.consume other := by
  obtain ⟨first, hfirst⟩ := decoder.consume_total message
  obtain ⟨second, hsecond⟩ := decoder.consume_total other
  rcases consume_of_framed hmessage hflags hsequence hportId hfirst with rfl | hpresent
  · rcases consume_of_framed hother hflags hsequence hportId hsecond with rfl | hpresent
    · rw [hfirst, hsecond]
    · have hmeans := (QdiscMessageDecoder.consume_iff hpresent).mp hsecond
      have hback := qdiscMeaning_reordered hfixed hothers hitems horder.symm hother hmessage hflags hsequence hportId hmeans
      rw [hsecond, (QdiscMessageDecoder.consume_iff hpresent).mpr hback]
  · have hmeans := (QdiscMessageDecoder.consume_iff hpresent).mp hfirst
    have hforth := qdiscMeaning_reordered hfixed hitems hothers horder hmessage hother hflags hsequence hportId hmeans
    rw [hfirst, (QdiscMessageDecoder.consume_iff hpresent).mpr hforth]

end Frames

/-! ### Whole dumps -/

/-- Well-formed messages of qdiscs, with the root qdiscs of the link among them. -/
inductive QdiscMessages (decoder : QdiscMessageDecoder) : List Bytes → List RootQdisc → Prop
  | nil : QdiscMessages decoder [] []
  | ignored {message : Bytes} {messages : List Bytes} {roots : List RootQdisc}
      (first : QdiscMeaning decoder message ⟨.present, .ignored, none⟩) (rest : QdiscMessages decoder messages roots) :
      QdiscMessages decoder (message :: messages) roots
  | root {message : Bytes} {messages : List Bytes} {root : RootQdisc} {roots : List RootQdisc}
      (first : QdiscMeaning decoder message ⟨.present, .root, some root⟩) (rest : QdiscMessages decoder messages roots) :
      QdiscMessages decoder (message :: messages) (root :: roots)

/-- The datagrams of a dump up to its end, with the root qdiscs in front of it. What stands behind the end in the same
datagram is not looked at. -/
inductive QdiscDump (decoder : QdiscMessageDecoder) : List Bytes → List RootQdisc → Prop
  | last {messages : List Bytes} {roots : List RootQdisc} {done rest : Bytes} (carried : QdiscMessages decoder messages roots)
      (ended : QdiscMeaning decoder done ⟨.present, .dumpComplete, none⟩) :
      QdiscDump decoder [messages.flatten ++ (done ++ rest)] roots
  | more {messages datagrams : List Bytes} {roots others : List RootQdisc} (nonempty : messages ≠ [])
      (carried : QdiscMessages decoder messages roots) (tail : QdiscDump decoder datagrams others) :
      QdiscDump decoder (messages.flatten :: datagrams) (roots ++ others)

section Dumps

variable {decoder : QdiscMessageDecoder} {message rest bytes : Bytes} {outcome : QdiscMessage} {root next : Option RootQdisc}
  {messages datagrams : List Bytes} {roots : List RootQdisc} {query : QdiscQuery} {fuel : Nat}

/-- A message that is taken stands in front of whatever comes behind it. -/
theorem readHeader_of_qdiscMeaning (h : QdiscMeaning decoder message outcome) (rest : Bytes) :
    16 ≤ (readHeader (slice (message ++ rest) 0 16)).length ∧
      nlmsgAlign (readHeader (slice (message ++ rest) 0 16)).length = message.length ∧ 16 ≤ message.length := by
  have hframe : ∀ {type : Nat} {body : Bytes}, type < 2 ^ 16 → QdiscFrame decoder type body message →
      16 ≤ (readHeader (slice (message ++ rest) 0 16)).length ∧
        nlmsgAlign (readHeader (slice (message ++ rest) 0 16)).length = message.length ∧ 16 ≤ message.length := by
    rintro type body htype ⟨flags, hflags, -, hframed⟩
    obtain ⟨haligned, hle⟩ := hframed.aligned
    rw [hframed.readHeader htype hflags decoder.sequence.toNat_lt decoder.portId.toNat_lt rest]
    exact ⟨Nat.le_add_right _ _, haligned, by omega⟩
  cases h with
  | qdisc framed means => exact hframe (by decide) framed
  | done framed clean => exact hframe (by decide) framed

/-- A turn of the loop over a message that is taken. -/
theorem consumeDatagram_of_qdiscMeaning (h : QdiscMeaning decoder message outcome) (hpresent : outcome.status = .present)
    (rest : Bytes) :
    consumeDatagram decoder (fuel + 1) root (message ++ rest) =
      match outcome.kind with
      | .root =>
          if root.isSome = true ∨ outcome.root.isNone = true then .ok (.inr ⟨.malformed, none⟩)
          else consumeDatagram decoder fuel outcome.root rest
      | .dumpComplete => .ok (.inr (if root.isSome = true then ⟨.present, root⟩ else ⟨.absent, none⟩))
      | .ignored => consumeDatagram decoder fuel root rest := by
  obtain ⟨hlong, haligned, hlength⟩ := readHeader_of_qdiscMeaning h rest
  have hconsume := (QdiscMessageDecoder.consume_iff hpresent).mpr h
  have hmessage : slice (message ++ rest) 0 message.length = message := slice_first rfl
  have hwhole : 0 + 16 ≤ (message ++ rest).length := by
    rw [List.length_append]
    omega
  have hin : 0 + message.length ≤ (message ++ rest).length := by
    rw [List.length_append]
    omega
  rw [consumeDatagram, if_neg (by simp [List.ne_nil_of_length_pos (show 0 < message.length by omega)]), if_neg (by omega),
    memcpy_eq hwhole]
  simp only [Bind.bind, Except.bind, haligned]
  rw [if_neg (by omega), memcpy_eq hin, hmessage]
  dsimp only
  rw [hconsume]
  dsimp only
  rw [if_neg (not_not.mpr hpresent), List.drop_left]
  cases outcome.kind <;> rfl

/-- A message that is taken is another qdisc, the root qdisc or the end of the dump. -/
theorem qdiscMeaning_cases (h : QdiscMeaning decoder message outcome) :
    outcome = ⟨.present, .ignored, none⟩ ∨ (∃ found, outcome = ⟨.present, .root, some found⟩) ∨
      outcome = ⟨.present, .dumpComplete, none⟩ := by
  cases h with
  | qdisc framed means =>
      cases means with
      | root => exact .inr (.inl ⟨_, rfl⟩)
      | ignored => exact .inl rfl
  | done => exact .inr (.inr rfl)

theorem present_of_qdiscMeaning (h : QdiscMeaning decoder message outcome) : outcome.status = .present := by
  rcases qdiscMeaning_cases h with rfl | ⟨found, rfl⟩ | rfl <;> rfl

/-- The messages of a datagram are taken one by one. -/
theorem consumeDatagram_of_qdiscMessages (h : QdiscMessages decoder messages roots) (hroots : root.toList ++ roots = next.toList)
    (hfuel : (messages.flatten ++ rest).length < fuel) :
    ∃ left, rest.length < left ∧
      consumeDatagram decoder fuel root (messages.flatten ++ rest) = consumeDatagram decoder left next rest := by
  induction h generalizing root fuel with
  | nil =>
      rw [List.append_nil] at hroots
      have hsame : root = next := by
        cases root <;> cases next <;> simp_all
      exact ⟨fuel, hfuel, by rw [hsame]; rfl⟩
  | @ignored message messages roots first more ih =>
      obtain ⟨fuel, rfl⟩ := Nat.exists_eq_succ_of_ne_zero (show fuel ≠ 0 by omega)
      have hlength := (readHeader_of_qdiscMeaning first []).2.2
      rw [List.flatten_cons, List.append_assoc] at hfuel ⊢
      rw [consumeDatagram_of_qdiscMeaning first rfl]
      exact ih hroots (by rw [List.length_append] at hfuel; omega)
  | @root message messages found roots first more ih =>
      obtain ⟨fuel, rfl⟩ := Nat.exists_eq_succ_of_ne_zero (show fuel ≠ 0 by omega)
      have hlength := (readHeader_of_qdiscMeaning first []).2.2
      have hnone : root = none := by
        cases root with
        | none => rfl
        | some other => cases next <;> simp at hroots
      subst hnone
      rw [List.flatten_cons, List.append_assoc] at hfuel ⊢
      rw [consumeDatagram_of_qdiscMeaning first rfl]
      exact ih hroots (by rw [List.length_append] at hfuel; omega)

/-- What a turn of the loop can come to, on any bytes. -/
theorem consumeDatagram_cases (hnonempty : rest ≠ []) (root : Option RootQdisc) :
    (∃ query, (∀ fuel, consumeDatagram decoder (fuel + 1) root rest = .ok (.inr query)) ∧ query.status ≠ .present) ∨
      ∃ message tail outcome, rest = message ++ tail ∧ QdiscMeaning decoder message outcome := by
  by_cases hshort : rest.length < 16
  · refine .inl ⟨⟨.malformed, none⟩, fun fuel => ?_, by decide⟩
    rw [consumeDatagram, if_neg hnonempty, if_pos hshort]
    rfl
  generalize hread : readHeader (slice rest 0 16) = header
  have hturn : ∀ fuel, consumeDatagram decoder (fuel + 1) root rest =
      if header.length < 16 ∨ rest.length < nlmsgAlign header.length then .ok (.inr ⟨.malformed, none⟩)
      else memcpy rest 0 (nlmsgAlign header.length) >>= fun message => decoder.consume message >>= fun decoded =>
        if decoded.status ≠ .present then .ok (.inr ⟨decoded.status, none⟩)
        else
          match decoded.kind with
          | .root =>
              if root.isSome = true ∨ decoded.root.isNone = true then .ok (.inr ⟨.malformed, none⟩)
              else consumeDatagram decoder fuel decoded.root (rest.drop (nlmsgAlign header.length))
          | .dumpComplete => .ok (.inr (if root.isSome = true then ⟨.present, root⟩ else ⟨.absent, none⟩))
          | .ignored => consumeDatagram decoder fuel root (rest.drop (nlmsgAlign header.length)) := by
    intro fuel
    rw [consumeDatagram, if_neg hnonempty, if_neg hshort, memcpy_eq (by omega)]
    simp only [Bind.bind, Except.bind, hread]
    rfl
  by_cases hrefused : header.length < 16 ∨ rest.length < nlmsgAlign header.length
  · exact .inl ⟨⟨.malformed, none⟩, fun fuel => by rw [hturn, if_pos hrefused], by decide⟩
  have hin : 0 + nlmsgAlign header.length ≤ rest.length := by omega
  obtain ⟨outcome, houtcome⟩ := decoder.consume_total (slice rest 0 (nlmsgAlign header.length))
  by_cases hpresent : outcome.status = .present
  · refine .inr ⟨_, rest.drop (nlmsgAlign header.length), outcome, ?_, (QdiscMessageDecoder.consume_iff hpresent).mp houtcome⟩
    exact (List.take_append_drop (nlmsgAlign header.length) rest).symm
  · refine .inl ⟨⟨outcome.status, none⟩, fun fuel => ?_, hpresent⟩
    rw [hturn, if_neg hrefused, memcpy_eq hin]
    dsimp only [Bind.bind, Except.bind]
    rw [houtcome]
    dsimp only
    rw [if_pos hpresent]

/-- What a datagram comes to: its messages were taken, or the dump has come to its end with one root, or it is neither. -/
inductive DatagramOutcome (decoder : QdiscMessageDecoder) (root : Option RootQdisc) (bytes : Bytes) :
    Option RootQdisc ⊕ QdiscQuery → Prop
  | carried {messages : List Bytes} {roots : List RootQdisc} {next : Option RootQdisc} (split : bytes = messages.flatten)
      (carried : QdiscMessages decoder messages roots) (listed : root.toList ++ roots = next.toList) :
      DatagramOutcome decoder root bytes (.inl next)
  | ended {messages : List Bytes} {roots : List RootQdisc} {done rest : Bytes} {found : RootQdisc}
      (split : bytes = messages.flatten ++ (done ++ rest)) (carried : QdiscMessages decoder messages roots)
      (ended : QdiscMeaning decoder done ⟨.present, .dumpComplete, none⟩) (listed : root.toList ++ roots = [found]) :
      DatagramOutcome decoder root bytes (.inr ⟨.present, some found⟩)
  | refused {query : QdiscQuery} (status : query.status ≠ .present) : DatagramOutcome decoder root bytes (.inr query)

theorem consumeDatagram_outcome (hfuel : bytes.length < fuel) :
    ∃ outcome, consumeDatagram decoder fuel root bytes = .ok outcome ∧ DatagramOutcome decoder root bytes outcome := by
  induction fuel generalizing root bytes with
  | zero => omega
  | succ fuel ih =>
      by_cases hempty : bytes = []
      · exact ⟨.inl root, by rw [consumeDatagram, if_pos hempty]; rfl, @DatagramOutcome.carried _ _ _ [] [] _ hempty .nil (List.append_nil _)⟩
      rcases @consumeDatagram_cases decoder bytes hempty root with ⟨query, hquery, hstatus⟩ | ⟨message, tail, outcome, rfl, hmeans⟩
      · exact ⟨.inr query, hquery fuel, .refused hstatus⟩
      have hlength := (readHeader_of_qdiscMeaning hmeans []).2.2
      have htail : tail.length < fuel := by
        rw [List.length_append] at hfuel
        omega
      rw [consumeDatagram_of_qdiscMeaning hmeans (present_of_qdiscMeaning hmeans)]
      rcases qdiscMeaning_cases hmeans with rfl | ⟨found, rfl⟩ | rfl
      · obtain ⟨outcome, houtcome, hcases⟩ := @ih tail root htail
        refine ⟨outcome, houtcome, ?_⟩
        cases hcases with
        | @carried messages roots next hsplit hcarried hlisted =>
            exact @DatagramOutcome.carried _ _ _ (message :: messages) _ _ (by rw [hsplit, List.flatten_cons])
              (.ignored hmeans hcarried) hlisted
        | @ended messages roots done rest found hsplit hcarried hended hlisted =>
            exact @DatagramOutcome.ended _ _ _ (message :: messages) _ _ _ _
              (by rw [hsplit, List.flatten_cons, List.append_assoc]) (.ignored hmeans hcarried) hended hlisted
        | refused hstatus => exact .refused hstatus
      · cases root with
        | some other => exact ⟨_, rfl, .refused (by simp)⟩
        | none =>
            obtain ⟨outcome, houtcome, hcases⟩ := @ih tail (some found) htail
            refine ⟨outcome, houtcome, ?_⟩
            cases hcases with
            | @carried messages roots next hsplit hcarried hlisted =>
                exact @DatagramOutcome.carried _ _ _ (message :: messages) _ _ (by rw [hsplit, List.flatten_cons])
                  (.root hmeans hcarried) hlisted
            | @ended messages roots done rest last hsplit hcarried hended hlisted =>
                exact @DatagramOutcome.ended _ _ _ (message :: messages) _ _ _ _
                  (by rw [hsplit, List.flatten_cons, List.append_assoc]) (.root hmeans hcarried) hended hlisted
            | refused hstatus => exact .refused hstatus
      · cases root with
        | none => exact ⟨_, rfl, .refused (by simp)⟩
        | some found => exact ⟨_, rfl, @DatagramOutcome.ended _ _ _ [] _ message tail _ rfl .nil hmeans rfl⟩

/-- The datagrams one after another, up to the one that gives the result. -/
def consumeDatagrams (decoder : QdiscMessageDecoder) :
    Option RootQdisc → List Bytes → Reading (Option RootQdisc ⊕ QdiscQuery)
  | root, [] => .ok (.inl root)
  | root, bytes :: datagrams =>
      if bytes = [] then .ok (.inr ⟨.malformed, none⟩)
      else
        match consumeDatagram decoder (bytes.length + 1) root bytes with
        | .error fault => .error fault
        | .ok (.inl next) => consumeDatagrams decoder next datagrams
        | .ok (.inr query) => .ok (.inr query)

theorem consumeDatagrams_append (datagrams later : List Bytes) (root : Option RootQdisc) :
    consumeDatagrams decoder root (datagrams ++ later) = consumeDatagrams decoder root datagrams >>= fun
      | .inl next => consumeDatagrams decoder next later
      | .inr query => .ok (.inr query) := by
  induction datagrams generalizing root with
  | nil => rfl
  | cons bytes datagrams ih =>
      rw [List.cons_append, consumeDatagrams, consumeDatagrams]
      split
      · rfl
      · split
        · rfl
        · exact ih _
        · rfl

theorem dump_of_consumeDatagrams {found : RootQdisc}
    (h : consumeDatagrams decoder root datagrams = .ok (.inr ⟨.present, some found⟩)) :
    ∃ roots taken later, datagrams = taken ++ later ∧ QdiscDump decoder taken roots ∧ root.toList ++ roots = [found] := by
  induction datagrams generalizing root with
  | nil => exact nomatch h
  | cons bytes datagrams ih =>
      rw [consumeDatagrams] at h
      split at h
      · exact nomatch h
      · rename_i hnonempty
        obtain ⟨outcome, houtcome, hcases⟩ := @consumeDatagram_outcome decoder bytes root _ (Nat.lt_succ_self bytes.length)
        rw [houtcome] at h
        cases hcases with
        | @carried messages roots next hsplit hcarried hlisted =>
            obtain ⟨others, taken, later, rfl, hdump, hothers⟩ := ih h
            refine ⟨roots ++ others, bytes :: taken, later, rfl, ?_, by rw [← List.append_assoc, hlisted, hothers]⟩
            rw [hsplit]
            exact .more (fun hnil => hnonempty (by rw [hsplit, hnil, List.flatten_nil])) hcarried hdump
        | @ended messages roots done rest last hsplit hcarried hended hlisted =>
            cases h
            refine ⟨roots, [bytes], datagrams, rfl, ?_, hlisted⟩
            rw [hsplit]
            exact .last hcarried hended
        | refused hstatus =>
            cases h
            exact absurd rfl hstatus

/-- What is reported present has a root. -/
theorem root_of_consumeDatagrams (h : consumeDatagrams decoder root datagrams = .ok (.inr query))
    (hpresent : query.status = .present) : ∃ found, query = ⟨.present, some found⟩ := by
  induction datagrams generalizing root with
  | nil => exact nomatch h
  | cons bytes datagrams ih =>
      rw [consumeDatagrams] at h
      split at h
      · cases h
        exact nomatch hpresent
      · obtain ⟨outcome, houtcome, hcases⟩ := @consumeDatagram_outcome decoder bytes root _ (Nat.lt_succ_self bytes.length)
        rw [houtcome] at h
        cases hcases with
        | carried => exact ih h
        | @ended messages roots done rest found =>
            cases h
            exact ⟨found, rfl⟩
        | refused hstatus =>
            cases h
            exact absurd hpresent hstatus

theorem consumeDatagrams_of_dump {found : RootQdisc} (h : QdiscDump decoder datagrams roots)
    (hroots : root.toList ++ roots = [found]) (later : List Bytes) :
    consumeDatagrams decoder root (datagrams ++ later) = .ok (.inr ⟨.present, some found⟩) := by
  induction h generalizing root with
  | @last messages roots done rest hcarried hended =>
      have hlength := (readHeader_of_qdiscMeaning hended []).2.2
      have hnonempty : messages.flatten ++ (done ++ rest) ≠ [] := by
        have hdone := List.ne_nil_of_length_pos (show 0 < done.length by omega)
        simp [hdone]
      have hnext : root.toList ++ roots = (some found).toList := hroots
      obtain ⟨left, hleft, heq⟩ := consumeDatagram_of_qdiscMessages hcarried hnext
        (Nat.lt_succ_self (messages.flatten ++ (done ++ rest)).length)
      obtain ⟨left, rfl⟩ := Nat.exists_eq_succ_of_ne_zero (show left ≠ 0 by omega)
      rw [List.singleton_append, consumeDatagrams, if_neg hnonempty, heq, consumeDatagram_of_qdiscMeaning hended rfl]
      rfl
  | @more messages datagrams roots others hne hcarried tail ih =>
      have hnonempty : messages.flatten ≠ [] := by
        cases hcarried with
        | nil => exact absurd rfl hne
        | ignored first more =>
            have hfirst := (readHeader_of_qdiscMeaning first []).2.2
            exact List.ne_nil_of_length_pos (by rw [List.flatten_cons, List.length_append]; omega)
        | root first more =>
            have hfirst := (readHeader_of_qdiscMeaning first []).2.2
            exact List.ne_nil_of_length_pos (by rw [List.flatten_cons, List.length_append]; omega)
      obtain ⟨next, hnext⟩ : ∃ next : Option RootQdisc, root.toList ++ roots = next.toList := by
        rw [← List.append_assoc] at hroots
        cases hfront : root.toList ++ roots with
        | nil => exact ⟨none, rfl⟩
        | cons first front =>
            rw [hfront, List.cons_append, List.cons.injEq] at hroots
            rw [(List.append_eq_nil_iff.mp hroots.2).1]
            exact ⟨some first, rfl⟩
      obtain ⟨left, hleft, heq⟩ := consumeDatagram_of_qdiscMessages hcarried hnext
        (Nat.lt_succ_self (messages.flatten ++ []).length)
      obtain ⟨left, rfl⟩ := Nat.exists_eq_succ_of_ne_zero (show left ≠ 0 from Nat.ne_of_gt hleft)
      rw [List.append_nil] at heq
      rw [List.cons_append, consumeDatagrams, if_neg hnonempty, heq, consumeDatagram, if_pos rfl]
      exact ih (by rw [← hnext, List.append_assoc, hroots])

end Dumps

/-! ### The query -/

/-- The datagram that a call received. -/
def receivedDatagram : Event QdiscCall QdiscAnswer → Option Bytes
  | ⟨.receive, .datagram bytes⟩ => some bytes
  | _ => none

def received (trace : List (Event QdiscCall QdiscAnswer)) : List Bytes := trace.filterMap receivedDatagram

section Queries

variable {decoder : QdiscMessageDecoder} {deadline : TimePoint} {trace : List (Event QdiscCall QdiscAnswer)}
  {root last : Option RootQdisc}

theorem run_askKernel {α : Type} {request : QdiscCall} {next : QdiscAnswer request → QdiscProgram α} {value : α} :
    Run (askKernel request >>= next) trace value ↔
      ∃ answer rest, trace = ⟨request, answer⟩ :: rest ∧ Run (next answer) rest value :=
  run_call

/-- A round takes a datagram or none; without one it reports no root. -/
theorem run_receiveRound {result : Option RootQdisc ⊕ Reading QdiscQuery}
    (h : Run (receiveRound decoder deadline root) trace result) :
    (∃ next, result = .inl next ∧ consumeDatagrams decoder root (received trace) = .ok (.inl next)) ∨
    ∃ query, result = .inr (.ok query) ∧
      ((received trace = [] ∧ query.status ≠ .present) ∨
        consumeDatagrams decoder root (received trace) = .ok (.inr query)) := by
  have hends : ∀ {query : QdiscQuery} {rest first : List (Event QdiscCall QdiscAnswer)}, query.status ≠ .present →
      received first = [] → Run (.done (.inr (.ok query)) : QdiscProgram (Option RootQdisc ⊕ Reading QdiscQuery)) rest result →
      (∃ next, result = .inl next ∧ consumeDatagrams decoder root (received (first ++ rest)) = .ok (.inl next)) ∨
      ∃ query, result = .inr (.ok query) ∧ ((received (first ++ rest) = [] ∧ query.status ≠ .present) ∨
        consumeDatagrams decoder root (received (first ++ rest)) = .ok (.inr query)) := by
    intro query rest first hstatus hfirst hrun
    obtain ⟨rfl, rfl⟩ := run_done.mp hrun
    rw [List.append_nil]
    exact .inr ⟨query, rfl, .inl ⟨hfirst, hstatus⟩⟩
  obtain ⟨late, afterDeadline, rfl, hdeadline⟩ := run_askKernel.mp h
  split at hdeadline
  · exact @hends _ _ [⟨.pastDeadline deadline, late⟩] (by decide) rfl hdeadline
  obtain ⟨polled, afterPoll, rfl, hpoll⟩ := run_askKernel.mp hdeadline
  cases polled with
  | expired => exact @hends _ _ [⟨.pastDeadline deadline, late⟩, ⟨.poll deadline, .expired⟩] (by decide) rfl hpoll
  | failed => exact @hends _ _ [⟨.pastDeadline deadline, late⟩, ⟨.poll deadline, .failed⟩] (by decide) rfl hpoll
  | ready =>
      obtain ⟨reception, afterReceive, rfl, hreceive⟩ := run_askKernel.mp hpoll
      cases reception with
      | again =>
          obtain ⟨rfl, rfl⟩ := run_done.mp hreceive
          exact .inl ⟨root, rfl, rfl⟩
      | refused =>
          exact @hends _ _ [⟨.pastDeadline deadline, late⟩, ⟨.poll deadline, .ready⟩, ⟨.receive, .refused⟩] (by decide) rfl hreceive
      | datagram bytes =>
          have hlist : ∀ rest, received (⟨.pastDeadline deadline, late⟩ :: ⟨.poll deadline, .ready⟩ ::
              ⟨.receive, .datagram bytes⟩ :: rest) = bytes :: received rest := fun _ => rfl
          rw [hlist, consumeDatagrams]
          dsimp only at hreceive
          split at hreceive
          · rename_i hempty
            obtain ⟨rfl, rfl⟩ := run_done.mp hreceive
            exact .inr ⟨_, rfl, .inr (if_pos hempty)⟩
          · rename_i hnonempty
            obtain ⟨outcome, houtcome, -⟩ := @consumeDatagram_outcome decoder bytes root _ (Nat.lt_succ_self bytes.length)
            rw [houtcome] at hreceive ⊢
            rw [if_neg hnonempty]
            cases outcome with
            | inl next =>
                obtain ⟨rfl, rfl⟩ := run_done.mp hreceive
                exact .inl ⟨next, rfl, rfl⟩
            | inr query =>
                obtain ⟨rfl, rfl⟩ := run_done.mp hreceive
                exact .inr ⟨query, rfl, .inr rfl⟩

theorem received_append (first rest : List (Event QdiscCall QdiscAnswer)) :
    received (first ++ rest) = received first ++ received rest :=
  List.filterMap_append

/-- The datagrams of whole rounds have all been taken. -/
theorem consumeDatagrams_of_rounds (h : Rounds (receiveRound decoder deadline) root trace last) :
    consumeDatagrams decoder root (received trace) = .ok (.inl last) := by
  induction h with
  | refl state => rfl
  | @round state next last trace rest first more ih =>
      rcases run_receiveRound first with ⟨taken, htaken, hconsumed⟩ | ⟨query, hquery, -⟩
      · cases htaken
        rw [received_append, consumeDatagrams_append, hconsumed]
        exact ih
      · exact nomatch hquery

/-- The loop over the datagrams reports a root if and only if they are a dump with just that root. -/
theorem run_receiveLoop {rounds : Nat} {result : Reading QdiscQuery}
    (h : Run (loop (receiveRound decoder deadline) rounds none) trace (some result)) :
    ∃ query, result = .ok query ∧ (query.status = .present → ∃ found, query = ⟨.present, some found⟩) ∧
      ∀ found, query = ⟨.present, some found⟩ ↔
        ∃ taken later, received trace = taken ++ later ∧ QdiscDump decoder taken [found] := by
  rcases run_loop h with ⟨hnone, -⟩ | ⟨value, last, first, rest, hvalue, rfl, hrounds, hleave⟩
  · exact nomatch hnone
  cases hvalue
  have hfirst := consumeDatagrams_of_rounds hrounds
  rcases run_receiveRound hleave with ⟨next, hnext, -⟩ | ⟨query, hquery, hcases⟩
  · exact nomatch hnext
  cases hquery
  refine ⟨query, rfl, fun hpresent => ?_, fun found => ?_⟩
  · rcases hcases with ⟨-, hstatus⟩ | hconsumed
    · exact absurd hpresent hstatus
    · exact root_of_consumeDatagrams hconsumed hpresent
  rw [received_append]
  have hwhole : consumeDatagrams decoder none (received first ++ received rest) = consumeDatagrams decoder last (received rest) := by
    rw [consumeDatagrams_append, hfirst]
    rfl
  constructor
  · rintro rfl
    rcases hcases with ⟨-, hstatus⟩ | hconsumed
    · exact absurd rfl hstatus
    · rw [← hwhole] at hconsumed
      obtain ⟨roots, taken, later, hsplit, hdump, hlisted⟩ := dump_of_consumeDatagrams hconsumed
      have hroots : roots = [found] := hlisted
      exact ⟨taken, later, hsplit, hroots ▸ hdump⟩
  · rintro ⟨taken, later, hsplit, hdump⟩
    have hconsumed := @consumeDatagrams_of_dump decoder none taken [found] found hdump rfl later
    rw [← hsplit, hwhole] at hconsumed
    rcases hcases with ⟨hempty, -⟩ | hquery
    · rw [hempty] at hconsumed
      exact nomatch hconsumed
    · rw [hquery, Except.ok.injEq, Sum.inr.injEq] at hconsumed
      exact hconsumed

/-- The calls in front of the loop. -/
def queryPrelude (name : Bytes) (deadline : TimePoint) (found : IndexAnswer) (portId : UInt32) :
    List (Event QdiscCall QdiscAnswer) :=
  [⟨.pastDeadline deadline, false⟩, ⟨.nameToIndex name, found⟩, ⟨.requestDump found.index, some portId⟩]

/-- The query reports a root if and only if the datagrams are a dump with just that root. -/
theorem run_queryCurrentNamespaceQdisc {rounds : Nat} {name : Bytes} {result : Reading QdiscQuery}
    (h : Run (queryCurrentNamespaceQdisc rounds name deadline) trace (some result)) :
    ∃ query, result = .ok query ∧ (query.status = .present → ∃ root, query = ⟨.present, some root⟩) ∧
      ∀ root, query = ⟨.present, some root⟩ ↔
        ∃ found portId rest taken later, trace = queryPrelude name deadline found portId ++ rest ∧
          received rest = taken ++ later ∧ QdiscDump ⟨1, portId, found.index⟩ taken [root] := by
  have hends : ∀ {query : QdiscQuery} {rest : List (Event QdiscCall QdiscAnswer)}, query.status ≠ .present →
      Run (.done (some (.ok query)) : QdiscProgram (Option (Reading QdiscQuery))) rest (some result) →
      (∀ found portId rest, trace ≠ queryPrelude name deadline found portId ++ rest) →
      ∃ query, result = .ok query ∧ (query.status = .present → ∃ root, query = ⟨.present, some root⟩) ∧
        ∀ root, query = ⟨.present, some root⟩ ↔
          ∃ found portId rest taken later, trace = queryPrelude name deadline found portId ++ rest ∧
            received rest = taken ++ later ∧ QdiscDump ⟨1, portId, found.index⟩ taken [root] := by
    intro query rest hstatus hrun hother
    obtain ⟨-, hresult⟩ := run_done.mp hrun
    cases hresult
    refine ⟨query, rfl, fun hpresent => absurd hpresent hstatus, fun root => ⟨?_, ?_⟩⟩
    · rintro rfl
      exact absurd rfl hstatus
    · rintro ⟨found, portId, rest, taken, later, htrace, -⟩
      exact absurd htrace (hother found portId rest)
  obtain ⟨late, afterDeadline, rfl, hdeadline⟩ := run_askKernel.mp h
  split at hdeadline
  · rename_i hlate
    exact hends (by decide) hdeadline (by simp [queryPrelude, show late = true from hlate])
  rename_i hearly
  obtain rfl : late = false := by simpa using hearly
  obtain ⟨found, afterIndex, rfl, hindex⟩ := run_askKernel.mp hdeadline
  split at hindex
  · obtain ⟨rfl, -⟩ := run_done.mp hindex
    refine hends ?_ hindex (by simp [queryPrelude])
    split <;> decide
  obtain ⟨answer, afterRequest, rfl, hrequest⟩ := run_askKernel.mp hindex
  cases answer with
  | none => exact hends (by decide) hrequest (by simp [queryPrelude])
  | some portId =>
      obtain ⟨query, rfl, hpresent, hiff⟩ := run_receiveLoop hrequest
      refine ⟨query, rfl, hpresent, fun root => (hiff root).trans ⟨?_, ?_⟩⟩
      · rintro ⟨taken, later, hsplit, hdump⟩
        exact ⟨found, portId, afterRequest, taken, later, rfl, hsplit, hdump⟩
      · rintro ⟨other, otherPort, rest, taken, later, htrace, hsplit, hdump⟩
        simp only [queryPrelude, List.cons_append, List.nil_append, List.cons.injEq, true_and] at htrace
        obtain ⟨hfound, hport, hrest⟩ := htrace
        cases hfound
        cases hport
        cases hrest
        exact ⟨taken, later, hsplit, hdump⟩

end Queries

/-! ### What is reported -/

/-- A message of the root qdisc of a link that is netem, whose options say no more than the settings of the qdisc. -/
def SaysJust (decoder : QdiscMessageDecoder) (bytes : Bytes) (root : RootQdisc) : Prop :=
  ∃ body items payload nested, QdiscFrame decoder rtmNewQdisc body bytes ∧
    TcHeader body decoder.expectedIndex.toNat root.handle.toNat tcHRoot ∧ Encodes items (body.drop 20) ∧
    QdiscItems items (ascii "netem") (some payload) ∧ 24 ≤ payload.length ∧ Encodes nested (payload.drop 24) ∧
    SaysNoMore payload nested root

/-- The decoder takes just the root qdiscs that it can confirm, in whatever order their attributes are, and the query
reports a root if and only if the dump has exactly one. -/
theorem qdiscDecoding_confirms :
    (∀ (decoder : QdiscMessageDecoder) bytes, ∃ outcome, decoder.consume bytes = .ok outcome) ∧
    (∀ (decoder : QdiscMessageDecoder) bytes root, decoder.consume bytes = .ok ⟨.present, .root, some root⟩ →
      root.kind = .netem → root.hasUnsupportedOptions = false → SaysJust decoder bytes root) ∧
    (∀ (decoder : QdiscMessageDecoder) flags sequence portId fixed items others region reordered message other,
      flags < 2 ^ 16 → sequence < 2 ^ 32 → portId < 2 ^ 32 → fixed.length = 20 → Encodes items region →
      Encodes others reordered → Reordered items others →
      Framed rtmNewQdisc flags sequence portId (fixed ++ region) message →
      Framed rtmNewQdisc flags sequence portId (fixed ++ reordered) other →
      decoder.consume message = decoder.consume other) ∧
    ∀ rounds name deadline trace result, Run (queryCurrentNamespaceQdisc rounds name deadline) trace (some result) →
      ∃ query, result = .ok query ∧ (query.status = .present → ∃ root, query = ⟨.present, some root⟩) ∧
        ∀ root, query = ⟨.present, some root⟩ ↔
          ∃ found portId rest taken later, trace = queryPrelude name deadline found portId ++ rest ∧
            received rest = taken ++ later ∧ QdiscDump ⟨1, portId, found.index⟩ taken [root] := by
  refine ⟨fun decoder bytes => decoder.consume_total bytes, ?_, ?_, ?_⟩
  · intro decoder bytes root hconsume hkind hsupported
    cases (QdiscMessageDecoder.consume_iff rfl).mp hconsume with
    | @qdisc body outcome hframe hmeans =>
        cases hmeans with
        | @root handle items kind options root hheader hencodes hcarried hdescribed =>
            rcases rootKind_iff.mp hdescribed with ⟨-, -, -, rfl⟩ | ⟨rfl, payload, rfl, hpayload⟩ | ⟨-, -, rfl⟩
            · exact nomatch hkind
            · have hhandle : root.handle = handle := by
                obtain ⟨-, -, -, -, rfl⟩ := hpayload
                rfl
              obtain ⟨nested, hlength, hnested, hsays⟩ := saysNoMore_of_netemPayload hpayload hsupported
              exact ⟨body, items, payload, nested, hframe, hhandle ▸ hheader, hencodes, hcarried, hlength, hnested, hsays⟩
            · exact nomatch hkind
  · intro decoder flags sequence portId fixed items others region reordered message other hflags hsequence hportId hfixed
      hitems hothers horder hmessage hother
    exact consume_reordered hfixed hitems hothers horder hmessage hother hflags hsequence hportId
  · intro rounds name deadline trace result hrun
    exact run_queryCurrentNamespaceQdisc hrun

/-- A netem qdisc with a delay of 50 ms on link 7. -/
def delayedBody : Bytes :=
  [0, 0, 0, 0] ++ leBytes 4 7 ++ leBytes 4 0x4e4c0000 ++ leBytes 4 tcHRoot ++ leBytes 4 2
    ++ [10, 0, 1, 0] ++ ascii "netem" ++ [0, 0, 0]
    ++ [40, 0, 2, 0] ++ leBytes 4 781250 ++ leBytes 4 1000 ++ leBytes 4 0 ++ leBytes 4 0 ++ leBytes 4 0 ++ leBytes 4 0
    ++ [12, 0, 10, 0] ++ leBytes 8 50000000

def delayedQdisc : RootQdisc := { handle := ownedNetemHandle, kind := .netem, delayNanoseconds := 50000000 }

def delayedMessage : Bytes := frame rtmNewQdisc 2 1 0 delayedBody []

/-- The calls of a query that gets one datagram, with their answers. -/
def delayedTrace : List (Event QdiscCall QdiscAnswer) :=
  queryPrelude (ascii "nll-host") 9 ⟨7, false⟩ 0 ++
    [⟨.pastDeadline 9, false⟩, ⟨.poll 9, .ready⟩, ⟨.receive, .datagram (delayedMessage ++ frame nlmsgDone 2 1 0 [0, 0, 0, 0] [])⟩]

theorem qdiscDecoding_confirms_delayed :
    SaysJust ⟨1, 0, 7⟩ delayedMessage delayedQdisc ∧
      ∃ found portId rest taken later, delayedTrace = queryPrelude (ascii "nll-host") 9 found portId ++ rest ∧
        received rest = taken ++ later ∧ QdiscDump ⟨1, portId, found.index⟩ taken [delayedQdisc] := by
  obtain ⟨-, hjust, -, hquery⟩ := qdiscDecoding_confirms
  have hconsume : QdiscMessageDecoder.consume ⟨1, 0, 7⟩ delayedMessage = .ok ⟨.present, .root, some delayedQdisc⟩ := by
    decide
  have hrun : Run (queryCurrentNamespaceQdisc 1 (ascii "nll-host") 9) delayedTrace (some (.ok ⟨.present, some delayedQdisc⟩)) :=
    run_of_follow (by decide)
  obtain ⟨query, hresult, -, hiff⟩ := hquery 1 (ascii "nll-host") 9 delayedTrace _ hrun
  cases hresult
  exact ⟨hjust _ _ _ hconsume rfl rfl, (hiff delayedQdisc).mp rfl⟩

end NetLagLab.NetworkEnvironment
