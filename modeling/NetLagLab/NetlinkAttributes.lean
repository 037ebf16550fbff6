import NetLagLab.FixedWidth

/-! Netlink messages: a header of fixed width, and attributes that each start with their length and type and are padded
to four bytes. The loop over the attributes of a message is here with the handler as a parameter; what it comes to is
the fold of the handler over the attributes that the bytes encode. Nothing in this file refers to a particular message. -/

namespace Netlink

open ByteLines (Bytes)
open FixedWidth

/-- `NLMSG_ALIGN` of a 32-bit length. It wraps around for the three greatest. -/
def nlmsgAlign (length : Nat) : Nat := (length + 3) % 2 ^ 32 / 4 * 4

/-- `RTA_ALIGN` of a 16-bit length. -/
def rtaAlign (length : Nat) : Nat := (length + 3) / 4 * 4

theorem nlmsgAlign_eq {length : Nat} (h : length + 3 < 2 ^ 32) : nlmsgAlign length = rtaAlign length := by
  rw [nlmsgAlign, rtaAlign, Nat.mod_eq_of_lt h]

theorem le_rtaAlign (length : Nat) : length ≤ rtaAlign length := by
  unfold rtaAlign
  omega

/-! ### Headers -/

/-- The fields of `nlmsghdr`. -/
structure Header where
  length : Nat
  type : Nat
  flags : Nat
  sequence : Nat
  portId : Nat
  deriving DecidableEq

def readHeader (raw : Bytes) : Header where
  length := leValue (slice raw 0 4)
  type := leValue (slice raw 4 2)
  flags := leValue (slice raw 6 2)
  sequence := leValue (slice raw 8 4)
  portId := leValue (slice raw 12 4)

def Header.bytes (header : Header) : Bytes :=
  leBytes 4 header.length ++ (leBytes 2 header.type ++ (leBytes 2 header.flags ++
    (leBytes 4 header.sequence ++ leBytes 4 header.portId)))

structure Header.Fits (header : Header) : Prop where
  length : header.length < 2 ^ 32
  type : header.type < 2 ^ 16
  flags : header.flags < 2 ^ 16
  sequence : header.sequence < 2 ^ 32
  portId : header.portId < 2 ^ 32

/-- A message with its padding. -/
def frame (type flags sequence portId : Nat) (body padding : Bytes) : Bytes :=
  Header.bytes ⟨16 + body.length, type, flags, sequence, portId⟩ ++ (body ++ padding)

section Headers

variable {header : Header} {raw : Bytes}

@[simp] theorem length_bytes (header : Header) : header.bytes.length = 16 := by
  simp [Header.bytes]

theorem readHeader_bytes (h : header.Fits) : readHeader header.bytes = header := by
  obtain ⟨length, type, flags, sequence, portId⟩ := header
  have hlength := length_leBytes 4 length
  have htype := length_leBytes 2 type
  have hflags := length_leBytes 2 flags
  have hsequence := length_leBytes 4 sequence
  have hreadLength : slice (Header.bytes ⟨length, type, flags, sequence, portId⟩) 0 4 = leBytes 4 length :=
    slice_first hlength
  have hreadType : slice (Header.bytes ⟨length, type, flags, sequence, portId⟩) 4 2 = leBytes 2 type :=
    (slice_skip hlength 0 2).trans (slice_first htype)
  have hreadFlags : slice (Header.bytes ⟨length, type, flags, sequence, portId⟩) 6 2 = leBytes 2 flags :=
    (slice_skip hlength 2 2).trans ((slice_skip htype 0 2).trans (slice_first hflags))
  have hreadSequence : slice (Header.bytes ⟨length, type, flags, sequence, portId⟩) 8 4 = leBytes 4 sequence :=
    (slice_skip hlength 4 4).trans ((slice_skip htype 2 4).trans ((slice_skip hflags 0 4).trans (slice_first hsequence)))
  have hreadPortId : slice (Header.bytes ⟨length, type, flags, sequence, portId⟩) 12 4 = leBytes 4 portId :=
    (slice_skip hlength 8 4).trans ((slice_skip htype 6 4).trans ((slice_skip hflags 4 4).trans
      ((slice_skip hsequence 0 4).trans (slice_all (length_leBytes 4 portId)))))
  rw [readHeader, hreadLength, hreadType, hreadFlags, hreadSequence, hreadPortId, leValue_leBytes h.length,
    leValue_leBytes h.type, leValue_leBytes h.flags, leValue_leBytes h.sequence, leValue_leBytes h.portId]

theorem readHeader_fits (raw : Bytes) : (readHeader raw).Fits :=
  ⟨leValue_slice_lt raw 0 4, leValue_slice_lt raw 4 2, leValue_slice_lt raw 6 2, leValue_slice_lt raw 8 4,
    leValue_slice_lt raw 12 4⟩

theorem bytes_readHeader (h : raw.length = 16) : (readHeader raw).bytes = raw := by
  rw [readHeader, Header.bytes, leBytes_slice (by omega), leBytes_slice (by omega), leBytes_slice (by omega),
    leBytes_slice (by omega), leBytes_slice (by omega), slice_append_slice raw 8 4 4, slice_append_slice raw 6 2 8,
    slice_append_slice raw 4 2 10, slice_append_slice raw 0 4 12]
  exact slice_all h

/-- The header of a message that is framed. -/
theorem readHeader_frame {type flags sequence portId : Nat} {body padding : Bytes}
    (h : Header.Fits ⟨16 + body.length, type, flags, sequence, portId⟩) (rest : Bytes) :
    readHeader (slice (frame type flags sequence portId body padding ++ rest) 0 16) =
      ⟨16 + body.length, type, flags, sequence, portId⟩ := by
  rw [frame, List.append_assoc, slice_first (length_bytes _), readHeader_bytes h]

/-- A message is a frame around what stands behind its header. -/
theorem eq_frame {message : Bytes} (hlength : 16 ≤ (readHeader (slice message 0 16)).length)
    (hpadded : (readHeader (slice message 0 16)).length ≤ message.length) :
    message = frame (readHeader (slice message 0 16)).type (readHeader (slice message 0 16)).flags
      (readHeader (slice message 0 16)).sequence (readHeader (slice message 0 16)).portId
      (slice message 16 ((readHeader (slice message 0 16)).length - 16))
      (message.drop (readHeader (slice message 0 16)).length) := by
  have hraw : (slice message 0 16).length = 16 := length_slice (by omega)
  have hbytes := bytes_readHeader hraw
  generalize hread : readHeader (slice message 0 16) = header at *
  obtain ⟨length, type, flags, sequence, portId⟩ := header
  dsimp only at *
  have hbody : (slice message 16 (length - 16)).length = length - 16 := length_slice (by omega)
  have hfront : slice message 0 16 ++ slice message 16 (length - 16) = message.take length := by
    rw [slice_append_slice message 0 16 (length - 16), Nat.add_sub_cancel' hlength]
    rfl
  rw [frame, hbody, Nat.add_sub_cancel' hlength, hbytes, ← List.append_assoc, hfront, List.take_append_drop]

end Headers

/-- A message with a body, padded to four bytes; its length is one that can be aligned. -/
inductive Framed (type flags sequence portId : Nat) (body : Bytes) : Bytes → Prop
  | padded (padding : Bytes) (short : 16 + body.length + 3 < 2 ^ 32)
      (padded : 16 + body.length + padding.length = rtaAlign (16 + body.length)) :
      Framed type flags sequence portId body (frame type flags sequence portId body padding)

section Framed

variable {header : Header} {message body rest : Bytes} {type flags sequence portId : Nat}

/-- Bytes whose header has their aligned length are a message. -/
theorem framed_of_header (hread : readHeader (slice message 0 16) = header) (hlength : 16 ≤ header.length)
    (haligned : nlmsgAlign header.length = message.length) (hnonempty : message.length ≠ 0) :
    Framed header.type header.flags header.sequence header.portId (slice message 16 (header.length - 16)) message := by
  have hfits : header.length < 2 ^ 32 := hread ▸ (readHeader_fits _).length
  have hshort : header.length + 3 < 2 ^ 32 := by
    unfold nlmsgAlign at haligned
    omega
  rw [nlmsgAlign_eq hshort] at haligned
  have hle := le_rtaAlign header.length
  have hbody : (slice message 16 (header.length - 16)).length = header.length - 16 := length_slice (by omega)
  have hframe := @eq_frame message (by rw [hread]; exact hlength) (by rw [hread]; omega)
  rw [hread] at hframe
  have hpadded : 16 + (slice message 16 (header.length - 16)).length + (message.drop header.length).length =
      rtaAlign (16 + (slice message 16 (header.length - 16)).length) := by
    rw [hbody, List.length_drop, Nat.add_sub_cancel' hlength]
    omega
  have hframed : Framed header.type header.flags header.sequence header.portId (slice message 16 (header.length - 16))
      (frame header.type header.flags header.sequence header.portId (slice message 16 (header.length - 16))
        (message.drop header.length)) :=
    .padded _ (by omega) hpadded
  rwa [← hframe] at hframed

theorem Framed.aligned (h : Framed type flags sequence portId body message) :
    nlmsgAlign (16 + body.length) = message.length ∧ 16 + body.length ≤ message.length := by
  cases h with
  | padded padding hshort hpadded =>
      have hlength : (frame type flags sequence portId body padding).length = 16 + body.length + padding.length := by
        simp [frame, Nat.add_assoc]
      rw [nlmsgAlign_eq hshort, hlength, hpadded]
      exact ⟨rfl, le_rtaAlign _⟩

/-- The header of a message is read in front of whatever comes behind it. -/
theorem Framed.readHeader (h : Framed type flags sequence portId body message) (htype : type < 2 ^ 16) (hflags : flags < 2 ^ 16)
    (hsequence : sequence < 2 ^ 32) (hportId : portId < 2 ^ 32) (rest : Bytes) :
    Netlink.readHeader (slice (message ++ rest) 0 16) = ⟨16 + body.length, type, flags, sequence, portId⟩ := by
  cases h with
  | padded padding hshort hpadded =>
      exact readHeader_frame ⟨by dsimp only; omega, htype, hflags, hsequence, hportId⟩ rest

theorem Framed.unpadded (h : Framed type flags sequence portId body message) (rest : Bytes) :
    slice (message ++ rest) 0 (16 + body.length) = Header.bytes ⟨16 + body.length, type, flags, sequence, portId⟩ ++ body := by
  cases h with
  | padded padding hshort hpadded =>
      rw [frame, ← List.append_assoc, List.append_assoc (_ ++ body)]
      exact slice_first (by rw [List.length_append, length_bytes])

end Framed

/-! ### Attributes -/

structure Attribute where
  type : Nat
  payload : Bytes
  deriving DecidableEq

/-- Where an attribute has its payload. -/
structure AttributeView where
  type : Nat
  offset : Nat
  length : Nat
  deriving DecidableEq

def AttributeView.read (view : AttributeView) (bytes : Bytes) : Attribute :=
  ⟨view.type, slice bytes view.offset view.length⟩

/-- The loop over the attributes from a cursor on; it ends with nothing where they are malformed. -/
def attributeLoop {State : Type} (handle : AttributeView → State → Reading (Option State)) (bytes : Bytes) :
    Nat → Nat → Nat → State → Reading (Option State)
  | 0, _, _, _ => .error .unfinished
  | fuel + 1, cursor, remaining, state =>
      if remaining = 0 then .ok (some state)
      else do
        match ← copyObject bytes cursor 4 with
        | none => return none
        | some raw =>
            let length := leValue (slice raw 0 2)
            if length < 4 ∨ remaining < length then return none
            else
              match ← handle ⟨leValue (slice raw 2 2), cursor + 4, length - 4⟩ state with
              | none => return none
              | some next =>
                  if remaining < rtaAlign length then return none
                  else attributeLoop handle bytes fuel (cursor + rtaAlign length) (remaining - rtaAlign length) next

/-- The attributes of a region, or nothing where they are malformed. -/
def attributeViews (bytes : Bytes) : Nat → Nat → Nat → Option (List AttributeView)
  | 0, _, _ => none
  | fuel + 1, cursor, remaining =>
      if remaining = 0 then some []
      else
        let length := leValue (slice bytes cursor 2)
        if bytes.length < cursor + 4 ∨ length < 4 ∨ remaining < rtaAlign length then none
        else
          (attributeViews bytes fuel (cursor + rtaAlign length) (remaining - rtaAlign length)).map
            (⟨leValue (slice bytes (cursor + 2) 2), cursor + 4, length - 4⟩ :: ·)

/-- Bytes that consist of attributes, each padded with any bytes. -/
inductive Encodes : List Attribute → Bytes → Prop
  | nil : Encodes [] []
  | cons {item : Attribute} {padding rest : Bytes} {items : List Attribute} (type : item.type < 2 ^ 16)
      (length : item.payload.length + 4 < 2 ^ 16)
      (padded : item.payload.length + 4 + padding.length = rtaAlign (item.payload.length + 4))
      (tail : Encodes items rest) :
      Encodes (item :: items)
        (leBytes 2 (item.payload.length + 4) ++ (leBytes 2 item.type ++ (item.payload ++ (padding ++ rest))))

section Attributes

variable {State : Type} {bytes : Bytes} {handle : AttributeView → State → Reading (Option State)}
  {pure : AttributeView → State → Option State} {fuel cursor remaining : Nat} {state : State}
  {views : List AttributeView} {items : List Attribute}

/-- The loop comes to the fold of its handler over the attributes. It ends, and stays within the bytes where the handler
does. -/
theorem attributeLoop_eq
    (hhandle : ∀ view state, view.offset + view.length ≤ bytes.length → handle view state = .ok (pure view state))
    (hbytes : cursor + remaining ≤ bytes.length) (hfuel : remaining < fuel) :
    attributeLoop handle bytes fuel cursor remaining state =
      .ok ((attributeViews bytes fuel cursor remaining).bind fun views => views.foldlM (fun state view => pure view state) state) := by
  induction fuel generalizing cursor remaining state with
  | zero => omega
  | succ fuel ih =>
      rw [attributeLoop, attributeViews]
      by_cases hdone : remaining = 0
      · rw [if_pos hdone, if_pos hdone]
        rfl
      rw [if_neg hdone, if_neg hdone, copyObject_eq]
      by_cases hheader : cursor + 4 ≤ bytes.length
      · have hlength : slice (slice bytes cursor 4) 0 2 = slice bytes cursor 2 := slice_slice bytes (by omega)
        have htype : slice (slice bytes cursor 4) 2 2 = slice bytes (cursor + 2) 2 := slice_slice bytes (by omega)
        rw [if_pos hheader]
        simp only [bind, Except.bind, hlength, htype]
        have hle := le_rtaAlign (leValue (slice bytes cursor 2))
        by_cases hshort : leValue (slice bytes cursor 2) < 4 ∨ remaining < leValue (slice bytes cursor 2)
        · rw [if_pos hshort, if_pos (by omega)]
          rfl
        · rw [if_neg hshort, hhandle _ _ (by dsimp only; omega)]
          by_cases hpadded : remaining < rtaAlign (leValue (slice bytes cursor 2))
          · rw [if_pos (by omega)]
            dsimp only
            split
            · rfl
            · rw [if_pos hpadded]
              rfl
          · rw [if_neg (by omega)]
            dsimp only
            cases hnext : pure ⟨leValue (slice bytes (cursor + 2) 2), cursor + 4, leValue (slice bytes cursor 2) - 4⟩ state with
            | none =>
                cases attributeViews bytes fuel (cursor + rtaAlign (leValue (slice bytes cursor 2)))
                  (remaining - rtaAlign (leValue (slice bytes cursor 2))) with
                | none => rfl
                | some views => simp [hnext]; rfl
            | some next =>
                dsimp only
                rw [if_neg hpadded, ih (by omega) (by omega)]
                cases attributeViews bytes fuel (cursor + rtaAlign (leValue (slice bytes cursor 2)))
                  (remaining - rtaAlign (leValue (slice bytes cursor 2))) with
                | none => rfl
                | some views => simp [hnext]
      · rw [if_neg hheader, if_pos (by omega)]
        rfl

/-- The attributes that are found are those that the region encodes, and lie in it. -/
theorem encodes_of_attributeViews (hbytes : cursor + remaining ≤ bytes.length)
    (h : attributeViews bytes fuel cursor remaining = some views) :
    Encodes (views.map fun view => view.read bytes) (slice bytes cursor remaining) ∧
      ∀ view ∈ views, view.offset + view.length ≤ cursor + remaining := by
  induction fuel generalizing cursor remaining views with
  | zero => simp [attributeViews] at h
  | succ fuel ih =>
      rw [attributeViews] at h
      split at h
      · rename_i hdone
        cases h
        subst hdone
        refine ⟨?_, by simp⟩
        rw [slice, List.take_zero]
        exact .nil
      · dsimp only at h
        split at h
        · simp at h
        · rename_i hbounds
          obtain ⟨rest, hrest, rfl⟩ := Option.map_eq_some_iff.mp h
          generalize hlength : leValue (slice bytes cursor 2) = length at hbounds hrest ⊢
          have hle := le_rtaAlign length
          obtain ⟨hencodes, hin⟩ := ih (by omega) hrest
          have hpayload : (slice bytes (cursor + 4) (length - 4)).length = length - 4 := length_slice (by omega)
          have hpadding : (slice bytes (cursor + length) (rtaAlign length - length)).length = rtaAlign length - length :=
            length_slice (by omega)
          have hsum : length - 4 + 4 = length := by omega
          have hsmall : length < 2 ^ 16 := by
            rw [← hlength]
            exact leValue_slice_lt bytes cursor 2
          have hlengthBytes : leBytes 2 length = slice bytes cursor 2 := by
            rw [← hlength]
            exact leBytes_slice (by omega)
          have htypeBytes : leBytes 2 (leValue (slice bytes (cursor + 2) 2)) = slice bytes (cursor + 2) 2 :=
            leBytes_slice (by omega)
          refine ⟨?_, List.forall_mem_cons.mpr ⟨by dsimp only; omega, fun view hview => ?_⟩⟩
          · have hregion : slice bytes cursor remaining =
                slice bytes cursor 2 ++ (slice bytes (cursor + 2) 2 ++ (slice bytes (cursor + 4) (length - 4) ++
                  (slice bytes (cursor + length) (rtaAlign length - length) ++
                    slice bytes (cursor + rtaAlign length) (remaining - rtaAlign length)))) := by
              have hfirst := slice_append_slice bytes (cursor + length) (rtaAlign length - length) (remaining - rtaAlign length)
              have hsecond := slice_append_slice bytes (cursor + 4) (length - 4) (remaining - length)
              have hthird := slice_append_slice bytes (cursor + 2) 2 (remaining - 4)
              have hfourth := slice_append_slice bytes cursor 2 (remaining - 2)
              rw [show cursor + length + (rtaAlign length - length) = cursor + rtaAlign length by omega,
                show rtaAlign length - length + (remaining - rtaAlign length) = remaining - length by omega] at hfirst
              rw [show cursor + 4 + (length - 4) = cursor + length by omega,
                show length - 4 + (remaining - length) = remaining - 4 by omega] at hsecond
              rw [show cursor + 2 + 2 = cursor + 4 by omega, show 2 + (remaining - 4) = remaining - 2 by omega] at hthird
              rw [show 2 + (remaining - 2) = remaining by omega] at hfourth
              rw [hfirst, hsecond, hthird, hfourth]
            have hcons : Encodes
                (⟨leValue (slice bytes (cursor + 2) 2), slice bytes (cursor + 4) (length - 4)⟩ ::
                  rest.map fun view => view.read bytes)
                (leBytes 2 ((slice bytes (cursor + 4) (length - 4)).length + 4) ++
                  (leBytes 2 (leValue (slice bytes (cursor + 2) 2)) ++ (slice bytes (cursor + 4) (length - 4) ++
                    (slice bytes (cursor + length) (rtaAlign length - length) ++
                      slice bytes (cursor + rtaAlign length) (remaining - rtaAlign length))))) := by
              refine .cons (leValue_slice_lt bytes (cursor + 2) 2) ?_ ?_ hencodes
              · dsimp only
                omega
              · dsimp only
                rw [hpayload, hpadding, hsum]
                omega
            rw [hpayload, hsum, hlengthBytes, htypeBytes, ← hregion] at hcons
            exact hcons
          · have hlast := hin view hview
            omega

/-- What is encoded is found. -/
theorem attributeViews_of_encodes {region : Bytes} (h : Encodes items region)
    (hregion : slice bytes cursor region.length = region) (hbytes : cursor + region.length ≤ bytes.length)
    (hfuel : region.length < fuel) :
    ∃ views, attributeViews bytes fuel cursor region.length = some views ∧
      (views.map fun view => view.read bytes) = items := by
  induction h generalizing cursor fuel with
  | nil =>
      obtain ⟨fuel, rfl⟩ := Nat.exists_eq_succ_of_ne_zero (show fuel ≠ 0 by omega)
      exact ⟨[], by rw [attributeViews]; simp, rfl⟩
  | @cons item padding rest items htype hlength hpadded tail ih =>
      obtain ⟨fuel, rfl⟩ := Nat.exists_eq_succ_of_ne_zero (show fuel ≠ 0 by omega)
      generalize hwhole : leBytes 2 (item.payload.length + 4) ++
        (leBytes 2 item.type ++ (item.payload ++ (padding ++ rest))) = region at hregion hbytes hfuel ⊢
      have hsize : region.length = rtaAlign (item.payload.length + 4) + rest.length := by
        rw [← hwhole]
        simp only [List.length_append, length_leBytes]
        omega
      have hle := le_rtaAlign (item.payload.length + 4)
      have hpart : ∀ offset size, offset + size ≤ region.length →
          slice bytes (cursor + offset) size = slice region offset size := by
        intro offset size hin
        rw [← slice_slice bytes hin, hregion]
      have hreadLength : slice bytes cursor 2 = leBytes 2 (item.payload.length + 4) := by
        have hread := hpart 0 2 (by omega)
        rw [Nat.add_zero] at hread
        rw [hread, ← hwhole]
        exact slice_first (length_leBytes 2 _)
      have hreadType : slice bytes (cursor + 2) 2 = leBytes 2 item.type := by
        rw [hpart 2 2 (by omega), ← hwhole]
        exact (slice_skip (length_leBytes 2 _) 0 2).trans (slice_first (length_leBytes 2 _))
      have hreadPayload : slice bytes (cursor + 4) item.payload.length = item.payload := by
        rw [hpart 4 _ (by omega), ← hwhole]
        exact (slice_skip (length_leBytes 2 _) 2 _).trans ((slice_skip (length_leBytes 2 _) 0 _).trans (slice_first rfl))
      have hreadRest : slice bytes (cursor + rtaAlign (item.payload.length + 4)) rest.length = rest := by
        rw [hpart _ _ (by omega), ← hwhole, show rtaAlign (item.payload.length + 4) =
          2 + (2 + (item.payload.length + (padding.length + 0))) by omega]
        rw [slice_skip (length_leBytes 2 _), slice_skip (length_leBytes 2 _), slice_skip rfl, slice_skip rfl]
        exact slice_all rfl
      obtain ⟨views, hviews, hread⟩ := ih hreadRest (by omega) (by omega : rest.length < fuel)
      have hvalue : leValue (slice bytes cursor 2) = item.payload.length + 4 := by
        rw [hreadLength, leValue_leBytes hlength]
      refine ⟨⟨item.type, cursor + 4, item.payload.length⟩ :: views, ?_, ?_⟩
      · rw [attributeViews, if_neg (by omega)]
        dsimp only
        rw [hvalue, if_neg (by omega), hreadType, leValue_leBytes htype,
          show region.length - rtaAlign (item.payload.length + 4) = rest.length by omega, hviews]
        rfl
      · rw [List.map_cons, hread, AttributeView.read, hreadPayload]

/-- The attributes that a region consists of. -/
def attributes (region : Bytes) : Option (List Attribute) :=
  (attributeViews region (region.length + 1) 0 region.length).map fun views => views.map fun view => view.read region

/-- The attributes of a part of the bytes. -/
theorem attributeViews_read_iff (hbytes : cursor + remaining ≤ bytes.length) (hfuel : remaining < fuel) :
    (attributeViews bytes fuel cursor remaining).map (fun views => views.map fun view => view.read bytes) = some items ↔
      Encodes items (slice bytes cursor remaining) := by
  have hlength : (slice bytes cursor remaining).length = remaining := length_slice hbytes
  rw [Option.map_eq_some_iff]
  constructor
  · rintro ⟨views, hviews, rfl⟩
    exact (encodes_of_attributeViews hbytes hviews).1
  · intro hencodes
    have hfound := attributeViews_of_encodes hencodes (by rw [hlength]) (by omega) (show _ < fuel by omega)
    rwa [hlength] at hfound

theorem attributes_eq_some_iff {region : Bytes} : attributes region = some items ↔ Encodes items region := by
  have hregion : slice region 0 region.length = region := slice_all rfl
  rw [attributes, attributeViews_read_iff (by omega) (by omega), hregion]

theorem attributeViews_read (hbytes : cursor + remaining ≤ bytes.length) (hfuel : remaining < fuel) :
    (attributeViews bytes fuel cursor remaining).map (fun views => views.map fun view => view.read bytes) =
      attributes (slice bytes cursor remaining) := by
  apply Option.ext
  intro items
  rw [attributeViews_read_iff hbytes hfuel, attributes_eq_some_iff]

/-- A region encodes one list of attributes. -/
theorem encodes_unique {region : Bytes} {others : List Attribute} (h : Encodes items region) (hothers : Encodes others region) :
    items = others := by
  rw [← attributes_eq_some_iff] at h hothers
  exact Option.some.inj (h.symm.trans hothers)

/-- The loop with a handler that looks at no more than an attribute has. -/
theorem attributeLoop_fold {handleItem : State → Attribute → Option State}
    (hhandle : ∀ view state, view.offset + view.length ≤ bytes.length →
      handle view state = .ok (handleItem state (view.read bytes)))
    (hbytes : cursor + remaining ≤ bytes.length) (hfuel : remaining < fuel) :
    attributeLoop handle bytes fuel cursor remaining state =
      .ok ((attributes (slice bytes cursor remaining)).bind fun items => items.foldlM handleItem state) := by
  rw [attributeLoop_eq hhandle hbytes hfuel, ← attributeViews_read hbytes hfuel, Option.bind_map]
  congr 2
  funext views
  rw [Function.comp_apply, List.foldlM_map]

/-- The loop with a handler whose states stand for values, and which keeps an invariant. -/
theorem attributeLoop_simulates_invariant {Value : Type} {handleItem : Value → Attribute → Option Value} {value : State → Value}
    {invariant : State → Prop}
    (hhandle : ∀ view state, view.offset + view.length ≤ bytes.length →
      ∃ outcome, handle view state = .ok outcome ∧ outcome.map value = handleItem (value state) (view.read bytes) ∧
        ∀ next, outcome = some next → invariant state → invariant next)
    (hbytes : cursor + remaining ≤ bytes.length) (hfuel : remaining < fuel) :
    ∃ outcome, attributeLoop handle bytes fuel cursor remaining state = .ok outcome ∧
      outcome.map value =
        ((attributes (slice bytes cursor remaining)).bind fun items => items.foldlM handleItem (value state)) ∧
      ∀ last, outcome = some last → invariant state → invariant last := by
  have hpure : ∀ view state, view.offset + view.length ≤ bytes.length →
      handle view state = .ok ((handle view state).toOption.join) := by
    intro view state hin
    obtain ⟨outcome, houtcome, -⟩ := hhandle view state hin
    rw [houtcome]
    rfl
  have hfold : ∀ (views : List AttributeView) (state : State), (∀ view ∈ views, view.offset + view.length ≤ bytes.length) →
      (views.foldlM (fun state view => (handle view state).toOption.join) state).map value =
          (views.map fun view => view.read bytes).foldlM handleItem (value state) ∧
        ∀ last, views.foldlM (fun state view => (handle view state).toOption.join) state = some last →
          invariant state → invariant last := by
    intro views
    induction views with
    | nil =>
        intro state _
        refine ⟨rfl, fun last hlast => ?_⟩
        cases hlast
        exact id
    | cons view views ih =>
        intro state hin
        obtain ⟨hview, hviews⟩ := List.forall_mem_cons.mp hin
        obtain ⟨outcome, houtcome, hvalue, hkeeps⟩ := hhandle view state hview
        rw [List.map_cons, List.foldlM_cons, List.foldlM_cons, ← hvalue, houtcome]
        cases outcome with
        | none => exact ⟨rfl, fun last hnone => nomatch hnone⟩
        | some next =>
            obtain ⟨hrest, hinvariant⟩ := ih next hviews
            exact ⟨hrest, fun last hlast hstate => hinvariant last hlast (hkeeps next rfl hstate)⟩
  refine ⟨_, attributeLoop_eq hpure hbytes hfuel, ?_⟩
  rw [← attributeViews_read hbytes hfuel]
  cases hviews : attributeViews bytes fuel cursor remaining with
  | none => exact ⟨rfl, fun last hnone => nomatch hnone⟩
  | some views =>
      obtain ⟨-, hin⟩ := encodes_of_attributeViews hbytes hviews
      exact hfold views state fun view hview => (hin view hview).trans hbytes

/-- The loop with a handler whose states stand for values. -/
theorem attributeLoop_simulates {Value : Type} {handleItem : Value → Attribute → Option Value} {value : State → Value}
    (hhandle : ∀ view state, view.offset + view.length ≤ bytes.length →
      ∃ outcome, handle view state = .ok outcome ∧ outcome.map value = handleItem (value state) (view.read bytes))
    (hbytes : cursor + remaining ≤ bytes.length) (hfuel : remaining < fuel) :
    ∃ outcome, attributeLoop handle bytes fuel cursor remaining state = .ok outcome ∧
      outcome.map value =
        (attributes (slice bytes cursor remaining)).bind fun items => items.foldlM handleItem (value state) := by
  have hkeeps : ∀ view state, view.offset + view.length ≤ bytes.length →
      ∃ outcome, handle view state = .ok outcome ∧ outcome.map value = handleItem (value state) (view.read bytes) ∧
        ∀ next, outcome = some next → True → True := by
    intro view state hin
    obtain ⟨outcome, houtcome, hvalue⟩ := hhandle view state hin
    exact ⟨outcome, houtcome, hvalue, fun _ _ => id⟩
  obtain ⟨outcome, houtcome, hvalue, -⟩ := attributeLoop_simulates_invariant hkeeps hbytes hfuel
  exact ⟨outcome, houtcome, hvalue⟩

end Attributes

end Netlink
