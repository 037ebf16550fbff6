import Mathlib.Data.Set.Basic
import NetLagLab.RouteDump

/-! What the decoder of the route dump comes to. On a dump of routes it finds a collision if and only if one of them
reaches into the subnet of a Session, however the messages are packed into datagrams; on any bytes it stays within them
and takes only accepted messages for a complete dump. -/

namespace NetLagLab.NetworkEnvironment

open ByteLines CallPrograms CallPrograms.Program FixedWidth Netlink

/-! ### Prefixes -/

/-- The addresses of a prefix agree with it in the bits of its length. With a length beyond 32 it has none. -/
def Ipv4Prefix.addresses (range : Ipv4Prefix) : Set UInt32 :=
  { address | range.length ≤ 32 ∧
    address.toNat / 2 ^ (32 - range.length.toNat) = range.address.toNat / 2 ^ (32 - range.length.toNat) }

section Prefixes

variable {left right : Ipv4Prefix}

theorem testBit_prefixMask {length : UInt8} (h : length ≤ 32) {bit : Nat} (hbit : bit < 32) :
    (prefixMask length).toNat.testBit bit = decide (32 - length.toNat ≤ bit) := by
  have hall : ∀ (value : Fin 256) (bit : Fin 32), UInt8.ofFin value ≤ 32 →
      (prefixMask (UInt8.ofFin value)).toNat.testBit bit = decide (32 - (UInt8.ofFin value).toNat ≤ bit) := by
    decide +kernel
  exact hall length.toFin ⟨bit, hbit⟩ h

/-- Masking keeps the upper bits. -/
theorem and_prefixMask_eq_iff {length : UInt8} (h : length ≤ 32) (first second : UInt32) :
    first &&& prefixMask length = second &&& prefixMask length ↔
      first.toNat / 2 ^ (32 - length.toNat) = second.toNat / 2 ^ (32 - length.toNat) := by
  have hlength : length.toNat ≤ 32 := h
  have hbit : ∀ (value : UInt32) (bit : Nat), (value &&& prefixMask length).toNat.testBit bit =
      (value.toNat.testBit bit && decide (32 - length.toNat ≤ bit)) := by
    intro value bit
    rw [UInt32.toNat_and, Nat.testBit_and]
    by_cases hbit : bit < 32
    · rw [testBit_prefixMask h hbit]
    · have hvalue : value.toNat.testBit bit = false :=
        Nat.testBit_lt_two_pow (value.toNat_lt.trans_le (Nat.pow_le_pow_right (by omega) (by omega)))
      rw [hvalue, Bool.false_and, Bool.false_and]
  rw [← UInt32.toNat_inj, ← Nat.shiftRight_eq_div_pow, ← Nat.shiftRight_eq_div_pow]
  constructor
  · intro heq
    apply Nat.eq_of_testBit_eq
    intro bit
    have hboth := congrArg (fun value => value.testBit (32 - length.toNat + bit)) heq
    simp only [hbit, Nat.le_add_right, decide_true, Bool.and_true] at hboth
    rw [Nat.testBit_shiftRight, Nat.testBit_shiftRight, hboth]
  · intro heq
    apply Nat.eq_of_testBit_eq
    intro bit
    rw [hbit, hbit]
    by_cases hle : 32 - length.toNat ≤ bit
    · have hshifted := congrArg (fun value => value.testBit (bit - (32 - length.toNat))) heq
      simp only [Nat.testBit_shiftRight, Nat.add_sub_cancel' hle] at hshifted
      rw [hshifted]
    · simp [hle]

/-- Two prefixes overlap if and only if they have an address in common. -/
theorem prefixesOverlap_iff (left right : Ipv4Prefix) :
    prefixesOverlap left right = true ↔ (left.addresses ∩ right.addresses).Nonempty := by
  have hcoarse : ∀ {first second : Ipv4Prefix}, first.length ≤ second.length → second.length ≤ 32 →
      (first.address.toNat / 2 ^ (32 - first.length.toNat) = second.address.toNat / 2 ^ (32 - first.length.toNat) ↔
        (first.addresses ∩ second.addresses).Nonempty) := by
    intro first second hle hsecond
    have hlengths : first.length.toNat ≤ second.length.toNat := hle
    have hbound : second.length.toNat ≤ 32 := hsecond
    constructor
    · intro heq
      exact ⟨second.address, ⟨UInt8.le_trans hle hsecond, heq.symm⟩, hsecond, rfl⟩
    · rintro ⟨address, ⟨-, hfirst⟩, -, hboth⟩
      have hsplit : 2 ^ (32 - first.length.toNat) =
          2 ^ (32 - second.length.toNat) * 2 ^ (second.length.toNat - first.length.toNat) := by
        rw [← Nat.pow_add]
        congr 1
        omega
      calc first.address.toNat / 2 ^ (32 - first.length.toNat)
          = address.toNat / 2 ^ (32 - first.length.toNat) := hfirst.symm
        _ = address.toNat / 2 ^ (32 - second.length.toNat) / 2 ^ (second.length.toNat - first.length.toNat) := by
            rw [hsplit, Nat.div_div_eq_div_mul]
        _ = second.address.toNat / 2 ^ (32 - second.length.toNat) /
            2 ^ (second.length.toNat - first.length.toNat) := by
            rw [hboth]
        _ = second.address.toNat / 2 ^ (32 - first.length.toNat) := by
            rw [hsplit, Nat.div_div_eq_div_mul]
  by_cases hlong : 32 < left.length ∨ 32 < right.length
  · rw [prefixesOverlap, if_pos hlong]
    refine ⟨(fun hfalse => nomatch hfalse), ?_⟩
    rintro ⟨address, ⟨hleft, -⟩, hright, -⟩
    rcases hlong with hlong | hlong
    · exact absurd hleft (UInt8.not_le.mpr hlong)
    · exact absurd hright (UInt8.not_le.mpr hlong)
  have hboth := not_or.mp hlong
  have hleft := UInt8.not_lt.mp hboth.1
  have hright := UInt8.not_lt.mp hboth.2
  rw [prefixesOverlap, if_neg hlong]
  dsimp only
  rw [decide_eq_true_eq]
  split
  · rename_i hlt
    rw [and_prefixMask_eq_iff hright, Set.inter_comm, eq_comm]
    exact hcoarse (UInt8.le_of_lt hlt) hleft
  · rename_i hle
    rw [and_prefixMask_eq_iff hleft]
    exact hcoarse (UInt8.not_lt.mp hle) hright

end Prefixes

/-! ### One route -/

/-- What one attribute adds, by its payload. -/
def foundAttribute (found : RouteAttributes) (item : Attribute) : Option RouteAttributes :=
  if item.type = rtaDst then
    if found.destination.isSome = true ∨ item.payload.length ≠ 4 then none
    else some { found with destination := some (UInt32.ofNat (beValue item.payload)) }
  else if item.type = rtaTable then
    if found.hasTable = true ∨ item.payload.length ≠ 4 then none else some { found with hasTable := true }
  else some found

/-- The attributes of a route to a destination: at most one table, and anything that is neither. -/
structure RouteItems (destination : Option UInt32) (items : List Attribute) : Prop where
  destinations : items.filter (fun item => decide (item.type = rtaDst)) =
    destination.toList.map fun address => ⟨rtaDst, beBytes 4 address.toNat⟩
  tables : (items.filter fun item => decide (item.type = rtaTable)).length ≤ 1
  tableLength : ∀ item ∈ items, item.type = rtaTable → item.payload.length = 4

section Routes

variable {message : Bytes} {header : Header} {destination : Option UInt32} {items : List Attribute}
  {found : RouteAttributes}

theorem routeAttribute_eq (view : AttributeView) (found : RouteAttributes)
    (h : view.offset + view.length ≤ message.length) :
    routeAttribute message view found = .ok (foundAttribute found (view.read message)) := by
  have hlength : (slice message view.offset view.length).length = view.length := length_slice h
  simp only [routeAttribute, foundAttribute, AttributeView.read, hlength]
  split
  · split
    · rfl
    · rename_i hfits
      rw [not_or, not_not] at hfits
      rw [copyObject_eq, if_pos (by omega), hfits.2]
      rfl
  · split
    · split
      · rfl
      · rename_i hfits
        rw [not_or, not_not] at hfits
        rw [copyObject_eq, if_pos (by omega)]
        rfl
    · rfl

/-- The status of a route by its attributes. -/
def attributesStatus (destinationLength : Nat) (views : Option (List AttributeView)) (message : Bytes) : RouteDumpStatus :=
  match views.bind fun views => (views.map fun view => view.read message).foldlM foundAttribute {} with
  | none => .malformed
  | some found => routeStatus destinationLength found.destination

theorem inspectRoute_eq (h : header.length ≤ message.length) (hlength : 28 ≤ header.length) :
    inspectRoute message header = .ok
      (if leValue (slice message 16 1) ≠ afInet then .pending
      else if 32 < leValue (slice message 17 1) then .malformed
      else attributesStatus (leValue (slice message 17 1))
        (attributeViews message (header.length - 28 + 1) 28 (header.length - 28)) message) := by
  have hfamily : slice (slice message 16 12) 0 1 = slice message 16 1 := slice_slice message (by omega)
  have hdestination : slice (slice message 16 12) 1 1 = slice message 17 1 := slice_slice message (by omega)
  rw [inspectRoute, if_neg (by omega), copyObject_eq, if_pos (by omega)]
  simp only [Bind.bind, Except.bind, hfamily, hdestination]
  split
  · rfl
  · split
    · rfl
    · rw [attributeLoop_eq (fun view found hin => routeAttribute_eq view found hin) (by omega) (by omega)]
      simp only [attributesStatus, List.foldlM_map]
      cases (attributeViews message (header.length - 28 + 1) 28 (header.length - 28)).bind fun views =>
        views.foldlM (fun found view => foundAttribute found (view.read message)) {} <;> rfl

/-- A route is looked through without leaving the message. -/
theorem inspectRoute_total (h : header.length ≤ message.length) : ∃ status, inspectRoute message header = .ok status := by
  by_cases hlength : 28 ≤ header.length
  · exact ⟨_, inspectRoute_eq h hlength⟩
  · exact ⟨.malformed, if_pos (by omega)⟩

/-- A route alone never completes a dump. -/
theorem inspectRoute_ne_complete (h : header.length ≤ message.length) : inspectRoute message header ≠ .ok .complete := by
  have hrouteStatus : ∀ destinationLength destination, routeStatus destinationLength destination ≠ .complete := by
    intro destinationLength destination
    unfold routeStatus
    split
    · decide
    · split
      · decide
      · split <;> decide
  by_cases hlength : 28 ≤ header.length
  · rw [inspectRoute_eq h hlength, ne_eq, Except.ok.injEq]
    split
    · decide
    · split
      · decide
      · unfold attributesStatus
        split
        · decide
        · exact hrouteStatus _ _
  · rw [inspectRoute, if_pos (by omega)]
    exact fun heq => nomatch heq

/-- The fold over well-formed attributes finds the destination. -/
theorem foldlM_foundAttribute (hdestinations : (items.filter fun item => decide (item.type = rtaDst)).length +
      found.destination.toList.length ≤ 1)
    (hlengths : ∀ item ∈ items, item.type = rtaDst ∨ item.type = rtaTable → item.payload.length = 4)
    (htables : (items.filter fun item => decide (item.type = rtaTable)).length + found.hasTable.toNat ≤ 1) :
    ∃ last, items.foldlM foundAttribute found = some last ∧
      last.destination = ((items.filter fun item => decide (item.type = rtaDst)).head?.map fun item =>
        UInt32.ofNat (beValue item.payload)).or found.destination := by
  induction items generalizing found with
  | nil => exact ⟨found, rfl, by simp⟩
  | cons item items ih =>
      obtain ⟨hitem, hrest⟩ := List.forall_mem_cons.mp hlengths
      rw [List.foldlM_cons]
      by_cases hdst : item.type = rtaDst
      · have hother : item.type ≠ rtaTable := by rw [hdst]; decide
        rw [List.filter_cons_of_pos (by simp [hdst]), List.length_cons] at hdestinations
        rw [List.filter_cons_of_neg (by simp [hother])] at htables
        have hnone : found.destination = none := by
          cases hdestination : found.destination with
          | none => rfl
          | some address => simp [hdestination] at hdestinations
        have hnil : items.filter (fun item => decide (item.type = rtaDst)) = [] :=
          List.length_eq_zero_iff.mp (by omega)
        have hstep : foundAttribute found item =
            some { found with destination := some (UInt32.ofNat (beValue item.payload)) } := by
          simp [foundAttribute, hdst, hnone, hitem (.inl hdst)]
        obtain ⟨last, hlast, hend⟩ := @ih { found with destination := some (UInt32.ofNat (beValue item.payload)) }
          (by simp [hnil]) hrest htables
        refine ⟨last, by rw [hstep]; exact hlast, ?_⟩
        rw [hend, hnil, List.filter_cons_of_pos (by simp [hdst]), hnone]
        simp
      · rw [List.filter_cons_of_neg (by simp [hdst])] at hdestinations ⊢
        by_cases htable : item.type = rtaTable
        · rw [List.filter_cons_of_pos (by simp [htable]), List.length_cons] at htables
          have hfree : found.hasTable = false := by
            cases hseen : found.hasTable with
            | false => rfl
            | true => simp [hseen] at htables
          have hstep : foundAttribute found item = some { found with hasTable := true } := by
            simp [foundAttribute, htable, hfree, hitem (.inr htable), show rtaTable ≠ rtaDst by decide]
          obtain ⟨last, hlast, hend⟩ := @ih { found with hasTable := true } hdestinations hrest
            (by rw [Bool.toNat_true]; omega)
          exact ⟨last, by rw [hstep]; exact hlast, hend⟩
        · rw [List.filter_cons_of_neg (by simp [htable])] at htables
          have hstep : foundAttribute found item = some found := by simp [foundAttribute, hdst, htable]
          obtain ⟨last, hlast, hend⟩ := ih hdestinations hrest htables
          exact ⟨last, by rw [hstep]; exact hlast, hend⟩

theorem foldlM_of_routeItems (h : RouteItems destination items) :
    ∃ last, items.foldlM foundAttribute {} = some last ∧ last.destination = destination := by
  have hlengths : ∀ item ∈ items, item.type = rtaDst ∨ item.type = rtaTable → item.payload.length = 4 := by
    intro item hitem htype
    rcases htype with hdst | htable
    · have hmem : item ∈ items.filter fun item => decide (item.type = rtaDst) :=
        List.mem_filter.mpr ⟨hitem, by simp [hdst]⟩
      rw [h.destinations] at hmem
      obtain ⟨address, -, rfl⟩ := List.mem_map.mp hmem
      exact length_beBytes 4 address.toNat
    · exact h.tableLength item hitem htable
  obtain ⟨last, hlast, hend⟩ := @foldlM_foundAttribute items {}
    (by rw [h.destinations]; cases destination <;> simp) hlengths (by simpa using h.tables)
  refine ⟨last, hlast, ?_⟩
  rw [hend, h.destinations]
  cases destination with
  | none => rfl
  | some address =>
      have hvalue : beValue (beBytes 4 address.toNat) = address.toNat := beValue_beBytes address.toNat_lt
      simp [hvalue]

/-- What is found comes from attributes in which nothing is wrong. -/
theorem routeItems_of_foldlM {last : RouteAttributes} (h : items.foldlM foundAttribute found = some last) :
    (items.filter fun item => decide (item.type = rtaDst)) =
      (if found.destination.isSome = true then [] else
        last.destination.toList.map fun address => ⟨rtaDst, beBytes 4 address.toNat⟩) ∧
    (found.destination.isSome = true → last.destination = found.destination) ∧
    (items.filter fun item => decide (item.type = rtaTable)).length + found.hasTable.toNat ≤ 1 ∧
    ∀ item ∈ items, item.type = rtaTable → item.payload.length = 4 := by
  induction items generalizing found with
  | nil =>
      cases h
      refine ⟨?_, fun _ => rfl, by cases last.hasTable <;> simp, by simp⟩
      cases last.destination <;> simp
  | cons item items ih =>
      rw [List.foldlM_cons] at h
      obtain ⟨next, hnext, hrest⟩ := Option.bind_eq_some_iff.mp h
      obtain ⟨hdestinations, hkept, htables, hlengths⟩ := ih hrest
      rw [List.forall_mem_cons]
      unfold foundAttribute at hnext
      split at hnext
      · rename_i hdst
        have hother : item.type ≠ rtaTable := by rw [hdst]; decide
        split at hnext
        · exact nomatch hnext
        · rename_i hfree
          rw [not_or, not_not, Bool.not_eq_true] at hfree
          cases hnext
          have hlast : last.destination = some (UInt32.ofNat (beValue item.payload)) := hkept rfl
          have hpayload : beBytes 4 (UInt32.ofNat (beValue item.payload)).toNat = item.payload := by
            have hvalue : beValue item.payload < 2 ^ 32 := by
              have hlt := beValue_lt item.payload
              rw [hfree.2] at hlt
              exact hlt
            rw [UInt32.toNat_ofNat', Nat.mod_eq_of_lt hvalue, ← hfree.2, beBytes_beValue]
          have hitem : (⟨rtaDst, item.payload⟩ : Attribute) = item := by rw [← hdst]
          refine ⟨?_, fun hsome => ?_, ?_, fun htable => absurd htable hother, hlengths⟩
          · rw [List.filter_cons_of_pos (by simp [hdst]), hdestinations, hfree.1, hlast, Option.toList_some, List.map_singleton,
              hpayload, hitem]
            rfl
          · rw [hfree.1] at hsome
            exact nomatch hsome
          · rw [List.filter_cons_of_neg (by simp [hother])]
            exact htables
      · rename_i hdst
        rw [List.filter_cons_of_neg (by simp [hdst])]
        split at hnext
        · rename_i htable
          split at hnext
          · exact nomatch hnext
          · rename_i hfree
            rw [not_or, not_not, Bool.not_eq_true] at hfree
            cases hnext
            refine ⟨hdestinations, hkept, ?_, fun _ => hfree.2, hlengths⟩
            rw [List.filter_cons_of_pos (by simp [htable]), List.length_cons, hfree.1, Bool.toNat_false]
            rw [Bool.toNat_true] at htables
            omega
        · rename_i htable
          cases hnext
          refine ⟨hdestinations, hkept, ?_, fun hitem => absurd hitem htable, hlengths⟩
          rw [List.filter_cons_of_neg (by simp [htable])]
          exact htables

end Routes

/-! ### The body of a route -/

/-- A route that is no default route and reaches into the subnet of a Session. -/
def Collides (route : Option Ipv4Prefix) : Prop :=
  ∃ range, route = some range ∧ range.length ≠ 0 ∧ (range.addresses ∩ sessionSubnet.addresses).Nonempty

/-- What stands behind the header of a route: an IPv4 route with its attributes in any order, or a route of another
family. A default route needs no destination. -/
inductive RouteBody : Option Ipv4Prefix → Bytes → Prop
  | ipv4 {range : Ipv4Prefix} {destination : Option UInt32} {items : List Attribute} {fields region : Bytes}
      (length : range.length ≤ 32) (fixed : fields.length = 10) (encodes : Encodes items region)
      (carried : RouteItems destination items)
      (address : destination = some range.address ∨ range.length = 0 ∧ destination = none) :
      RouteBody (some range) (2 :: range.length :: (fields ++ region))
  | other {family : UInt8} {fields : Bytes} (otherFamily : family ≠ 2) (fixed : 11 ≤ fields.length) :
      RouteBody none (family :: fields)

/-- What a route makes of the decoder's status. -/
def RouteOutcome (route : Option Ipv4Prefix) (status : RouteDumpStatus) : Prop :=
  (status = .collision ∧ Collides route) ∨ (status = .pending ∧ ¬ Collides route)

section Bodies

variable {route : Option Ipv4Prefix} {front body : Bytes} {header : Header}

theorem routeOutcome_of_destination {range : Ipv4Prefix} {destination : Option UInt32}
    (haddress : destination = some range.address ∨ range.length = 0 ∧ destination = none) :
    RouteOutcome (some range) (routeStatus range.length.toNat destination) := by
  unfold routeStatus
  by_cases hdefault : range.length = 0
  · rw [if_pos (by rw [hdefault]; rfl)]
    refine .inr ⟨rfl, ?_⟩
    rintro ⟨other, hother, hnonzero, -⟩
    cases hother
    exact hnonzero hdefault
  · have hnonzero : range.length.toNat ≠ 0 := fun hzero => hdefault (UInt8.toNat_inj.mp hzero)
    have hsome : destination = some range.address := by
      rcases haddress with hsome | hnone
      · exact hsome
      · exact absurd hnone.1 hdefault
    have hrange : (⟨range.address, UInt8.ofNat range.length.toNat⟩ : Ipv4Prefix) = range := by
      rw [UInt8.ofNat_toNat]
    have hoverlap := prefixesOverlap_iff range sessionSubnet
    rw [if_neg hnonzero, hsome]
    dsimp only
    rw [hrange]
    split
    · rename_i hover
      exact .inl ⟨rfl, range, rfl, hdefault, hoverlap.mp hover⟩
    · rename_i hapart
      refine .inr ⟨rfl, ?_⟩
      rintro ⟨other, hother, -, hmeets⟩
      cases hother
      exact hapart (hoverlap.mpr hmeets)

theorem inspectRoute_of_body (h : RouteBody route body) (hfront : front.length = 16)
    (hheader : header.length = 16 + body.length) :
    ∃ status, inspectRoute (front ++ body) header = .ok status ∧ RouteOutcome route status := by
  have hread : ∀ offset size, slice (front ++ body) (16 + offset) size = slice body offset size :=
    slice_skip hfront
  have hsize : (front ++ body).length = header.length := by
    rw [List.length_append, hfront, hheader]
  cases h with
  | @ipv4 range destination items fields region hlength hfixed hencodes hcarried haddress =>
      have hbody : (2 :: range.length :: (fields ++ region)).length = 12 + region.length := by
        simp only [List.length_cons, List.length_append, hfixed]
        omega
      have hfamily : leValue (slice (front ++ 2 :: range.length :: (fields ++ region)) 16 1) = 2 := by
        rw [hread 0 1]
        rfl
      have hdestination : leValue (slice (front ++ 2 :: range.length :: (fields ++ region)) 17 1) = range.length.toNat := by
        rw [hread 1 1]
        simp [slice, leValue]
      have hregion : slice (front ++ 2 :: range.length :: (fields ++ region)) 28 region.length = region := by
        have hpair : [2, range.length].length = 2 := rfl
        rw [hread 12 region.length]
        exact (slice_skip hpair (10 + 0) region.length).trans ((slice_skip hfixed 0 region.length).trans (slice_all rfl))
      have hremaining : header.length - 28 = region.length := by omega
      have hin : ¬ 32 < range.length.toNat := Nat.not_lt.mpr hlength
      obtain ⟨views, hviews, hitems⟩ : ∃ views,
          attributeViews (front ++ 2 :: range.length :: (fields ++ region)) (region.length + 1) 28 region.length = some views ∧
            views.map (fun view => view.read (front ++ 2 :: range.length :: (fields ++ region))) = items :=
        attributeViews_of_encodes hencodes hregion (by omega) (by omega)
      obtain ⟨found, hfound, hfoundDestination⟩ := foldlM_of_routeItems hcarried
      refine ⟨routeStatus range.length.toNat destination, ?_, routeOutcome_of_destination haddress⟩
      rw [inspectRoute_eq (by omega) (by omega), hfamily, hdestination, if_neg (by decide), if_neg hin, hremaining,
        attributesStatus, hviews, Option.bind_some, hitems, hfound]
      dsimp only
      rw [hfoundDestination]
  | @other family fields hfamily hfixed =>
      have hbody : (family :: fields).length = 1 + fields.length := by
        rw [List.length_cons]
        omega
      have hread : leValue (slice (front ++ family :: fields) 16 1) = family.toNat := by
        rw [hread 0 1]
        simp [slice, leValue]
      refine ⟨.pending, ?_, .inr ⟨rfl, ?_⟩⟩
      · rw [inspectRoute_eq (by omega) (by omega), if_pos]
        rw [hread]
        exact fun heq => hfamily (UInt8.toNat_inj.mp heq)
      · rintro ⟨range, hrange, -⟩
        cases hrange

/-- Where the loop goes on there is a route that does not collide. -/
theorem routeBody_of_pending (hfront : front.length = 16) (hheader : header.length = 16 + body.length)
    (h : inspectRoute (front ++ body) header = .ok .pending) : ∃ route, RouteBody route body ∧ ¬ Collides route := by
  have hread : ∀ offset size, slice (front ++ body) (16 + offset) size = slice body offset size :=
    slice_skip hfront
  have hsize : (front ++ body).length = header.length := by
    rw [List.length_append, hfront, hheader]
  have hlong : 28 ≤ header.length := by
    by_contra hshort
    rw [inspectRoute, if_pos (by omega)] at h
    cases h
  rw [inspectRoute_eq (by omega) hlong, Except.ok.injEq, hread 0 1, hread 1 1] at h
  rcases body with _ | ⟨family, _ | ⟨length, rest⟩⟩
  · simp at hheader
    omega
  · simp at hheader
    omega
  · simp only [List.length_cons] at hheader
    have hfamily : leValue (slice (family :: length :: rest) 0 1) = family.toNat := by simp [slice, leValue]
    have hdestination : leValue (slice (family :: length :: rest) 1 1) = length.toNat := by simp [slice, leValue]
    rw [hfamily, hdestination] at h
    by_cases hother : family.toNat = afInet
    · obtain rfl : family = 2 := UInt8.toNat_inj.mp hother
      rw [if_neg (not_not.mpr hother)] at h
      split at h
      · cases h
      · rename_i hin
        unfold attributesStatus at h
        split at h
        · cases h
        · rename_i found hfound
          have hlength : length ≤ 32 := Nat.not_lt.mp hin
          obtain ⟨views, hviews, hfold⟩ := Option.bind_eq_some_iff.mp hfound
          obtain ⟨hencodes, -⟩ := encodes_of_attributeViews (by omega) hviews
          obtain ⟨hdestinations, -, htables, hlengths⟩ := routeItems_of_foldlM hfold
          have hregion : slice (front ++ 2 :: length :: rest) 28 (header.length - 28) = rest.drop 10 := by
            rw [hread 12 (header.length - 28)]
            have hall : (rest.drop 10).length = header.length - 28 := by
              rw [List.length_drop]
              omega
            rw [← hall]
            exact List.take_length
          rw [hregion] at hencodes
          have haddress : found.destination = some (found.destination.getD 0) ∨ length = 0 ∧ found.destination = none := by
            cases hdestination : found.destination with
            | some address => exact .inl rfl
            | none =>
                rw [hdestination] at h
                unfold routeStatus at h
                split at h
                · rename_i hzero
                  exact .inr ⟨UInt8.toNat_inj.mp hzero, rfl⟩
                · cases h
          have hbody : RouteBody (some ⟨found.destination.getD 0, length⟩) (2 :: length :: (rest.take 10 ++ rest.drop 10)) := by
            refine .ipv4 hlength ?_ hencodes ⟨hdestinations, ?_, hlengths⟩ haddress
            · rw [List.length_take]
              omega
            · simpa using htables
          rw [List.take_append_drop] at hbody
          refine ⟨_, hbody, ?_⟩
          rcases @routeOutcome_of_destination ⟨found.destination.getD 0, length⟩ _ haddress with ⟨hcollision, -⟩ | ⟨-, hapart⟩
          · rw [h] at hcollision
            cases hcollision
          · exact hapart
    · refine ⟨none, .other (fun hfamily => hother (by rw [hfamily]; rfl)) (by simp; omega), ?_⟩
      rintro ⟨range, hrange, -⟩
      cases hrange

end Bodies

/-! ### One message -/

namespace RouteDumpDecoder

/-- The checks of a header, against the decoder and the bytes behind it. -/
abbrev refuses (decoder : RouteDumpDecoder) (rest : Bytes) (header : Header) : Prop :=
  header.length < 16 ∨ rest.length < header.length ∨ header.sequence ≠ decoder.sequence.toNat
    ∨ header.portId ≠ decoder.portId.toNat ∨ isInterrupted header = true

section Messages

variable {decoder next after : RouteDumpDecoder} {rest bytes message body : Bytes} {header : Header} {aligned : Nat}

theorem consumeDone_ok (h : header.length ≤ message.length) (atEnd : Bool) :
    decoder.consumeDone message header atEnd =
      .ok (if isMultipart header = false ∨ atEnd = false then decoder.malformed
        else if header.length = 16 then { decoder with status := .complete }
        else if header.length < 20 then decoder.malformed
        else if leValue (slice message 16 4) ≠ 0 then decoder.failed (leValue (slice message 16 4))
        else { decoder with status := .complete }) := by
  unfold consumeDone
  split
  · rfl
  · split
    · rfl
    · split
      · rfl
      · rw [copyObject_eq, if_pos (by omega)]
        simp only [Bind.bind, Except.bind]
        split <;> rfl

theorem consumeError_ok (h : header.length ≤ message.length) (atEnd : Bool) :
    ∃ status error, status ≠ .pending ∧ status ≠ .complete ∧
      decoder.consumeError message header atEnd = .ok { decoder with status, errorNumber := error } := by
  unfold consumeError
  split
  · exact ⟨.malformed, decoder.errorNumber, by decide, by decide, rfl⟩
  · rw [copyObject_eq, if_pos (by omega)]
    simp only [Bind.bind, Except.bind]
    split
    · exact ⟨.malformed, decoder.errorNumber, by decide, by decide, rfl⟩
    · exact ⟨.netlinkError, _, by decide, by decide, rfl⟩

/-- A turn of the loop, with its reads done. -/
theorem consumeMessage_eq (hlength : 16 ≤ rest.length) (hheader : readHeader (slice rest 0 16) = header)
    (haccepted : ¬ decoder.refuses rest header) (hpadded : nlmsgAlign header.length ≤ rest.length) :
    decoder.consumeMessage rest =
      if header.type = nlmsgDone then
        (decoder.consumeDone (slice rest 0 header.length) header
          (decide (nlmsgAlign header.length = rest.length))).map (·, 0)
      else if header.type = nlmsgError then
        (decoder.consumeError (slice rest 0 header.length) header
          (decide (nlmsgAlign header.length = rest.length))).map (·, 0)
      else if header.type ≠ rtmNewRoute ∨ isMultipart header = false then .ok (decoder.malformed, 0)
      else (inspectRoute (slice rest 0 header.length) header).map fun status =>
        ({ decoder with status }, nlmsgAlign header.length) := by
  have hwhole : 0 + header.length ≤ rest.length := by
    unfold refuses at haccepted
    omega
  rw [consumeMessage, if_neg (by omega), copyObject_eq, if_pos (by omega)]
  simp only [Bind.bind, Except.bind, hheader]
  rw [if_neg haccepted, memcpy_eq hwhole]
  dsimp only
  rw [if_neg (by omega)]
  split
  · cases decoder.consumeDone (slice rest 0 header.length) header (decide (nlmsgAlign header.length = rest.length)) <;> rfl
  · split
    · cases decoder.consumeError (slice rest 0 header.length) header (decide (nlmsgAlign header.length = rest.length)) <;> rfl
    · split
      · rfl
      · cases inspectRoute (slice rest 0 header.length) header <;> rfl

/-- A turn of the loop that refuses the header. -/
theorem consumeMessage_of_refused
    (h : rest.length < 16 ∨ decoder.refuses rest (readHeader (slice rest 0 16)) ∨
      rest.length < nlmsgAlign (readHeader (slice rest 0 16)).length) :
    decoder.consumeMessage rest = .ok (decoder.malformed, 0) := by
  unfold consumeMessage
  split
  · rfl
  · rename_i hlength
    rw [copyObject_eq, if_pos (by omega)]
    simp only [Bind.bind, Except.bind]
    by_cases hrefused : decoder.refuses rest (readHeader (slice rest 0 16))
    · rw [if_pos hrefused]
      rfl
    · have hwhole : 0 + (readHeader (slice rest 0 16)).length ≤ rest.length := by
        have hnot := hrefused
        unfold refuses at hnot
        omega
      rw [if_neg hrefused, memcpy_eq hwhole]
      dsimp only
      rw [if_pos]
      · rfl
      · rcases h with hshort | hrefuses | hlong
        · omega
        · exact absurd hrefuses hrefused
        · exact hlong

/-- A message of a dump: framed for the decoder, one of several, and not interrupted. -/
inductive DumpMessage (sequence portId : UInt32) (type : Nat) (body message : Bytes) : Prop
  | framed (flags : Nat) (fits : flags < 2 ^ 16) (multipart : flags &&& 0x2 ≠ 0) (whole : flags &&& 0x10 = 0)
      (framed : Framed type flags sequence.toNat portId.toNat body message)

/-- `NLMSG_DONE` without an error. -/
def DoneMessage (sequence portId : UInt32) (message : Bytes) : Prop :=
  ∃ body, DumpMessage sequence portId nlmsgDone body message ∧
    (body = [] ∨ 4 ≤ body.length ∧ leValue (slice body 0 4) = 0)

def RouteMessage (sequence portId : UInt32) (route : Option Ipv4Prefix) (message : Bytes) : Prop :=
  ∃ body, DumpMessage sequence portId rtmNewRoute body message ∧ RouteBody route body

/-- A message with a route that does not collide. -/
def AcceptedRoute (sequence portId : UInt32) (message : Bytes) : Prop :=
  ∃ route, RouteMessage sequence portId route message ∧ ¬ Collides route

theorem nlmsgAlign_of_ne_zero {length : Nat} (hlength : length < 2 ^ 32) (h : nlmsgAlign length ≠ 0) :
    length + 3 < 2 ^ 32 := by
  unfold nlmsgAlign at h
  omega

/-- The bytes of an accepted header are those of a message. -/
theorem dumpMessage_of_header (hheader : readHeader (slice rest 0 16) = header)
    (haccepted : ¬ decoder.refuses rest header) (hmultipart : isMultipart header = true)
    (haligned : nlmsgAlign header.length ≠ 0) (hpadded : nlmsgAlign header.length ≤ rest.length) :
    DumpMessage decoder.sequence decoder.portId header.type (slice rest 16 (header.length - 16))
      (rest.take (nlmsgAlign header.length)) := by
  have hfits : header.Fits := hheader ▸ readHeader_fits _
  have hshort := nlmsgAlign_of_ne_zero hfits.length haligned
  rw [nlmsgAlign_eq hshort] at hpadded ⊢
  have hle := le_rtaAlign header.length
  simp only [refuses, not_or, not_lt, not_not] at haccepted
  obtain ⟨hlength, hin, hsequence, hportId, hwhole⟩ := haccepted
  have hfront : ∀ offset size, offset + size ≤ header.length →
      slice (rest.take (rtaAlign header.length)) offset size = slice rest offset size := by
    intro offset size hbound
    have hread : slice (slice rest 0 (rtaAlign header.length)) offset size = slice rest (0 + offset) size :=
      slice_slice rest (by omega)
    rwa [Nat.zero_add] at hread
  have hread : readHeader (slice (rest.take (rtaAlign header.length)) 0 16) = header := by
    rw [hfront 0 16 (by omega), hheader]
  have hsize : (rest.take (rtaAlign header.length)).length = rtaAlign header.length := by
    rw [List.length_take]
    omega
  have hframed := framed_of_header hread hlength (by rw [nlmsgAlign_eq hshort, hsize]) (by omega)
  rw [hfront 16 (header.length - 16) (by omega), hsequence, hportId] at hframed
  rw [isInterrupted, decide_eq_true_eq, not_not] at hwhole
  exact .framed header.flags hfits.flags (of_decide_eq_true hmultipart) hwhole hframed

/-- What a turn of the loop can come to. Its reads are all within the bytes. -/
theorem consumeMessage_cases (decoder : RouteDumpDecoder) (rest : Bytes) :
    ∃ next aligned, decoder.consumeMessage rest = .ok (next, aligned) ∧
      ((next.status ≠ .pending ∧ next.status ≠ .complete) ∨
        (next = { decoder with status := .complete } ∧ DoneMessage decoder.sequence decoder.portId rest) ∨
        (next = { decoder with status := .pending } ∧
          aligned = nlmsgAlign (readHeader (slice rest 0 16)).length ∧ aligned ≤ rest.length ∧
          16 ≤ (readHeader (slice rest 0 16)).length ∧ (readHeader (slice rest 0 16)).length ≤ rest.length ∧
          (aligned ≠ 0 → AcceptedRoute decoder.sequence decoder.portId (rest.take aligned)))) := by
  by_cases hrefused : rest.length < 16 ∨ decoder.refuses rest (readHeader (slice rest 0 16)) ∨
      rest.length < nlmsgAlign (readHeader (slice rest 0 16)).length
  · exact ⟨_, _, consumeMessage_of_refused hrefused, .inl ⟨by simp [malformed], by simp [malformed]⟩⟩
  · rw [not_or, not_or, not_lt, not_lt] at hrefused
    obtain ⟨hlength, haccepted, hpadded⟩ := hrefused
    generalize hheader : readHeader (slice rest 0 16) = header at haccepted hpadded ⊢
    have hfits := haccepted
    simp only [refuses, not_or, not_lt, not_not] at hfits
    obtain ⟨hlong, hin, -⟩ := hfits
    have hmessage : (slice rest 0 header.length).length = header.length := length_slice (by omega)
    rw [consumeMessage_eq hlength hheader haccepted hpadded]
    split
    · rename_i hdone
      rw [consumeDone_ok (Nat.le_of_eq hmessage.symm)]
      refine ⟨_, 0, rfl, ?_⟩
      split
      · exact .inl ⟨by simp [malformed], by simp [malformed]⟩
      · rename_i hmarked
        rw [not_or, Bool.not_eq_false, Bool.not_eq_false, decide_eq_true_eq] at hmarked
        have hdumped := dumpMessage_of_header hheader haccepted hmarked.1 (by omega) hpadded
        rw [hdone, hmarked.2, List.take_length] at hdumped
        have hbody : (slice rest 16 (header.length - 16)).length = header.length - 16 := length_slice (by omega)
        split
        · rename_i hempty
          refine .inr (.inl ⟨rfl, _, hdumped, .inl ?_⟩)
          rw [← List.length_eq_zero_iff, hbody]
          omega
        · split
          · exact .inl ⟨by simp [malformed], by simp [malformed]⟩
          · split
            · exact .inl ⟨by simp [failed], by simp [failed]⟩
            · rename_i hfour herror
              rw [not_not] at herror
              refine .inr (.inl ⟨rfl, _, hdumped, .inr ⟨by omega, ?_⟩⟩)
              rw [slice_slice rest (by omega)]
              rw [slice_slice rest (by omega)] at herror
              exact herror
    · split
      · obtain ⟨status, error, hpending, hcomplete, heq⟩ := @consumeError_ok decoder _ _ (Nat.le_of_eq hmessage.symm)
          (decide (nlmsgAlign header.length = rest.length))
        rw [heq]
        exact ⟨_, _, rfl, .inl ⟨hpending, hcomplete⟩⟩
      · split
        · exact ⟨_, _, rfl, .inl ⟨by simp [malformed], by simp [malformed]⟩⟩
        · rename_i hroute
          rw [not_or, not_not, Bool.not_eq_false] at hroute
          obtain ⟨status, hstatus⟩ := inspectRoute_total (Nat.le_of_eq hmessage.symm)
          rw [hstatus]
          refine ⟨_, _, rfl, ?_⟩
          have hcomplete : status ≠ .complete := by
            rintro rfl
            exact inspectRoute_ne_complete (Nat.le_of_eq hmessage.symm) hstatus
          by_cases hpending : status = .pending
          · subst hpending
            refine .inr (.inr ⟨rfl, rfl, hpadded, hlong, hin, fun haligned => ?_⟩)
            have hdumped := dumpMessage_of_header hheader haccepted hroute.2 haligned hpadded
            have hbody : (slice rest 16 (header.length - 16)).length = header.length - 16 := length_slice (by omega)
            rw [hroute.1] at hdumped
            have hsplit : slice rest 0 16 ++ slice rest 16 (header.length - 16) = slice rest 0 header.length := by
              have happend := slice_append_slice rest 0 16 (header.length - 16)
              rwa [Nat.zero_add, Nat.add_sub_cancel' hlong] at happend
            rw [← hsplit] at hstatus
            obtain ⟨route, hbodyRoute, hapart⟩ := routeBody_of_pending (length_slice (by omega)) (by omega) hstatus
            exact ⟨route, ⟨_, hdumped, hbodyRoute⟩, hapart⟩
          · exact .inl ⟨hpending, hcomplete⟩

end Messages

end RouteDumpDecoder

end NetLagLab.NetworkEnvironment
