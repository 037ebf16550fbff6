import NetLagLab.RouteDecoding

/-! The check of the host's addresses and routes against the subnet of a Session: what the decoder of the route dump
reports of a whole dump, and what a preflight that succeeds has seen. -/

namespace NetLagLab.NetworkEnvironment

open ByteLines CallPrograms CallPrograms.Program FixedWidth Netlink

namespace RouteDumpDecoder

/-! ### Messages of a dump -/

section Messages

variable {decoder : RouteDumpDecoder} {sequence portId : UInt32} {type : Nat} {body message rest : Bytes}
  {route : Option Ipv4Prefix}

/-- How a message of a dump is read: its header, and the message without its padding. -/
structure ReadAs (sequence portId : UInt32) (type : Nat) (body message rest : Bytes) (header : Header) (front : Bytes) :
    Prop where
  read : readHeader (slice (message ++ rest) 0 16) = header
  type : header.type = type
  length : header.length = 16 + body.length
  multipart : isMultipart header = true
  whole : isInterrupted header = false
  sequence : header.sequence = sequence.toNat
  portId : header.portId = portId.toNat
  padded : nlmsgAlign header.length = message.length
  fits : header.length ≤ message.length
  frontLength : front.length = 16
  unpadded : slice (message ++ rest) 0 header.length = front ++ body

theorem readAs_of_dumpMessage (h : DumpMessage sequence portId type body message) (htype : type < 2 ^ 16) (rest : Bytes) :
    ∃ header front, ReadAs sequence portId type body message rest header front := by
  obtain ⟨flags, hfits, hmultipart, hwhole, hframed⟩ := h
  obtain ⟨haligned, hle⟩ := hframed.aligned
  exact ⟨_, Header.bytes ⟨16 + body.length, type, flags, sequence.toNat, portId.toNat⟩,
    hframed.readHeader htype hfits sequence.toNat_lt portId.toNat_lt rest, rfl, rfl, by simp [isMultipart, hmultipart],
    by simp [isInterrupted, hwhole], rfl, rfl, haligned, hle, length_bytes _, hframed.unpadded rest⟩

/-- The checks of a header pass for a message of the dump. -/
theorem ReadAs.accepted {header : Header} {front : Bytes}
    (h : ReadAs decoder.sequence decoder.portId type body message rest header front) :
    ¬ decoder.refuses (message ++ rest) header := by
  have hlength := h.length
  have hfits := h.fits
  simp only [refuses, not_or, not_lt, not_not, Bool.not_eq_true, List.length_append]
  exact ⟨by omega, by omega, h.sequence, h.portId, h.whole⟩

/-- A turn of the loop over a route. -/
theorem consumeMessage_of_routeMessage (h : RouteMessage decoder.sequence decoder.portId route message) (rest : Bytes) :
    ∃ status, decoder.consumeMessage (message ++ rest) = .ok ({ decoder with status }, message.length) ∧
      RouteOutcome route status := by
  obtain ⟨body, hmessage, hbody⟩ := h
  obtain ⟨header, front, hread⟩ := readAs_of_dumpMessage hmessage (by decide) rest
  obtain ⟨status, hstatus, houtcome⟩ := inspectRoute_of_body hbody hread.frontLength hread.length
  have hlength := hread.length
  have hfits := hread.fits
  refine ⟨status, ?_, houtcome⟩
  rw [consumeMessage_eq (by rw [List.length_append]; omega) hread.read hread.accepted
      (by rw [hread.padded, List.length_append]; omega), hread.type, if_neg (by decide), if_neg (by decide),
    if_neg (by simp [hread.multipart]), hread.unpadded, hstatus, hread.padded]
  rfl

/-- A turn of the loop over the end of the dump. -/
theorem consumeMessage_of_doneMessage (h : DoneMessage decoder.sequence decoder.portId message) :
    decoder.consumeMessage message = .ok ({ decoder with status := .complete }, 0) := by
  obtain ⟨body, hmessage, hend⟩ := h
  obtain ⟨header, front, hread⟩ := readAs_of_dumpMessage hmessage (by decide) []
  have haccepted := hread.accepted
  have hmessageRead := hread.read
  have hunpadded := hread.unpadded
  have hlength := hread.length
  have hfits := hread.fits
  have hpadded := hread.padded
  rw [List.append_nil] at haccepted hmessageRead hunpadded
  rw [consumeMessage_eq (by omega) hmessageRead haccepted (by omega), hread.type, if_pos rfl, hunpadded,
    consumeDone_ok (by rw [List.length_append, hread.frontLength]; omega), if_neg (by simp [hread.multipart, hpadded])]
  rcases hend with rfl | ⟨hfour, hzero⟩
  · have hempty : header.length = 16 := hlength
    rw [if_pos hempty]
    rfl
  · have hread : slice (front ++ body) (16 + 0) 4 = slice body 0 4 := slice_skip hread.frontLength 0 4
    rw [if_neg (by omega), if_neg (by omega), hread, if_neg (not_not.mpr hzero)]
    rfl

theorem ne_nil_of_dumpMessage (h : DumpMessage sequence portId type body message) : message ≠ [] := by
  obtain ⟨flags, -, -, -, hframed⟩ := h
  have hle := hframed.aligned.2
  exact List.ne_nil_of_length_pos (by omega)

end Messages

/-! ### Whole dumps -/

/-- The datagrams of a dump of routes: each has messages with routes, and the last ends with `NLMSG_DONE`. -/
inductive Dump (sequence portId : UInt32) : List (Option Ipv4Prefix) → List Bytes → Prop
  | last {routes : List (Option Ipv4Prefix)} {messages : List Bytes} {done : Bytes}
      (carried : List.Forall₂ (RouteMessage sequence portId) routes messages) (ended : DoneMessage sequence portId done) :
      Dump sequence portId routes [messages.flatten ++ done]
  | more {routes others : List (Option Ipv4Prefix)} {messages datagrams : List Bytes} (nonempty : messages ≠ [])
      (carried : List.Forall₂ (RouteMessage sequence portId) routes messages) (tail : Dump sequence portId others datagrams) :
      Dump sequence portId (routes ++ others) (messages.flatten :: datagrams)

section Dumps

variable {decoder after : RouteDumpDecoder} {routes : List (Option Ipv4Prefix)} {messages datagrams : List Bytes}
  {done tail bytes : Bytes} {fuel : Nat}

/-- The loop over routes ends with a collision, or comes to what stands behind them. -/
theorem consumeFrom_routes (hpending : decoder.status = .pending)
    (h : List.Forall₂ (RouteMessage decoder.sequence decoder.portId) routes messages)
    (hfuel : (messages.flatten ++ tail).length < fuel) :
    ((∃ route ∈ routes, Collides route) ∧
      consumeFrom fuel decoder (messages.flatten ++ tail) = .ok { decoder with status := .collision }) ∨
    ((∀ route ∈ routes, ¬ Collides route) ∧
      ∃ left, tail.length < left ∧ consumeFrom fuel decoder (messages.flatten ++ tail) = consumeFrom left decoder tail) := by
  induction h generalizing fuel with
  | nil => exact .inr ⟨by simp, fuel, hfuel, rfl⟩
  | @cons route message routes messages hmessage hmessages ih =>
      obtain ⟨fuel, rfl⟩ := Nat.exists_eq_succ_of_ne_zero (show fuel ≠ 0 by omega)
      have hnonempty : message ≠ [] := ne_nil_of_dumpMessage hmessage.choose_spec.1
      have hpositive := List.length_pos_iff.mpr hnonempty
      obtain ⟨status, hstep, houtcome⟩ := consumeMessage_of_routeMessage hmessage (messages.flatten ++ tail)
      rw [List.flatten_cons, List.append_assoc] at hfuel ⊢
      rw [List.length_append] at hfuel
      have hloop : consumeFrom (fuel + 1) decoder (message ++ (messages.flatten ++ tail)) =
          if status ≠ .pending then .ok { decoder with status }
          else consumeFrom fuel { decoder with status } (messages.flatten ++ tail) := by
        rw [consumeFrom, if_neg (by simp [hnonempty]), hstep]
        simp only [Bind.bind, Except.bind, List.drop_left]
        split <;> rfl
      rw [hloop]
      rcases houtcome with ⟨rfl, hcollides⟩ | ⟨rfl, hapart⟩
      · exact .inl ⟨⟨route, List.mem_cons_self, hcollides⟩, rfl⟩
      · have hsame : { decoder with status := .pending } = decoder := by rw [← hpending]
        rw [if_neg (by decide), hsame]
        rcases ih (show (messages.flatten ++ tail).length < fuel by omega) with ⟨⟨other, hother, hcollides⟩, heq⟩ | ⟨hothers, left, hleft, heq⟩
        · exact .inl ⟨⟨other, List.mem_cons_of_mem _ hother, hcollides⟩, heq⟩
        · exact .inr ⟨List.forall_mem_cons.mpr ⟨hapart, hothers⟩, left, hleft, heq⟩

theorem consume_of_pending (hpending : decoder.status = .pending) (hbytes : bytes ≠ []) :
    decoder.consume bytes = consumeFrom (bytes.length + 1) decoder bytes := by
  rw [consume, consumeWithin, if_neg (not_not.mpr hpending), if_neg hbytes]

/-- A status other than pending stays. -/
theorem consumeWithin_of_left (h : decoder.status ≠ .pending) (fuel : Nat) (bytes : Bytes) :
    consumeWithin fuel decoder bytes = .ok decoder :=
  if_pos h

theorem foldlM_consume_of_left (h : decoder.status ≠ .pending) (datagrams : List Bytes) :
    datagrams.foldlM consume decoder = .ok decoder := by
  induction datagrams with
  | nil => rfl
  | cons datagram datagrams ih =>
      rw [List.foldlM_cons, consume, consumeWithin_of_left h]
      exact ih

/-- The decoder of a whole dump ends with a collision if one of its routes collides, and complete otherwise. -/
theorem foldlM_consume_of_dump {sequence portId : UInt32} (h : Dump sequence portId routes datagrams) :
    ((∃ route ∈ routes, Collides route) ∧
      datagrams.foldlM consume ⟨sequence, portId, .pending, 0⟩ = .ok ⟨sequence, portId, .collision, 0⟩) ∨
    ((∀ route ∈ routes, ¬ Collides route) ∧
      datagrams.foldlM consume ⟨sequence, portId, .pending, 0⟩ = .ok ⟨sequence, portId, .complete, 0⟩) := by
  induction h with
  | @last routes messages done hcarried hended =>
      have hnonempty : done ≠ [] := ne_nil_of_dumpMessage hended.choose_spec.1
      have hwhole : messages.flatten ++ done ≠ [] := by simp [hnonempty]
      rw [List.foldlM_cons, consume_of_pending rfl hwhole]
      rcases @consumeFrom_routes ⟨sequence, portId, .pending, 0⟩ routes messages done
          ((messages.flatten ++ done).length + 1) rfl hcarried (Nat.lt_succ_self _) with
        ⟨hcollides, heq⟩ | ⟨hapart, left, hleft, heq⟩
      · refine .inl ⟨hcollides, ?_⟩
        rw [heq]
        rfl
      · obtain ⟨left, rfl⟩ := Nat.exists_eq_succ_of_ne_zero (show left ≠ 0 by omega)
        refine .inr ⟨hapart, ?_⟩
        rw [heq, consumeFrom, if_neg hnonempty, consumeMessage_of_doneMessage hended]
        rfl
  | @more routes others messages datagrams hnonempty hcarried tail ih =>
      have hwhole : messages.flatten ≠ [] := by
        cases hcarried with
        | nil => exact absurd rfl hnonempty
        | cons hmessage hmessages =>
            have hfirst := ne_nil_of_dumpMessage hmessage.choose_spec.1
            simp [hfirst]
      rw [List.foldlM_cons, consume_of_pending rfl hwhole]
      rcases @consumeFrom_routes ⟨sequence, portId, .pending, 0⟩ routes messages [] (messages.flatten.length + 1) rfl hcarried
          (by rw [List.append_nil]; exact Nat.lt_succ_self _) with
        ⟨⟨route, hroute, hcollides⟩, heq⟩ | ⟨hapart, left, hleft, heq⟩
      · rw [List.append_nil] at heq
        refine .inl ⟨⟨route, List.mem_append_left _ hroute, hcollides⟩, ?_⟩
        rw [heq]
        exact foldlM_consume_of_left (by simp) datagrams
      · obtain ⟨left, rfl⟩ := Nat.exists_eq_succ_of_ne_zero (show left ≠ 0 from Nat.ne_of_gt hleft)
        have hsame : consumeFrom (messages.flatten.length + 1) ⟨sequence, portId, .pending, 0⟩ messages.flatten =
            .ok ⟨sequence, portId, .pending, 0⟩ := by
          rw [List.append_nil] at heq
          rw [heq, consumeFrom, if_pos rfl]
          rfl
        rw [hsame]
        rcases ih with ⟨⟨route, hroute, hcollides⟩, hrest⟩ | ⟨hothers, hrest⟩
        · exact .inl ⟨⟨route, List.mem_append_right _ hroute, hcollides⟩, hrest⟩
        · exact .inr ⟨List.forall_mem_append.mpr ⟨hapart, hothers⟩, hrest⟩

end Dumps

/-! ### Any bytes -/

/-- A header that passes the checks and whose length wraps around to 0 when it is aligned. The bytes are 4 GiB. -/
def WrapsAround (bytes : Bytes) : Prop :=
  2 ^ 32 - 3 ≤ (readHeader (slice bytes 0 16)).length ∧ (readHeader (slice bytes 0 16)).length ≤ bytes.length

section AnyBytes

variable {decoder after : RouteDumpDecoder} {messages datagrams : List Bytes} {rest bytes : Bytes} {fuel : Nat}

theorem consumeFrom_ne_outsideInput (fuel : Nat) (decoder : RouteDumpDecoder) (rest : Bytes) :
    consumeFrom fuel decoder rest ≠ .error .outsideInput := by
  induction fuel generalizing decoder rest with
  | zero => exact fun hfalse => nomatch hfalse
  | succ fuel ih =>
      obtain ⟨next, aligned, hstep, -⟩ := consumeMessage_cases decoder rest
      rw [consumeFrom, hstep]
      simp only [Bind.bind, Except.bind]
      split
      · exact fun hfalse => nomatch hfalse
      · split
        · exact fun hfalse => nomatch hfalse
        · exact ih next _

theorem same_of_pending (hpending : decoder.status = .pending) : { decoder with status := .pending } = decoder := by
  rw [← hpending]

/-- Behind routes that do not collide there is a header that wraps around. -/
def ComesToWrap (sequence portId : UInt32) (bytes : Bytes) : Prop :=
  ∃ (messages : List Bytes) (tail : Bytes), bytes = messages.flatten ++ tail ∧
    (∀ message ∈ messages, AcceptedRoute sequence portId message) ∧ WrapsAround tail

/-- The loop ends, unless it comes to a header that wraps around. -/
theorem consumeFrom_total (hpending : decoder.status = .pending) (rest : Bytes) :
    (∃ after, ∀ fuel, rest.length < fuel → consumeFrom fuel decoder rest = .ok after) ∨
    ComesToWrap decoder.sequence decoder.portId rest := by
  induction hlength : rest.length using Nat.strong_induction_on generalizing rest with
  | _ length ih =>
      subst hlength
      have hloop : ∀ fuel, rest.length < fuel → ∃ fewer, fuel = fewer + 1 :=
        fun fuel hfuel => Nat.exists_eq_succ_of_ne_zero (by omega)
      by_cases hempty : rest = []
      · refine .inl ⟨decoder, fun fuel hfuel => ?_⟩
        obtain ⟨fewer, rfl⟩ := hloop fuel hfuel
        exact if_pos hempty
      obtain ⟨next, aligned, hstep, hcases⟩ := consumeMessage_cases decoder rest
      have hturn : ∀ fewer, consumeFrom (fewer + 1) decoder rest =
          if next.status ≠ .pending then .ok next else consumeFrom fewer next (rest.drop aligned) := by
        intro fewer
        rw [consumeFrom, if_neg hempty, hstep]
        rfl
      have hends : next.status ≠ .pending → ∃ after, ∀ fuel, rest.length < fuel → consumeFrom fuel decoder rest = .ok after := by
        intro hleft
        refine ⟨next, fun fuel hfuel => ?_⟩
        obtain ⟨fewer, rfl⟩ := hloop fuel hfuel
        rw [hturn, if_pos hleft]
      rcases hcases with ⟨hleft, -⟩ | ⟨rfl, -⟩ | ⟨rfl, haligned, hin, hlong, hwhole, haccepted⟩
      · exact .inl (hends hleft)
      · exact .inl (hends (by simp))
      rw [same_of_pending hpending] at hturn
      by_cases hzero : aligned = 0
      · refine .inr ⟨[], rest, rfl, by simp, ?_, hwhole⟩
        have hfits := (readHeader_fits (slice rest 0 16)).length
        rw [hzero, nlmsgAlign] at haligned
        omega
      · have hshorter : (rest.drop aligned).length < rest.length := by
          rw [List.length_drop]
          omega
        rcases ih _ hshorter (rest.drop aligned) rfl with ⟨after, hafter⟩ | ⟨messages, tail, hsplit, hall, hwraps⟩
        · refine .inl ⟨after, fun fuel hfuel => ?_⟩
          obtain ⟨fewer, rfl⟩ := hloop fuel hfuel
          rw [hturn, if_neg (not_not.mpr hpending)]
          exact hafter fewer (by omega)
        · refine .inr ⟨rest.take aligned :: messages, tail, ?_, List.forall_mem_cons.mpr ⟨haccepted hzero, hall⟩, hwraps⟩
          rw [List.flatten_cons, List.append_assoc, ← hsplit, List.take_append_drop]

/-- Behind which bytes a decoder is complete, and behind which it goes on. -/
theorem consumeFrom_ok (hpending : decoder.status = .pending) (h : consumeFrom fuel decoder rest = .ok after) :
    (after.status = .complete → ∃ (messages : List Bytes) (done : Bytes), rest = messages.flatten ++ done ∧
      (∀ message ∈ messages, AcceptedRoute decoder.sequence decoder.portId message) ∧
      DoneMessage decoder.sequence decoder.portId done) ∧
    (after.status = .pending → after = decoder ∧ ∃ messages : List Bytes, rest = messages.flatten ∧
      ∀ message ∈ messages, AcceptedRoute decoder.sequence decoder.portId message) := by
  induction fuel generalizing rest with
  | zero => exact nomatch h
  | succ fuel ih =>
      by_cases hempty : rest = []
      · rw [consumeFrom, if_pos hempty] at h
        cases h
        refine ⟨fun hcomplete => ?_, fun _ => ⟨rfl, [], by simp [hempty], by simp⟩⟩
        rw [hpending] at hcomplete
        exact nomatch hcomplete
      obtain ⟨next, aligned, hstep, hcases⟩ := consumeMessage_cases decoder rest
      have hturn : consumeFrom (fuel + 1) decoder rest =
          if next.status ≠ .pending then .ok next else consumeFrom fuel next (rest.drop aligned) := by
        rw [consumeFrom, if_neg hempty, hstep]
        rfl
      rw [hturn] at h
      rcases hcases with ⟨hleft, hincomplete⟩ | ⟨rfl, hdone⟩ | ⟨rfl, -, -, -, -, haccepted⟩
      · rw [if_pos hleft] at h
        cases h
        exact ⟨fun hcomplete => absurd hcomplete hincomplete, fun hstays => absurd hstays hleft⟩
      · rw [if_pos (by simp)] at h
        cases h
        exact ⟨fun _ => ⟨[], rest, rfl, by simp, hdone⟩, fun hstays => nomatch hstays⟩
      · rw [same_of_pending hpending, if_neg (not_not.mpr hpending)] at h
        obtain ⟨hcompletes, hgoesOn⟩ := ih h
        by_cases hzero : aligned = 0
        · rw [hzero, List.drop_zero] at hcompletes hgoesOn
          exact ⟨hcompletes, hgoesOn⟩
        · have hrest : ∀ tail, rest.drop aligned = tail → rest = rest.take aligned ++ tail := by
            rintro tail rfl
            exact (List.take_append_drop aligned rest).symm
          constructor
          · intro hcomplete
            obtain ⟨messages, done, hsplit, hall, hdone⟩ := hcompletes hcomplete
            refine ⟨rest.take aligned :: messages, done, ?_, List.forall_mem_cons.mpr ⟨haccepted hzero, hall⟩, hdone⟩
            rw [List.flatten_cons, List.append_assoc]
            exact hrest _ hsplit
          · intro hstays
            obtain ⟨hsame, messages, hsplit, hall⟩ := hgoesOn hstays
            exact ⟨hsame, rest.take aligned :: messages, hrest _ hsplit, List.forall_mem_cons.mpr ⟨haccepted hzero, hall⟩⟩

theorem routes_of_accepted {sequence portId : UInt32} (h : ∀ message ∈ messages, AcceptedRoute sequence portId message) :
    ∃ routes, List.Forall₂ (RouteMessage sequence portId) routes messages ∧ ∀ route ∈ routes, ¬ Collides route := by
  induction messages with
  | nil => exact ⟨[], .nil, by simp⟩
  | cons message messages ih =>
      obtain ⟨⟨route, hcarried, hapart⟩, hrest⟩ := List.forall_mem_cons.mp h
      obtain ⟨routes, hroutes, hall⟩ := ih hrest
      exact ⟨route :: routes, .cons hcarried hroutes, List.forall_mem_cons.mpr ⟨hapart, hall⟩⟩

/-- The datagrams begin with a whole dump, of routes that do not collide. -/
def BeginsWithClearDump (sequence portId : UInt32) (datagrams : List Bytes) : Prop :=
  ∃ routes taken later, datagrams = taken ++ later ∧ Dump sequence portId routes taken ∧
    ∀ route ∈ routes, ¬ Collides route

theorem beginsWithClearDump_of_complete {sequence portId : UInt32}
    (h : datagrams.foldlM consume ⟨sequence, portId, .pending, 0⟩ = .ok after) (hcomplete : after.status = .complete) :
    BeginsWithClearDump sequence portId datagrams := by
  induction datagrams with
  | nil =>
      cases h
      cases hcomplete
  | cons datagram datagrams ih =>
      rw [List.foldlM_cons] at h
      by_cases hempty : datagram = []
      · rw [hempty, consume, consumeWithin, if_neg (by simp), if_pos rfl] at h
        have hleft : datagrams.foldlM consume (malformed ⟨sequence, portId, .pending, 0⟩) = .ok after := h
        rw [foldlM_consume_of_left (by simp [malformed])] at hleft
        cases hleft
        cases hcomplete
      rw [consume_of_pending rfl hempty] at h
      cases hnext : consumeFrom (datagram.length + 1) ⟨sequence, portId, .pending, 0⟩ datagram with
      | error fault =>
          rw [hnext] at h
          cases h
      | ok next =>
          rw [hnext] at h
          have hrest : datagrams.foldlM consume next = .ok after := h
          obtain ⟨hcompletes, hgoesOn⟩ := consumeFrom_ok rfl hnext
          by_cases hstays : next.status = .pending
          · obtain ⟨rfl, messages, hsplit, hall⟩ := hgoesOn hstays
            obtain ⟨routes, hroutes, hapart⟩ := routes_of_accepted hall
            obtain ⟨others, taken, later, rfl, hdump, hothers⟩ := ih hrest
            refine ⟨routes ++ others, datagram :: taken, later, rfl, ?_, List.forall_mem_append.mpr ⟨hapart, hothers⟩⟩
            rw [hsplit]
            refine .more (fun hnil => hempty ?_) hroutes hdump
            rw [hsplit, hnil, List.flatten_nil]
          · rw [foldlM_consume_of_left hstays] at hrest
            cases hrest
            obtain ⟨messages, done, hsplit, hall, hdone⟩ := hcompletes hcomplete
            obtain ⟨routes, hroutes, hapart⟩ := routes_of_accepted hall
            refine ⟨routes, [datagram], datagrams, rfl, ?_, hapart⟩
            rw [hsplit]
            exact .last hroutes hdone

theorem consumeWithin_total (decoder : RouteDumpDecoder) (bytes : Bytes) :
    (∃ after, ∀ fuel, bytes.length < fuel → consumeWithin fuel decoder bytes = .ok after) ∨
    ComesToWrap decoder.sequence decoder.portId bytes := by
  by_cases hleft : decoder.status = .pending
  · by_cases hempty : bytes = []
    · refine .inl ⟨decoder.malformed, fun fuel _ => ?_⟩
      rw [consumeWithin, if_neg (not_not.mpr hleft), if_pos hempty]
      rfl
    · simp only [consumeWithin, if_neg (not_not.mpr hleft), if_neg hempty]
      exact consumeFrom_total hleft bytes
  · exact .inl ⟨decoder, fun fuel _ => consumeWithin_of_left hleft fuel bytes⟩

theorem consumeWithin_ne_outsideInput (fuel : Nat) (decoder : RouteDumpDecoder) (bytes : Bytes) :
    consumeWithin fuel decoder bytes ≠ .error .outsideInput := by
  unfold consumeWithin
  split
  · exact fun hfalse => nomatch hfalse
  · split
    · exact fun hfalse => nomatch hfalse
    · exact consumeFrom_ne_outsideInput fuel decoder bytes

/-- A route of another family whose length wraps around: the offset never advances. -/
theorem consumeFrom_of_wrap {body : Bytes} (hbody : RouteBody none body) (hlength : 16 + body.length = 2 ^ 32 - 3) (fuel : Nat) :
    consumeFrom fuel ⟨1, 0, .pending, 0⟩ (frame rtmNewRoute 2 1 0 body []) = .error .unfinished := by
  have hfits : (⟨16 + body.length, rtmNewRoute, 2, 1, 0⟩ : Header).Fits :=
    ⟨by dsimp only; omega, by dsimp only [rtmNewRoute]; omega, by dsimp only; omega, by dsimp only; omega,
      by dsimp only; omega⟩
  have hread : readHeader (slice (frame rtmNewRoute 2 1 0 body [] ++ []) 0 16) = ⟨16 + body.length, rtmNewRoute, 2, 1, 0⟩ :=
    readHeader_frame hfits []
  have hsize : (frame rtmNewRoute 2 1 0 body []).length = 16 + body.length := by
    rw [frame, List.append_nil, List.length_append, length_bytes]
  have hwhole : slice (frame rtmNewRoute 2 1 0 body []) 0 (16 + body.length) =
      Header.bytes ⟨16 + body.length, rtmNewRoute, 2, 1, 0⟩ ++ body := by
    rw [slice_all hsize, frame, List.append_nil]
  have haligned : nlmsgAlign (16 + body.length) = 0 := by
    rw [hlength]
    rfl
  have haccepted : ¬ (⟨1, 0, .pending, 0⟩ : RouteDumpDecoder).refuses (frame rtmNewRoute 2 1 0 body [])
      ⟨16 + body.length, rtmNewRoute, 2, 1, 0⟩ := by
    simp only [refuses, hsize, not_or]
    exact ⟨by omega, by omega, by decide, by decide, by simp [isInterrupted]⟩
  obtain ⟨status, hstatus, houtcome⟩ := @inspectRoute_of_body none (Header.bytes ⟨16 + body.length, rtmNewRoute, 2, 1, 0⟩)
    body ⟨16 + body.length, rtmNewRoute, 2, 1, 0⟩ hbody (length_bytes _) rfl
  have hpending : status = .pending := by
    rcases houtcome with ⟨-, range, hrange, -⟩ | ⟨hpending, -⟩
    · cases hrange
    · exact hpending
  rw [List.append_nil] at hread
  have hturn : consumeMessage ⟨1, 0, .pending, 0⟩ (frame rtmNewRoute 2 1 0 body []) = .ok (⟨1, 0, .pending, 0⟩, 0) := by
    rw [consumeMessage_eq (by omega) hread haccepted (by dsimp only; omega)]
    dsimp only
    rw [if_neg (by decide), if_neg (by decide), if_neg (by simp [isMultipart]), hwhole, hstatus, hpending, haligned]
    rfl
  have hnonempty : frame rtmNewRoute 2 1 0 body [] ≠ [] := by
    intro hnil
    rw [hnil, List.length_nil] at hsize
    omega
  induction fuel with
  | zero => rfl
  | succ fuel ih =>
      rw [consumeFrom, if_neg hnonempty, hturn]
      exact ih

end AnyBytes

end RouteDumpDecoder

/-! ### The preflight -/

section Preflight

variable {deadline : TimePoint} {trace : List (Event PreflightCall PreflightAnswer)} {result : PreflightResult}
  {prefixes : List Ipv4Prefix}

theorem run_askHost {α : Type} {request : PreflightCall} {next : PreflightAnswer request → PreflightProgram α} {value : α} :
    Run (askHost request >>= next) trace value ↔
      ∃ answer rest, trace = ⟨request, answer⟩ :: rest ∧ Run (next answer) rest value :=
  run_call

/-- The listed prefixes are valid, and none has an address in the subnet of a Session. -/
theorem checkPrefixes_eq_none (h : checkPrefixes prefixes = none) :
    ∀ listed ∈ prefixes, listed.length ≤ 32 ∧ ¬ (listed.addresses ∩ sessionSubnet.addresses).Nonempty := by
  induction prefixes with
  | nil => simp
  | cons listed prefixes ih =>
      rw [checkPrefixes] at h
      split at h
      · exact nomatch h
      · rename_i hvalid
        split at h
        · exact nomatch h
        · rename_i hapart
          rw [prefixesOverlap_iff] at hapart
          exact List.forall_mem_cons.mpr ⟨⟨UInt8.not_lt.mp hvalid, hapart⟩, ih h⟩

/-- A preflight that succeeds has listed the addresses, and has had a complete dump of the routes. -/
theorem runPreflight_succeeded (h : Run (runPreflight deadline) trace result) (hsucceeded : result.succeeded = true) :
    ∃ addresses, ⟨.queryAddresses, addresses⟩ ∈ trace ∧ ⟨.queryRoutes deadline, .complete⟩ ∈ trace ∧
      addresses.succeeded = true ∧ checkPrefixes addresses.prefixes = none := by
  have hrefused : ∀ {cause : Cause} {rest : List (Event PreflightCall PreflightAnswer)},
      ¬ Run (.done (refused cause)) rest result := by
    intro cause rest hrun
    obtain ⟨-, rfl⟩ := run_done.mp hrun
    exact nomatch hsucceeded
  obtain ⟨privileged, afterPrivileged, rfl, hprivileged⟩ := run_askHost.mp h
  split at hprivileged
  · exact absurd hprivileged hrefused
  obtain ⟨selecting, tool, afterTool, rfl, -, htool⟩ := run_bind.mp hprivileged
  cases tool with
  | error cause => exact absurd htool hrefused
  | ok selectedTool =>
      obtain ⟨namespaceName, afterNamespace, rfl, hnamespace⟩ := run_askHost.mp htool
      split at hnamespace
      · exact absurd hnamespace hrefused
      obtain ⟨hostName, afterHost, rfl, hhost⟩ := run_askHost.mp hnamespace
      split at hhost
      · exact absurd hhost hrefused
      obtain ⟨sessionName, afterSession, rfl, hsession⟩ := run_askHost.mp hhost
      split at hsession
      · exact absurd hsession hrefused
      obtain ⟨addresses, afterAddresses, rfl, haddresses⟩ := run_askHost.mp hsession
      split at haddresses
      · exact absurd haddresses hrefused
      rename_i hlisted
      split at haddresses
      · exact absurd haddresses hrefused
      rename_i hchecked
      obtain ⟨routes, afterRoutes, rfl, hroutes⟩ := run_askHost.mp haddresses
      have hcomplete : routes = .complete := by
        cases routes with
        | complete => rfl
        | pending | collision | netlinkError | timeout | malformed => exact absurd hroutes hrefused
      subst hcomplete
      exact ⟨addresses, by simp, by simp, by simpa using hlisted, hchecked⟩

end Preflight

/-! ### The guard of the subnet -/

open RouteDumpDecoder in
/-- The decoder decides whether a route of a dump reaches into the subnet; on any bytes it stays within them, comes to
an end short of 4 GiB, and is complete only behind a dump. A preflight succeeds only after a listing of the
addresses and a complete dump of the routes, where no address that was listed and no such route reaches into the
subnet. -/
theorem routeDump_guardsSubnet :
    (∀ left right, prefixesOverlap left right = true ↔ (left.addresses ∩ right.addresses).Nonempty) ∧
    (∀ sequence portId routes datagrams, Dump sequence portId routes datagrams →
      ∃ after, datagrams.foldlM consume ⟨sequence, portId, .pending, 0⟩ = .ok after ∧
        (after.status = .collision ↔ ∃ route ∈ routes, Collides route) ∧
        (after.status ≠ .collision → after.status = .complete)) ∧
    (∀ fuel decoder bytes, consumeWithin fuel decoder bytes ≠ .error .outsideInput) ∧
    (∀ decoder bytes, (∃ after, ∀ fuel, bytes.length < fuel → consumeWithin fuel decoder bytes = .ok after) ∨
      ComesToWrap decoder.sequence decoder.portId bytes) ∧
    (∀ fuel decoder bytes, decoder.status ≠ .pending → consumeWithin fuel decoder bytes = .ok decoder) ∧
    (∀ sequence portId datagrams after, datagrams.foldlM consume ⟨sequence, portId, .pending, 0⟩ = .ok after →
      after.status = .complete → BeginsWithClearDump sequence portId datagrams) ∧
    ∀ deadline trace result, Run (runPreflight deadline) trace result → result.succeeded = true →
      ∃ addresses routes, ⟨.queryAddresses, addresses⟩ ∈ trace ∧ ⟨.queryRoutes deadline, routes⟩ ∈ trace ∧
        addresses.succeeded = true ∧ routes = .complete ∧
        (∀ listed ∈ addresses.prefixes, listed.length ≤ 32 ∧ ¬ (listed.addresses ∩ sessionSubnet.addresses).Nonempty) ∧
        ∀ sequence portId datagrams after, datagrams.foldlM consume ⟨sequence, portId, .pending, 0⟩ = .ok after →
          after.status = routes → BeginsWithClearDump sequence portId datagrams := by
  refine ⟨prefixesOverlap_iff, ?_, consumeWithin_ne_outsideInput, consumeWithin_total, ?_, ?_, ?_⟩
  · intro sequence portId routes datagrams hdump
    rcases foldlM_consume_of_dump hdump with ⟨hcollides, heq⟩ | ⟨hapart, heq⟩
    · exact ⟨_, heq, ⟨fun _ => hcollides, fun _ => rfl⟩, fun hother => absurd rfl hother⟩
    · refine ⟨_, heq, ⟨(fun hstatus => nomatch hstatus), ?_⟩, fun _ => rfl⟩
      rintro ⟨route, hroute, hcollides⟩
      exact absurd hcollides (hapart route hroute)
  · intro fuel decoder bytes hleft
    exact consumeWithin_of_left hleft fuel bytes
  · intro sequence portId datagrams after heq hcomplete
    exact beginsWithClearDump_of_complete heq hcomplete
  · intro deadline trace result hrun hsucceeded
    obtain ⟨addresses, haddresses, hroutes, hlisted, hchecked⟩ := runPreflight_succeeded hrun hsucceeded
    refine ⟨addresses, .complete, haddresses, hroutes, hlisted, rfl, checkPrefixes_eq_none hchecked, ?_⟩
    intro sequence portId datagrams after heq hcomplete
    exact beginsWithClearDump_of_complete heq hcomplete

/-- A dump of the route to 10.0.0.0/8, in a single datagram. -/
def broadRouteBody : Bytes := 2 :: 8 :: (List.replicate 10 0 ++ [8, 0, 1, 0, 10, 0, 0, 0])

def broadRouteDatagram : Bytes := frame rtmNewRoute 2 1 0 broadRouteBody [] ++ frame nlmsgDone 2 1 0 [0, 0, 0, 0] []

theorem dump_broadRoute : RouteDumpDecoder.Dump 1 0 [some ⟨0x0a000000, 8⟩] [broadRouteDatagram] := by
  have hitems : Encodes [⟨rtaDst, [10, 0, 0, 0]⟩] [8, 0, 1, 0, 10, 0, 0, 0] :=
    @Encodes.cons ⟨rtaDst, [10, 0, 0, 0]⟩ [] [] [] (by decide) (by decide) (by decide) .nil
  have hbody : RouteBody (some ⟨0x0a000000, 8⟩) broadRouteBody :=
    .ipv4 (by decide) rfl hitems ⟨by decide, by decide, by decide⟩ (.inl rfl)
  have hroute : RouteDumpDecoder.RouteMessage 1 0 (some ⟨0x0a000000, 8⟩) (frame rtmNewRoute 2 1 0 broadRouteBody []) :=
    ⟨broadRouteBody, .framed 2 (by decide) (by decide) (by decide) (.padded [] (by decide) (by decide)), hbody⟩
  have hdone : RouteDumpDecoder.DoneMessage 1 0 (frame nlmsgDone 2 1 0 [0, 0, 0, 0] []) :=
    ⟨[0, 0, 0, 0], .framed 2 (by decide) (by decide) (by decide) (.padded [] (by decide) (by decide)),
      .inr ⟨by decide, by decide⟩⟩
  exact .last (.cons hroute .nil) hdone

/-- The calls of a preflight on a host with one address, with their answers. -/
def preflightTrace : List (Event PreflightCall PreflightAnswer) :=
  [⟨.privileged, true⟩, ⟨.queryTool (ascii "/usr/sbin/ip"), ⟨.present, ⟨true, 0, 0o755⟩⟩⟩, ⟨.queryNamespaceName, .absent⟩,
    ⟨.queryLinkName (ascii "nll-host"), .absent⟩, ⟨.queryLinkName (ascii "nll-app"), .absent⟩,
    ⟨.queryAddresses, ⟨true, [⟨0xc0a80005, 24⟩]⟩⟩, ⟨.queryRoutes 9, .complete⟩]

theorem routeDump_guardsSubnet_broadRoute :
    (∃ after, [broadRouteDatagram].foldlM RouteDumpDecoder.consume ⟨1, 0, .pending, 0⟩ = .ok after ∧
      after.status = .collision) ∧
    ∃ addresses : AddressQuery, ⟨.queryAddresses, addresses⟩ ∈ preflightTrace ∧
      ∀ listed ∈ addresses.prefixes, ¬ (listed.addresses ∩ sessionSubnet.addresses).Nonempty := by
  obtain ⟨hoverlaps, hdumps, -, -, -, -, hpreflight⟩ := routeDump_guardsSubnet
  obtain ⟨after, hafter, hcollision, -⟩ := hdumps 1 0 _ _ dump_broadRoute
  have hmeets := (hoverlaps ⟨0x0a000000, 8⟩ sessionSubnet).mp (by decide)
  have hrun : Run (runPreflight 9) preflightTrace ⟨true, .systemFailure, ascii "/usr/sbin/ip"⟩ :=
    run_of_follow (by decide)
  obtain ⟨addresses, routes, haddresses, -, -, -, hlisted, -⟩ := hpreflight 9 preflightTrace _ hrun rfl
  have hcollides : ∃ route ∈ [some (⟨0x0a000000, 8⟩ : Ipv4Prefix)], Collides route :=
    ⟨_, List.mem_singleton_self _, _, rfl, by decide, hmeets⟩
  exact ⟨⟨after, hafter, hcollision.mpr hcollides⟩, addresses, haddresses, fun listed hmem => (hlisted listed hmem).2⟩

/-- A decoder does not come to an end on every byte string: not on a route of another family of 2³² - 3 bytes. -/
theorem not_consume_terminates :
    ¬ ∀ decoder bytes, ∃ fuel after, RouteDumpDecoder.consumeWithin fuel decoder bytes = .ok after := by
  intro h
  obtain ⟨body, hbody, hlength⟩ : ∃ body, RouteBody none body ∧ 16 + body.length = 2 ^ 32 - 3 := by
    refine ⟨10 :: List.replicate (2 ^ 32 - 20) 0, .other (by decide) ?_, ?_⟩
    · rw [List.length_replicate]
      omega
    · rw [List.length_cons, List.length_replicate]
      omega
  obtain ⟨fuel, after, heq⟩ := h ⟨1, 0, .pending, 0⟩ (frame rtmNewRoute 2 1 0 body [])
  have hnonempty : frame rtmNewRoute 2 1 0 body [] ≠ [] := by simp [frame, Header.bytes, leBytes]
  rw [RouteDumpDecoder.consumeWithin, if_neg (by simp), if_neg hnonempty,
    RouteDumpDecoder.consumeFrom_of_wrap hbody hlength] at heq
  cases heq

end NetLagLab.NetworkEnvironment
