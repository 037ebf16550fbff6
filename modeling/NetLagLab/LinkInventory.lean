import NetLagLab.LinkDecoding

/-! The result on a link depends on nothing but the attributes that are interpreted: not on their order, not on the order
within the information on the link, and not on what else the kernel reports. -/

namespace NetLagLab.NetworkEnvironment

open ByteLines FixedWidth Netlink

def interpretedTypes : List Nat := [iflaIfname, iflaLink, iflaLinkNetnsid, iflaLinkinfo]

def isInterpreted (item : Attribute) : Bool := decide (nlaType item.type ∈ interpretedTypes)

/-- Information with the same kinds in any order, among any other attributes. -/
def SameKinds (information other : Bytes) : Prop :=
  ∃ inner others, Encodes inner information ∧ Encodes others other ∧
    (payloadsOf iflaInfoKind inner).Perm (payloadsOf iflaInfoKind others)

/-- The same attribute, but for what is not interpreted in it. -/
def SameLink (item other : Attribute) : Prop :=
  nlaType item.type = nlaType other.type ∧
    (item.payload = other.payload ∨ nlaType item.type = iflaLinkinfo ∧ SameKinds item.payload other.payload)

/-- The same interpreted attributes in any order, among any other attributes. -/
def SameInterpreted (items others : List Attribute) : Prop :=
  ∃ middle, (items.filter isInterpreted).Perm middle ∧ List.Forall₂ SameLink middle (others.filter isInterpreted)

section Interpreted

variable {items others : List Attribute} {item other : Attribute} {information : Bytes} {type : Nat} {name : Bytes}
  {peerIndex : UInt32} {peerNamespaceId : Option Int32}

theorem SameKinds.symm {information other : Bytes} (h : SameKinds information other) : SameKinds other information := by
  obtain ⟨inner, others, hinner, hothers, hperm⟩ := h
  exact ⟨others, inner, hothers, hinner, hperm.symm⟩

theorem SameLink.refl (item : Attribute) : SameLink item item := ⟨rfl, .inl rfl⟩

theorem SameLink.symm (h : SameLink item other) : SameLink other item := by
  obtain ⟨htype, hsame | ⟨hinformation, hkinds⟩⟩ := h
  · exact ⟨htype.symm, .inl hsame.symm⟩
  · exact ⟨htype.symm, .inr ⟨htype ▸ hinformation, hkinds.symm⟩⟩

theorem SameInterpreted.symm (h : SameInterpreted items others) : SameInterpreted others items := by
  obtain ⟨middle, hperm, hsame⟩ := h
  obtain ⟨between, hbetween, hothers⟩ := List.perm_comp_forall₂ hperm hsame
  have hback : List.Forall₂ (flip SameLink) (items.filter isInterpreted) between :=
    hbetween.imp fun _ _ hboth => hboth.symm
  exact ⟨between, hothers.symm, hback.flip⟩

/-- Of an interpreted type that stands at most once, the payload is the same but for what is not interpreted in it. -/
theorem SameInterpreted.payloads (h : SameInterpreted items others) (htype : type ∈ interpretedTypes)
    (hone : (payloadsOf type items).length ≤ 1) :
    List.Forall₂ (fun payload other => payload = other ∨ type = iflaLinkinfo ∧ SameKinds payload other)
      (payloadsOf type items) (payloadsOf type others) := by
  obtain ⟨middle, hperm, hsame⟩ := h
  have hkept : ∀ item : Attribute, nlaType item.type = type → isInterpreted item = true := by
    intro item hitem
    rw [isInterpreted, hitem, decide_eq_true htype]
  have hitems := payloadsOf_filter hkept items
  rw [← hitems] at hone
  rw [← hitems, payloadsOf_perm hperm hone, ← payloadsOf_filter hkept others]
  have hpayloads := @forall₂_payloadsOf _ _ type _ (fun _ _ hlink => hlink.1) hsame
  apply hpayloads.imp
  rintro _ _ ⟨first, second, rfl, ⟨-, hlink⟩, rfl, rfl⟩
  exact hlink

theorem SameInterpreted.payloads_eq (h : SameInterpreted items others) (htype : type ∈ interpretedTypes)
    (hother : type ≠ iflaLinkinfo) (hone : (payloadsOf type items).length ≤ 1) :
    payloadsOf type items = payloadsOf type others := by
  rw [← List.forall₂_eq_eq_eq]
  apply (h.payloads htype hone).imp
  rintro payload other (hsame | ⟨hinformation, -⟩)
  · exact hsame
  · exact absurd hinformation hother

theorem vethInformation_same {other : Bytes} (h : VethInformation information) (hsame : SameKinds information other) :
    VethInformation other := by
  obtain ⟨inner, hinner, hkinds⟩ := h
  obtain ⟨found, others, hfound, hothers, hperm⟩ := hsame
  obtain rfl := encodes_unique hinner hfound
  rw [hkinds] at hperm
  exact ⟨others, hothers, List.singleton_perm.mp hperm |>.symm⟩

/-- The attributes describe the same link. -/
theorem linkItems_same (h : LinkItems items name peerIndex peerNamespaceId) (hsame : SameInterpreted items others) :
    LinkItems others name peerIndex peerNamespaceId := by
  have hnames := hsame.payloads_eq (show iflaIfname ∈ interpretedTypes by decide) (by decide) (by rw [h.names]; simp)
  have hpeers := hsame.payloads_eq (show iflaLink ∈ interpretedTypes by decide) (by decide) (by rw [h.peers]; simp)
  have hspaces := hsame.payloads_eq (show iflaLinkNetnsid ∈ interpretedTypes by decide) (by decide)
    (by rw [h.namespaces]; cases peerNamespaceId <;> simp)
  obtain ⟨information, hinformation, hveth⟩ := h.information
  have hkinds := hsame.payloads (show iflaLinkinfo ∈ interpretedTypes by decide) (by rw [hinformation]; simp)
  refine ⟨hnames ▸ h.names, h.terminated, hpeers ▸ h.peers, hspaces ▸ h.namespaces, ?_⟩
  rw [hinformation] at hkinds
  obtain ⟨other, rest, hother, hrest, hlist⟩ := List.forall₂_cons_left_iff.mp hkinds
  obtain rfl := List.forall₂_nil_left_iff.mp hrest
  refine ⟨other, hlist, ?_⟩
  rcases hother with rfl | ⟨-, hsameKinds⟩
  · exact hveth
  · exact vethInformation_same hveth hsameKinds

end Interpreted

section Messages

variable {decoder : LinkMessageDecoder} {type flags otherFlags sequence portId : Nat}
  {body message other fixed region changed : Bytes} {items others : List Attribute} {identity : LinkIdentity}

theorem linkBody_same (hfixed : fixed.length = 16) (hitems : Encodes items region) (hothers : Encodes others changed)
    (hsame : SameInterpreted items others) (h : LinkBody decoder (fixed ++ region) identity) :
    LinkBody decoder (fixed ++ changed) identity := by
  have hfield : ∀ tail, slice (fixed ++ tail) 4 4 = slice fixed 4 4 := fun tail => slice_append_left (by omega)
  obtain ⟨-, hindex, hexpected, hpositive, hfits, hconnected, found, hfound, hlink⟩ := h
  rw [← hfixed, List.drop_left] at hfound
  obtain rfl := encodes_unique hitems hfound
  refine ⟨?_, ?_, hexpected, hpositive, hfits, hconnected, others, ?_, linkItems_same hlink hsame⟩
  · rw [List.length_append]
    omega
  · rw [hfield, ← hfield region, hindex]
  · rw [← hfixed, List.drop_left]
    exact hothers

/-- A message on a link, by its body. -/
theorem consume_linkFramed (hframed : Framed rtmNewLink flags sequence portId body message) (hbody : 16 ≤ body.length)
    (hflags : flags < 2 ^ 16) (hsequence : sequence < 2 ^ 32) (hportId : portId < 2 ^ 32) :
    ∃ front header, front.length = 16 ∧ header.length = 16 + body.length ∧
      decoder.consume message =
        if sequence = decoder.sequence.toNat ∧ portId = decoder.portId.toNat then
          (decoder.consumeLink (front ++ body) header).map (decoder, ·)
        else .ok (decoder, LinkMessageDecoder.malformed) := by
  obtain ⟨header, front, hread, htype, hheader, hfront, hsplit, hlength, hrefuses⟩ :=
    @LinkMessageDecoder.header_of_framed decoder _ _ _ _ _ _ hframed (by decide) hflags hsequence hportId
  refine ⟨front, header, hfront, hheader, ?_⟩
  rw [LinkMessageDecoder.consume_eq hlength hread]
  by_cases hours : sequence = decoder.sequence.toNat ∧ portId = decoder.portId.toNat
  · rw [if_neg (by rw [hrefuses]; simp [hours]), if_pos hours, hsplit, htype, if_neg (by decide),
      if_neg (by rw [not_or, not_not, not_lt]; exact ⟨rfl, by omega⟩)]
  · rw [if_pos (hrefuses.mpr hours), if_neg hours]

/-- What is not interpreted does not change the result. -/
theorem consume_sameInterpreted (hfixed : fixed.length = 16) (hitems : Encodes items region)
    (hothers : Encodes others changed) (hsame : SameInterpreted items others)
    (hmessage : Framed rtmNewLink flags sequence portId (fixed ++ region) message)
    (hother : Framed rtmNewLink otherFlags sequence portId (fixed ++ changed) other) (hflags : flags < 2 ^ 16)
    (hotherFlags : otherFlags < 2 ^ 16) (hsequence : sequence < 2 ^ 32) (hportId : portId < 2 ^ 32) :
    decoder.consume message = decoder.consume other := by
  have hlong : ∀ tail, 16 ≤ (fixed ++ tail).length := by
    intro tail
    rw [List.length_append]
    omega
  obtain ⟨front, header, hfront, hheader, hconsume⟩ :=
    @consume_linkFramed decoder _ _ _ _ _ hmessage (hlong region) hflags hsequence hportId
  obtain ⟨otherFront, otherHeader, hotherFront, hotherHeader, hotherConsume⟩ :=
    @consume_linkFramed decoder _ _ _ _ _ hother (hlong changed) hotherFlags hsequence hportId
  obtain ⟨first, hfirst, hfirstCases⟩ :=
    @LinkMessageDecoder.consumeLink_total decoder front (fixed ++ region) header hfront hheader (hlong region)
  obtain ⟨second, hsecond, hsecondCases⟩ :=
    @LinkMessageDecoder.consumeLink_total decoder otherFront (fixed ++ changed) otherHeader hotherFront hotherHeader
      (hlong changed)
  have hequal : first = second := by
    rcases hfirstCases with rfl | ⟨identity, rfl⟩
    · rcases hsecondCases with rfl | ⟨identity, rfl⟩
      · rfl
      · have hbody := (LinkMessageDecoder.consumeLink_iff hotherFront hotherHeader (hlong changed)).mp hsecond
        have hback := linkBody_same hfixed hothers hitems hsame.symm hbody
        rw [(LinkMessageDecoder.consumeLink_iff hfront hheader (hlong region)).mpr hback] at hfirst
        exact (Except.ok.inj hfirst).symm
    · have hbody := (LinkMessageDecoder.consumeLink_iff hfront hheader (hlong region)).mp hfirst
      have hforth := linkBody_same hfixed hitems hothers hsame hbody
      rw [(LinkMessageDecoder.consumeLink_iff hotherFront hotherHeader (hlong changed)).mpr hforth] at hsecond
      exact Except.ok.inj hsecond
  rw [hconsume, hotherConsume, hfirst, hsecond, hequal]

/-- What the decoder reports, for any bytes. -/
theorem consume_reports (decoder : LinkMessageDecoder) (bytes : Bytes) :
    ∃ later query, decoder.consume bytes = .ok (later, query) ∧
      (query.status = .present ↔ ∃ identity, DescribesLink decoder bytes identity) ∧
      (∀ identity, query = ⟨.present, some identity⟩ ↔ DescribesLink decoder bytes identity) ∧
      (query.status = .absent ↔ DeniesDevice decoder bytes) := by
  obtain ⟨later, query, hconsume, hidentity⟩ := decoder.consume_total bytes
  obtain ⟨status, found⟩ := query
  have hpresent : ∀ identity, (⟨status, found⟩ : LinkQuery) = ⟨.present, some identity⟩ ↔
      DescribesLink decoder bytes identity := by
    intro identity
    constructor
    · intro hsame
      rw [hsame] at hconsume
      exact (LinkMessageDecoder.consume_present_iff.mp hconsume).2
    · intro hdescribes
      have hthis := LinkMessageDecoder.consume_present_iff.mpr ⟨rfl, hdescribes⟩
      rw [hconsume] at hthis
      exact congrArg Prod.snd (Except.ok.inj hthis)
  have hdenied : status = .absent ↔ DeniesDevice decoder bytes := by
    rw [← LinkMessageDecoder.consume_absent_iff, hconsume]
    constructor
    · rintro rfl
      cases found with
      | none => exact ⟨later, rfl⟩
      | some identity => exact nomatch hidentity.mpr (Option.some_ne_none identity)
    · rintro ⟨other, hsame⟩
      exact congrArg (fun outcome => outcome.2.status) (Except.ok.inj hsame)
  refine ⟨later, ⟨status, found⟩, hconsume, ?_, hpresent, hdenied⟩
  constructor
  · intro hstatus
    obtain ⟨identity, rfl⟩ := Option.ne_none_iff_exists'.mp (hidentity.mp hstatus)
    obtain rfl : status = .present := hstatus
    exact ⟨identity, (hpresent identity).mp rfl⟩
  · rintro ⟨identity, hdescribes⟩
    exact congrArg LinkQuery.status ((hpresent identity).mpr hdescribes)

/-- The decoder of a link: it ends within its input on any bytes, reports a link present exactly where the bytes are one
message that describes it, with what the message says, reports it absent exactly where the kernel knows no device, and
depends on nothing but the attributes that it interprets. -/
theorem linkDecoding_confirms :
    (∀ (decoder : LinkMessageDecoder) (bytes : Bytes), ∃ later query, decoder.consume bytes = .ok (later, query) ∧
      (query.status = .present ↔ ∃ identity, DescribesLink decoder bytes identity) ∧
      (∀ identity, query = ⟨.present, some identity⟩ ↔ DescribesLink decoder bytes identity) ∧
      (query.status = .absent ↔ DeniesDevice decoder bytes)) ∧
    ∀ (decoder : LinkMessageDecoder) (flags otherFlags sequence portId : Nat) (fixed : Bytes) (items others : List Attribute)
      (region changed message other : Bytes), flags < 2 ^ 16 → otherFlags < 2 ^ 16 → sequence < 2 ^ 32 → portId < 2 ^ 32 →
      fixed.length = 16 → Encodes items region → Encodes others changed → SameInterpreted items others →
      Framed rtmNewLink flags sequence portId (fixed ++ region) message →
      Framed rtmNewLink otherFlags sequence portId (fixed ++ changed) other →
      decoder.consume message = decoder.consume other := by
  refine ⟨consume_reports, ?_⟩
  intro decoder flags otherFlags sequence portId fixed items others region changed message other hflags hotherFlags
    hsequence hportId hfixed hitems hothers hsame hmessage hother
  exact consume_sameInterpreted hfixed hitems hothers hsame hmessage hother hflags hotherFlags hsequence hportId

/-- Link 7 and its peer 6, with a size that is not interpreted. -/
def vethItems : List Attribute :=
  [⟨iflaIfname, ascii "nll-host" ++ [0]⟩, ⟨4, leBytes 4 1500⟩, ⟨iflaLink, leBytes 4 6⟩,
    ⟨iflaLinkinfo, [9, 0, 1, 0] ++ ascii "veth" ++ [0, 0, 0, 0]⟩]

def vethFixed : Bytes := [0, 0, 1, 0] ++ leBytes 4 7 ++ leBytes 4 0 ++ leBytes 4 0

def vethRegion : Bytes :=
  [13, 0, 3, 0] ++ ascii "nll-host" ++ [0, 0, 0, 0] ++ [8, 0, 4, 0] ++ leBytes 4 1500 ++ [8, 0, 5, 0] ++ leBytes 4 6
    ++ [16, 0, 18, 0] ++ [9, 0, 1, 0] ++ ascii "veth" ++ [0, 0, 0, 0]

/-- The interpreted attributes alone, with the last one in front. -/
def shortRegion : Bytes :=
  [16, 0, 18, 0] ++ [9, 0, 1, 0] ++ ascii "veth" ++ [0, 0, 0, 0] ++ [13, 0, 3, 0] ++ ascii "nll-host" ++ [0, 0, 0, 0]
    ++ [8, 0, 5, 0] ++ leBytes 4 6

def vethMessage (region : Bytes) : Bytes := frame rtmNewLink 0 1 0 (vethFixed ++ region) []

theorem linkDecoding_confirms_veth :
    DescribesLink ⟨1, 0, 7, ascii "nll-host", 0⟩ (vethMessage vethRegion) ⟨7, 6, none⟩ ∧
      LinkMessageDecoder.consume ⟨1, 0, 7, ascii "nll-host", 0⟩ (vethMessage vethRegion) =
        LinkMessageDecoder.consume ⟨1, 0, 7, ascii "nll-host", 0⟩ (vethMessage shortRegion) := by
  obtain ⟨hreports, hindependent⟩ := linkDecoding_confirms
  constructor
  · have hconsume : LinkMessageDecoder.consume ⟨1, 0, 7, ascii "nll-host", 0⟩ (vethMessage vethRegion) =
        .ok (⟨1, 0, 7, ascii "nll-host", 0⟩, ⟨.present, some ⟨7, 6, none⟩⟩) := by
      decide
    obtain ⟨later, query, hthis, -, hpresent, -⟩ := hreports ⟨1, 0, 7, ascii "nll-host", 0⟩ (vethMessage vethRegion)
    rw [hconsume] at hthis
    exact (hpresent ⟨7, 6, none⟩).mp (congrArg Prod.snd (Except.ok.inj hthis)).symm
  · have hshort : Encodes ([⟨iflaLinkinfo, [9, 0, 1, 0] ++ ascii "veth" ++ [0, 0, 0, 0]⟩,
        ⟨iflaIfname, ascii "nll-host" ++ [0]⟩, ⟨iflaLink, leBytes 4 6⟩]) shortRegion :=
      attributes_eq_some_iff.mp (by decide)
    have hlong : Encodes vethItems vethRegion := attributes_eq_some_iff.mp (by decide)
    have hsame : SameInterpreted vethItems [⟨iflaLinkinfo, [9, 0, 1, 0] ++ ascii "veth" ++ [0, 0, 0, 0]⟩,
        ⟨iflaIfname, ascii "nll-host" ++ [0]⟩, ⟨iflaLink, leBytes 4 6⟩] :=
      ⟨_, by decide, List.forall₂_same.mpr fun item _ => .refl item⟩
    exact hindependent _ 0 0 1 0 vethFixed _ _ vethRegion shortRegion _ _ (by decide) (by decide) (by decide) (by decide)
      (by decide) hlong hshort hsame (.padded [] (by decide) (by decide))
      (.padded [] (by decide) (by decide))

end Messages

end NetLagLab.NetworkEnvironment
