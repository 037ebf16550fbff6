import NetLagLab.AttributeSelection
import NetLagLab.LinkMessage

/-! What the decoder of a link makes of its message: a link is present if and only if the bytes are one message on the
expected link, with its name, its peer and the kind veth. What the decoder does not interpret has no influence, and a
link is absent only where the kernel knows no device. -/

namespace NetLagLab.NetworkEnvironment

open ByteLines FixedWidth Netlink

/-! ### The kind -/

/-- The attributes within the information on a veth: one kind, and anything else. -/
def VethInformation (information : Bytes) : Prop :=
  ∃ inner, Encodes inner information ∧ payloadsOf iflaInfoKind inner = [ascii "veth" ++ [0]]

instance (information : Bytes) : Decidable (VethInformation information) :=
  decidable_of_iff (∃ inner ∈ attributes information, payloadsOf iflaInfoKind inner = [ascii "veth" ++ [0]])
    (by simp only [VethInformation, Option.mem_def, attributes_eq_some_iff])

def vethText (payload : Bytes) : Option Bytes := (stringValue payload).filter fun kind => kind = ascii "veth"

def vethReaders (type : Nat) : Option (Bytes → Option Bytes) := if type = iflaInfoKind then some vethText else none

def vethSelection (foundKind : Bool) : Selection := fun type =>
  if type = iflaInfoKind ∧ foundKind = true then some (ascii "veth") else none

section Selects

variable {read : Bytes → Option Bytes} {payloads : List Bytes} {payload value : Bytes}

theorem selects_none_some : Selects read none payloads (some value) ↔ ∃ payload, payloads = [payload] ∧ read payload = some value := by
  cases payloads with
  | nil => simp [selects_nil]
  | cons payload payloads => cases payloads <;> simp [selects_cons, selects_nil]

theorem selects_none_none : Selects read none payloads none ↔ payloads = [] := by
  cases payloads with
  | nil => simp [selects_nil]
  | cons payload payloads => cases payloads <;> simp [selects_cons, selects_nil]

end Selects

section Kinds

variable {message information : Bytes} {view : AttributeView} {offset length : Nat} {foundKind : Bool}

theorem vethText_eq_some_iff {payload value : Bytes} :
    vethText payload = some value ↔ payload = ascii "veth" ++ [0] ∧ value = ascii "veth" := by
  rw [vethText, Option.filter_eq_some_iff, stringValue_eq_some_iff, decide_eq_true_eq]
  constructor
  · rintro ⟨⟨rfl, -⟩, rfl⟩
    exact ⟨rfl, rfl⟩
  · rintro ⟨rfl, rfl⟩
    exact ⟨⟨rfl, by decide⟩, rfl⟩

theorem vethAttribute_eq (h : view.offset + view.length ≤ message.length) :
    ∃ outcome : Option Bool, vethAttribute message view foundKind = .ok outcome ∧
      outcome.map vethSelection = selectItem vethReaders (vethSelection foundKind) (view.read message) := by
  unfold vethAttribute selectItem AttributeView.read
  dsimp only
  by_cases hkind : nlaType view.type = iflaInfoKind
  · have hfound : (vethSelection foundKind iflaInfoKind).isSome = foundKind := by
      cases foundKind <;> rfl
    have hupdate : vethSelection true = Function.update (vethSelection foundKind) iflaInfoKind (some (ascii "veth")) := by
      funext type
      by_cases hsame : type = iflaInfoKind
      · simp [vethSelection, hsame]
      · simp [vethSelection, hsame]
    rw [if_pos hkind, hkind, vethReaders, if_pos rfl]
    dsimp only
    rw [hfound, stringAttribute_eq h]
    cases foundKind with
    | true => exact ⟨none, rfl, rfl⟩
    | false =>
        cases hvalue : stringValue (slice message view.offset view.length) with
        | none => exact ⟨none, rfl, by simp [vethText, hvalue]⟩
        | some kind =>
            by_cases hveth : kind = ascii "veth"
            · refine ⟨some true, ?_, ?_⟩
              · dsimp only [Bind.bind, Except.bind]
                rw [if_neg (not_not.mpr hveth)]
                rfl
              · simp [vethText, hvalue, hveth, hupdate, Option.filter]
            · refine ⟨none, ?_, ?_⟩
              · dsimp only [Bind.bind, Except.bind]
                rw [if_pos hveth]
                rfl
              · simp [vethText, hvalue, hveth, Option.filter]
  · rw [if_neg hkind, vethReaders, if_neg hkind]
    exact ⟨some foundKind, rfl, rfl⟩

theorem selected_veth_iff {inner : List Attribute} :
    inner.foldlM (selectItem vethReaders) (vethSelection false) = some (vethSelection true) ↔
      payloadsOf iflaInfoKind inner = [ascii "veth" ++ [0]] := by
  have hkind : Selects vethText none (payloadsOf iflaInfoKind inner) (some (ascii "veth")) ↔
      payloadsOf iflaInfoKind inner = [ascii "veth" ++ [0]] := by
    simp [selects_none_some, vethText_eq_some_iff]
  rw [foldlM_selectItem_iff, ← hkind]
  constructor
  · intro hall
    exact hall iflaInfoKind
  · intro hthis type
    by_cases hsame : type = iflaInfoKind
    · rw [hsame]
      exact hthis
    · simp [vethReaders, vethSelection, hsame]

/-- The kind is found where it is the only one, and the information is otherwise well formed. -/
theorem vethKind_eq (h : offset + length ≤ message.length) :
    vethKind message offset length = .ok (decide (VethInformation (slice message offset length))) := by
  obtain ⟨outcome, houtcome, hselected⟩ :=
    attributeLoop_simulates (fun view foundKind hin => vethAttribute_eq hin) h (Nat.lt_succ_self length)
  have hfound : VethInformation (slice message offset length) → outcome.map vethSelection = some (vethSelection true) := by
    rintro ⟨inner, hencodes, hkinds⟩
    rw [hselected, attributes_eq_some_iff.mpr hencodes, Option.bind_some, selected_veth_iff.mpr hkinds]
  rw [vethKind, houtcome]
  cases outcome with
  | none =>
      rw [decide_eq_false fun hveth => nomatch hfound hveth]
      rfl
  | some foundKind =>
      cases foundKind with
      | false =>
          have hnot : ¬VethInformation (slice message offset length) := by
            intro hveth
            have hsame := congrFun (Option.some.inj (hfound hveth)) iflaInfoKind
            exact absurd hsame (by decide)
          rw [decide_eq_false hnot]
          rfl
      | true =>
          obtain ⟨inner, hinner, hfold⟩ := Option.bind_eq_some_iff.mp hselected.symm
          have hveth : VethInformation (slice message offset length) :=
            ⟨inner, attributes_eq_some_iff.mp hinner, selected_veth_iff.mp hfold⟩
          rw [decide_eq_true hveth]
          rfl

end Kinds

/-! ### The attributes of a link -/

def fourBytes (payload : Bytes) : Option Bytes := if payload.length = 4 then some payload else none

def vethMark (information : Bytes) : Option Bytes := if VethInformation information then some [] else none

def linkReaders (type : Nat) : Option (Bytes → Option Bytes) :=
  if type = iflaIfname then some stringValue
  else if type = iflaLink then some fourBytes
  else if type = iflaLinkNetnsid then some fourBytes
  else if type = iflaLinkinfo then some vethMark
  else none

/-- What was found, as it stands in the payloads. -/
def LinkAttributes.selection (found : LinkAttributes) : Selection := fun type =>
  if type = iflaIfname then found.name
  else if type = iflaLink then found.peerIndex.map fun index => leBytes 4 index.toNat
  else if type = iflaLinkNetnsid then found.peerNamespaceId.map fun identifier => leBytes 4 identifier.toUInt32.toNat
  else if type = iflaLinkinfo then (if found.hasKind = true then some [] else none)
  else none

section Attributes

variable {message : Bytes} {view : AttributeView} {found other : LinkAttributes} {items : List Attribute} {remaining : Nat}

theorem selection_name (value : Bytes) : LinkAttributes.selection { found with name := some value } =
    Function.update found.selection iflaIfname (some value) := by
  funext type
  by_cases hsame : type = iflaIfname
  · simp [LinkAttributes.selection, hsame]
  · simp [LinkAttributes.selection, hsame]

theorem selection_peerIndex (value : UInt32) : LinkAttributes.selection { found with peerIndex := some value } =
    Function.update found.selection iflaLink (some (leBytes 4 value.toNat)) := by
  funext type
  by_cases hsame : type = iflaLink
  · simp [LinkAttributes.selection, hsame, show iflaLink ≠ iflaIfname by decide]
  · simp [LinkAttributes.selection, hsame]

theorem selection_peerNamespaceId (value : Int32) :
    LinkAttributes.selection { found with peerNamespaceId := some value } =
      Function.update found.selection iflaLinkNetnsid (some (leBytes 4 value.toUInt32.toNat)) := by
  funext type
  by_cases hsame : type = iflaLinkNetnsid
  · simp [LinkAttributes.selection, hsame, show iflaLinkNetnsid ≠ iflaIfname by decide,
      show iflaLinkNetnsid ≠ iflaLink by decide]
  · simp [LinkAttributes.selection, hsame]

theorem selection_hasKind : LinkAttributes.selection { found with hasKind := true } =
    Function.update found.selection iflaLinkinfo (some []) := by
  funext type
  by_cases hsame : type = iflaLinkinfo
  · simp [LinkAttributes.selection, hsame, show iflaLinkinfo ≠ iflaIfname by decide,
      show iflaLinkinfo ≠ iflaLink by decide, show iflaLinkinfo ≠ iflaLinkNetnsid by decide]
  · simp [LinkAttributes.selection, hsame]

theorem leBytes_ofNat {payload : Bytes} (h : payload.length = 4) :
    leBytes 4 (UInt32.ofNat (leValue payload)).toNat = payload := by
  have hlt : leValue payload < 2 ^ 32 := by
    have hvalue := leValue_lt payload
    rw [h] at hvalue
    exact hvalue
  have hvalue : (UInt32.ofNat (leValue payload)).toNat = leValue payload := UInt32.toNat_ofNat_of_lt hlt
  rw [hvalue, ← h, leBytes_leValue]

/-- A field of four bytes is read from the payload. -/
theorem copyObject_payload (h : view.offset + view.length ≤ message.length) (hfour : view.length = 4) :
    copyObject message view.offset 4 = .ok (some (slice message view.offset view.length)) := by
  rw [copyObject_eq, if_pos (by omega), hfour]

theorem linkAttribute_eq (h : view.offset + view.length ≤ message.length) :
    ∃ outcome : Option LinkAttributes, linkAttribute message view found = .ok outcome ∧
      outcome.map LinkAttributes.selection = selectItem linkReaders found.selection (view.read message) := by
  have hlength : (slice message view.offset view.length).length = view.length := length_slice h
  unfold linkAttribute selectItem AttributeView.read
  dsimp only
  by_cases hname : nlaType view.type = iflaIfname
  · have hsome : found.selection iflaIfname = found.name := rfl
    rw [if_pos hname, hname, linkReaders, if_pos rfl, hsome]
    by_cases hfound : found.name.isSome = true
    · rw [if_pos hfound]
      exact ⟨none, rfl, by simp [hfound]⟩
    · rw [if_neg hfound, stringAttribute_eq h]
      cases hvalue : stringValue (slice message view.offset view.length) with
      | none => exact ⟨none, rfl, by simp [hvalue]⟩
      | some value => exact ⟨_, rfl, by simp [hfound, hvalue, selection_name]⟩
  rw [if_neg hname]
  by_cases hpeer : nlaType view.type = iflaLink
  · have hsome : (found.selection iflaLink).isSome = found.peerIndex.isSome := by
      simp [LinkAttributes.selection, show iflaLink ≠ iflaIfname by decide]
    have hreader : linkReaders iflaLink = some fourBytes := rfl
    rw [if_pos hpeer, hpeer, hreader]
    dsimp only
    rw [hsome, fourBytes, hlength]
    by_cases hfound : found.peerIndex.isSome = true
    · rw [if_pos (.inl hfound), if_pos hfound]
      exact ⟨none, rfl, rfl⟩
    · rw [if_neg hfound]
      by_cases hfour : view.length = 4
      · rw [if_neg (by simp [hfound, hfour]), copyObject_payload h hfour, if_pos hfour]
        refine ⟨_, rfl, ?_⟩
        rw [Option.map_some, Option.map_some, selection_peerIndex, leBytes_ofNat (hlength.trans hfour)]
      · rw [if_pos (.inr hfour), if_neg hfour]
        exact ⟨none, rfl, rfl⟩
  rw [if_neg hpeer]
  by_cases hspace : nlaType view.type = iflaLinkNetnsid
  · have hsome : (found.selection iflaLinkNetnsid).isSome = found.peerNamespaceId.isSome := by
      simp [LinkAttributes.selection, show iflaLinkNetnsid ≠ iflaIfname by decide,
        show iflaLinkNetnsid ≠ iflaLink by decide]
    have hreader : linkReaders iflaLinkNetnsid = some fourBytes := rfl
    rw [if_pos hspace, hspace, hreader]
    dsimp only
    rw [hsome, fourBytes, hlength]
    by_cases hfound : found.peerNamespaceId.isSome = true
    · rw [if_pos (.inl hfound), if_pos hfound]
      exact ⟨none, rfl, rfl⟩
    · rw [if_neg hfound]
      by_cases hfour : view.length = 4
      · rw [if_neg (by simp [hfound, hfour]), copyObject_payload h hfour, if_pos hfour]
        refine ⟨_, rfl, ?_⟩
        rw [Option.map_some, Option.map_some, selection_peerNamespaceId, UInt32.toUInt32_toInt32,
          leBytes_ofNat (hlength.trans hfour)]
      · rw [if_pos (.inr hfour), if_neg hfour]
        exact ⟨none, rfl, rfl⟩
  rw [if_neg hspace]
  by_cases hinformation : nlaType view.type = iflaLinkinfo
  · have hsome : (found.selection iflaLinkinfo).isSome = found.hasKind := by
      cases hkind : found.hasKind <;> simp [LinkAttributes.selection, hkind, show iflaLinkinfo ≠ iflaIfname by decide,
        show iflaLinkinfo ≠ iflaLink by decide, show iflaLinkinfo ≠ iflaLinkNetnsid by decide]
    have hreader : linkReaders iflaLinkinfo = some vethMark := rfl
    rw [if_pos hinformation, hinformation, hreader]
    dsimp only
    rw [hsome, vethMark, vethKind_eq h]
    by_cases hfound : found.hasKind = true
    · rw [if_pos hfound, if_pos hfound]
      exact ⟨none, rfl, rfl⟩
    · rw [if_neg hfound, if_neg hfound]
      by_cases hveth : VethInformation (slice message view.offset view.length)
      · rw [if_pos hveth, decide_eq_true hveth]
        refine ⟨_, rfl, ?_⟩
        rw [Option.map_some, Option.map_some, selection_hasKind]
      · rw [if_neg hveth, decide_eq_false hveth]
        exact ⟨none, rfl, rfl⟩
  rw [if_neg hinformation, linkReaders, if_neg hname, if_neg hpeer, if_neg hspace, if_neg hinformation]
  exact ⟨some found, rfl, rfl⟩

theorem linkAttributes_loop (h : 32 + remaining ≤ message.length) :
    ∃ outcome : Option LinkAttributes,
      attributeLoop (linkAttribute message) message (remaining + 1) 32 remaining {} = .ok outcome ∧
      outcome.map LinkAttributes.selection = (attributes (slice message 32 remaining)).bind fun items =>
        items.foldlM (selectItem linkReaders) (LinkAttributes.selection {}) := by
  exact attributeLoop_simulates (fun view found hin => linkAttribute_eq hin) h (Nat.lt_succ_self remaining)

/-- The payloads say what was found. -/
theorem selection_injective (h : found.selection = other.selection) : found = other := by
  have hname : found.name = other.name := congrFun h iflaIfname
  have hpeer : found.peerIndex.map (fun index => leBytes 4 index.toNat) =
      other.peerIndex.map fun index => leBytes 4 index.toNat := congrFun h iflaLink
  have hspace : found.peerNamespaceId.map (fun identifier => leBytes 4 identifier.toUInt32.toNat) =
      other.peerNamespaceId.map fun identifier => leBytes 4 identifier.toUInt32.toNat := congrFun h iflaLinkNetnsid
  have hkind : (if found.hasKind = true then some ([] : Bytes) else none) = if other.hasKind = true then some [] else none :=
    congrFun h iflaLinkinfo
  have hindex : Function.Injective fun index : UInt32 => leBytes 4 index.toNat := by
    intro first second hsame
    have hvalue := congrArg leValue hsame
    dsimp only at hvalue
    rw [leValue_leBytes first.toNat_lt, leValue_leBytes second.toNat_lt] at hvalue
    exact UInt32.toNat_inj.mp hvalue
  have hidentifier : Function.Injective fun identifier : Int32 => leBytes 4 identifier.toUInt32.toNat := by
    intro first second hsame
    exact congrArg UInt32.toInt32 (hindex hsame)
  obtain ⟨name, peerIndex, peerNamespaceId, hasKind⟩ := found
  obtain ⟨otherName, otherIndex, otherIdentifier, otherKind⟩ := other
  rw [LinkAttributes.mk.injEq]
  refine ⟨hname, Option.map_injective hindex hpeer, Option.map_injective hidentifier hspace, ?_⟩
  cases hasKind <;> cases otherKind <;> simp_all

end Attributes

/-- The attributes of a link: one name, one peer, at most one namespace of the peer, one information on a veth, and
anything else. -/
structure LinkItems (items : List Attribute) (name : Bytes) (peerIndex : UInt32) (peerNamespaceId : Option Int32) : Prop where
  names : payloadsOf iflaIfname items = [name ++ [0]]
  terminated : 0 ∉ name
  peers : payloadsOf iflaLink items = [leBytes 4 peerIndex.toNat]
  namespaces : payloadsOf iflaLinkNetnsid items =
    (peerNamespaceId.map fun identifier => leBytes 4 identifier.toUInt32.toNat).toList
  information : ∃ information, payloadsOf iflaLinkinfo items = [information] ∧ VethInformation information

section Items

variable {items : List Attribute} {found : LinkAttributes} {name : Bytes} {peerIndex : UInt32}
  {peerNamespaceId : Option Int32} {payloads : List Bytes}

theorem selected_link_iff : Selected linkReaders (LinkAttributes.selection {}) items found.selection ↔
    Selects stringValue none (payloadsOf iflaIfname items) (found.selection iflaIfname) ∧
      Selects fourBytes none (payloadsOf iflaLink items) (found.selection iflaLink) ∧
      Selects fourBytes none (payloadsOf iflaLinkNetnsid items) (found.selection iflaLinkNetnsid) ∧
      Selects vethMark none (payloadsOf iflaLinkinfo items) (found.selection iflaLinkinfo) := by
  constructor
  · intro h
    exact ⟨h iflaIfname, h iflaLink, h iflaLinkNetnsid, h iflaLinkinfo⟩
  · rintro ⟨hname, hpeer, hspace, hinformation⟩ type
    by_cases hisName : type = iflaIfname
    · rw [hisName]
      exact hname
    by_cases hisPeer : type = iflaLink
    · rw [hisPeer]
      exact hpeer
    by_cases hisSpace : type = iflaLinkNetnsid
    · rw [hisSpace]
      exact hspace
    by_cases hisInformation : type = iflaLinkinfo
    · rw [hisInformation]
      exact hinformation
    · simp [linkReaders, LinkAttributes.selection, hisName, hisPeer, hisSpace, hisInformation]

theorem selects_fourBytes {value : Nat} :
    Selects fourBytes none payloads (some (leBytes 4 value)) ↔ payloads = [leBytes 4 value] := by
  have hread : ∀ payload, fourBytes payload = some (leBytes 4 value) ↔ payload = leBytes 4 value := by
    intro payload
    rw [fourBytes]
    constructor
    · intro h
      split at h
      · exact Option.some.inj h
      · cases h
    · rintro rfl
      rw [if_pos (length_leBytes 4 value)]
  simp [selects_none_some, hread]

/-- What the attributes of a veth come to. -/
theorem linkItems_iff :
    items.foldlM (selectItem linkReaders) (LinkAttributes.selection {}) =
        some (LinkAttributes.selection ⟨some name, some peerIndex, peerNamespaceId, true⟩) ↔
      LinkItems items name peerIndex peerNamespaceId := by
  have hname : Selects stringValue none (payloadsOf iflaIfname items) (some name) ↔
      payloadsOf iflaIfname items = [name ++ [0]] ∧ 0 ∉ name := by
    simp [selects_none_some, stringValue_eq_some_iff]
  have hspace : Selects fourBytes none (payloadsOf iflaLinkNetnsid items)
        (peerNamespaceId.map fun identifier => leBytes 4 identifier.toUInt32.toNat) ↔
      payloadsOf iflaLinkNetnsid items =
        (peerNamespaceId.map fun identifier => leBytes 4 identifier.toUInt32.toNat).toList := by
    cases peerNamespaceId with
    | none => exact selects_none_none
    | some identifier => exact selects_fourBytes
  have hinformation : Selects vethMark none (payloadsOf iflaLinkinfo items) (some []) ↔
      ∃ information, payloadsOf iflaLinkinfo items = [information] ∧ VethInformation information := by
    simp [selects_none_some, vethMark]
  rw [foldlM_selectItem_iff, selected_link_iff]
  constructor
  · rintro ⟨hnames, hpeers, hspaces, hkinds⟩
    obtain ⟨hlisted, hterminated⟩ := hname.mp hnames
    exact ⟨hlisted, hterminated, selects_fourBytes.mp hpeers, hspace.mp hspaces, hinformation.mp hkinds⟩
  · intro h
    exact ⟨hname.mpr ⟨h.names, h.terminated⟩, selects_fourBytes.mpr h.peers, hspace.mpr h.namespaces,
      hinformation.mpr h.information⟩

end Items

/-! ### Messages -/

/-- A message for the decoder. -/
def LinkFrame (decoder : LinkMessageDecoder) (type : Nat) (body message : Bytes) : Prop :=
  ∃ flags < 2 ^ 16, Framed type flags decoder.sequence.toNat decoder.portId.toNat body message

/-- The body of a message on the expected link; the index of a link is a positive `int`. -/
structure LinkBody (decoder : LinkMessageDecoder) (body : Bytes) (identity : LinkIdentity) : Prop where
  length : 16 ≤ body.length
  index : leValue (slice body 4 4) = identity.index.toNat
  expected : identity.index = decoder.expectedIndex
  positive : 0 < identity.index.toNat
  fits : identity.index.toNat < 2 ^ 31
  connected : identity.peerIndex ≠ 0
  carried : ∃ items, Encodes items (body.drop 16) ∧
    LinkItems items decoder.expectedName identity.peerIndex identity.peerNamespaceId

/-- The bytes are one message that describes the expected link. -/
def DescribesLink (decoder : LinkMessageDecoder) (bytes : Bytes) (identity : LinkIdentity) : Prop :=
  ∃ body, LinkFrame decoder rtmNewLink body bytes ∧ LinkBody decoder body identity

/-- The bytes are one message with the error ENODEV or ENXIO. -/
def DeniesDevice (decoder : LinkMessageDecoder) (bytes : Bytes) : Prop :=
  ∃ body, LinkFrame decoder nlmsgError body bytes ∧ 20 ≤ body.length ∧
    (errorMagnitude (leValue (slice body 0 4)) = 19 ∨ errorMagnitude (leValue (slice body 0 4)) = 6)

namespace LinkMessageDecoder

/-- The checks of a header. -/
abbrev refuses (decoder : LinkMessageDecoder) (bytes : Bytes) (header : Header) : Prop :=
  header.length < 16 ∨ bytes.length < header.length ∨ nlmsgAlign header.length ≠ bytes.length
    ∨ header.sequence ≠ decoder.sequence.toNat ∨ header.portId ≠ decoder.portId.toNat

section Bodies

variable {decoder : LinkMessageDecoder} {front body : Bytes} {header : Header} {identity : LinkIdentity}
  {found : LinkAttributes}

theorem identify_cases (decoder : LinkMessageDecoder) (found : LinkAttributes) :
    decoder.identify found = malformed ∨ ∃ identity, decoder.identify found = ⟨.present, some identity⟩ := by
  unfold identify
  split
  · split
    · exact .inl rfl
    · exact .inr ⟨_, rfl⟩
  · exact .inl rfl

theorem identify_iff : decoder.identify found = ⟨.present, some identity⟩ ↔
    identity.index = decoder.expectedIndex ∧ identity.peerIndex ≠ 0 ∧
      found = ⟨some decoder.expectedName, some identity.peerIndex, identity.peerNamespaceId, true⟩ := by
  obtain ⟨index, peerIndex, peerNamespaceId⟩ := identity
  obtain ⟨name, foundIndex, foundIdentifier, hasKind⟩ := found
  unfold identify
  cases name with
  | none => simp [malformed]
  | some name =>
      cases foundIndex with
      | none => simp [malformed]
      | some foundIndex =>
          dsimp only
          by_cases hrefused : name ≠ decoder.expectedName ∨ foundIndex = 0 ∨ hasKind = false
          · rw [if_pos hrefused]
            constructor
            · intro h
              exact nomatch h
            · rintro ⟨-, hconnected, hsame⟩
              cases hsame
              simp [hconnected] at hrefused
          · rw [if_neg hrefused]
            simp only [not_or, not_not, Bool.not_eq_false] at hrefused
            obtain ⟨rfl, hconnected, rfl⟩ := hrefused
            constructor
            · intro h
              cases h
              exact ⟨rfl, hconnected, rfl⟩
            · rintro ⟨rfl, -, hsame⟩
              cases hsame
              rfl

/-- The decoder of a link, by the body. -/
theorem consumeLink_eq (hfront : front.length = 16) (hheader : header.length = 16 + body.length) (hbody : 16 ≤ body.length) :
    decoder.consumeLink (front ++ body) header =
      if leValue (slice body 4 4) = 0 ∨ 2 ^ 31 ≤ leValue (slice body 4 4)
          ∨ leValue (slice body 4 4) ≠ decoder.expectedIndex.toNat then .ok malformed
      else
        attributeLoop (linkAttribute (front ++ body)) (front ++ body) (body.length - 16 + 1) 32 (body.length - 16) {} >>= fun
          | none => .ok malformed
          | some found => .ok (decoder.identify found) := by
  have hfield : slice (slice (front ++ body) 16 16) 4 4 = slice body 4 4 := by
    rw [slice_slice (front ++ body) (by omega)]
    exact slice_skip hfront 4 4
  have hremaining : header.length - 32 = body.length - 16 := by omega
  unfold consumeLink
  rw [copyObject_eq, if_pos (by rw [List.length_append]; omega)]
  simp only [Bind.bind, Except.bind, hfield, hremaining]
  rfl

/-- The loop over the attributes, by the body. -/
theorem linkAttributes_body (hfront : front.length = 16) (hbody : 16 ≤ body.length) :
    ∃ outcome : Option LinkAttributes,
      attributeLoop (linkAttribute (front ++ body)) (front ++ body) (body.length - 16 + 1) 32 (body.length - 16) {} =
        .ok outcome ∧
      outcome.map LinkAttributes.selection = (attributes (body.drop 16)).bind fun items =>
        items.foldlM (selectItem linkReaders) (LinkAttributes.selection {}) := by
  have hregion : slice (front ++ body) 32 (body.length - 16) = body.drop 16 := by
    have hskip : slice (front ++ body) (16 + 16) (body.length - 16) = slice body 16 (body.length - 16) := slice_skip hfront 16 _
    rw [hskip, slice, ← List.length_drop, List.take_length]
  rw [← hregion]
  exact linkAttributes_loop (by rw [List.length_append]; omega)

theorem consumeLink_total (hfront : front.length = 16) (hheader : header.length = 16 + body.length)
    (hbody : 16 ≤ body.length) :
    ∃ query, decoder.consumeLink (front ++ body) header = .ok query ∧
      (query = malformed ∨ ∃ identity, query = ⟨.present, some identity⟩) := by
  rw [consumeLink_eq hfront hheader hbody]
  split
  · exact ⟨_, rfl, .inl rfl⟩
  · obtain ⟨outcome, houtcome, -⟩ := linkAttributes_body hfront hbody
    rw [houtcome]
    cases outcome with
    | none => exact ⟨_, rfl, .inl rfl⟩
    | some found => exact ⟨_, rfl, identify_cases decoder found⟩

/-- The body describes the link that the decoder reports. -/
theorem consumeLink_iff (hfront : front.length = 16) (hheader : header.length = 16 + body.length)
    (hbody : 16 ≤ body.length) :
    decoder.consumeLink (front ++ body) header = .ok ⟨.present, some identity⟩ ↔ LinkBody decoder body identity := by
  have hmalformed : ¬(.ok malformed : Reading LinkQuery) = .ok ⟨.present, some identity⟩ := by
    intro h
    exact nomatch h
  obtain ⟨outcome, houtcome, hselected⟩ := linkAttributes_body hfront hbody
  rw [consumeLink_eq hfront hheader hbody, houtcome]
  constructor
  · intro h
    split at h
    · exact absurd h hmalformed
    · rename_i hindex
      simp only [not_or, not_not, not_le] at hindex
      obtain ⟨hpositive, hfits, hexpected⟩ := hindex
      cases outcome with
      | none => exact absurd h hmalformed
      | some found =>
          obtain ⟨hsame, hconnected, rfl⟩ := identify_iff.mp (Except.ok.inj h)
          obtain ⟨items, hitems, hfold⟩ := Option.bind_eq_some_iff.mp hselected.symm
          rw [← hsame] at hexpected
          exact ⟨hbody, hexpected, hsame, by omega, by omega, hconnected, items, attributes_eq_some_iff.mp hitems,
            linkItems_iff.mp hfold⟩
  · intro h
    obtain ⟨items, hencodes, hitems⟩ := h.carried
    rw [attributes_eq_some_iff.mpr hencodes, Option.bind_some, linkItems_iff.mpr hitems] at hselected
    obtain ⟨found, rfl, hfound⟩ := Option.map_eq_some_iff.mp hselected
    have hpositive := h.positive
    have hfits := h.fits
    rw [h.index, ← h.expected, if_neg (by omega)]
    exact congrArg Except.ok (identify_iff.mpr ⟨h.expected, h.connected, selection_injective hfound⟩)

end Bodies

section Messages

variable {decoder later : LinkMessageDecoder} {bytes body message front : Bytes} {header : Header} {query : LinkQuery}
  {identity : LinkIdentity} {type flags sequence portId : Nat}

theorem consume_eq (hlength : 16 ≤ bytes.length) (hread : readHeader (slice bytes 0 16) = header) :
    decoder.consume bytes =
      if decoder.refuses bytes header then .ok (decoder, malformed)
      else if header.type = nlmsgError then decoder.consumeError (slice bytes 0 header.length) header
      else if header.type ≠ rtmNewLink ∨ header.length < 32 then .ok (decoder, malformed)
      else (decoder.consumeLink (slice bytes 0 header.length) header).map (decoder, ·) := by
  unfold consume
  rw [if_neg (by omega), copyObject_eq, if_pos (by omega)]
  simp only [Bind.bind, Except.bind, hread]
  by_cases hrefused : decoder.refuses bytes header
  · rw [if_pos hrefused, if_pos hrefused]
    rfl
  · have hin : 0 + header.length ≤ bytes.length := by
      unfold refuses at hrefused
      omega
    rw [if_neg hrefused, if_neg hrefused, memcpy_eq hin]
    dsimp only
    split
    · rfl
    · split
      · rfl
      · cases decoder.consumeLink (slice bytes 0 header.length) header <;> rfl

/-- Bytes whose header passes are a message. -/
theorem linkFrame_of_header (hlength : 16 ≤ bytes.length) (hread : readHeader (slice bytes 0 16) = header)
    (haccepted : ¬ decoder.refuses bytes header) :
    ∃ front body, LinkFrame decoder header.type body bytes ∧ front.length = 16 ∧ header.length = 16 + body.length ∧
      slice bytes 0 header.length = front ++ body := by
  simp only [refuses, not_or, not_lt, not_not] at haccepted
  obtain ⟨hlong, hin, haligned, hsequence, hportId⟩ := haccepted
  have hframed := framed_of_header hread hlong haligned (by omega)
  rw [hsequence, hportId] at hframed
  have hbody : (slice bytes 16 (header.length - 16)).length = header.length - 16 := length_slice (by omega)
  have hsplit := slice_append_slice bytes 0 16 (header.length - 16)
  rw [Nat.zero_add, Nat.add_sub_cancel' hlong] at hsplit
  exact ⟨slice bytes 0 16, _, ⟨header.flags, hread ▸ (readHeader_fits _).flags, hframed⟩, length_slice (by omega),
    by omega, hsplit.symm⟩

/-- The header of a message. -/
theorem header_of_framed (hframed : Framed type flags sequence portId body bytes) (htype : type < 2 ^ 16)
    (hflags : flags < 2 ^ 16) (hsequence : sequence < 2 ^ 32) (hportId : portId < 2 ^ 32) :
    ∃ header front, readHeader (slice bytes 0 16) = header ∧ header.type = type ∧ header.length = 16 + body.length ∧
      front.length = 16 ∧ slice bytes 0 header.length = front ++ body ∧ 16 ≤ bytes.length ∧
      (decoder.refuses bytes header ↔ ¬(sequence = decoder.sequence.toNat ∧ portId = decoder.portId.toNat)) := by
  obtain ⟨haligned, hle⟩ := hframed.aligned
  have hread := hframed.readHeader htype hflags hsequence hportId []
  have hunpadded := hframed.unpadded []
  rw [List.append_nil] at hread hunpadded
  refine ⟨_, _, hread, rfl, rfl, length_bytes _, hunpadded, by omega, ?_⟩
  unfold refuses
  dsimp only
  omega

theorem consumeError_cases (decoder : LinkMessageDecoder) (message : Bytes) (header : Header) :
    ∃ later status, decoder.consumeError message header = .ok (later, ⟨status, none⟩) ∧ status ≠ .present := by
  have hmalformed : InventoryStatus.malformed ≠ .present := by decide
  unfold consumeError
  split
  · exact ⟨decoder, .malformed, rfl, hmalformed⟩
  · rw [copyObject_eq]
    dsimp only [Bind.bind, Except.bind]
    split
    · exact ⟨decoder, .malformed, rfl, hmalformed⟩
    · split
      · exact ⟨decoder, .malformed, rfl, hmalformed⟩
      · refine ⟨_, _, rfl, ?_⟩
        split <;> decide

/-- An error without the device, by the body. -/
theorem consumeError_absent_iff (hfront : front.length = 16) (hheader : header.length = 16 + body.length) :
    (∃ later, decoder.consumeError (front ++ body) header = .ok (later, ⟨.absent, none⟩)) ↔
      20 ≤ body.length ∧ (errorMagnitude (leValue (slice body 0 4)) = 19 ∨ errorMagnitude (leValue (slice body 0 4)) = 6) := by
  unfold consumeError
  by_cases hlong : 20 ≤ body.length
  · have hfield : slice (slice (front ++ body) 16 20) 0 4 = slice body 0 4 := by
      rw [slice_slice (front ++ body) (by omega)]
      exact slice_skip hfront 0 4
    rw [if_neg (by omega), copyObject_eq, if_pos (by rw [List.length_append]; omega)]
    simp only [Bind.bind, Except.bind, hfield]
    by_cases hzero : leValue (slice body 0 4) = 0
    · rw [if_pos hzero, hzero]
      constructor
      · rintro ⟨later, h⟩
        exact nomatch h
      · rintro ⟨-, h⟩
        exact absurd h (by decide)
    · rw [if_neg hzero]
      constructor
      · rintro ⟨later, h⟩
        refine ⟨hlong, ?_⟩
        by_contra hother
        rw [if_neg hother] at h
        exact nomatch h
      · rintro ⟨-, h⟩
        rw [if_pos h]
        exact ⟨_, rfl⟩
  · rw [if_pos (by omega)]
    constructor
    · rintro ⟨later, h⟩
      exact nomatch h
    · rintro ⟨h, -⟩
      exact absurd h hlong

/-- The decoder comes to an end, and stays within its bytes; there is an identity exactly where the link is present. -/
theorem consume_total (decoder : LinkMessageDecoder) (bytes : Bytes) :
    ∃ later query, decoder.consume bytes = .ok (later, query) ∧ (query.status = .present ↔ query.identity ≠ none) := by
  have hmalformed : malformed.status = .present ↔ malformed.identity ≠ none := by decide
  by_cases hlength : 16 ≤ bytes.length
  · generalize hread : readHeader (slice bytes 0 16) = header
    rw [consume_eq hlength hread]
    by_cases hrefused : decoder.refuses bytes header
    · exact ⟨decoder, malformed, if_pos hrefused, hmalformed⟩
    rw [if_neg hrefused]
    obtain ⟨front, body, -, hfront, hheader, hsplit⟩ := linkFrame_of_header hlength hread hrefused
    rw [hsplit]
    split
    · obtain ⟨later, status, houtcome, hstatus⟩ := consumeError_cases decoder (front ++ body) header
      exact ⟨later, ⟨status, none⟩, houtcome, fun h => absurd h hstatus, fun h => absurd rfl h⟩
    · split
      · exact ⟨decoder, malformed, rfl, hmalformed⟩
      · obtain ⟨query, hquery, hcases⟩ := @consumeLink_total decoder front body header hfront hheader (by omega)
        refine ⟨decoder, query, by rw [hquery]; rfl, ?_⟩
        rcases hcases with rfl | ⟨identity, rfl⟩
        · exact hmalformed
        · exact ⟨fun _ => Option.some_ne_none identity, fun _ => rfl⟩
  · exact ⟨decoder, malformed, if_pos (by omega), hmalformed⟩

/-- A link is present exactly where the bytes describe it. -/
theorem consume_present_iff :
    decoder.consume bytes = .ok (later, ⟨.present, some identity⟩) ↔ later = decoder ∧ DescribesLink decoder bytes identity := by
  have hmalformed : ¬(.ok (decoder, malformed) : Reading (LinkMessageDecoder × LinkQuery)) =
      .ok (later, ⟨.present, some identity⟩) := by
    intro h
    exact nomatch h
  constructor
  · intro h
    by_cases hlength : 16 ≤ bytes.length
    · generalize hread : readHeader (slice bytes 0 16) = header at h
      rw [consume_eq hlength hread] at h
      by_cases hrefused : decoder.refuses bytes header
      · rw [if_pos hrefused] at h
        exact absurd h hmalformed
      rw [if_neg hrefused] at h
      obtain ⟨front, body, hframe, hfront, hheader, hsplit⟩ := linkFrame_of_header hlength hread hrefused
      rw [hsplit] at h
      split at h
      · obtain ⟨failed, status, houtcome, -⟩ := consumeError_cases decoder (front ++ body) header
        rw [houtcome] at h
        exact nomatch h
      · split at h
        · exact absurd h hmalformed
        · rename_i hlink
          rw [not_or, not_not, not_lt] at hlink
          obtain ⟨query, hquery, -⟩ := @consumeLink_total decoder front body header hfront hheader (by omega)
          rw [hquery] at h
          cases h
          exact ⟨rfl, body, hlink.1 ▸ hframe, (consumeLink_iff hfront hheader (by omega)).mp hquery⟩
    · rw [consume, if_pos (by omega)] at h
      exact absurd h hmalformed
  · rintro ⟨rfl, body, ⟨flags, hflags, hframed⟩, hbody⟩
    obtain ⟨header, front, hread, htype, hheader, hfront, hsplit, hlength, hrefuses⟩ :=
      @header_of_framed later _ _ _ _ _ _ hframed (by decide) hflags later.sequence.toNat_lt later.portId.toNat_lt
    have hlong := hbody.length
    rw [consume_eq hlength hread, if_neg (by rw [hrefuses]; simp), hsplit, htype, if_neg (by decide),
      if_neg (by rw [not_or, not_not, not_lt]; exact ⟨rfl, by omega⟩), (consumeLink_iff hfront hheader hlong).mpr hbody]
    rfl

/-- A link is absent exactly where the kernel reports no device. -/
theorem consume_absent_iff : (∃ later, decoder.consume bytes = .ok (later, ⟨.absent, none⟩)) ↔ DeniesDevice decoder bytes := by
  constructor
  · rintro ⟨later, h⟩
    by_cases hlength : 16 ≤ bytes.length
    · generalize hread : readHeader (slice bytes 0 16) = header at h
      rw [consume_eq hlength hread] at h
      by_cases hrefused : decoder.refuses bytes header
      · rw [if_pos hrefused] at h
        exact nomatch h
      rw [if_neg hrefused] at h
      obtain ⟨front, body, hframe, hfront, hheader, hsplit⟩ := linkFrame_of_header hlength hread hrefused
      rw [hsplit] at h
      split at h
      · rename_i herror
        obtain ⟨hlong, hnumber⟩ := (consumeError_absent_iff hfront hheader).mp ⟨later, h⟩
        exact ⟨body, herror ▸ hframe, hlong, hnumber⟩
      · split at h
        · exact nomatch h
        · obtain ⟨query, hquery, hcases⟩ := @consumeLink_total decoder front body header hfront hheader (by omega)
          rw [hquery] at h
          rcases hcases with rfl | ⟨identity, rfl⟩
          · exact nomatch h
          · exact nomatch h
    · rw [consume, if_pos (by omega)] at h
      exact nomatch h
  · rintro ⟨body, ⟨flags, hflags, hframed⟩, hlong, hnumber⟩
    obtain ⟨header, front, hread, htype, hheader, hfront, hsplit, hlength, hrefuses⟩ :=
      @header_of_framed decoder _ _ _ _ _ _ hframed (by decide) hflags decoder.sequence.toNat_lt decoder.portId.toNat_lt
    rw [consume_eq hlength hread, if_neg (by rw [hrefuses]; simp), hsplit, htype, if_pos rfl]
    exact (consumeError_absent_iff hfront hheader).mpr ⟨hlong, hnumber⟩

end Messages

end LinkMessageDecoder

end NetLagLab.NetworkEnvironment
