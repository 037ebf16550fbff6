import NetLagLab.ResolverView

/-! What a resolver snapshot consists of. Every directive of the source that is kept is written as one line of its
words, and such a line is read back as the same directive; nothing else of the source is copied. -/

namespace NetLagLab.ResolverView

open ByteLines

/-! ### Bytes of words -/

theorem blank_of_separator (byte : UInt8) (h : isSeparator byte = true) : isTrimmed byte = true := by
  rw [isTrimmed, Bool.or_eq_true]
  exact .inl h

abbrev Plain (word : Bytes) : Prop := PlainWord isTrimmed isSeparator word

/-- No blank, no comment mark and no newline. -/
def isInner (byte : UInt8) : Bool := !isTrimmed byte && !isCommentMark byte && byte != newline

theorem isInner_of_isAlphanumeric : ∀ byte : UInt8, isAlphanumeric byte = true → isInner byte = true := by
  rintro ⟨⟨byte⟩⟩
  revert byte
  decide +kernel

theorem isInner_of_domain {byte : UInt8} (h : (isAlphanumeric byte || byte == hyphen) = true ∨ byte = dot) :
    isInner byte = true := by
  rw [Bool.or_eq_true, beq_iff_eq] at h
  rcases h with (halnum | rfl) | rfl
  · exact isInner_of_isAlphanumeric byte halnum
  · decide
  · decide

theorem isInner_of_option {byte : UInt8}
    (h : (isAlphanumeric byte || optionCharacters.contains byte) = true) : isInner byte = true := by
  rcases Bool.or_eq_true _ _ ▸ h with halnum | hother
  · exact isInner_of_domain (.inl (by rw [halnum]; rfl))
  · rw [List.contains_iff_mem] at hother
    have hall : ∀ byte ∈ optionCharacters, isInner byte = true := by decide
    exact hall byte hother

theorem plain_of_isInner {word : Bytes} (hne : word ≠ []) (h : ∀ byte ∈ word, isInner byte = true) : Plain word := by
  have hblank : ∀ byte ∈ word, isTrimmed byte = false := by
    intro byte hbyte
    have hinner := h byte hbyte
    simp only [isInner, Bool.and_eq_true, Bool.not_eq_true'] at hinner
    exact hinner.1.1
  refine ⟨hne, fun byte hbyte => ?_, fun byte hbyte => ?_, fun byte hbyte => ?_⟩
  · by_contra hseparator
    rw [Bool.not_eq_false] at hseparator
    exact nomatch (blank_of_separator byte hseparator).symm.trans (hblank byte hbyte)
  · exact hblank byte (List.mem_of_mem_head? hbyte)
  · exact hblank byte (List.mem_of_getLast? hbyte)

theorem mem_dottedPieces {text : Bytes} {byte : UInt8} (h : byte ∈ text) :
    byte = dot ∨ ∃ piece ∈ dottedPieces text, byte ∈ piece := by
  rw [← splitAtMark_join dot text] at h
  rcases List.mem_append.mp h with hpieces | hlast
  · rw [encodeMarked, List.mem_flatten] at hpieces
    obtain ⟨marked, hmarked, hbyte⟩ := hpieces
    obtain ⟨piece, hpiece, rfl⟩ := List.mem_map.mp hmarked
    rcases List.mem_append.mp hbyte with hin | hmark
    · exact .inr ⟨piece, List.mem_append_left _ hpiece, hin⟩
    · exact .inl (List.mem_singleton.mp hmark)
  · exact .inr ⟨_, List.mem_append_right _ (List.mem_singleton_self _), hlast⟩

theorem isInner_of_validDomain {domain : Bytes} (h : validDomain domain = true) :
    domain ≠ [] ∧ ∀ byte ∈ domain, isInner byte = true := by
  simp only [validDomain, Bool.and_eq_true, decide_eq_true_eq, List.all_eq_true] at h
  obtain ⟨⟨⟨⟨hne, -⟩, -⟩, -⟩, hpieces⟩ := h
  refine ⟨hne, fun byte hbyte => ?_⟩
  rcases mem_dottedPieces hbyte with hdot | ⟨piece, hpiece, hin⟩
  · exact isInner_of_domain (.inr hdot)
  · have hlabel := hpieces piece hpiece
    simp only [validLabel, Bool.and_eq_true, List.all_eq_true] at hlabel
    exact isInner_of_domain (.inl (hlabel.2 byte hin))

theorem isInner_of_validOption {option : Bytes} (h : validOption option = true) :
    option ≠ [] ∧ ∀ byte ∈ option, isInner byte = true := by
  simp only [validOption, Bool.and_eq_true, decide_eq_true_eq, List.all_eq_true] at h
  exact ⟨h.1.1, fun byte hbyte => isInner_of_option (h.2 byte hbyte)⟩

theorem exists_of_mem_mapM {α β : Type} {f : α → Option β} {items : List α} {results : List β}
    (h : items.mapM f = some results) : ∀ item ∈ items, ∃ result, f item = some result := by
  induction items generalizing results with
  | nil => exact fun _ hmem => nomatch hmem
  | cons item items ih =>
      rw [List.mapM_cons, Option.bind_eq_bind, Option.bind_eq_some_iff] at h
      obtain ⟨result, hresult, hrest⟩ := h
      rw [Option.bind_eq_bind, Option.bind_eq_some_iff] at hrest
      obtain ⟨rest, hmore, -⟩ := hrest
      exact List.forall_mem_cons.mpr ⟨⟨result, hresult⟩, ih hmore⟩

/-- A dotted quad consists of digits and dots. -/
theorem ne_zero_of_inetPton {text : Bytes} {address : InAddr} (h : inetPton text = some address) : 0 ∉ text := by
  intro hzero
  rw [inetPton] at h
  cases hoctets : (dottedPieces text).mapM decimalOctet with
  | none => rw [hoctets] at h; exact nomatch h
  | some octets =>
      rcases mem_dottedPieces hzero with hdot | ⟨piece, hpiece, hin⟩
      · exact absurd hdot (by decide)
      · obtain ⟨octet, hoctet⟩ := exists_of_mem_mapM hoctets piece hpiece
        rw [decimalOctet] at hoctet
        split at hoctet
        · rename_i hdigits
          exact absurd (List.all_eq_true.mp hdigits.2.1 0 hin) (by decide)
        · exact nomatch hoctet

theorem cString_eq_self {text : Bytes} (h : 0 ∉ text) : cString text = text := by
  refine List.takeWhile_eq_self_iff.mpr fun byte hbyte => ?_
  rw [bne_iff_ne]
  rintro rfl
  exact h hbyte

/-! ### Lines without comments -/

section Lines

variable {line raw : Bytes}

theorem newline_notMem_outputLines (text : Bytes) : ∀ line ∈ outputLines text, newline ∉ line := by
  intro line hline
  rcases List.mem_append.mp hline with hended | hlast
  · exact notMem_of_mem_splitAtMark_fst text line hended
  · split at hlast
    · exact nomatch hlast
    · exact List.mem_singleton.mp hlast ▸ notMem_splitAtMark_snd text

theorem uncommented_within (raw : Bytes) : uncommented raw <:+: raw := by
  unfold uncommented
  dsimp only
  split
  · exact (trimBlanks_within _ _).trans ((List.takeWhile_prefix _).isInfix.trans (trimBlanks_within _ _))
  · exact trimBlanks_within _ _

theorem not_isCommentMark_of_mem_uncommented {byte : UInt8} (h : byte ∈ uncommented raw) :
    isCommentMark byte = false := by
  unfold uncommented at h
  dsimp only at h
  split at h
  · have hkept := List.mem_takeWhile_imp (mem_of_mem_trimBlanks h)
    simpa using hkept
  · rename_i hany
    rw [Bool.not_eq_true, List.any_eq_false] at hany
    exact Bool.not_eq_true _ ▸ hany byte h

theorem uncommented_eq_self (htrim : trim line = line) (h : ∀ byte ∈ line, isCommentMark byte = false) :
    uncommented line = line := by
  have hany : ¬ line.any isCommentMark = true := by
    rw [List.any_eq_true]
    rintro ⟨byte, hbyte, hmark⟩
    exact nomatch hmark.symm.trans (h byte hbyte)
  rw [uncommented, htrim]
  exact if_neg hany

end Lines

/-! ### Directives that are accepted -/

/-- What an accepted directive comes to: the words of the line written for it, or none. -/
inductive Accepted (progress : ResolverProgress) : List Bytes → Option (List Bytes) → ResolverProgress → Prop
  | blank : Accepted progress [] none progress
  | passedOver {text : Bytes} (other : inetPton (cString text) = none) :
      Accepted progress [nameserver, text] none progress
  | address {text : Bytes} {quad : InAddr} (read : inetPton (cString text) = some quad)
      (routable : routableResolverAddress quad = true) (free : progress.nameservers ≠ 3) :
      Accepted progress [nameserver, text] (some [nameserver, text])
        { progress with
          snapshot := progress.append [nameserver, text]
          nameservers := progress.nameservers + 1 }
  | domains {directive : Bytes} {names : List Bytes} (name : directive = search ∨ directive = ascii "domain")
      (unseen : progress.searchSeen = false) (many : 1 ≤ names.length) (few : names.length ≤ 6)
      (valid : ∀ domain ∈ names, validDomain domain = true)
      (short : (names.map fun domain => domain.length + 1).sum ≤ 256) :
      Accepted progress (directive :: names) (some (search :: names))
        { progress with snapshot := progress.append (search :: names), searchSeen := true }
  | values {arguments : List Bytes} (many : 1 ≤ arguments.length) (few : arguments.length ≤ 16)
      (valid : ∀ option ∈ arguments, validOption option = true) :
      Accepted progress (options :: arguments) (some (options :: arguments))
        { progress with snapshot := progress.append (options :: arguments) }

section Directives

variable {inetPton6 : Bytes → Bool} {progress next : ResolverProgress} {tokens arguments : List Bytes}
  {entry : Option (List Bytes)}

theorem accepted_of_nameserverDirective (h : nameserverDirective inetPton6 progress arguments = .ok next) :
    ∃ entry, Accepted progress (nameserver :: arguments) entry next := by
  unfold nameserverDirective at h
  split at h
  · rename_i text
    cases hquad : inetPton (cString text) with
    | none =>
        rw [hquad] at h
        dsimp only at h
        split at h
        · cases h
          exact ⟨none, .passedOver hquad⟩
        · exact nomatch h
    | some address =>
        rw [hquad] at h
        dsimp only at h
        split at h
        · exact nomatch h
        · rename_i hbounds
          rw [not_or, Bool.not_eq_false] at hbounds
          cases h
          exact ⟨_, .address hquad hbounds.1 hbounds.2⟩
  · exact nomatch h

theorem accepted_of_searchDirective {directive : Bytes} (hname : directive = search ∨ directive = ascii "domain")
    (h : searchDirective progress arguments = .ok next) :
    ∃ entry, Accepted progress (directive :: arguments) entry next := by
  unfold searchDirective at h
  split at h
  · exact nomatch h
  · rename_i hcount
    split at h
    · exact nomatch h
    · rename_i hvalid
      split at h
      · exact nomatch h
      · rename_i hshort
        cases h
        rw [not_or, not_or, Bool.not_eq_true] at hcount
        rw [Bool.not_eq_false, List.all_eq_true] at hvalid
        exact ⟨_, .domains hname hcount.1 (by omega) (by omega) hvalid (by omega)⟩

theorem accepted_of_optionsDirective (h : optionsDirective progress arguments = .ok next) :
    ∃ entry, Accepted progress (options :: arguments) entry next := by
  unfold optionsDirective at h
  split at h
  · exact nomatch h
  · rename_i hcount
    split at h
    · exact nomatch h
    · rename_i hvalid
      cases h
      rw [Bool.not_eq_false, List.all_eq_true] at hvalid
      exact ⟨_, .values (by omega) (by omega) hvalid⟩

theorem accepted_of_ok (h : resolverDirective inetPton6 progress tokens = .ok next) :
    ∃ entry, Accepted progress tokens entry next := by
  cases tokens with
  | nil =>
      cases h
      exact ⟨none, .blank⟩
  | cons directive arguments =>
      rw [resolverDirective] at h
      split at h
      · rename_i hdirective
        exact hdirective ▸ accepted_of_nameserverDirective h
      · split at h
        · rename_i hname
          exact accepted_of_searchDirective hname h
        · split at h
          · rename_i hdirective
            exact hdirective ▸ accepted_of_optionsDirective h
          · exact nomatch h

theorem Accepted.snapshot (h : Accepted progress tokens entry next) :
    next.snapshot = progress.snapshot ++ encodeLines (entry.toList.map joinWords) := by
  cases h with
  | blank => exact (List.append_nil _).symm
  | passedOver => exact (List.append_nil _).symm
  | _ => simp [ResolverProgress.append, encodeMarked]

theorem Accepted.eq_of_none (h : Accepted progress tokens none next) : next = progress := by
  cases h <;> rfl

/-- The line that is written is accepted again, with the same outcome. -/
theorem Accepted.again {written : List Bytes} (h : Accepted progress tokens (some written) next) :
    resolverDirective inetPton6 progress written = .ok next := by
  cases h with
  | address read routable free =>
      rw [resolverDirective, if_pos rfl, nameserverDirective, read]
      exact if_neg (by simp [routable, free])
  | @domains directive names name unseen many few valid short =>
      have hvalid : ¬ names.all validDomain = false := by simpa using valid
      rw [resolverDirective, if_neg (by decide), if_pos (.inl rfl), searchDirective,
        if_neg (by simp only [unseen, Bool.false_eq_true, false_or]; omega), if_neg hvalid, if_neg (by omega)]
  | @values arguments many few valid =>
      have hvalid : ¬ arguments.all validOption = false := by simpa using valid
      rw [resolverDirective, if_neg (by decide), if_neg (by decide), if_pos rfl, optionsDirective,
        if_neg (by omega), if_neg hvalid]

/-- The words that are written cannot be cut, trimmed or taken for a comment. -/
theorem Accepted.plain {line : Bytes} {written : List Bytes} (hline : newline ∉ line)
    (h : Accepted progress (words (uncommented line)) (some written) next) :
    ∀ word ∈ written, Plain word ∧ ∀ byte ∈ word, isCommentMark byte = false ∧ byte ≠ newline := by
  have hdirective : ∀ word ∈ [nameserver, search, options], Plain word ∧
      ∀ byte ∈ word, isCommentMark byte = false ∧ byte ≠ newline := by
    refine List.forall_mem_cons.mpr ⟨?_, List.forall_mem_cons.mpr ⟨?_, List.forall_mem_singleton.mpr ?_⟩⟩ <;>
      exact ⟨plain_of_isInner (by decide) (by decide), by decide⟩
  have hinner : ∀ word : Bytes, (word ≠ [] ∧ ∀ byte ∈ word, isInner byte = true) →
      Plain word ∧ ∀ byte ∈ word, isCommentMark byte = false ∧ byte ≠ newline := by
    rintro word ⟨hne, hall⟩
    refine ⟨plain_of_isInner hne hall, fun byte hbyte => ?_⟩
    have hbyteInner := hall byte hbyte
    simp only [isInner, Bool.and_eq_true, Bool.not_eq_true', bne_iff_ne] at hbyteInner
    exact ⟨hbyteInner.1.2, hbyteInner.2⟩
  generalize htokens : words (uncommented line) = tokens at h
  cases h with
  | @address text =>
      have hplain : Plain text :=
        plainWord_of_blankWords_concat blank_of_separator (htokens.trans (List.singleton_append (l := [text])).symm)
      have hword : WordOf isTrimmed isSeparator (uncommented line) text := by
        refine wordOf_of_mem_blankWords blank_of_separator text ?_
        rw [← words, htokens]
        simp
      refine List.forall_mem_cons.mpr ⟨hdirective _ (by simp), List.forall_mem_singleton.mpr ⟨hplain, ?_⟩⟩
      intro byte hbyte
      have hin := hword.subset byte hbyte
      refine ⟨not_isCommentMark_of_mem_uncommented hin, ?_⟩
      rintro rfl
      exact hline ((uncommented_within line).subset hin)
  | domains name unseen many few valid short =>
      exact List.forall_mem_cons.mpr ⟨hdirective _ (by simp), fun domain hdomain =>
        hinner domain (isInner_of_validDomain (valid domain hdomain))⟩
  | values many few valid =>
      exact List.forall_mem_cons.mpr ⟨hdirective _ (by simp), fun option hoption =>
        hinner option (isInner_of_validOption (valid option hoption))⟩

/-- A directive is written in no more bytes than it had. -/
theorem Accepted.length {written : List Bytes} (h : Accepted progress tokens (some written) next) :
    (joinWords written).length = (joinWords tokens).length := by
  cases h with
  | domains name =>
      rcases name with rfl | rfl
      · rfl
      · simp only [joinWords, List.length_append]
        rfl
  | _ => rfl

end Directives

/-! ### Lines that are accepted -/

/-- The lines that are written for a list of lines. -/
inductive AcceptedLines : ResolverProgress → List Bytes → List (List Bytes) → ResolverProgress → Prop
  | nil (progress : ResolverProgress) : AcceptedLines progress [] [] progress
  | cons {progress next after : ResolverProgress} {line : Bytes} {lines : List Bytes} {entry : Option (List Bytes)}
      {entries : List (List Bytes)} (short : line.length ≤ maximumLineSize)
      (directive : Accepted progress (words (uncommented line)) entry next)
      (rest : AcceptedLines next lines entries after) :
      AcceptedLines progress (line :: lines) (entry.toList ++ entries) after

section AcceptedLines

variable {inetPton6 : Bytes → Bool} {before after : ResolverProgress} {lines : List Bytes}
  {entries : List (List Bytes)}

theorem acceptedLines_of_ok (h : lines.foldlM (resolverLine inetPton6) before = .ok after) :
    ∃ entries, AcceptedLines before lines entries after := by
  induction lines generalizing before with
  | nil =>
      cases h
      exact ⟨[], .nil _⟩
  | cons line lines ih =>
      rw [List.foldlM_cons] at h
      cases hline : resolverLine inetPton6 before line with
      | error failure => rw [hline] at h; exact nomatch h
      | ok next =>
          rw [hline] at h
          obtain ⟨entries, hentries⟩ := ih h
          rw [resolverLine] at hline
          split at hline
          · exact nomatch hline
          · rename_i hshort
            obtain ⟨entry, hentry⟩ := accepted_of_ok hline
            exact ⟨_, .cons (Nat.le_of_not_lt hshort) hentry hentries⟩

theorem AcceptedLines.snapshot (h : AcceptedLines before lines entries after) :
    after.snapshot = before.snapshot ++ encodeLines (entries.map joinWords) := by
  induction h with
  | nil => exact (List.append_nil _).symm
  | cons short directive rest ih =>
      rw [ih, directive.snapshot, List.append_assoc, List.map_append]
      exact congrArg (_ ++ ·) (encodeMarked_append _ _).symm

/-- A line that is written: its words are read back from it, and it is no longer than its source. -/
structure Written (written : List Bytes) : Prop where
  plain : ∀ word ∈ written, Plain word
  unmarked : ∀ byte ∈ joinWords written, isCommentMark byte = false ∧ byte ≠ newline
  short : (joinWords written).length ≤ maximumLineSize

theorem Accepted.written {progress next : ResolverProgress} {line : Bytes} {written : List Bytes}
    (hline : newline ∉ line) (hshort : line.length ≤ maximumLineSize)
    (h : Accepted progress (words (uncommented line)) (some written) next) : Written written := by
  have hplain := h.plain hline
  refine ⟨fun word hword => (hplain word hword).1, fun byte hbyte => ?_, ?_⟩
  · rcases mem_joinWords hbyte with rfl | ⟨word, hword, hin⟩
    · decide
    · exact (hplain word hword).2 byte hin
  · rw [h.length]
    exact ((length_joinWords_blankWords_le blank_of_separator _).trans (uncommented_within line).length_le).trans hshort

theorem Written.uncommented {written : List Bytes} (h : Written written) :
    uncommented (joinWords written) = joinWords written :=
  uncommented_eq_self (trimBlanks_joinWords h.plain) fun byte hbyte => (h.unmarked byte hbyte).1

theorem Written.words {written : List Bytes} (h : Written written) :
    words (ResolverView.uncommented (joinWords written)) = written := by
  rw [h.uncommented]
  exact blankWords_joinWords (by decide) h.plain

theorem AcceptedLines.written (hlines : ∀ line ∈ lines, newline ∉ line)
    (h : AcceptedLines before lines entries after) : ∀ written ∈ entries, Written written := by
  induction h with
  | nil => exact fun _ hmem => nomatch hmem
  | @cons progress next after line lines entry entries short directive rest ih =>
      obtain ⟨hline, hrest⟩ := List.forall_mem_cons.mp hlines
      intro written hwritten
      rcases List.mem_append.mp hwritten with hentry | hmore
      · cases entry with
        | none => exact nomatch hentry
        | some words => exact List.mem_singleton.mp hentry ▸ directive.written hline short
      · exact ih hrest written hmore

/-- The lines that are written are accepted again, with the same outcome. -/
theorem AcceptedLines.again (hlines : ∀ line ∈ lines, newline ∉ line)
    (h : AcceptedLines before lines entries after) :
    (entries.map joinWords).foldlM (resolverLine inetPton6) before = .ok after := by
  induction h with
  | nil => rfl
  | @cons progress next after line lines entry entries short directive rest ih =>
      obtain ⟨hline, hrest⟩ := List.forall_mem_cons.mp hlines
      cases entry with
      | none => exact directive.eq_of_none ▸ ih hrest
      | some words =>
          have hwritten := directive.written hline short
          have hstep : resolverLine inetPton6 progress (joinWords words) = .ok next := by
            rw [resolverLine, if_neg (Nat.not_lt.mpr hwritten.short), hwritten.words]
            exact directive.again
          rw [Option.toList_some, List.singleton_append, List.map_cons, List.foldlM_cons, hstep]
          exact ih hrest

end AcceptedLines

/-! ### The snapshot -/

/-- The address of an IPv4 nameserver. -/
def ipv4Nameserver (tokens : List Bytes) : Option Bytes :=
  match tokens with
  | [directive, text] => if directive = nameserver ∧ (inetPton text).isSome = true then some text else none
  | _ => none

def ipv4Nameservers (text : Bytes) : List Bytes :=
  (outputLines text).filterMap fun line => ipv4Nameserver (words (uncommented line))

/-- What is kept of a directive: no blank line and no address but a dotted quad. -/
def keptDirective : List Bytes → Option (List Bytes)
  | [] => none
  | directive :: arguments =>
      if directive = nameserver then (ipv4Nameserver (directive :: arguments)).map fun text => [nameserver, text]
      else if directive = ascii "domain" then some (search :: arguments)
      else some (directive :: arguments)

inductive SnapshotLine : Bytes → Prop
  | nameserver (text : Bytes) (quad : (inetPton text).isSome = true) : SnapshotLine (joinWords [nameserver, text])
  | search (names : List Bytes) (many : 1 ≤ names.length) (few : names.length ≤ 6)
      (valid : ∀ domain ∈ names, validDomain domain = true) : SnapshotLine (joinWords (ResolverView.search :: names))
  | options (values : List Bytes) (many : 1 ≤ values.length) (few : values.length ≤ 16)
      (valid : ∀ option ∈ values, validOption option = true) : SnapshotLine (joinWords (ResolverView.options :: values))

def isSearchLine (line : Bytes) : Bool := decide ((words line).head? = some search)

/-- What a snapshot is to its source. -/
structure SnapshotOf (inetPton6 : Bytes → Bool) (source snapshot : Bytes) : Prop where
  ended : (splitLines snapshot).2 = []
  lines : ∀ line ∈ outputLines snapshot, SnapshotLine line
  nameservers : ipv4Nameservers snapshot = ipv4Nameservers source
  many : 1 ≤ (ipv4Nameservers snapshot).length
  few : (ipv4Nameservers snapshot).length ≤ 3
  routable : ∀ text ∈ ipv4Nameservers snapshot, ∃ address, inetPton text = some address ∧
    address.first ≠ 0 ∧ address.first ≠ 127 ∧ address.first < 224
  oneSearch : ((outputLines snapshot).filter isSearchLine).length ≤ 1
  kept : snapshot = encodeLines ((outputLines source).filterMap fun line =>
    (keptDirective (words (uncommented line))).map joinWords)
  again : snapshot.length ≤ maximumFileSize → makeResolverSnapshot inetPton6 snapshot = .ok snapshot

/-- No address that is read as a dotted quad goes on behind a NUL. -/
def Visible (line : Bytes) : Prop :=
  ∀ text, words (uncommented line) = [nameserver, text] → (inetPton (cString text)).isSome = true → 0 ∉ text

section Snapshot

variable {inetPton6 : Bytes → Bool} {progress next before after : ResolverProgress} {source snapshot line : Bytes}
  {lines : List Bytes} {entry : Option (List Bytes)} {entries : List (List Bytes)} {tokens written : List Bytes}

theorem inetPton_cString {text : Bytes} {address : InAddr} (h : inetPton text = some address) :
    inetPton (cString text) = some address := by
  rw [cString_eq_self (ne_zero_of_inetPton h), h]

theorem ipv4Nameserver_address {text : Bytes} (h : (inetPton text).isSome = true) :
    ipv4Nameserver [nameserver, text] = some text :=
  if_pos ⟨rfl, h⟩

theorem ipv4Nameserver_ne {directive : Bytes} (h : directive ≠ nameserver) (arguments : List Bytes) :
    ipv4Nameserver (directive :: arguments) = none := by
  unfold ipv4Nameserver
  split
  · rename_i heq
    obtain ⟨rfl, -⟩ := List.cons.inj heq
    exact if_neg fun hboth => h hboth.1
  · rfl

theorem ipv4Nameserver_kept (tokens : List Bytes) :
    (keptDirective tokens).bind ipv4Nameserver = ipv4Nameserver tokens := by
  cases tokens with
  | nil => rfl
  | cons directive arguments =>
      rw [keptDirective]
      split
      · cases haddress : ipv4Nameserver (directive :: arguments) with
        | none => rfl
        | some text =>
            unfold ipv4Nameserver at haddress
            split at haddress
            · split at haddress
              · rename_i hquad
                cases haddress
                exact ipv4Nameserver_address hquad.2
              · exact nomatch haddress
            · exact nomatch haddress
      · rename_i hother
        rw [ipv4Nameserver_ne hother]
        split
        · exact ipv4Nameserver_ne (by decide) arguments
        · exact ipv4Nameserver_ne hother arguments

theorem Accepted.kept (hvisible : ∀ text, tokens = [nameserver, text] → (inetPton (cString text)).isSome = true → 0 ∉ text)
    (h : Accepted progress tokens entry next) : keptDirective tokens = entry := by
  cases h with
  | blank => rfl
  | @passedOver text other =>
      have hnone : inetPton text = none := by
        cases hquad : inetPton text with
        | none => rfl
        | some address => exact nomatch other.symm.trans (inetPton_cString hquad)
      rw [keptDirective, if_pos rfl, ipv4Nameserver]
      simp [hnone]
  | @address text quad read =>
      have hzero := hvisible text rfl (by rw [read]; rfl)
      rw [cString_eq_self hzero] at read
      rw [keptDirective, if_pos rfl, ipv4Nameserver_address (by rw [read]; rfl)]
      rfl
  | domains name =>
      rcases name with rfl | rfl
      · rfl
      · rfl
  | values => rfl

theorem Accepted.snapshotLine
    (hvisible : ∀ text, tokens = [nameserver, text] → (inetPton (cString text)).isSome = true → 0 ∉ text)
    (h : Accepted progress tokens (some written) next) : SnapshotLine (joinWords written) := by
  cases h with
  | @address text quad read =>
      have hzero := hvisible text rfl (by rw [read]; rfl)
      rw [cString_eq_self hzero] at read
      exact .nameserver text (by rw [read]; rfl)
  | domains name unseen many few valid => exact .search _ many few valid
  | values many few valid => exact .options _ many few valid

theorem AcceptedLines.kept (hvisible : ∀ line ∈ lines, Visible line) (h : AcceptedLines before lines entries after) :
    entries = lines.filterMap fun line => keptDirective (words (uncommented line)) := by
  induction h with
  | nil => rfl
  | @cons progress next after line lines entry entries short directive rest ih =>
      obtain ⟨hline, hrest⟩ := List.forall_mem_cons.mp hvisible
      rw [List.filterMap_cons, directive.kept hline, ← ih hrest]
      cases entry <;> rfl

theorem AcceptedLines.snapshotLines (hvisible : ∀ line ∈ lines, Visible line)
    (h : AcceptedLines before lines entries after) : ∀ written ∈ entries, SnapshotLine (joinWords written) := by
  induction h with
  | nil => exact fun _ hmem => nomatch hmem
  | @cons progress next after line lines entry entries short directive rest ih =>
      obtain ⟨hline, hrest⟩ := List.forall_mem_cons.mp hvisible
      intro written hwritten
      rcases List.mem_append.mp hwritten with hentry | hmore
      · cases entry with
        | none => exact nomatch hentry
        | some words => exact List.mem_singleton.mp hentry ▸ directive.snapshotLine hline
      · exact ih hrest written hmore

/-- The nameservers are counted, up to three, and their addresses can be reached. -/
theorem AcceptedLines.addresses (hvisible : ∀ line ∈ lines, Visible line) (h : AcceptedLines before lines entries after) :
    after.nameservers = before.nameservers + (entries.filterMap ipv4Nameserver).length ∧
    (before.nameservers ≤ 3 → after.nameservers ≤ 3) ∧
    ∀ text ∈ entries.filterMap ipv4Nameserver, ∃ address, inetPton text = some address ∧
      routableResolverAddress address = true := by
  induction h with
  | nil => exact ⟨rfl, id, fun _ hmem => nomatch hmem⟩
  | @cons progress next after line lines entry entries short directive rest ih =>
      obtain ⟨hline, hrest⟩ := List.forall_mem_cons.mp hvisible
      obtain ⟨hcount, hfew, hroutable⟩ := ih hrest
      have hother : ∀ (directive : Bytes) (arguments : List Bytes), directive ≠ nameserver →
          ((some (directive :: arguments)).toList ++ entries).filterMap ipv4Nameserver =
            entries.filterMap ipv4Nameserver := by
        intro directive arguments hdirective
        rw [Option.toList_some, List.singleton_append, List.filterMap_cons, ipv4Nameserver_ne hdirective]
      generalize htokens : words (uncommented line) = tokens at directive
      cases directive with
      | blank => exact ⟨hcount, hfew, hroutable⟩
      | passedOver => exact ⟨hcount, hfew, hroutable⟩
      | @address text quad read routable free =>
          have hzero := hline text htokens (by rw [read]; rfl)
          rw [cString_eq_self hzero] at read
          rw [Option.toList_some, List.singleton_append, List.filterMap_cons,
            ipv4Nameserver_address (by rw [read]; rfl)]
          dsimp only at hcount hfew ⊢
          refine ⟨by rw [hcount, List.length_cons]; omega, fun hle => hfew (by omega), ?_⟩
          exact List.forall_mem_cons.mpr ⟨⟨quad, read, routable⟩, hroutable⟩
      | domains => rw [hother _ _ (by decide)]; exact ⟨hcount, hfew, hroutable⟩
      | values => rw [hother _ _ (by decide)]; exact ⟨hcount, hfew, hroutable⟩

theorem AcceptedLines.oneSearch (h : AcceptedLines before lines entries after) :
    (entries.filter fun written => decide (written.head? = some search)).length ≤ if before.searchSeen then 0 else 1 := by
  induction h with
  | nil => exact Nat.zero_le _
  | @cons progress next after line lines entry entries short directive rest ih =>
      generalize words (uncommented line) = tokens at directive
      cases directive with
      | blank => exact ih
      | passedOver => exact ih
      | address => exact ih
      | values => exact ih
      | domains name unseen =>
          rw [unseen, Option.toList_some, List.singleton_append, List.filter_cons_of_pos (by simp), List.length_cons]
          exact Nat.succ_le_succ ih

theorem acceptedLines_of_makeResolverSnapshot (h : makeResolverSnapshot inetPton6 source = .ok snapshot) :
    ∃ entries after, AcceptedLines {} (outputLines source) entries after ∧ after.nameservers ≠ 0 ∧
      after.snapshot = snapshot ∧ snapshot = encodeLines (entries.map joinWords) := by
  rw [makeResolverSnapshot] at h
  split at h
  · exact nomatch h
  · cases hlines : (outputLines source).foldlM (resolverLine inetPton6) {} with
    | error failure => rw [hlines] at h; exact nomatch h
    | ok after =>
        rw [hlines] at h
        obtain ⟨entries, hentries⟩ := acceptedLines_of_ok hlines
        change (if after.nameservers = 0 then _ else _) = _ at h
        split at h
        · exact nomatch h
        · rename_i hnone
          cases h
          exact ⟨entries, after, hentries, hnone, rfl, hentries.snapshot⟩

/-- A line with an address that goes on behind a NUL is none of the lines of a snapshot. -/
theorem zero_notMem_of_snapshotLine {text : Bytes} (h : SnapshotLine (joinWords [nameserver, text])) : 0 ∉ text := by
  generalize hline : joinWords [nameserver, text] = line at h
  cases h with
  | nameserver other quad =>
      have htext : text = other := by
        simp only [joinWords, List.flatMap_cons, List.flatMap_nil, List.append_nil] at hline
        exact (List.cons.inj (List.append_cancel_left hline)).2
      obtain ⟨address, haddress⟩ := Option.isSome_iff_exists.mp quad
      exact htext ▸ ne_zero_of_inetPton haddress
  | search => exact absurd (Option.some.inj (congrArg List.head? hline)) (show ¬ (110 : UInt8) = 115 by decide)
  | options => exact absurd (Option.some.inj (congrArg List.head? hline)) (show ¬ (110 : UInt8) = 111 by decide)

/-- A line with such an address is written. -/
theorem AcceptedLines.mem_of_hidden {text : Bytes} (h : AcceptedLines before lines entries after)
    (hline : line ∈ lines) (htokens : words (uncommented line) = [nameserver, text])
    (hquad : (inetPton (cString text)).isSome = true) : [nameserver, text] ∈ entries := by
  induction h with
  | nil => exact nomatch hline
  | cons short directive rest ih =>
      rcases List.mem_cons.mp hline with rfl | hmore
      · refine List.mem_append_left _ ?_
        rw [htokens] at directive
        cases directive with
        | passedOver other => rw [other] at hquad; exact nomatch hquad
        | address => exact List.mem_singleton_self _
        | domains name => exact absurd name (by decide)
      · exact List.mem_append_right _ (ih hmore)

/-- A snapshot has all and only what is kept of its source, unless an address goes on behind a NUL: such a word is
copied as a whole. -/
theorem makeResolverSnapshot_snapshotOf (h : makeResolverSnapshot inetPton6 source = .ok snapshot) :
    SnapshotOf inetPton6 source snapshot ↔ ∀ line ∈ outputLines source, Visible line := by
  obtain ⟨entries, after, hlines, hsome, hafter, hsnapshot⟩ := acceptedLines_of_makeResolverSnapshot h
  have hwritten := hlines.written (newline_notMem_outputLines source)
  have hnewline : ∀ line ∈ entries.map joinWords, newline ∉ line := by
    intro line hline hmem
    obtain ⟨written, hentry, rfl⟩ := List.mem_map.mp hline
    exact ((hwritten written hentry).unmarked newline hmem).2 rfl
  have houtput : outputLines snapshot = entries.map joinWords := hsnapshot ▸ outputLines_encodeLines hnewline
  have hread : ∀ (α : Type) (f : List Bytes → Option α),
      (outputLines snapshot).filterMap (fun line => f (words (uncommented line))) = entries.filterMap f := by
    intro α f
    rw [houtput, List.filterMap_map]
    exact List.filterMap_congr fun written hentry => congrArg f (hwritten written hentry).words
  constructor
  · intro hof line hline text htokens hquad
    have hmem := hlines.mem_of_hidden hline htokens hquad
    have hsnapshotLine := hof.lines (joinWords [nameserver, text]) (houtput ▸ List.mem_map_of_mem hmem)
    exact zero_notMem_of_snapshotLine hsnapshotLine
  · intro hvisible
    have hkept := hlines.kept hvisible
    obtain ⟨hcount, hfew, hroutable⟩ := hlines.addresses hvisible
    rw [Nat.zero_add] at hcount
    have hnameservers : ipv4Nameservers snapshot = entries.filterMap ipv4Nameserver := hread Bytes ipv4Nameserver
    refine ⟨?_, ?_, ?_, ?_, ?_, ?_, ?_, ?_, fun hsize => ?_⟩
    · have hsplit := splitAtMark_encodeMarked_append hnewline []
      rw [List.append_nil] at hsplit
      rw [hsnapshot, show splitLines _ = _ from hsplit]
      rfl
    · intro line hline
      rw [houtput] at hline
      obtain ⟨written, hentry, rfl⟩ := List.mem_map.mp hline
      exact hlines.snapshotLines hvisible written hentry
    · rw [hnameservers, hkept, List.filterMap_filterMap, ipv4Nameservers]
      exact List.filterMap_congr fun line _ => ipv4Nameserver_kept _
    · rw [hnameservers]
      omega
    · have hthree := hfew (Nat.zero_le 3)
      rw [hnameservers]
      omega
    · intro text htext
      obtain ⟨address, haddress, hreach⟩ := hroutable text (hnameservers ▸ htext)
      simp only [routableResolverAddress, Bool.and_eq_true, decide_eq_true_eq] at hreach
      exact ⟨address, haddress, hreach.1.1.1, hreach.1.1.2, hreach.1.2⟩
    · have hone := hlines.oneSearch
      have hsame : (entries.filter (isSearchLine ∘ joinWords)) =
          entries.filter fun written => decide (written.head? = some search) := by
        refine List.filter_congr fun written hentry => ?_
        have hwords := blankWords_joinWords (by decide) (hwritten written hentry).plain
        rw [Function.comp_apply, isSearchLine, words, hwords]
      rw [houtput, List.filter_map, List.length_map, hsame]
      exact hone
    · rw [hsnapshot, hkept, List.map_filterMap]
    · rw [makeResolverSnapshot, if_neg (Nat.not_lt.mpr hsize), houtput,
        hlines.again (newline_notMem_outputLines source)]
      change (if after.nameservers = 0 then _ else _) = _
      rw [if_neg hsome, hafter]

end Snapshot

/-- A mixed host configuration. -/
def mixedConfiguration : Bytes :=
  ascii "# host
search home play.pl
nameserver 2001:db8::53
nameserver 192.0.2.53
options timeout:2
"

theorem makeResolverSnapshot_snapshotOf_mixed :
    SnapshotOf (fun text => text == ascii "2001:db8::53") mixedConfiguration
      (ascii "search home play.pl
nameserver 192.0.2.53
options timeout:2
") := by
  have hmade : makeResolverSnapshot (fun text => text == ascii "2001:db8::53") mixedConfiguration =
      .ok (ascii "search home play.pl
nameserver 192.0.2.53
options timeout:2
") := by decide
  refine (makeResolverSnapshot_snapshotOf hmade).mpr fun line hline text htokens _ => ?_
  have hvisible : ∀ line ∈ outputLines mixedConfiguration, ∀ word ∈ words (uncommented line), 0 ∉ word := by
    decide
  exact hvisible line hline text (by rw [htokens]; simp)

/-- The bytes behind the NUL are copied. -/
theorem not_makeResolverSnapshot_snapshotOf :
    ¬ ∀ inetPton6 source snapshot, makeResolverSnapshot inetPton6 source = .ok snapshot →
      SnapshotOf inetPton6 source snapshot := by
  intro h
  have hmade : makeResolverSnapshot (fun _ => false) (ascii "nameserver 192.0.2.53" ++ 0 :: ascii "hidden
") =
      .ok (ascii "nameserver 192.0.2.53" ++ 0 :: ascii "hidden
") := by decide
  have hcount := (h _ _ _ hmade).many
  exact absurd hcount (by decide)

end NetLagLab.ResolverView
