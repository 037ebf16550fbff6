import NetLagLab.BlankWords

/-! The resolver view of the workload: snapshots of `/etc/resolv.conf` and `/etc/nsswitch.conf` that a Session shows to
its workload in place of the host's files. Both builders read the host's file line by line. The one for the resolver
writes every directive that it keeps anew; the one for the name services copies every line but one. -/

namespace NetLagLab.ResolverView

open ByteLines

def maximumFileSize : Nat := 16 * 1024

def maximumLineSize : Nat := 1024

/-! ### Lines and words -/

def isTrimmed (byte : UInt8) : Bool := decide (byte = space) || decide (byte = 9) || decide (byte = 13)

def isSeparator (byte : UInt8) : Bool := decide (byte = space) || decide (byte = 9)

def trim (value : Bytes) : Bytes := trimBlanks isTrimmed value

def words (line : Bytes) : List Bytes := blankWords isTrimmed isSeparator line

def hash : UInt8 := 35

def isCommentMark (byte : UInt8) : Bool := decide (byte = hash) || decide (byte = 59)

/-! ### Domains, options and addresses -/

def dot : UInt8 := 46

def hyphen : UInt8 := 45

/-- The pieces between the dots. -/
def dottedPieces (text : Bytes) : List Bytes := (splitAtMark dot text).1 ++ [(splitAtMark dot text).2]

def validLabel (label : Bytes) : Bool :=
  decide (label ≠ []) && decide (label.length ≤ 63) && decide (label.head? ≠ some hyphen)
    && decide (label.getLast? ≠ some hyphen) && label.all fun character => isAlphanumeric character || character == hyphen

def validDomain (domain : Bytes) : Bool :=
  decide (domain ≠ []) && decide (domain.length ≤ 253) && decide (domain.head? ≠ some dot)
    && decide (domain.getLast? ≠ some dot) && (dottedPieces domain).all validLabel

/-- The characters of an option besides letters and digits: `_`, `-`, `.` and `:`. -/
def optionCharacters : Bytes := [95, hyphen, dot, colon]

def validOption (option : Bytes) : Bool :=
  decide (option ≠ []) && decide (option.length ≤ 64)
    && option.all fun value => isAlphanumeric value || optionCharacters.contains value

/-- The octets of an `in_addr` in network order. -/
structure InAddr where
  first : UInt8
  second : UInt8
  third : UInt8
  fourth : UInt8
  deriving DecidableEq

def routableResolverAddress (address : InAddr) : Bool :=
  decide (address.first ≠ 0) && decide (address.first ≠ 127) && decide (address.first < 224)
    && decide (address ≠ ⟨255, 255, 255, 255⟩)

/-- A decimal octet without leading zeros. -/
def decimalOctet (piece : Bytes) : Option UInt8 :=
  if piece ≠ [] ∧ piece.all isDigit = true ∧ (piece.length = 1 ∨ piece.head? ≠ some 48) ∧ decimalValue piece ≤ 255 then
    some (UInt8.ofNat (decimalValue piece))
  else none

/-- `inet_pton` for `AF_INET`: a dotted quad. -/
def inetPton (text : Bytes) : Option InAddr :=
  match (dottedPieces text).mapM decimalOctet with
  | some [first, second, third, fourth] => some ⟨first, second, third, fourth⟩
  | _ => none

/-- What a C function sees of a string: the bytes in front of the first NUL. -/
def cString (text : Bytes) : Bytes := text.takeWhile fun byte => byte != 0

/-! ### make_resolver_snapshot -/

structure ResolverProgress where
  snapshot : Bytes := []
  nameservers : Nat := 0
  searchSeen : Bool := false
  deriving DecidableEq

def nameserver : Bytes := ascii "nameserver"

def search : Bytes := ascii "search"

def options : Bytes := ascii "options"

section Resolver

/- `inet_pton` for `AF_INET6`. -/
variable (inetPton6 : Bytes → Bool)

def ResolverProgress.append (progress : ResolverProgress) (entry : List Bytes) : Bytes :=
  progress.snapshot ++ joinWords entry ++ [newline]

/-- A `nameserver` directive. A valid IPv6 address is passed over. -/
def nameserverDirective (progress : ResolverProgress) : List Bytes → Except Bytes ResolverProgress
  | [text] =>
      match inetPton (cString text) with
      | some address =>
          if routableResolverAddress address = false ∨ progress.nameservers = 3 then
            .error (ascii ("resolver must list one to three reachable IPv4 nameservers; "
              ++ "host-local and unsupported addresses are refused"))
          else
            .ok { progress with
              snapshot := progress.append [nameserver, text]
              nameservers := progress.nameservers + 1 }
      | none =>
          if inetPton6 (cString text) = true then .ok progress
          else .error (ascii "nameserver contains an invalid IP address")
  | _ => .error (ascii "nameserver must contain exactly one IP address")

/-- A `search` or `domain` directive. -/
def searchDirective (progress : ResolverProgress) (domains : List Bytes) : Except Bytes ResolverProgress :=
  if progress.searchSeen = true ∨ domains.length < 1 ∨ 6 < domains.length then
    .error (ascii "resolver search configuration must contain at most six domains")
  else if domains.all validDomain = false then
    .error (ascii "resolver search configuration contains an invalid domain")
  else if 256 < (domains.map fun domain => domain.length + 1).sum then
    .error (ascii "resolver search configuration exceeds 256 bytes")
  else .ok { progress with snapshot := progress.append (search :: domains), searchSeen := true }

def optionsDirective (progress : ResolverProgress) (values : List Bytes) : Except Bytes ResolverProgress :=
  if values.length < 1 ∨ 16 < values.length then
    .error (ascii "resolver options must contain between one and sixteen values")
  else if values.all validOption = false then .error (ascii "resolver options contain unsupported characters")
  else .ok { progress with snapshot := progress.append (options :: values) }

/-- The directive of a line. -/
def resolverDirective (progress : ResolverProgress) : List Bytes → Except Bytes ResolverProgress
  | [] => .ok progress
  | directive :: arguments =>
      if directive = nameserver then nameserverDirective inetPton6 progress arguments
      else if directive = search ∨ directive = ascii "domain" then searchDirective progress arguments
      else if directive = options then optionsDirective progress arguments
      else .error (ascii "resolver configuration uses an unsupported directive: " ++ directive)

/-- A line without its comment. -/
def uncommented (rawLine : Bytes) : Bytes :=
  let line := trim rawLine
  if line.any isCommentMark = true then trim (line.takeWhile fun byte => !isCommentMark byte) else line

def resolverLine (progress : ResolverProgress) (rawLine : Bytes) : Except Bytes ResolverProgress :=
  if maximumLineSize < rawLine.length then
    .error (ascii "resolver configuration contains a line longer than 1 KiB")
  else resolverDirective inetPton6 progress (words (uncommented rawLine))

def makeResolverSnapshot (source : Bytes) : Except Bytes Bytes :=
  if maximumFileSize < source.length then .error (ascii "resolver configuration exceeds 16 KiB")
  else do
    let progress ← (outputLines source).foldlM (resolverLine inetPton6) {}
    if progress.nameservers = 0 then .error (ascii "resolver configuration contains no usable IPv4 nameserver")
    else .ok progress.snapshot

end Resolver

example : makeResolverSnapshot (fun _ => false)
    (ascii "# host resolver\nnameserver 192.0.2.53\nsearch  a.test\tb.test \noptions timeout:2 ; two") =
      .ok (ascii "nameserver 192.0.2.53\nsearch a.test b.test\noptions timeout:2\n") := by decide

/-! ### make_nsswitch_snapshot -/

/-- The lines of a text, each with whether a newline ends it. -/
def endedLines (text : Bytes) : List (Bytes × Bool) :=
  (splitLines text).1.map (·, true) ++ if (splitLines text).2 = [] then [] else [((splitLines text).2, false)]

def hostsDatabase : Bytes := ascii "hosts:"

/-- The words of a line in front of its comment. -/
def nsswitchWords (rawLine : Bytes) : List Bytes := words ((trim rawLine).takeWhile fun byte => byte != hash)

/-- The line that stands for the hosts database. -/
def hostsLine (rawLine : Bytes) : Bytes :=
  ascii "hosts: files dns" ++
    if rawLine.contains hash = true then space :: trim (rawLine.dropWhile fun byte => byte != hash) else []

structure NsswitchProgress where
  snapshot : Bytes := []
  hostsSeen : Bool := false
  deriving DecidableEq

def nsswitchLine (progress : NsswitchProgress) (line : Bytes × Bool) : Except Bytes NsswitchProgress :=
  let rawLine := line.1
  let lineEnd := if line.2 = true then [newline] else []
  if maximumLineSize < rawLine.length then .error (ascii "NSS configuration contains a line longer than 1 KiB")
  else
    match (nsswitchWords rawLine).head? with
    | some first =>
        if hostsDatabase.isPrefixOf first = true then
          if progress.hostsSeen = true ∨ first ≠ hostsDatabase then
            .error (ascii "NSS configuration has an invalid or duplicate hosts database")
          else .ok ⟨progress.snapshot ++ hostsLine rawLine ++ lineEnd, true⟩
        else .ok { progress with snapshot := progress.snapshot ++ rawLine ++ lineEnd }
    | none => .ok { progress with snapshot := progress.snapshot ++ rawLine ++ lineEnd }

def makeNsswitchSnapshot (source : Bytes) : Except Bytes Bytes :=
  if source = [] ∨ maximumFileSize < source.length then
    .error (ascii "NSS configuration must be non-empty and no larger than 16 KiB")
  else do
    let progress ← (endedLines source).foldlM nsswitchLine {}
    if progress.hostsSeen = false then .error (ascii "NSS configuration does not define a hosts database")
    else .ok progress.snapshot

example : makeNsswitchSnapshot (ascii "passwd: files\nhosts: resolve [!UNAVAIL=return] dns # host\ngroup: files\n") =
    .ok (ascii "passwd: files\nhosts: files dns # host\ngroup: files\n") := by decide

/-! ### materialize_resolver_snapshot -/

/-- The fields of `struct stat` that are looked at. -/
structure FileStatus where
  isDirectory : Bool
  isRegular : Bool
  owner : UInt32
  mode : UInt32
  size : Int

/-- `F_SEAL_SEAL | F_SEAL_SHRINK | F_SEAL_GROW | F_SEAL_WRITE`. -/
def requiredSeals : UInt32 := 0xF

/-- The checks of `materialize_resolver_snapshot` before it copies; no seals are known when they could not be read. -/
def admitsSnapshot (effectiveUser : UInt32) (directory source : FileStatus) (seals : Option UInt32) : Bool :=
  directory.isDirectory && decide (directory.owner = effectiveUser) && decide (directory.mode &&& 0o022 = 0)
    && source.isRegular && decide (0 ≤ source.size) && decide (source.size ≤ maximumFileSize)
    && match seals with
      | some seals => decide (seals &&& requiredSeals = requiredSeals)
      | none => false

end NetLagLab.ResolverView
